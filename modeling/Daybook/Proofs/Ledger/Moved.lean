import Daybook.Proofs.Ledger.Beside

namespace Daybook

/-!
# A currency block in another place

A plain currency block may stand in the middle of a ledger or at its beginning.  In the middle,
what precedes it has bound the designators it uses, and the entries replace these bindings; at
the beginning, the same lines find the declarations.  The readings of the preceding lines run
beside each other, with registries of which the second is merged from the declarations and the
bindings of the first; behind the block the registries give the same answers.
-/

/-! ## Parts of a ledger -/

namespace Line

/-- Whether lines are a currency header that leaves the registry open, with its entries. -/
def IsBlock (raws : List Text) : Prop :=
  ∃ entries : List (Text × Text), (classify raws).map (·.line) =
    .header 0 :: entries.map fun entry => .indented entry.1 entry.2

def opensBlock : Line → Bool
  | .header _ => true
  | _ => false

def HasNoBlock (raws : List Text) : Prop :=
  ∀ line ∈ (classify raws).map (·.line), line.opensBlock = false

instance (raws : List Text) : Decidable (HasNoBlock raws) :=
  inferInstanceAs (Decidable (∀ line ∈ (classify raws).map (·.line), line.opensBlock = false))

theorem HasNoBlock.not_mem {raws : List Text} (no_block : HasNoBlock raws) (closings : Nat) :
    .header closings ∉ (classify raws).map (·.line) :=
  fun inside => Bool.noConfusion (no_block _ inside)

/-- Whether lines are three parts with a blank line between neighbours. -/
def InParts (lines first second third : List Text) : Prop :=
  ∃ gap other, Text.isBlankText gap = true ∧ Text.isBlankText other = true ∧
    lines = first ++ gap :: (second ++ other :: third)

/-- The parts of a ledger are classified each by itself. -/
theorem InParts.exists_classify {lines first second third : List Text}
    (parts : InParts lines first second third) :
    ∃ one gap two other three, classify lines = one ++ gap :: (two ++ other :: three) ∧
      gap.line = .gap ∧ other.line = .gap ∧
      one.map (·.line) = (classify first).map (·.line) ∧
      two.map (·.line) = (classify second).map (·.line) ∧
      three.map (·.line) = (classify third).map (·.line) := by
  rcases parts with ⟨gap, other, blank, also_blank, rfl⟩
  have parted := classifyFrom_append blank true 1 first (second ++ other :: third)
  rw [classifyFrom_append also_blank] at parted
  exact ⟨_, _, _, _, _, parted, rfl, rfl, rfl, map_line_classifyFrom true _ 1 second,
    map_line_classifyFrom true _ 1 third⟩

end Line

namespace Reader

variable {reader after : Reader}

/-- Reading goes over a gap where it can close the booking before it. -/
theorem steps_append_gap_eq_ok {front back : List NumberedLine} {gap : NumberedLine} (is_gap : gap.line = .gap) :
    reader.steps (front ++ gap :: back) = .ok after ↔
      ∃ middle closed, reader.steps front = .ok middle ∧ middle.closeBooking = .ok closed ∧
        { closed with inBlock := false }.steps back = .ok after := by
  rw [steps_append, Outcome.bind_eq_ok]
  constructor
  · rintro ⟨middle, run, later⟩
    rcases Outcome.bind_eq_ok.mp later with ⟨next, stepped, later⟩
    have stepped := stepped_of_step stepped
    rw [is_gap] at stepped
    cases stepped with
    | gap ended => exact ⟨middle, _, run, ended, later⟩
  · rintro ⟨middle, closed, run, ended, later⟩
    exact ⟨middle, run, (steps_cons (step_gap ended is_gap) back).trans later⟩

/-! ## The block -/

def Declares (lines : List NumberedLine) (declarations : List Declaration) : Prop :=
  List.Forall₂ (fun numbered declaration => ∃ content comment column,
    numbered.line = .indented content comment ∧
      Declaration.ofEntry content comment numbered.number = .ok (declaration, column)) lines declarations

/-- Entries declare the same wherever they stand. -/
theorem Declares.elsewhere {lines others : List NumberedLine} {declarations : List Declaration}
    (declares : Declares lines declarations) (same : others.map (·.line) = lines.map (·.line)) :
    Declares others declarations := by
  induction declares generalizing others with
  | nil =>
      rw [List.map_eq_nil_iff.mp same]
      exact .nil
  | cons entry _ ih =>
      rcases List.map_eq_cons_iff.mp same with ⟨other, more, rfl, line, others⟩
      rcases entry with ⟨content, comment, column, indented, read⟩
      exact .cons ⟨content, comment, column, line.trans indented, Declaration.ofEntry_elsewhere read _⟩
        (ih others)

theorem Declares.proper {lines : List NumberedLine} {declarations : List Declaration}
    (declares : Declares lines declarations) (clean : ∀ line ∈ lines.map (·.line), line.IsClean) :
    ∀ declaration ∈ declarations, declaration.currency.Proper := by
  induction declares with
  | nil => exact fun _ member => by cases member
  | cons entry _ ih =>
      rcases entry with ⟨content, comment, column, indented, read⟩
      have comment_clean := clean _ List.mem_cons_self
      dsimp only at comment_clean
      rw [indented] at comment_clean
      intro declaration member
      rcases List.mem_cons.mp member with rfl | later
      · exact Declaration.proper_of_ofEntry comment_clean read
      · exact ih (fun line inside => clean line (List.mem_cons_of_mem _ inside)) declaration later

/-- Entries that are accepted make declarations, and change nothing but the currencies. -/
theorem exists_declares {lines : List NumberedLine} {entries : List (Text × Text)}
    (indented : lines.map (·.line) = entries.map fun entry => .indented entry.1 entry.2)
    (inside : reader.inBlock = true) (ok : reader.steps lines = .ok after) :
    ∃ declarations registry, Declares lines declarations ∧
      reader.registry.declareAll declarations = .ok registry ∧ after = { reader with registry } := by
  induction entries generalizing lines reader with
  | nil =>
      rcases List.map_eq_nil_iff.mp indented with rfl
      rcases Except.ok.inj ok with rfl
      exact ⟨[], _, .nil, rfl, rfl⟩
  | cons entry others ih =>
      rcases List.map_eq_cons_iff.mp indented with ⟨numbered, rest, rfl, line, more⟩
      rcases Outcome.bind_eq_ok.mp ok with ⟨next, stepped, later⟩
      have stepped := stepped_of_step stepped
      rw [line] at stepped
      cases stepped with
      | @entry _ _ declaration column currency middle _ read declared =>
          have still_inside : { reader with registry := middle }.inBlock = true := inside
          rcases ih more still_inside later with ⟨declarations, registry, declares, declaring, rfl⟩
          refine ⟨declaration :: declarations, registry, .cons ⟨_, _, column, line, read⟩ declares, ?_, rfl⟩
          rw [Registry.declareAll, declared]
          exact declaring
      | bare outside => rw [inside] at outside; cases outside
      | posting outside => rw [inside] at outside; cases outside

theorem steps_of_declares {lines : List NumberedLine} {declarations : List Declaration} {registry : Registry}
    (declares : Declares lines declarations) (inside : reader.inBlock = true)
    (ok : reader.registry.declareAll declarations = .ok registry) :
    reader.steps lines = .ok { reader with registry } := by
  induction declares generalizing reader with
  | nil =>
      rcases Except.ok.inj ok with rfl
      rfl
  | @cons numbered declaration _ _ entry _ ih =>
      rcases entry with ⟨content, comment, column, indented, read⟩
      rw [Registry.declareAll] at ok
      split at ok
      · rename_i currency middle declared
        have stepped : reader.step numbered = .ok { reader with registry := middle } := by
          rw [step, indented]
          change reader.readIndented content comment numbered.number = _
          rw [readIndented, if_pos inside]
          refine Outcome.bind_eq_ok.mpr ⟨_, read, ?_⟩
          dsimp only
          rw [declared]
        exact (steps_cons stepped _).trans (ih inside ok)
      · cases ok

/-- Between bookings a plain header does no more than open a block. -/
theorem step_header (nothing : reader.booking = none) {numbered : NumberedLine}
    (header : numbered.line = .header 0) : reader.step numbered = .ok { reader with inBlock := true } := by
  rw [step, header]
  change openBlock { reader with inBlock := false } 0 numbered.number = _
  rw [openBlock, if_neg (by decide)]
  exact Outcome.bind_eq_ok.mpr ⟨_, closeBooking_of_none nothing, rfl⟩

/-- A block behind the first uses is accepted before them, and its declarations are then merged
with the bindings of these uses. -/
theorem exists_declared {raws : List Text} (block : Line.IsBlock raws)
    (each : ∀ raw ∈ raws, Text.IsLine raw) {lines : List NumberedLine}
    (same : lines.map (·.line) = (Line.classify raws).map (·.line)) (nothing : reader.booking = none)
    (only : reader.registry.OnlyMet) (ok : reader.steps lines = .ok after) :
    ∃ registry declared, after = { reader with registry, inBlock := true } ∧
      declared.OnlyDeclared ∧ Registry.Apart declared reader.registry ∧
      Registry.Merged declared reader.registry registry ∧
      ∀ others start, others.map (·.line) = (Line.classify raws).map (·.line) → start.booking = none →
        start.registry = { closed := reader.registry.closed } →
          steps start others = .ok { start with registry := declared, inBlock := true } := by
  rcases block with ⟨entries, shape⟩
  have clean : ∀ line ∈ (Line.classify raws).map (·.line), line.IsClean := by
    intro line member
    rcases List.mem_map.mp member with ⟨numbered, inside, rfl⟩
    exact Line.isClean_of_classifyFrom each true 1 numbered inside
  have shape_here := same.trans shape
  rcases List.map_eq_cons_iff.mp shape_here with ⟨header, rest, rfl, is_header, indented⟩
  rw [steps_cons (step_header nothing is_header)] at ok
  rcases exists_declares indented rfl ok with ⟨declarations, registry, declares, declaring, rfl⟩
  have known := declares.proper fun line member =>
    clean line (same ▸ List.mem_cons_of_mem _ member)
  rcases only.merged.declareAll (Registry.onlyDeclared_empty _) only (Registry.apart_empty _ _) only.proper known
    declaring with ⟨declared, declaring_first, only_declared, apart, merged⟩
  refine ⟨registry, declared, rfl, only_declared, apart, merged, ?_⟩
  intro others start same_there nothing_there empty
  rcases List.map_eq_cons_iff.mp (same_there.trans shape) with ⟨first, more, rfl, also_header, entries_there⟩
  rw [steps_cons (step_header nothing_there also_header)]
  refine steps_of_declares (declares.elsewhere (entries_there.trans indented.symm)) rfl ?_
  rw [← declaring_first, ← empty]

/-! ## Before the block and behind it -/

/-- Two readers at the beginning of a ledger stand beside each other. -/
theorem beside_start {related : Registry → Registry → Prop} (today : Option Calendar.Date)
    {left right : Registry} (known : related left right) :
    Beside related False [] { today, registry := left } { today, registry := right } :=
  ⟨rfl, known, rfl, nofun, rfl, fun _ => rfl, .fresh rfl rfl rfl⟩

/-- Without a block there are bindings only, and the registry is as closed as it was. -/
theorem onlyMet_of_steps {today : Option Calendar.Date} {strict : Bool} {lines : List NumberedLine}
    (no_block : ∀ closings, .header closings ∉ lines.map (·.line))
    (ok : steps { today, registry := { closed := strict } } lines = .ok after) :
    after.registry.OnlyMet ∧ after.registry.closed = strict := by
  have only := Registry.onlyMet_empty strict
  rcases (beside_start today ⟨only, Registry.proper_empty strict, only.merged⟩).steps
    (Registry.follows_merged { closed := strict }) rfl no_block ok (Registry.apart_empty strict _) with
    ⟨_, _, beside⟩
  exact ⟨beside.registry.1, beside.registry.2.2.met_closed⟩

/-- Reading goes over a block in the middle: what precedes it leaves bindings, and the block merges
its declarations with them, which it could also have made at the beginning. -/
theorem exists_behind_block {raws : List Text} (is_block : Line.IsBlock raws)
    (each : ∀ raw ∈ raws, Text.IsLine raw) {today : Option Calendar.Date} {strict : Bool}
    {ahead entries rest : List NumberedLine} (no_block : ∀ closings, .header closings ∉ ahead.map (·.line))
    (same : entries.map (·.line) = (Line.classify raws).map (·.line)) {gap other : NumberedLine}
    (is_gap : gap.line = .gap) (also_gap : other.line = .gap)
    (ok : steps { today, registry := { closed := strict } } (ahead ++ gap :: (entries ++ other :: rest)) =
      .ok after) :
    ∃ used closed registry declared, steps { today, registry := { closed := strict } } ahead = .ok used ∧
      used.closeBooking = .ok closed ∧ steps { closed with registry, inBlock := false } rest = .ok after ∧
      declared.OnlyDeclared ∧ Registry.Apart declared used.registry ∧
      Registry.Merged declared used.registry registry ∧
      ∀ others, others.map (·.line) = (Line.classify raws).map (·.line) →
        steps { today, registry := { closed := strict } } others =
          .ok { today, registry := declared, inBlock := true } := by
  rcases (steps_append_gap_eq_ok is_gap).mp ok with ⟨used, closed, run, ended, later⟩
  rcases (steps_append_gap_eq_ok also_gap).mp later with ⟨inside, last, run_block, ended_block, run_rest⟩
  rcases onlyMet_of_steps no_block run with ⟨only, strictness⟩
  have nothing : { closed with inBlock := false }.booking = none := (booking_of_closeBooking ended :)
  have kept : { closed with inBlock := false }.registry = used.registry := (registry_of_closeBooking ended :)
  rcases exists_declared is_block each same nothing (kept ▸ only) run_block with
    ⟨registry, declared, rfl, only_declared, apart, merged, at_first⟩
  have ended_again := @closeBooking_of_none { closed with registry, inBlock := true } nothing
  rcases Except.ok.inj (ended_again.symm.trans ended_block) with rfl
  exact ⟨used, closed, registry, declared, run, ended, run_rest, only_declared, kept ▸ apart, kept ▸ merged,
    fun others entries_there => at_first others _ entries_there rfl (by rw [kept, strictness])⟩

/-- What is read around a block is also read behind it, and the two readers stand beside each other
at the end. -/
theorem exists_beside_moved {raws : List Text} (is_block : Line.IsBlock raws)
    (each : ∀ raw ∈ raws, Text.IsLine raw) {today : Option Calendar.Date} {strict : Bool}
    {ahead entries rest : List NumberedLine} (ahead_plain : ∀ closings, .header closings ∉ ahead.map (·.line))
    (rest_plain : ∀ closings, .header closings ∉ rest.map (·.line))
    (same : entries.map (·.line) = (Line.classify raws).map (·.line)) {gap other : NumberedLine}
    (is_gap : gap.line = .gap) (also_gap : other.line = .gap)
    (ok : steps { today, registry := { closed := strict } } (ahead ++ gap :: (entries ++ other :: rest)) =
      .ok after)
    {moved front back : List NumberedLine} (moved_same : moved.map (·.line) = (Line.classify raws).map (·.line))
    (front_same : front.map (·.line) = ahead.map (·.line)) (back_same : back.map (·.line) = rest.map (·.line))
    {first second : NumberedLine} (first_gap : first.line = .gap) (second_gap : second.line = .gap) :
    ∃ next, steps { today, registry := { closed := strict } } (moved ++ first :: (front ++ second :: back)) =
        .ok next ∧
      Beside Registry.Agrees False [] after next := by
  rcases exists_behind_block is_block each ahead_plain same is_gap also_gap ok with
    ⟨used, closed, registry, declared, run_ahead, ended_ahead, run_rest, only_declared, apart, merged, at_first⟩
  -- What precedes the block is read with the declarations instead of without them.
  have strictness : declared.closed = strict :=
    merged.met_closed.symm.trans (onlyMet_of_steps ahead_plain run_ahead).2
  have known : Registry.OnlyMet { closed := strict } ∧ declared.Proper ∧
      Registry.Merged declared { closed := strict } declared :=
    ⟨Registry.onlyMet_empty strict, only_declared.proper, strictness ▸ only_declared.merged⟩
  rcases (beside_start today known).steps (Registry.follows_merged declared) front_same ahead_plain
    run_ahead apart with ⟨also_used, run_there, beside⟩
  rcases beside.closeBooking ended_ahead with ⟨also_closed, ended_there, beside⟩
  have together : Registry.Merged declared used.registry also_closed.registry :=
    registry_of_closeBooking ended_ahead ▸ beside.registry.2.2
  -- What follows the block is read with registries that give the same answers.
  have behind_both : Beside Registry.Agrees False [] { closed with registry, inBlock := false }
      { also_closed with inBlock := false } :=
    (beside.withBlock false nofun).withRegistry (merged.agrees together)
  rcases behind_both.steps Registry.follows_agrees back_same rest_plain run_rest trivial with
    ⟨also_last, rest_there, beside⟩
  refine ⟨also_last, ?_, beside⟩
  exact (steps_append_gap_eq_ok first_gap).mpr ⟨_, _, at_first moved moved_same, closeBooking_of_none rfl,
    (steps_append_gap_eq_ok second_gap).mpr ⟨also_used, also_closed, run_there, ended_there, rest_there⟩⟩

/-- Readers beside each other whose registries give the same answers come to the same end. -/
theorem Beside.finish {left right : Reader} (beside : Beside Registry.Agrees False [] left right)
    {reading : Reading} (ok : left.finish = .ok reading) :
    ∃ other, right.finish = .ok other ∧
      other.chapters.map (·.unplaced) = reading.chapters.map (·.unplaced) ∧
      reading.registry.Agrees other.registry := by
  rcases finish_eq_ok_iff.mp ok with ⟨closed, ended, rfl, checked⟩
  rcases beside.closeBooking ended with ⟨also_closed, also_ended, kept⟩
  rcases kept.exists_chapters with ⟨more, chapters, alike⟩
  rw [List.nil_append] at chapters
  rw [← chapters] at alike
  have passed : Chapter.Checked also_closed.registry also_closed.chapters :=
    (checked.alike alike).congr fun designator => congrArg (·.precision) (kept.registry.currencyFor designator)
  exact ⟨⟨also_closed.registry, also_closed.chapters⟩,
    finish_eq_ok_iff.mpr ⟨also_closed, also_ended, rfl, passed⟩, alike, kept.registry⟩

end Reader

namespace Reading

variable {late early : Text} {front block back : List Text} {today : Option Calendar.Date} {strict : Bool}
  {reading : Reading}

/-- A plain currency block may as well stand at the beginning of a ledger, whether or not it is
read strictly: the chapters are the same but for their lines, and so are the currencies. -/
theorem ofText_moved (is_block : Line.IsBlock block) (no_block : Line.HasNoBlock front)
    (no_other : Line.HasNoBlock back) (behind : Line.InParts (Text.lines late) front block back)
    (before : Line.InParts (Text.lines early) block front back)
    (ok : ofText late today {} strict = .ok reading) :
    ∃ other, ofText early today {} strict = .ok other ∧
      other.chapters.map (·.unplaced) = reading.chapters.map (·.unplaced) ∧
      reading.registry.Agrees other.registry := by
  have each : ∀ raw ∈ block, Text.IsLine raw := by
    rcases behind with ⟨gap, other, -, -, lines⟩
    intro raw member
    refine @Text.isLine_of_mem_lines late raw ?_
    rw [lines]
    exact List.mem_append_right _ (List.mem_cons_of_mem _ (List.mem_append_left _ member))
  rcases behind.exists_classify with
    ⟨ahead, gap, entries, other_gap, rest, late_lines, is_gap, is_other_gap, ahead_same, entries_same, rest_same⟩
  rcases before.exists_classify with ⟨first_entries, first_gap, first_ahead, second_gap, first_rest, early_lines,
    is_first_gap, is_second_gap, first_entries_same, first_ahead_same, first_rest_same⟩
  have ahead_plain : ∀ closings, .header closings ∉ ahead.map (·.line) := ahead_same ▸ no_block.not_mem
  have rest_plain : ∀ closings, .header closings ∉ rest.map (·.line) := rest_same ▸ no_other.not_mem
  rcases Outcome.bind_eq_ok.mp ok with ⟨last, run, finished⟩
  rw [Registry.withClosed_empty, late_lines] at run
  rcases Reader.exists_beside_moved is_block each ahead_plain rest_plain entries_same is_gap is_other_gap run
    first_entries_same (first_ahead_same.trans ahead_same.symm) (first_rest_same.trans rest_same.symm)
    is_first_gap is_second_gap with ⟨also_last, run_there, beside⟩
  rcases beside.finish finished with ⟨other, also_finished, same⟩
  refine ⟨other, Outcome.bind_eq_ok.mpr ⟨also_last, ?_, also_finished⟩, same⟩
  rw [Registry.withClosed_empty, early_lines]
  exact run_there

/-! ## A ledger with a late block -/

/-- A lunch in dollars and a tea in euros. -/
def lunchAndTea : List Text :=
  ["2024-01-05".toList, "lunch".toList, "    expense/food  1.25$".toList, "    asset/cash".toList,
    "tea".toList, "    expense/drink  3 eur".toList, "    asset/cash".toList]

/-- The currencies of both. -/
def dollarAndEuro : List Text :=
  ["currency".toList, "    $ usd 3 ; dollar".toList, "    EUR 1".toList]

/-- A dinner in dollars under their alias. -/
def dinnerByAlias : List Text :=
  ["2024-01-06".toList, "dinner".toList, "    expense/food  4.5 usd".toList, "    asset/cash".toList]

/-- A ledger that declares its currencies behind the tea. -/
def lateText : Text := Text.ofLines (lunchAndTea ++ [] :: (dollarAndEuro ++ [] :: dinnerByAlias))

/-- The same ledger with the currencies at its beginning. -/
def earlyText : Text := Text.ofLines (dollarAndEuro ++ [] :: (lunchAndTea ++ [] :: dinnerByAlias))

theorem earlyText_reads_as_lateText :
    ∃ reading other, ofText lateText none {} false = .ok reading ∧ ofText earlyText none {} false = .ok other ∧
      other.chapters.map (·.unplaced) = reading.chapters.map (·.unplaced) ∧
      reading.registry.Agrees other.registry := by
  have is_block : Line.IsBlock dollarAndEuro :=
    ⟨[("    $ usd 3 ".toList, " dollar".toList), ("    EUR 1".toList, [])], by decide +kernel⟩
  have behind : Line.InParts (Text.lines lateText) lunchAndTea dollarAndEuro dinnerByAlias :=
    ⟨[], [], rfl, rfl, by decide +kernel⟩
  have before : Line.InParts (Text.lines earlyText) dollarAndEuro lunchAndTea dinnerByAlias :=
    ⟨[], [], rfl, rfl, by decide +kernel⟩
  have accepted : (ofText lateText none {} false).toBool = true := by decide +kernel
  cases late : ofText lateText none {} false with
  | error failure =>
      rw [late] at accepted
      cases accepted
  | ok reading =>
      rcases ofText_moved is_block (by decide +kernel) (by decide +kernel) behind before late with
        ⟨other, early, same⟩
      exact ⟨reading, other, rfl, early, same⟩

end Reading
end Daybook
