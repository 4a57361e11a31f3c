import Daybook.Proofs.Ledger.Beside

namespace Daybook

/-!
# A ledger behind another one

Two texts with a blank line between them read like the first and then, into the currencies that
the first leaves behind, the second.  The blank line closes what the first has left open, and
from there the lines of the second are read beside a reading of their own.  Only the final check
looks back across the gap: the second text may declare a number of decimals that an amount of
the first one does not fit.
-/

/-! ## The lines of both -/

/-- Behind the lines of the first text there is a gap, and then the lines of the second. -/
theorem Line.exists_classify_append (front back : Text) :
    ∃ gaps others, classify (Text.lines (front ++ ['\n', '\n'] ++ back)) =
        classify (Text.lines front) ++ (gaps ++ others) ∧
      gaps ≠ [] ∧ (∀ numbered ∈ gaps, numbered.line = .gap) ∧
      others.map (·.line) = (classify (Text.lines back)).map (·.line) := by
  have empty : Text.isBlankText [] = true := rfl
  rcases Text.exists_lines_append_feeds front back with ⟨blank, few, lines⟩
  rw [lines]
  rcases few with rfl | rfl
  · have joined := classifyFrom_append empty true 1 (Text.lines front) (Text.lines back)
    rw [List.append_nil]
    refine ⟨[_], _, joined, List.cons_ne_nil _ _, ?_, map_line_classifyFrom true _ 1 _⟩
    intro numbered member
    rw [List.mem_singleton.mp member]
  · have joined := classifyFrom_append empty true 1 (Text.lines front) ([] :: Text.lines back)
    rw [List.append_assoc]
    refine ⟨[_, _], _, joined, List.cons_ne_nil _ _, ?_, map_line_classifyFrom true _ 1 _⟩
    intro numbered member
    rcases List.mem_pair.mp member with rfl | rfl
    · rfl
    · rfl

namespace Reader

variable {reader closed : Reader}

/-- One gap is as good as several. -/
theorem steps_gaps (ended : reader.closeBooking = .ok closed) {gaps : List NumberedLine} (some_gap : gaps ≠ [])
    (each : ∀ numbered ∈ gaps, numbered.line = .gap) :
    reader.steps gaps = .ok { closed with inBlock := false } := by
  induction gaps generalizing reader closed with
  | nil => exact absurd rfl some_gap
  | cons numbered rest ih =>
      rw [steps_cons (step_gap ended (each numbered List.mem_cons_self))]
      cases rest with
      | nil => rfl
      | cons second others =>
          have nothing := closeBooking_of_none (booking_of_closeBooking ended)
          have later := ih (closeBooking_withBlock nothing false) (List.cons_ne_nil second others)
            fun other member => each other (List.mem_cons_of_mem _ member)
          exact later

end Reader

/-! ## The reading of both -/

/-- To close a closed registry changes nothing. -/
theorem Registry.withClosed_of_closed {registry : Registry} (closed : registry.closed = true) :
    registry.withClosed true = registry := by
  rw [withClosed, ← closed]

namespace Reading

variable {front back : Text} {today : Option Calendar.Date} {registry : Registry} {strict : Bool}
  {first second : Reading}

/-- Whether the final check fails on an amount of a reading under other currencies, in which
its own has another number of decimals. -/
def Outgrown (reading : Reading) (registry : Registry) (failure : Failure) : Prop :=
  ∃ posting ∈ Chapter.postingsOf reading.chapters, ∃ money refusal, posting.money = some money ∧
    (registry.currencyFor money.currency).precision ≠
      (reading.registry.currencyFor money.currency).precision ∧
    money.checkPrecision registry = .error refusal ∧
    (failure = refusal ∨ ∃ line column, posting.line = some line ∧ failure = refusal.placedAt line column)

/-- When the first text has been read, the second is read behind it. -/
theorem exists_reader_append (one : ofText front today registry strict = .ok first)
    (other : ofText back today first.registry strict = .ok second) :
    ∃ reader closed more, Reader.steps
        { today, registry := if strict then registry.withClosed true else registry }
        (Line.classify (Text.lines (front ++ ['\n', '\n'] ++ back))) = .ok reader ∧
      reader.closeBooking = .ok closed ∧ closed.registry = second.registry ∧
      closed.chapters = first.chapters ++ more ∧
      more.map (·.unplaced) = second.chapters.map (·.unplaced) := by
  rcases exists_finish_of_ofText one with ⟨ahead, closed, run, ended, rfl, -⟩
  rcases exists_finish_of_ofText other with ⟨alone, alone_closed, alone_run, alone_ended, rfl, -⟩
  rcases Line.exists_classify_append front back with ⟨gaps, others, lines, some_gap, each, same⟩
  -- A strict reading has left a closed registry, so that closing it again changes nothing.
  have start : (if strict then closed.registry.withClosed true else closed.registry) = closed.registry := by
    split
    · rename_i is_strict
      have kept := (Reader.grows_of_steps run).closed (by rw [is_strict]; rfl)
      exact Registry.withClosed_of_closed (Reader.registry_of_closeBooking ended ▸ kept)
    · rfl
  rw [start] at alone_run
  have today_there : closed.today = today := by
    rw [Reader.today_of_closeBooking ended, Reader.today_of_steps run]
  have beside : Reader.Beside (fun left right => right = left) True closed.chapters
      { today, registry := closed.registry } { closed with inBlock := false } :=
    ⟨today_there, rfl, rfl, nofun, by rw [Reader.booking_of_closeBooking ended], fun _ => rfl, .fresh rfl rfl rfl⟩
  rcases beside.steps Registry.follows_self same (fun _ _ => trivial) alone_run trivial with
    ⟨reader, behind, after⟩
  rcases after.closeBooking alone_ended with ⟨last, last_ended, after⟩
  rcases after.exists_chapters with ⟨more, chapters, alike⟩
  refine ⟨reader, last, more, ?_, last_ended, after.registry, chapters, alike⟩
  rw [lines, Reader.steps_append, run]
  refine (Reader.steps_append _ _ _).trans ?_
  rw [Reader.steps_gaps ended some_gap each]
  exact behind

/-- Two texts with a blank line between them read like one after the other, unless an amount of
the first does not fit the decimals that the second declares. -/
theorem ofText_joined (one : ofText front today registry strict = .ok first)
    (other : ofText back today first.registry strict = .ok second) :
    (∃ more, ofText (front ++ ['\n', '\n'] ++ back) today registry strict =
        .ok ⟨second.registry, first.chapters ++ more⟩ ∧
      more.map (·.unplaced) = second.chapters.map (·.unplaced)) ∨
    ∃ failure, ofText (front ++ ['\n', '\n'] ++ back) today registry strict = .error failure ∧
      first.Outgrown second.registry failure := by
  rcases exists_finish_of_ofText one with ⟨-, -, -, -, -, first_checked⟩
  rcases exists_finish_of_ofText other with ⟨-, -, -, -, -, second_checked⟩
  rcases exists_reader_append one other with ⟨reader, closed, more, run, ended, currencies, chapters, alike⟩
  have finished : ofText (front ++ ['\n', '\n'] ++ back) today registry strict = reader.finish :=
    congrArg (· >>= Reader.finish) run
  rw [finished, Reader.finish_of_closeBooking ended, currencies, chapters]
  cases checked : closed.closeChapter.checkPostings (Chapter.postingsOf (first.chapters ++ more)) with
  | ok _ => exact Or.inl ⟨more, rfl, alike⟩
  | error failure =>
      refine Or.inr ⟨failure, rfl, ?_⟩
      rcases Reader.exists_posting_of_checkPostings checked with ⟨posting, member, refused⟩
      rcases Reader.exists_refusal_of_checkPosting refused with ⟨money, refusal, given, refused, failure_eq⟩
      have refused : money.checkPrecision second.registry = .error refusal := currencies ▸ refused
      rw [Chapter.postingsOf_append] at member
      rcases List.mem_append.mp member with inside | behind
      · refine ⟨posting, inside, money, refusal, given, ?_, refused, failure_eq⟩
        intro same
        have passed := Money.checkPrecision_congr same (first_checked posting inside money given)
        rw [refused] at passed
        cases passed
      · have passed := second_checked.alike alike posting behind money given
        rw [refused] at passed
        cases passed

/-- What a text gives on top of the currencies that are known. -/
def readOnto (registry : Registry) (text : Text) : Reading :=
  (ofText text none registry false).toOption.getD ⟨registry, []⟩

/-- A lunch that costs cents. -/
def lunchText : Text :=
  Text.ofLines ["2024-01-05".toList, "lunch".toList, "    expense/food  1.25$".toList, "    asset/cash".toList]

/-- A dinner in the same currency. -/
def dinnerText : Text :=
  Text.ofLines ["2024-01-06".toList, "dinner".toList, "    expense/food  3$".toList, "    asset/cash".toList]

/-- A declaration of that currency without cents. -/
def wholeText : Text := Text.ofLines ["currency".toList, "    $ 0".toList]

/-- The dinner goes behind the lunch, and the declaration does not, although both can be read when
the lunch has been. -/
theorem lunch_joined :
    let lunch := readOnto {} lunchText
    (∃ more, ofText (lunchText ++ ['\n', '\n'] ++ dinnerText) none {} false =
        .ok ⟨(readOnto lunch.registry dinnerText).registry, lunch.chapters ++ more⟩ ∧
      more.map (·.unplaced) = (readOnto lunch.registry dinnerText).chapters.map (·.unplaced)) ∧
    ∃ failure, ofText (lunchText ++ ['\n', '\n'] ++ wholeText) none {} false = .error failure ∧
      lunch.Outgrown (readOnto lunch.registry wholeText).registry failure := by
  have lunch : ofText lunchText none {} false = .ok (readOnto {} lunchText) := by decide +kernel
  constructor
  · have dinner : ofText dinnerText none (readOnto {} lunchText).registry false =
        .ok (readOnto (readOnto {} lunchText).registry dinnerText) := by decide +kernel
    have fits : (ofText (lunchText ++ ['\n', '\n'] ++ dinnerText) none {} false).toBool = true := by
      decide +kernel
    rcases ofText_joined lunch dinner with together | ⟨failure, refused, -⟩
    · exact together
    · rw [refused] at fits
      cases fits
  · have whole : ofText wholeText none (readOnto {} lunchText).registry false =
        .ok (readOnto (readOnto {} lunchText).registry wholeText) := by decide +kernel
    have too_fine : (ofText (lunchText ++ ['\n', '\n'] ++ wholeText) none {} false).toBool = false := by
      decide +kernel
    rcases ofText_joined lunch whole with ⟨more, together, -⟩ | refused
    · rw [together] at too_fine
      cases too_fine
    · exact refused

end Reading
end Daybook
