import Daybook.Proofs.Currency.Merged
import Daybook.Proofs.Ledger.Checked
import Daybook.Proofs.Ledger.Gaps
import Daybook.Proofs.Ledger.Reread

namespace Daybook

/-!
# Reading beside another reading

The same lines are read by two readers: one stands at the beginning of a ledger, the other has
chapters behind it, and their currencies are related.  As long as the registry of the second
follows that of the first, it accepts every line that the first accepts and gets the same
bookings, but for their lines.  A chapter that is still open behind the second is no obstacle: the
first can add nothing to a chapter before it has opened one itself.
-/

namespace Reader

/-! ## What grows -/

variable {reader left right after : Reader}

theorem grows_of_closeBooking (ok : reader.closeBooking = .ok after) :
    reader.registry.Grows after.registry := by
  rw [registry_of_closeBooking ok]
  exact .refl _

/-- A line gives up no currency and opens no closed registry. -/
theorem Stepped.grows {number : Nat} {line : Line} (stepped : Stepped reader number line after) :
    reader.registry.Grows after.registry := by
  cases stepped with
  | gap ended => exact (grows_of_closeBooking ended :)
  | header few ended =>
      have kept := grows_of_closeBooking ended
      dsimp only at kept ⊢
      split
      · exact kept.trans (.close _)
      · exact kept
  | date read ended => exact (grows_of_closeBooking ended :)
  | relative known beside ended => exact (grows_of_closeBooking ended :)
  | description ended dated read named => exact (grows_of_closeBooking ended :)
  | entry inside read declared => exact .declare declared
  | bare outside opened read omitted => exact .refl _
  | posting outside opened read written amount =>
      rcases Money.exists_resolve_of_ofText amount with ⟨token, style, currency, -, resolved, -⟩
      exact .resolve resolved

theorem grows_of_steps {lines : List NumberedLine} (ok : reader.steps lines = .ok after) :
    reader.registry.Grows after.registry := by
  induction lines generalizing reader with
  | nil =>
      rw [Except.ok.inj ok]
      exact .refl _
  | cons numbered rest ih =>
      rcases Outcome.bind_eq_ok.mp ok with ⟨next, stepped, later⟩
      exact (stepped_of_step stepped).grows.trans (ih later)

/-! ## Postings on another line -/

theorem readPosting_bare (reader : Reader) {content : Text} {line : Option Nat} {column : Nat}
    {account : Account}
    (read : Account.ofText (PostingText.ofText (Text.strip content)).account line column = .ok account)
    (omitted : (PostingText.ofText (Text.strip content)).money = none) (booking : Booking) (number : Nat) :
    reader.readPosting booking content number =
      .ok (reader.withPosting booking { account, money := none, line := some number }) := by
  unfold readPosting
  dsimp only
  rw [Account.ofText_elsewhere read, omitted]
  rfl

theorem exists_readPosting (reader : Reader) {content text : Text} {line : Option Nat} {column : Nat}
    {account : Account} {money : Money} {registry : Registry}
    (read : Account.ofText (PostingText.ofText (Text.strip content)).account line column = .ok account)
    (written : (PostingText.ofText (Text.strip content)).money = some text)
    (amount : Money.ofText text reader.registry = (.ok money, registry)) (booking : Booking) (number : Nat) :
    ∃ amountColumns, reader.readPosting booking content number =
      .ok ({ reader with registry, amountColumns }.withPosting booking
        { account, money := some money, line := some number }) := by
  unfold readPosting
  dsimp only
  rw [Account.ofText_elsewhere read, written]
  dsimp only
  rw [readMoney, amount]
  exact ⟨_, rfl⟩

/-! ## Two readers -/

/-- Whether chapters, of which the last may be open, are those of a reader that began behind some
chapters: none has been opened since, or those that have been are the same up to the places in the
text. -/
inductive Placed (behind : List Chapter) (closed : List Chapter) (chapter : Option Chapter)
    (others : List Chapter) (other : Option Chapter) : Prop
  | fresh (none_open : chapter = none) (none_closed : closed = [])
      (kept : others ++ other.toList = behind)
  | within {one same : Chapter} {more : List Chapter} (opened : chapter = some one)
      (also : other = some same) (alike : same.unplaced = one.unplaced) (kept : others = behind ++ more)
      (before : more.map (·.unplaced) = closed.map (·.unplaced))

/-- Whether a reader that has some chapters behind it stands beside another one that has none. -/
structure Beside (related : Registry → Registry → Prop) (blocks : Prop) (behind : List Chapter)
    (left right : Reader) : Prop where
  today : right.today = left.today
  registry : related left.registry right.registry
  block : right.inBlock = left.inBlock
  declares : left.inBlock = true → blocks
  booking : right.booking.map (·.unplaced) = left.booking.map (·.unplaced)
  dated : left.chapter = none → left.booking = none
  placed : Placed behind left.closedChapters left.chapter right.closedChapters right.chapter

namespace Beside

variable {related : Registry → Registry → Prop} {allowed : Registry → Prop} {blocks : Prop}
  {behind : List Chapter}

theorem withBlock (beside : Beside related blocks behind left right) (inBlock : Bool)
    (declares : inBlock = true → blocks) :
    Beside related blocks behind { left with inBlock } { right with inBlock } :=
  ⟨beside.today, beside.registry, rfl, declares, beside.booking, beside.dated, beside.placed⟩

/-- Other currencies, wherever the amounts stand that brought them in. -/
theorem withRegistry {others : Registry → Registry → Prop} (beside : Beside related blocks behind left right)
    {one other : Registry} (known : others one other) {columns places : Table Nat Nat} :
    Beside others blocks behind { left with registry := one, amountColumns := columns }
      { right with registry := other, amountColumns := places } :=
  ⟨beside.today, known, beside.block, beside.declares, beside.booking, beside.dated, beside.placed⟩

/-- The second reader has a booking open where the first has. -/
theorem exists_booking (beside : Beside related blocks behind left right) {booking : Booking}
    (opened : left.booking = some booking) :
    ∃ other, right.booking = some other ∧ other.unplaced = booking.unplaced := by
  have same := beside.booking
  rw [opened, Option.map_some] at same
  exact Option.map_eq_some_iff.mp same

theorem closeBooking (beside : Beside related blocks behind left right) {closed : Reader}
    (ok : left.closeBooking = .ok closed) :
    ∃ other, right.closeBooking = .ok other ∧ Beside related blocks behind closed other := by
  rcases closeBooking_eq_ok ok with ⟨nothing, rfl⟩ | ⟨booking, opened, filled, rfl⟩
  · have none_there : right.booking = none := by
      have same := beside.booking
      rw [nothing, Option.map_none] at same
      exact Option.map_eq_none_iff.mp same
    exact ⟨right, closeBooking_of_none none_there, beside⟩
  · rcases beside.exists_booking opened with ⟨other, here, alike⟩
    have some_posting : other.postings.isEmpty = false := by
      rw [Booking.isEmpty_of_unplaced alike]
      simpa using filled
    refine ⟨right.withClosed other, ?_, beside.today, beside.registry, beside.block, beside.declares, rfl,
      fun _ => rfl, ?_⟩
    · rw [Reader.closeBooking, here]
      dsimp only
      rw [some_posting, if_neg Bool.false_ne_true]
      rfl
    · cases beside.placed with
      | fresh none_open none_closed kept =>
          rw [beside.dated none_open] at opened
          cases opened
      | within one_open also same kept before =>
          exact .within (by rw [withClosed, one_open]; rfl) (by rw [withClosed, also]; rfl)
            (Chapter.unplaced_append same alike) kept before

theorem openChapter (beside : Beside related blocks behind left right) (date : Calendar.Date) :
    Beside related blocks behind (left.openChapter date) (right.openChapter date) := by
  refine ⟨beside.today, beside.registry, beside.block, beside.declares, beside.booking, nofun, ?_⟩
  cases beside.placed with
  | fresh none_open none_closed kept =>
      have none_before : left.closedChapters ++ left.chapter.toList = [] := by rw [none_closed, none_open]; rfl
      exact @Placed.within _ _ _ _ _ ⟨date, []⟩ ⟨date, []⟩ [] rfl rfl rfl
        (kept.trans (List.append_nil behind).symm) (by rw [Reader.openChapter, closeChapter, none_before])
  | @within one same more one_open also alike kept before =>
      have others : right.closedChapters ++ right.chapter.toList = behind ++ (more ++ [same]) := by
        rw [kept, also, List.append_assoc]
        rfl
      refine .within rfl rfl rfl others ?_
      rw [Reader.openChapter, closeChapter, one_open, List.map_append, List.map_append, before]
      exact congrArg (_ ++ [·]) alike

theorem withPosting (beside : Beside related blocks behind left right) {booking other : Booking}
    (opened : left.booking = some booking) (alike : other.unplaced = booking.unplaced)
    {one posting : Posting} (same : posting.unplaced = one.unplaced) :
    Beside related blocks behind (left.withPosting booking one) (right.withPosting other posting) := by
  refine ⟨beside.today, beside.registry, beside.block, beside.declares,
    congrArg some (Booking.unplaced_append alike same), ?_, beside.placed⟩
  intro none_open
  rw [beside.dated none_open] at opened
  cases opened

/-- Behind what it began with, the second reader has the chapters of the first. -/
theorem exists_chapters (beside : Beside related blocks behind left right) :
    ∃ more, right.chapters = behind ++ more ∧
      more.map (·.unplaced) = left.chapters.map (·.unplaced) := by
  cases beside.placed with
  | fresh none_open none_closed kept =>
      refine ⟨[], kept.trans (List.append_nil behind).symm, ?_⟩
      rw [chapters, none_open, none_closed]
      rfl
  | @within one same more one_open also alike kept before =>
      refine ⟨more ++ [same], ?_, ?_⟩
      · rw [chapters, kept, also, List.append_assoc]
        rfl
      · rw [chapters, one_open, List.map_append, List.map_append, before]
        exact congrArg (_ ++ [·]) alike

theorem openBlock (follows : Registry.Follows related allowed blocks)
    (beside : Beside related blocks behind left right) {closings : Nat} {closed : Reader} (few : closings ≤ 1)
    (ended : left.closeBooking = .ok closed) (block : blocks) (place : Nat) :
    ∃ next, right.openBlock closings place = .ok next ∧
      Beside related blocks behind
        { closed with
          inBlock := true
          registry := if closings = 1 then closed.registry.withClosed true else closed.registry } next := by
  rcases beside.closeBooking ended with ⟨other, also, kept⟩
  refine ⟨{ other with
      inBlock := true
      registry := if closings = 1 then other.registry.withClosed true else other.registry },
    ?_, kept.today, ?_, rfl, fun _ => block, kept.booking, kept.dated, kept.placed⟩
  · rw [Reader.openBlock, if_neg (Nat.not_lt.mpr few)]
    exact Outcome.bind_eq_ok.mpr ⟨other, also, rfl⟩
  · dsimp only
    split
    · exact follows.close block kept.registry
    · exact kept.registry

theorem openRelative (beside : Beside related blocks behind left right) {day : Calendar.RelativeDay}
    {present date : Calendar.Date} {closed : Reader} (known : left.today = some present)
    (next_to : present.shift? day.days = some date) (ended : left.closeBooking = .ok closed) (place : Nat) :
    ∃ next, right.openRelative day place = .ok next ∧
      Beside related blocks behind (closed.openChapter date) next := by
  rcases beside.closeBooking ended with ⟨other, also, kept⟩
  have here : right.today = some present := beside.today.trans known
  refine ⟨other.openChapter date, ?_, kept.openChapter date⟩
  unfold Reader.openRelative
  split
  · rename_i unknown
    rw [here] at unknown
    cases unknown
  · rename_i day_there found
    rcases Option.some.inj (here.symm.trans found) with rfl
    exact Outcome.bind_eq_ok.mpr ⟨other, also, by rw [next_to]⟩

theorem openBooking (beside : Beside related blocks behind left right) {text : Text} {annotated : Annotated}
    {closed : Reader} {number : Nat} (ended : left.closeBooking = .ok closed) (dated : closed.chapter ≠ none)
    (read : Annotated.ofText text (some number) = .ok annotated) (named : annotated.description ≠ [])
    (place : Nat) :
    ∃ next, right.openBooking text place = .ok next ∧
      Beside related blocks behind
        { closed with
          booking := some
            { description := annotated.description
              split := annotated.split
              dateOffset := annotated.dateOffset
              line := some number } } next := by
  rcases beside.closeBooking ended with ⟨other, also, kept⟩
  have dated_there : other.chapter.isNone = false := by
    cases kept.placed with
    | fresh none_open _ _ => exact absurd none_open dated
    | within _ opened _ _ _ => rw [opened]; rfl
  refine ⟨{ other with
      booking := some
        { description := annotated.description
          split := annotated.split
          dateOffset := annotated.dateOffset
          line := some place } },
    ?_, kept.today, kept.registry, kept.block, kept.declares, rfl,
    fun none_open => absurd none_open dated, kept.placed⟩
  refine Outcome.bind_eq_ok.mpr ⟨other, also, ?_⟩
  rw [dated_there, if_neg Bool.false_ne_true]
  refine Outcome.bind_eq_ok.mpr ⟨annotated, Annotated.ofText_elsewhere read _, ?_⟩
  rw [if_neg (by simpa using named)]
  rfl

/-- The second reader accepts what the first one accepts. -/
theorem step (follows : Registry.Follows related allowed blocks)
    (beside : Beside related blocks behind left right) {numbered other : NumberedLine}
    (same : other.line = numbered.line) (declares : ∀ closings, numbered.line = .header closings → blocks)
    (ok : left.step numbered = .ok after) (good : allowed after.registry) :
    ∃ next, right.step other = .ok next ∧ Beside related blocks behind after next := by
  rcases numbered with ⟨number, line⟩
  rcases other with ⟨place, _⟩
  rcases (same : _ = line) with rfl
  have outside := beside.withBlock false nofun
  cases stepped_of_step ok with
  | gap ended =>
      rcases beside.closeBooking ended with ⟨closed, also, kept⟩
      exact ⟨_, Outcome.bind_eq_ok.mpr ⟨closed, also, rfl⟩, kept.withBlock false nofun⟩
  | header few ended => exact outside.openBlock follows few ended (declares _ rfl) place
  | date read ended =>
      rcases outside.closeBooking ended with ⟨closed, also, kept⟩
      exact ⟨_, Outcome.bind_eq_ok.mpr ⟨closed, also,
        Outcome.bind_eq_ok.mpr ⟨_, readDate_elsewhere read place, rfl⟩⟩, kept.openChapter _⟩
  | relative known next_to ended => exact outside.openRelative known next_to ended place
  | description ended dated read named => exact outside.openBooking ended dated read named place
  | entry inside read declared =>
      rcases follows.declare (beside.declares inside) beside.registry declared with
        ⟨known, next, also, kept⟩
      refine ⟨{ right with registry := next }, ?_, beside.withRegistry kept⟩
      change right.readIndented _ _ place = _
      rw [readIndented, if_pos (beside.block.trans inside)]
      refine Outcome.bind_eq_ok.mpr ⟨_, Declaration.ofEntry_elsewhere read place, ?_⟩
      dsimp only
      rw [also]
  | bare outside opened read omitted =>
      rcases beside.exists_booking opened with ⟨other, here, alike⟩
      refine ⟨_, ?_, beside.withPosting opened alike (Posting.unplaced_eq _ _ (some place) _)⟩
      exact (step_indented (beside.block.trans outside) here place _ _).trans
        (right.readPosting_bare read omitted other place)
  | posting outside opened read written amount =>
      rcases beside.exists_booking opened with ⟨other, here, alike⟩
      rcases Money.exists_resolve_of_ofText amount with ⟨token, style, currency, suits, resolved, same, elsewhere⟩
      rcases follows.resolve beside.registry good suits resolved with ⟨known, next, also, designator, kept⟩
      have amount_there := elsewhere _ _ _ also
      rw [designator, ← same] at amount_there
      rcases right.exists_readPosting read written amount_there other place with ⟨columns, read_there⟩
      exact ⟨_, (step_indented (beside.block.trans outside) here place _ _).trans read_there,
        (beside.withRegistry kept).withPosting opened alike (Posting.unplaced_eq _ _ (some place) _)⟩

/-- The second reader accepts all lines that the first one accepts. -/
theorem steps (follows : Registry.Follows related allowed blocks)
    (beside : Beside related blocks behind left right) {lines others : List NumberedLine}
    (same : others.map (·.line) = lines.map (·.line))
    (declares : ∀ closings, .header closings ∈ lines.map (·.line) → blocks)
    (ok : left.steps lines = .ok after) (good : allowed after.registry) :
    ∃ next, right.steps others = .ok next ∧ Beside related blocks behind after next := by
  induction lines generalizing others left right with
  | nil =>
      rcases Except.ok.inj ok with rfl
      rw [List.map_eq_nil_iff.mp same]
      exact ⟨right, rfl, beside⟩
  | cons numbered rest ih =>
      rcases List.map_eq_cons_iff.mp same with ⟨other, more, rfl, line, others⟩
      rcases Outcome.bind_eq_ok.mp ok with ⟨middle, stepped, later⟩
      have header : ∀ closings, numbered.line = .header closings → blocks :=
        fun closings is_header => declares closings (is_header ▸ List.mem_cons_self)
      rcases beside.step follows line header stepped (follows.earlier (grows_of_steps later) good) with
        ⟨next, here, kept⟩
      rcases ih kept others (fun closings inside => declares closings (List.mem_cons_of_mem _ inside)) later with
        ⟨last, there, beside⟩
      exact ⟨last, Outcome.bind_eq_ok.mpr ⟨next, here, there⟩, beside⟩

end Beside
end Reader
end Daybook
