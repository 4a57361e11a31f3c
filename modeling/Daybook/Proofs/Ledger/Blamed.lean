import Daybook.Proofs.Ledger.LoadFailure
import Daybook.Proofs.Ledger.Placed

namespace Daybook

/-!
# Faults of a loaded text

Once a text has been read, only its bookings are left to be at fault: a split that cannot be
carried out, an omitted amount that cannot be inferred, amounts that do not add up.  Such a fault
is about a booking as a whole and no passage of a line, and it is placed on the line of the
booking or of one of its postings.  Postings that a split adds have no line, but they never lack
an amount, so that none of them is blamed.  Together with the faults of reading this says of
every fault of a text where it is placed.
-/

open Calendar

/-! ## Bookings -/

/-- Whether a fault is placed on the line of a booking or of one of its postings and is about no
passage of it. -/
structure LedgerFault.Concerns (fault : LedgerFault) (booking : Booking) : Prop where
  plain : fault.cause.IsPlain
  line : fault.line = booking.line ∨ ∃ posting ∈ booking.postings, fault.line = posting.line
  column : fault.column = none ∨ fault.column = some 1

namespace Booking

variable {registry : Registry} {booking carried : Booking} {fault : LedgerFault}

theorem concerns_faultOf {cause : Cause} (plain : cause.IsPlain) :
    LedgerFault.Concerns { cause, line := booking.line } booking :=
  ⟨plain, Or.inl rfl, Or.inl rfl⟩

theorem lineOf_cases (booking : Booking) (posting : Posting) :
    booking.lineOf posting = booking.line ∨ booking.lineOf posting = posting.line := by
  unfold lineOf
  split
  · exact Or.inl rfl
  · exact Or.inl rfl
  · rename_i line known
    exact Or.inr known.symm

theorem concerns_lineOf {posting : Posting} (member : posting ∈ booking.postings) {cause : Cause}
    (plain : cause.IsPlain) : LedgerFault.Concerns { cause, line := booking.lineOf posting } booking :=
  ⟨plain, (booking.lineOf_cases posting).imp_right fun same => ⟨posting, member, same⟩, Or.inl rfl⟩

theorem concerns_of_unsplit (unsplit : booking.Unsplit registry (.ledger fault)) :
    fault.Concerns booking := by
  cases unsplit with
  | nobody => exact concerns_faultOf fun _ _ => trivial
  | funding => exact concerns_faultOf fun _ _ => trivial
  | opposite one_amount refused =>
      exact absurd (Outcome.map_eq_error.mp refused) Outcome.ofNumbers_ne_fault
  | shares to_do even some_contact one_amount negated refused =>
      rcases Money.isOfDivision_of_splitEven (by omega) refused with same | ⟨signal, same⟩
      · cases same
      · cases same

theorem concerns_of_uninferred (uninferred : booking.Uninferred (.ledger fault)) :
    fault.Concerns booking := by
  have waits {posting : Posting} (blank : posting ∈ booking.blankPostings) : posting ∈ booking.postings :=
    List.mem_of_mem_filter blank
  cases uninferred with
  | sum refused => exact absurd refused Outcome.ofNumbers_ne_fault
  | rest => exact concerns_faultOf fun _ _ => trivial
  | none waiting =>
      exact concerns_lineOf (waits (waiting ▸ List.mem_cons_self)) fun _ _ => trivial
  | currencies waiting =>
      exact concerns_lineOf (waits (waiting ▸ List.mem_cons_self)) fun _ _ => trivial
  | blanks waiting =>
      exact concerns_lineOf (waits (waiting ▸ List.mem_cons_of_mem _ List.mem_cons_self)) fun _ _ => trivial

/-- A fault of a booking whose split has been carried out is one of the booking itself. -/
theorem concerns_of_carried (split_off : booking.resolveSplit registry = .ok carried)
    (concerns : fault.Concerns carried) (placed : fault.line ≠ none) : fault.Concerns booking := by
  have own : carried.line = booking.line ∧ ∀ posting ∈ carried.postings,
      posting ∈ booking.postings ∨ posting.line = none := by
    rcases resolveSplit_eq_ok split_off with ⟨-, rfl⟩ |
      ⟨directive, first, others, funding, total, -, -, -, -, shared⟩
    · exact ⟨rfl, fun posting member => Or.inl member⟩
    · rcases shared with ⟨shares, -, rfl⟩ | rfl
      · refine ⟨rfl, fun posting member => ?_⟩
        rcases List.mem_append.mp member with before | added
        · exact Or.inl before
        · rcases exists_share added with ⟨contact, -, share, -, rfl⟩
          exact Or.inr rfl
      · refine ⟨rfl, fun posting member => ?_⟩
        rcases List.mem_append.mp member with before | added
        · exact Or.inl (List.mem_of_mem_filter before)
        · rw [List.mem_singleton.mp added]
          exact Or.inr rfl
  refine ⟨concerns.plain, ?_, concerns.column⟩
  rcases concerns.line with same | ⟨posting, member, same⟩
  · exact Or.inl (same.trans own.1)
  · rcases own.2 posting member with inside | unplaced
    · exact Or.inr ⟨posting, inside, same⟩
    · exact absurd (same.trans unplaced) placed

/-- A fault of a booking of a text is placed on one of its lines. -/
theorem concerns_of_resolve {number : Nat} (line : booking.line = some number)
    (failed : booking.resolve registry = .error (.ledger fault)) : fault.Concerns booking := by
  rcases resolve_eq_error failed with ⟨refusal, cause, placed⟩
  rw [line] at placed
  cases refusal
  case ledger known =>
    rcases known with ⟨what, place, column⟩
    have plain_and_placed : what.IsPlain ∧ (place ≠ none →
        LedgerFault.Concerns { cause := what, line := place, column } booking) := by
      rcases cause with unsplit | ⟨carried, split_off, uninferred⟩
      · have concerns := concerns_of_unsplit unsplit
        exact ⟨concerns.plain, fun _ => concerns⟩
      · have concerns := concerns_of_uninferred uninferred
        exact ⟨concerns.plain, concerns_of_carried split_off concerns⟩
    cases place with
    | none =>
        cases placed
        exact ⟨plain_and_placed.1, Or.inl line.symm, Or.inr rfl⟩
    | some other =>
        cases placed
        exact plain_and_placed.2 (Option.some_ne_none _)
  all_goals cases placed

end Booking

/-! ## Texts -/

namespace Reading

variable {text : Text} {today : Option Date} {registry : Registry} {strict : Bool} {reading : Reading}
  {booking : Booking}

/-- A booking that was read has the number of a line. -/
theorem exists_line_of_booking (ok : ofText text today registry strict = .ok reading)
    (member : booking ∈ reading.bookings) : ∃ number, booking.line = some number ∧ text.HasLine number := by
  have listed := List.mem_map_of_mem (f := (·.line)) member
  rw [heads_of_ofText ok] at listed
  rcases List.mem_map.mp listed with ⟨number, among, same⟩
  exact ⟨number, same.symm, Line.hasLine_of_heads (List.Subset.refl _) among⟩

/-- A posting that was read has the number of a line. -/
theorem exists_line_of_posting (ok : ofText text today registry strict = .ok reading)
    (member : booking ∈ reading.bookings) {posting : Posting} (inside : posting ∈ booking.postings) :
    ∃ number, posting.line = some number ∧ text.HasLine number := by
  rcases exists_of_forall₂ (postings_of_ofText ok) (List.mem_flatMap.mpr ⟨booking, member, inside⟩) with
    ⟨written, among, read⟩
  exact ⟨written.1, read.line_eq, Line.hasLine_of_postings among⟩

/-- A fault of a booking that was read points into the text. -/
theorem pointsInto_of_concerns (ok : ofText text today registry strict = .ok reading)
    (member : booking ∈ reading.bookings) {fault : LedgerFault} (concerns : fault.Concerns booking) :
    fault.PointsInto text := by
  rcases fault with ⟨cause, line, column⟩
  obtain ⟨number, rfl, among⟩ : ∃ number, line = some number ∧ text.HasLine number := by
    rcases concerns.line with same | ⟨posting, inside, same⟩
    · rcases exists_line_of_booking ok member with ⟨number, known, among⟩
      exact ⟨number, same.trans known, among⟩
    · rcases exists_line_of_posting ok member inside with ⟨number, known, among⟩
      exact ⟨number, same.trans known, among⟩
  exact LedgerFault.pointsInto_line among concerns.plain concerns.column

end Reading

namespace Snapshot

variable {text : Text} {today : Option Date} {strict : Bool} {fault : LedgerFault}

/-- Every fault of a text that is loaded points into one of its lines. -/
theorem pointsInto_of_load (failed : load text today strict = .error (.ledger fault)) :
    fault.PointsInto text := by
  cases unloaded_of_load failed with
  | unread refused => exact Reading.fault_pointsInto refused
  | unresolved read booked refused =>
      rcases Reading.exists_line_of_booking read booked with ⟨number, line, -⟩
      exact Reading.pointsInto_of_concerns read booked (Booking.concerns_of_resolve line refused)

/-- A fault of a text has the number of one of its lines, and its column is absent or lies in the
line or right behind it.  If its cause is about a segment of an account, a word of a currency entry
or an amount, the line goes on with it from the column, unless it is about an alias that is taken:
what begins at the column is then the symbol of the entry, and the alias stands further behind. -/
theorem fault_placed (failed : load text today strict = .error (.ledger fault)) :
    ∃ number raw, fault.line = some number ∧ 1 ≤ number ∧ number ≤ (Text.lines text).length ∧
      (Text.lines text)[number - 1]? = some raw ∧
      (∀ column, fault.column = some column → 1 ≤ column ∧ column ≤ raw.length + 1) ∧
      (fault.cause.ShownAt raw fault.column ↔ fault.cause.isOfAlias = false) ∧
      fault.cause.FoundAt raw fault.column := by
  rcases pointsInto_of_load failed with ⟨raw, number, member, points⟩
  rcases List.mem_zipIdx_iff_le_and_getElem?_sub.mp member with ⟨first, found⟩
  have within := (List.getElem?_eq_some_iff.mp found).1
  exact ⟨number, raw, points.line, first, by omega, found, points.column, points.found.shownAt_iff,
    points.found⟩

/-- An amount with a decimal too many, between blanks of both kinds and in front of a comment. -/
def breakfastText : Text :=
  Text.ofLines ["2024-01-05".toList, "breakfast".toList, " \t food  \t 2.505   EUR ; paid".toList,
    "    cash".toList]

def breakfastFault : LedgerFault where
  cause := .excessDecimals ⟨false, 2505, -3⟩ 2 "EUR".toList
  line := some 3
  column := some 12

theorem breakfast_fault_placed :
    load breakfastText none false = .error (.ledger breakfastFault) ∧
      ∃ number raw, breakfastFault.line = some number ∧ 1 ≤ number ∧
        number ≤ (Text.lines breakfastText).length ∧
        (Text.lines breakfastText)[number - 1]? = some raw ∧
        (∀ column, breakfastFault.column = some column → 1 ≤ column ∧ column ≤ raw.length + 1) ∧
        (breakfastFault.cause.ShownAt raw breakfastFault.column ↔
          breakfastFault.cause.isOfAlias = false) ∧
        breakfastFault.cause.FoundAt raw breakfastFault.column := by
  have failed : load breakfastText none false = .error (.ledger breakfastFault) := by decide +kernel
  exact ⟨failed, fault_placed failed⟩

/-- Two currencies with one alias. -/
def sharedAlias : Text := Text.ofLines ["currency".toList, "    $ USD".toList, "    € USD".toList]

def sharedAliasFault : LedgerFault where
  cause := .codeTaken "USD".toList ['$'] ['€']
  line := some 3
  column := some 5

/-- The second alias stands at the seventh column of its line, the fault is placed at the fifth. -/
theorem shared_alias_misplaced :
    load sharedAlias none false = .error (.ledger sharedAliasFault) ∧
      (Text.lines sharedAlias)[2]? = some "    € USD".toList ∧
      Text.BeginsAt "    € USD".toList (some 7) "USD".toList ∧
      ¬ sharedAliasFault.cause.ShownAt "    € USD".toList sharedAliasFault.column := by
  have alias_stands : Text.StandsAt "USD".toList "    € USD".toList 6 := ⟨by decide, by decide⟩
  have names : Line.NamesAlias "    € USD".toList ['€'] "USD".toList 4 :=
    ⟨⟨'€', rfl, by decide +kernel⟩, ⟨by decide, by decide⟩, "USD".toList, 6, by decide +kernel,
      by decide +kernel, alias_stands, by decide⟩
  refine ⟨by decide +kernel, by decide +kernel, ⟨6, rfl, alias_stands⟩, ?_⟩
  rintro ⟨word, letters, -, begins⟩
  exact names.not_begins letters begins

end Snapshot
end Daybook
