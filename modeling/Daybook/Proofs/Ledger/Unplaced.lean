import Daybook.Ledger.Reader
import Daybook.Proofs.Booking.Tags

namespace Daybook

/-!
# What the number of a line does not decide

The number of a line says where a fault is and where a booking comes from, and nothing else.
So what is accepted under one number is accepted under every other, with the same result; only
the bookings carry their lines, and what two readings have in common wherever their texts stand
is what is left of their chapters when these lines are taken off.
-/

/-! ## Taking a line apart -/

namespace Annotated

theorem scan_elsewhere {whole remaining : Text} {line : Option Nat} {progress : Progress}
    {annotated : Annotated} (ok : scan whole line progress remaining = .ok annotated) (other : Option Nat) :
    scan whole other progress remaining = .ok annotated := by
  induction size : remaining.length using Nat.strongRecOn generalizing remaining progress with
  | ind n ih =>
      rw [scan] at ok ⊢
      split at ok
      · exact ok
      · rename_i tag rest found
        dsimp only at ok ⊢
        split at ok
        · rename_i next accepted
          have shorter := WrittenTag.length_peel?_lt found
          rw [accept_anywhere accepted other _]
          exact ih rest.length (size ▸ shorter) ok rfl
        · cases ok

/-- A description is accepted on every line. -/
theorem ofText_elsewhere {text : Text} {line : Option Nat} {annotated : Annotated}
    (ok : ofText text line = .ok annotated) (other : Option Nat) : ofText text other = .ok annotated :=
  scan_elsewhere ok other

end Annotated

namespace Account

/-- The account of a posting is accepted on every line, wherever it stands in it. -/
theorem ofText_elsewhere {text : Text} {line : Option Nat} {column : Nat} {account : Account}
    (ok : ofText text line column = .ok account) (other : Option Nat) (place : Nat) :
    ofText text other place = .ok account :=
  ofText_eq_ok_iff.mpr (ofText_eq_ok_iff.mp ok)

end Account

namespace Declaration

theorem acceptWord_elsewhere {designator : Text} {number : Nat} {draft next : Draft} {place : Nat × Text}
    (ok : acceptWord designator number draft place = .ok next) (other : Nat) :
    acceptWord designator other draft place = .ok next := by
  unfold acceptWord at ok ⊢
  dsimp only at ok ⊢
  split at ok
  · rename_i digits
    rw [if_pos digits]
    split at ok
    · exact ok
    · cases ok
  · rename_i no_digits
    rw [if_neg no_digits]
    split at ok
    · rename_i after
      rw [if_pos after]
      exact ok
    · rename_i not_after
      rw [if_neg not_after]
      split at ok
      · rename_i code
        rw [if_pos code]
        exact ok
      · cases ok

theorem acceptWords_elsewhere {designator : Text} {number : Nat} {draft next : Draft}
    {places : List (Nat × Text)} (ok : acceptWords designator number draft places = .ok next)
    (other : Nat) : acceptWords designator other draft places = .ok next := by
  induction places generalizing draft with
  | nil => exact ok
  | cons place rest ih =>
      rcases Outcome.bind_eq_ok.mp ok with ⟨middle, accepted, ok⟩
      rw [acceptWords, acceptWord_elsewhere accepted other]
      exact ih ok

/-- An entry is accepted on every line. -/
theorem ofEntry_elsewhere {content comment : Text} {number : Nat} {declared : Declaration × Nat}
    (ok : ofEntry content comment number = .ok declared) (other : Nat) :
    ofEntry content comment other = .ok declared := by
  unfold ofEntry at ok ⊢
  split at ok
  · cases ok
  · rename_i offset designator rest words
    dsimp only at ok
    split at ok
    · rename_i known
      rcases Outcome.bind_eq_ok.mp ok with ⟨draft, accepted, ok⟩
      dsimp only
      rw [if_pos known, acceptWords_elsewhere accepted other]
      exact ok
    · cases ok

end Declaration

namespace Reader

/-- A date is accepted on every line. -/
theorem readDate_elsewhere {text : Text} {number : Nat} {date : Calendar.Date}
    (ok : readDate text number = .ok date) (other : Nat) : readDate text other = .ok date := by
  unfold readDate at ok ⊢
  split at ok
  · rename_i looks
    rw [if_pos looks]
    split at ok
    · exact ok
    · cases ok
  · cases ok

end Reader

/-! ## Taking the lines off -/

/-- The posting wherever it comes from. -/
def Posting.unplaced (posting : Posting) : Posting := { posting with line := none }

def Booking.unplaced (booking : Booking) : Booking :=
  { booking with postings := booking.postings.map (·.unplaced), line := none }

def Chapter.unplaced (chapter : Chapter) : Chapter :=
  { chapter with bookings := chapter.bookings.map (·.unplaced) }

theorem Posting.unplaced_eq (account : Account) (money : Option Money) (line other : Option Nat) :
    Posting.unplaced { account, money, line } = Posting.unplaced { account, money, line := other } := rfl

namespace Booking

variable {left right : Booking}

/-- Bookings that differ in their lines have postings or have none. -/
theorem isEmpty_of_unplaced (alike : right.unplaced = left.unplaced) :
    right.postings.isEmpty = left.postings.isEmpty := by
  have postings := congrArg (·.postings.isEmpty) alike
  simpa [unplaced, List.isEmpty_map] using postings

/-- Bookings that differ in their lines go on differing in their lines when a posting is added
to both. -/
theorem unplaced_append (alike : right.unplaced = left.unplaced) {one other : Posting}
    (same : other.unplaced = one.unplaced) :
    { right with postings := right.postings ++ [other] }.unplaced =
      { left with postings := left.postings ++ [one] }.unplaced := by
  simp only [unplaced, Booking.mk.injEq, List.map_append, List.map_cons, List.map_nil] at alike ⊢
  rw [alike.2.1, same]
  exact ⟨alike.1, rfl, alike.2.2⟩

end Booking

/-- Chapters that differ in lines go on differing in lines when a booking is added to both. -/
theorem Chapter.unplaced_append {left right : Chapter} (alike : right.unplaced = left.unplaced)
    {one other : Booking} (same : other.unplaced = one.unplaced) :
    { right with bookings := right.bookings ++ [other] }.unplaced =
      { left with bookings := left.bookings ++ [one] }.unplaced := by
  simp only [unplaced, Chapter.mk.injEq, List.map_append, List.map_cons, List.map_nil] at alike ⊢
  rw [alike.2, same]
  exact ⟨alike.1, rfl⟩

end Daybook
