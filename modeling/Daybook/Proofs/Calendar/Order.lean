import Daybook.Calendar.Date

namespace Daybook
namespace Calendar
namespace Date

/-!
# The order of dates

Dates are compared part by part.  Since months and days are bounded, the three
parts make one number, and every fact about the order is one about numbers.
-/

/-- The parts of a date as the digits of one number. -/
def key (date : Date) : Nat := (date.year * 16 + date.month) * 32 + date.day

theorem parts_bounded (date : Date) : date.month ≤ 12 ∧ 1 ≤ date.day ∧ date.day ≤ 31 := by
  rcases date.valid with ⟨-, ⟨-, month⟩, least, most⟩
  have month_length : daysInMonth date.year date.month ≤ 31 := by
    unfold daysInMonth
    split
    · split <;> decide
    · split <;> decide
  exact ⟨month, least, Nat.le_trans most month_length⟩

theorem notAfter_iff (left right : Date) : left.notAfter right = true ↔ left.key ≤ right.key := by
  have first := left.parts_bounded
  have second := right.parts_bounded
  simp only [notAfter, key, Bool.or_eq_true, Bool.and_eq_true, decide_eq_true_eq, beq_iff_eq]
  omega

theorem isBefore_iff (left right : Date) : left.isBefore right = true ↔ left.key < right.key := by
  have reverse := notAfter_iff right left
  rw [isBefore, Bool.not_eq_true', ← Bool.not_eq_true, reverse, Nat.not_le]

theorem key_injective {left right : Date} (same : left.key = right.key) : left = right := by
  have first := left.parts_bounded
  have second := right.parts_bounded
  rcases left with ⟨year, month, day, valid⟩
  rcases right with ⟨year', month', day', valid'⟩
  simp only [key] at same first second
  obtain ⟨rfl, rfl, rfl⟩ : year = year' ∧ month = month' ∧ day = day' := by omega
  rfl

end Date
end Calendar
end Daybook
