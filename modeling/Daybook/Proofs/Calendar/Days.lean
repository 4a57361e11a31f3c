import Daybook.Proofs.Calendar.Order
import Mathlib.Tactic.Ring

namespace Daybook
namespace Calendar
namespace Date

/-!
# Days are counted

The number of a day counts the days since the beginning of the calendar.  Finding the date
of a number counts off years and months, and the date that is found has that number.
-/

/-! ## Months -/

theorem foldl_add (lengths : List Nat) (start : Nat) :
    lengths.foldl (· + ·) start = start + lengths.sum := by
  induction lengths generalizing start with
  | nil => rfl
  | cons first rest ih => rw [List.foldl_cons, ih, List.sum_cons, Nat.add_assoc]

theorem daysBeforeMonth_succ (year : Nat) {month : Nat} (some_month : 1 ≤ month) :
    daysBeforeMonth year (month + 1) = daysBeforeMonth year month + daysInMonth year month := by
  obtain ⟨before, rfl⟩ : ∃ before, month = before + 1 := ⟨month - 1, by omega⟩
  rw [daysBeforeMonth, daysBeforeMonth, foldl_add, foldl_add, Nat.zero_add, Nat.zero_add,
    Nat.add_sub_cancel, Nat.add_sub_cancel, List.range'_1_concat, List.map_append, List.sum_append,
    Nat.add_comm 1 before]
  rfl

/-- Counting off months leaves the number of the day in the year alone. -/
theorem daysBeforeMonth_monthAndDay (year : Nat) {fuel month day : Nat} (some_month : 1 ≤ month) :
    daysBeforeMonth year (monthAndDay year fuel month day).1 + (monthAndDay year fuel month day).2 =
      daysBeforeMonth year month + day := by
  induction fuel generalizing month day with
  | zero => rfl
  | succ fuel ih =>
      rw [monthAndDay]
      split
      · rw [ih (Nat.le_succ_of_le some_month), daysBeforeMonth_succ year some_month]
        omega
      · rfl

/-! ## Numbers of days -/

/-- The days before a year that is named by its periods of 400, 100 and 4 years. -/
theorem daysBeforeYear_periods (eras : Nat) {centuries periods years : Nat} (few : centuries ≤ 3)
    (inside : 4 * periods + years ≤ 99) (short : years ≤ 3) :
    daysBeforeYear (400 * eras + 100 * centuries + 4 * periods + years + 1) =
      146097 * eras + 36524 * centuries + 1461 * periods + 365 * years := by
  rw [daysBeforeYear, Nat.add_sub_cancel]
  set number := 400 * eras + 100 * centuries + 4 * periods + years with shape
  have fourths : number / 4 = 100 * eras + 25 * centuries + periods := by omega
  have hundredths : number / 100 = 4 * eras + centuries := by omega
  have eras_again : number / 400 = eras := by omega
  omega

/-- The year that is counted off begins no later than the day. -/
theorem daysBeforeYear_yearOf_le (distance : Nat) : daysBeforeYear (yearOf distance) ≤ distance := by
  unfold yearOf
  dsimp only
  set inEra := distance % 146097
  set centuries := min (inEra / 36524) 3
  set inCentury := inEra - centuries * 36524
  set years := min (inCentury % 1461 / 365) 3
  rw [daysBeforeYear_periods _ (by omega) (by omega) (by omega)]
  omega

theorem parts_of_ofParts {year month day : Nat} {date : Date} (ok : ofParts year month day = .ok date) :
    date.year = year ∧ date.month = month ∧ date.day = day := by
  unfold ofParts at ok
  split at ok
  · rcases Except.ok.inj ok with rfl
    exact ⟨rfl, rfl, rfl⟩
  · split at ok
    · cases ok
    · split at ok
      · cases ok
      · cases ok

/-- The date that is found for a number has that number. -/
theorem ordinal_of_ofOrdinal? {number : Int} {date : Date} (found : ofOrdinal? number = some date) :
    (date.ordinal : Int) = number := by
  unfold ofOrdinal? at found
  split at found
  · cases found
  · rename_i inside
    dsimp only at found
    set distance := number.toNat - 1 with distance_eq
    cases named : ofParts (yearOf distance)
        (monthAndDay (yearOf distance) 11 1 (distance - daysBeforeYear (yearOf distance) + 1)).1
        (monthAndDay (yearOf distance) 11 1 (distance - daysBeforeYear (yearOf distance) + 1)).2 with
    | error fault =>
        rw [named] at found
        cases found
    | ok same =>
        rw [named] at found
        rcases Option.some.inj found with rfl
        rcases parts_of_ofParts named with ⟨year, month, day⟩
        have counted := @daysBeforeMonth_monthAndDay (yearOf distance) 11 1
          (distance - daysBeforeYear (yearOf distance) + 1) le_rfl
        have none_before : daysBeforeMonth (yearOf distance) 1 = 0 := rfl
        have start := daysBeforeYear_yearOf_le distance
        rw [ordinal, year, month, day]
        omega

/-- Moving a date by days changes its number by as many. -/
theorem ordinal_of_shift? {date moved : Date} {days : Int} (found : date.shift? days = some moved) :
    (moved.ordinal : Int) = date.ordinal + days := by
  unfold shift? at found
  split at found
  · cases found
  · exact ordinal_of_ofOrdinal? found

end Date
end Calendar
end Daybook
