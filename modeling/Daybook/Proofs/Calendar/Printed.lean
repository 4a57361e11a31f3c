import Daybook.Ledger.Line
import Daybook.Proofs.Calendar.Order
import Daybook.Proofs.Text.Digits
import Daybook.Proofs.Text.Lines

namespace Daybook
namespace Calendar
namespace Date

/-!
# Printed dates are read back

The written form of a date has the form that lines with dates have, and reading it
gives the date.  Since the parts of a date are bounded, each fills its width.
-/

open Unicode

variable (date : Date)

/-- The digits of the parts of a date. -/
theorem exists_parts :
    ∃ y₁ y₂ y₃ y₄ m₁ m₂ d₁ d₂ : Char,
      Text.padded 4 date.year = [y₁, y₂, y₃, y₄] ∧ Text.padded 2 date.month = [m₁, m₂] ∧
        Text.padded 2 date.day = [d₁, d₂] := by
  rcases date.valid with ⟨⟨-, year⟩, -, -⟩
  have parts := date.parts_bounded
  have first := @Text.length_padded 4 date.year (by unfold lastYear at year; omega) (by decide)
  have second := @Text.length_padded 2 date.month (by omega) (by decide)
  have third := @Text.length_padded 2 date.day (by omega) (by decide)
  rcases List.length_eq_four.mp first with ⟨y₁, y₂, y₃, y₄, years⟩
  rcases List.length_eq_two.mp second with ⟨m₁, m₂, months⟩
  rcases List.length_eq_two.mp third with ⟨d₁, d₂, days⟩
  exact ⟨y₁, y₂, y₃, y₄, m₁, m₂, d₁, d₂, years, months, days⟩

theorem plainDigits?_padded (width value : Nat) : plainDigits? (Text.padded width value) = some value := by
  rw [plainDigits?, if_pos (List.all_eq_true.mpr (Text.isPlainDigits_padded width value)),
    Text.digits?_padded]

/-- The written form is read back. -/
theorem ofText_toText : ofText date.toText = .ok date := by
  rcases date.exists_parts with ⟨y₁, y₂, y₃, y₄, m₁, m₂, d₁, d₂, years, months, days⟩
  have first := plainDigits?_padded 4 date.year
  have second := plainDigits?_padded 2 date.month
  have third := plainDigits?_padded 2 date.day
  rw [toText, years, months, days]
  rw [years] at first
  rw [months] at second
  rw [days] at third
  unfold ofText
  split
  · rename_i shape
    cases shape
    rw [first, second, third]
    exact date.ofParts_parts
  · rename_i other_shape
    exact absurd rfl (other_shape y₁ y₂ y₃ y₄ m₁ m₂ d₁ d₂)

theorem toText_eq_join :
    date.toText = Text.join ['-']
      [Text.padded 4 date.year, Text.padded 2 date.month, Text.padded 2 date.day] := by
  simp [toText, Text.join]

/-- The written form has the form of a date. -/
theorem isDate_toText : Line.isDate date.toText = true := by
  have no_mark : ∀ piece ∈ [Text.padded 4 date.year, Text.padded 2 date.month, Text.padded 2 date.day],
      '-' ∉ piece := by
    intro piece member
    simp only [List.mem_cons, List.not_mem_nil, or_false] at member
    rcases member with rfl | rfl | rfl
    all_goals exact (Text.isPlainDigits_padded _ _).not_mem rfl
  have digits : ∀ width value, (Text.padded width value).length = width →
      Line.isDigits width width (Text.padded width value) = true := by
    intro width value length
    simp only [Line.isDigits, length, Nat.le_refl, decide_true, Bool.true_and, List.all_eq_true]
    exact fun c member => Text.isDecimal_of_plain (Text.isPlainDigits_padded width value c member)
  rcases date.exists_parts with ⟨y₁, y₂, y₃, y₄, m₁, m₂, d₁, d₂, years, months, days⟩
  rw [toText_eq_join, Line.isDate, Text.splitOn_join (List.cons_ne_nil _ _) no_mark]
  dsimp only
  rw [digits 4 _ (by rw [years]; rfl), digits 2 _ (by rw [months]; rfl), digits 2 _ (by rw [days]; rfl)]
  rfl

theorem isSolid_toText : Text.IsSolid date.toText := by
  rw [toText_eq_join]
  intro c member
  rcases Text.mem_join member with mark | ⟨piece, among, inside⟩
  · rw [List.mem_singleton.mp mark]
    decide
  · simp only [List.mem_cons, List.not_mem_nil, or_false] at among
    rcases among with rfl | rfl | rfl
    all_goals exact (Text.isPlainDigits_padded _ _).isSolid c inside

theorem not_mem_commentMark : ';' ∉ date.toText := by
  rw [toText_eq_join]
  intro member
  rcases Text.mem_join member with mark | ⟨piece, among, inside⟩
  · exact absurd (List.mem_singleton.mp mark) (by decide)
  · simp only [List.mem_cons, List.not_mem_nil, or_false] at among
    rcases among with rfl | rfl | rfl
    all_goals exact (Text.isPlainDigits_padded _ _).not_mem rfl inside

theorem exists_head_toText : ∃ c rest, date.toText = c :: rest ∧ c.isDigit = true := by
  rcases date.exists_parts with ⟨y₁, y₂, y₃, y₄, m₁, m₂, d₁, d₂, years, -, -⟩
  have plain := Text.isPlainDigits_padded 4 date.year
  rw [years] at plain
  refine ⟨y₁, _, by rw [toText, years]; rfl, plain y₁ List.mem_cons_self⟩

end Date
end Calendar
end Daybook
