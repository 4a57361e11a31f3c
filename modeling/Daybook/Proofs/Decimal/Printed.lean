import Daybook.Decimal.Printed
import Daybook.Money.Literal
import Daybook.Proofs.Text.Digits

namespace Daybook
namespace Decimal

/-!
# Printed numbers are read back

A number with a fixed number of decimals is printed as its digits with a point among
them.  The rules for written amounts accept this form, and reading it gives the
coefficient and the exponent back, not just the value.
-/

open Unicode

/-- The parts of a printed number before and behind the point. -/
theorem exists_positional (places coefficient : Nat) :
    ∃ whole fraction : Text, whole ≠ [] ∧ fraction.length = places ∧
      whole ++ fraction = Text.padded (places + 1) coefficient ∧
      positional places coefficient = if places = 0 then whole else whole ++ '.' :: fraction := by
  have long := Text.width_le_length_padded (places + 1) coefficient
  set digits := Text.padded (places + 1) coefficient with shape
  refine ⟨digits.take (digits.length - places), digits.drop (digits.length - places), ?_, ?_,
    List.take_append_drop _ _, ?_⟩
  · rw [← List.length_pos_iff, List.length_take]
    omega
  · rw [List.length_drop]
    omega
  · rw [positional, ← shape]
    split
    · rename_i none_behind
      rw [none_behind, Nat.sub_zero, List.take_length]
    · rfl

theorem toPositional_eq (coefficient : Nat) {unit : Int} (most : unit ≤ 0) :
    toPositional ⟨false, coefficient, unit⟩ = positional (-unit).toNat coefficient := by
  unfold toPositional
  dsimp only
  rw [if_neg Bool.false_ne_true, List.nil_append]
  split
  · rename_i least
    obtain rfl : unit = 0 := by omega
    have long : 1 ≤ (Text.ofNat coefficient).length := List.length_pos_iff.mpr (Text.ofNat_ne_nil _)
    rw [positional, Int.neg_zero, Int.toNat_zero, if_pos rfl, Text.padded, Nat.sub_eq_zero_of_le (by omega),
      ite_self]
    simp
  · rfl

section Parts

variable {whole fraction : Text}

theorem isPlainDigits_parts {places coefficient : Nat}
    (together : whole ++ fraction = Text.padded (places + 1) coefficient) :
    Text.IsPlainDigits whole ∧ Text.IsPlainDigits fraction := by
  have plain := Text.isPlainDigits_padded (places + 1) coefficient
  rw [← together] at plain
  exact ⟨fun c member => plain c (List.mem_append_left _ member),
    fun c member => plain c (List.mem_append_right _ member)⟩

theorem isNumeric_of_parts (first : Text.IsPlainDigits whole) (second : Text.IsPlainDigits fraction)
    (filled : whole ≠ []) :
    Literal.isNumeric whole = true ∧ Literal.isNumeric (whole ++ '.' :: fraction) = true := by
  cases whole with
  | nil => exact absurd rfl filled
  | cons c rest =>
      have head := Text.isDecimal_of_plain (first c List.mem_cons_self)
      have digits : ∀ d ∈ rest, isDecimal d = true := fun d member =>
        Text.isDecimal_of_plain (first d (List.mem_cons_of_mem _ member))
      have behind : ∀ d ∈ fraction, isDecimal d = true := fun d member =>
        Text.isDecimal_of_plain (second d member)
      constructor
      · simp only [Literal.isNumeric, head, Bool.true_and, List.all_eq_true, Bool.or_eq_true]
        exact fun d member => Or.inl (digits d member)
      · simp only [List.cons_append, Literal.isNumeric, head, Bool.true_and, List.all_eq_true,
          Bool.or_eq_true, beq_iff_eq]
        intro d member
        rcases List.mem_append.mp member with inside | inside
        · exact Or.inl (digits d inside)
        · rcases List.mem_cons.mp inside with rfl | later
          · exact Or.inr rfl
          · exact Or.inl (behind d later)

end Parts

/-- A printed number has the form of a number in an amount. -/
theorem isNumeric_positional (places coefficient : Nat) :
    Literal.isNumeric (positional places coefficient) = true := by
  rcases exists_positional places coefficient with ⟨whole, fraction, filled, -, together, equal⟩
  rcases isPlainDigits_parts together with ⟨first, second⟩
  rw [equal]
  split
  · exact (isNumeric_of_parts first second filled).1
  · exact (isNumeric_of_parts first second filled).2

/-- Every number without a sign is written in this form, also one without decimals. -/
theorem isNumeric_toPositional {d : Decimal} (unsigned : d.negative = false) :
    Literal.isNumeric d.toPositional = true := by
  unfold toPositional
  dsimp only
  rw [unsigned, if_neg Bool.false_ne_true, List.nil_append]
  split
  · have zeros : ∀ count, Text.IsPlainDigits (List.replicate count '0') := by
      intro count c member
      rw [(List.mem_replicate.mp member).2]
      decide
    exact (isNumeric_of_parts ((Text.isPlainDigits_ofNat d.coefficient).append (zeros _)) (zeros 0)
      (List.append_ne_nil_of_left_ne_nil (Text.ofNat_ne_nil d.coefficient) _)).1
  · exact isNumeric_positional _ _

/-- A printed number is read as its coefficient with its exponent. -/
theorem ofDigits?_positional (negative : Bool) (places coefficient : Nat) :
    ofDigits? negative 0 (positional places coefficient) = some ⟨negative, coefficient, -places⟩ := by
  rcases exists_positional places coefficient with ⟨whole, fraction, -, length, together, equal⟩
  have no_point : '.' ∉ whole := (isPlainDigits_parts together).1.not_mem rfl
  have read := Text.digits?_padded (places + 1) coefficient
  rw [← together] at read
  by_cases none_behind : places = 0
  · obtain rfl : fraction = [] := by rwa [none_behind, List.length_eq_zero_iff] at length
    rw [List.append_nil] at read
    rw [equal, if_pos none_behind, ofDigits?, Text.cutAt_of_not_mem no_point]
    dsimp only [Option.getD_none]
    rw [List.append_nil, read]
    simp [none_behind]
  · rw [equal, if_neg none_behind, ofDigits?, Text.cutAt_append no_point]
    dsimp only [Option.getD_some]
    rw [read, length]
    simp

/-- A printed number has at most one point, and it does not end in one. -/
theorem point_of_positional (places coefficient : Nat) :
    (positional places coefficient).count '.' ≤ 1 ∧
      (positional places coefficient).getLast? ≠ some '.' := by
  rcases exists_positional places coefficient with ⟨whole, fraction, -, length, together, equal⟩
  rcases isPlainDigits_parts together with ⟨first, second⟩
  have no_point : '.' ∉ whole := first.not_mem rfl
  have no_more : '.' ∉ fraction := second.not_mem rfl
  rw [equal]
  split
  · exact ⟨by rw [List.count_eq_zero.mpr no_point]; exact Nat.zero_le 1,
      fun found => no_point (List.mem_of_getLast? found)⟩
  · rename_i some_behind
    constructor
    · rw [List.count_append, List.count_cons_self, List.count_eq_zero.mpr no_point,
        List.count_eq_zero.mpr no_more]
    · intro found
      cases fraction with
      | nil => exact some_behind length.symm
      | cons c rest =>
          rw [List.getLast?_append_of_ne_nil _ (List.cons_ne_nil _ _),
            List.getLast?_cons_cons] at found
          exact no_more (List.mem_of_getLast? found)

theorem value_positional (places coefficient : Nat) {literal : Literal}
    (written : literal.number = positional places coefficient) (text : Text) :
    literal.value text = .ok ⟨false, coefficient, -places⟩ := by
  rcases point_of_positional places coefficient with ⟨once, last⟩
  rw [Literal.value, written, if_neg (Nat.not_lt.mpr once), if_neg last, ofDigits?_positional]

/-- A printed number is made of digits and at most a point. -/
theorem mem_positional {places coefficient : Nat} {c : Char} (member : c ∈ positional places coefficient) :
    c = '.' ∨ c.isDigit = true := by
  rcases exists_positional places coefficient with ⟨whole, fraction, -, -, together, equal⟩
  rcases isPlainDigits_parts together with ⟨first, second⟩
  rw [equal] at member
  split at member
  · exact Or.inr (first c member)
  · rcases List.mem_append.mp member with inside | inside
    · exact Or.inr (first c inside)
    · rcases List.mem_cons.mp inside with rfl | later
      · exact Or.inl rfl
      · exact Or.inr (second c later)

theorem isSolid_positional (places coefficient : Nat) : Text.IsSolid (positional places coefficient) := by
  intro c member
  rcases mem_positional member with rfl | digit
  · decide
  · exact isBlank_of_isDecimal (Text.isDecimal_of_plain digit)

theorem positional_ne_nil (places coefficient : Nat) : positional places coefficient ≠ [] := by
  intro empty
  have numeric := isNumeric_positional places coefficient
  rw [empty] at numeric
  cases numeric

end Decimal
end Daybook
