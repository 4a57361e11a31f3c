import Daybook.Unicode.Blank
import Daybook.Unicode.Word
import Mathlib.Data.List.Basic

namespace Daybook
namespace Unicode

/-!
# How the classes of characters relate

The tables of the standard are independent of each other.  What the rules of the
ledger rely on is that blanks are no word characters and that decimal digits are.
Both are compared range by range, which is much less work than to go through the
code points.
-/

namespace Ranges

/-- Whether every range begins after the one before it ends. -/
def isAscending : Ranges → Bool
  | [] => true
  | (first, last) :: rest =>
    Nat.ble first last && (rest.head?.all fun next => Nat.blt last next.1) && isAscending rest

/-- Whether every range of a table lies in a range of another one. -/
def liesIn (inner outer : Ranges) : Bool :=
  inner.all fun range => outer.any fun wide => Nat.ble wide.1 range.1 && Nat.ble range.2 wide.2

/-- Whether no range of a table meets a range of another one. -/
def isApart (left right : Ranges) : Bool :=
  left.all fun range => right.all fun other => Nat.blt range.2 other.1 || Nat.blt other.2 range.1

theorem first_le_of_isAscending {first last : Nat} {rest : Ranges}
    (ascending : isAscending ((first, last) :: rest) = true) :
    ∀ range ∈ rest, last < range.1 := by
  induction rest generalizing first last with
  | nil => simp
  | cons next others ih =>
      rcases next with ⟨begin_, end_⟩
      simp only [isAscending, List.head?_cons, Option.all_some, Bool.and_eq_true, Nat.ble_eq,
        Nat.blt_eq] at ascending ih
      intro range member
      rcases List.mem_cons.mp member with rfl | inside
      · exact ascending.1.2
      · have := @ih begin_ end_ ascending.2 range inside
        omega

/-- In an ascending table a search finds the range that holds a code point. -/
theorem covers_of_mem {ranges : Ranges} (ascending : ranges.isAscending = true) {range : Nat × Nat}
    (member : range ∈ ranges) {code : Nat} (least : range.1 ≤ code) (most : code ≤ range.2) :
    ranges.covers code = true := by
  induction ranges with
  | nil => cases member
  | cons first rest ih =>
      rcases first with ⟨begin_, end_⟩
      rw [covers]
      rcases List.mem_cons.mp member with rfl | inside
      · rw [if_neg (by omega), if_pos most]
      · have later := first_le_of_isAscending ascending range inside
        simp only [isAscending, Bool.and_eq_true, Nat.ble_eq] at ascending
        rw [if_neg (by omega)]
        split
        · rfl
        · exact ih ascending.2 inside

theorem covers_of_liesIn {inner outer : Ranges} (ascending : outer.isAscending = true)
    (inside : inner.liesIn outer = true) {code : Nat} (covered : inner.covers code = true) :
    outer.covers code = true := by
  rcases exists_mem_of_covers covered with ⟨range, member, least, most⟩
  rcases List.any_eq_true.mp (List.all_eq_true.mp inside range member) with ⟨wide, among, bounds⟩
  simp only [Bool.and_eq_true, Nat.ble_eq] at bounds
  exact covers_of_mem ascending among (Nat.le_trans bounds.1 least) (Nat.le_trans most bounds.2)

theorem not_covers_of_isApart {left right : Ranges} (apart : left.isApart right = true) {code : Nat}
    (covered : left.covers code = true) : right.covers code = false := by
  by_contra both
  rw [Bool.not_eq_false] at both
  rcases exists_mem_of_covers covered with ⟨range, member, least, most⟩
  rcases exists_mem_of_covers both with ⟨other, among, least', most'⟩
  have bounds := List.all_eq_true.mp (List.all_eq_true.mp apart range member) other among
  simp only [Bool.or_eq_true, Nat.blt_eq] at bounds
  omega

end Ranges

theorem alphanumericRanges_isAscending : alphanumericRanges.isAscending = true := by decide +kernel

theorem blankRanges_isApart : blankRanges.isApart alphanumericRanges = true := by decide +kernel

theorem decimalRanges_liesIn : decimalRanges.liesIn alphanumericRanges = true := by decide +kernel

/-- A word character is not blank. -/
theorem isBlank_of_isWord {c : Char} (word : isWord c = true) : isBlank c = false := by
  rw [isWord, Bool.or_eq_true, beq_iff_eq] at word
  rcases word with letter | rfl
  · by_contra blank
    rw [Bool.not_eq_false] at blank
    rw [isAlphanumeric, Ranges.not_covers_of_isApart blankRanges_isApart blank] at letter
    cases letter
  · decide

/-- A decimal digit is a word character. -/
theorem isWord_of_isDecimal {c : Char} (decimal : isDecimal c = true) : isWord c = true := by
  rw [isWord, isAlphanumeric, Ranges.covers_of_liesIn alphanumericRanges_isAscending
    decimalRanges_liesIn decimal, Bool.true_or]

theorem isBlank_of_isDecimal {c : Char} (decimal : isDecimal c = true) : isBlank c = false :=
  isBlank_of_isWord (isWord_of_isDecimal decimal)

theorem isDecimal_of_isCodeLetter {c : Char} (letter : isCodeLetter c = true) :
    isDecimal c = false := by
  simp only [isCodeLetter, Bool.and_eq_true, Bool.not_eq_true'] at letter
  exact letter.1.2

theorem isBlank_of_isCodeLetter {c : Char} (letter : isCodeLetter c = true) : isBlank c = false :=
  isBlank_of_isWord (isWord_of_isCodeLetter letter)

end Unicode
end Daybook
