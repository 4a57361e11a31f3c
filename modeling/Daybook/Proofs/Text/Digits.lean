import Daybook.Proofs.Text.Words
import Daybook.Proofs.Unicode.Classes
import Daybook.Text.Integer
import Mathlib.Data.List.TakeWhile

namespace Daybook
namespace Text

/-!
# Written numbers

Reading the digits of a number gives the number, with or without zeros in front.
Reading knows the digits of every script and writing uses one, so the facts are said
of texts of plain digits, the ones from zero to nine.
-/

open Unicode

/-- Whether a text is made of the digits from zero to nine. -/
def IsPlainDigits (text : Text) : Prop := ∀ c ∈ text, c.isDigit = true

theorem exists_digit {c : Char} (digit : c.isDigit = true) : ∃ value < 10, c = Nat.digitChar value := by
  have bounds : 48 ≤ c.toNat ∧ c.toNat ≤ 57 := by
    simpa [Char.isDigit, UInt32.le_iff_toNat_le] using digit
  refine ⟨c.toNat - 48, by omega, ?_⟩
  apply Char.toNat_inj.mp
  rw [Nat.toNat_digitChar_of_lt_ten (by omega)]
  omega

theorem decimalValue?_digitChar {value : Nat} (small : value < 10) :
    decimalValue? (Nat.digitChar value) = some value := by
  have each : ∀ digit < 10, decimalValue? (Nat.digitChar digit) = some digit := by decide
  exact each value small

theorem isDecimal_of_plain {c : Char} (digit : c.isDigit = true) : isDecimal c = true := by
  rcases exists_digit digit with ⟨value, small, rfl⟩
  rw [← decimalValue?_isSome, decimalValue?_digitChar small]
  rfl

theorem isDigit_of_plain {c : Char} (digit : c.isDigit = true) : isDigit c = true := by
  rw [isDigit, isDecimal_of_plain digit, Bool.true_or]

namespace IsPlainDigits

variable {text : Text}

theorem isSolid (plain : IsPlainDigits text) : IsSolid text :=
  fun c member => isBlank_of_isDecimal (isDecimal_of_plain (plain c member))

theorem not_mem (plain : IsPlainDigits text) {c : Char} (other : c.isDigit = false) : c ∉ text := by
  intro member
  rw [plain c member] at other
  cases other

theorem append {more : Text} (first : IsPlainDigits text) (second : IsPlainDigits more) :
    IsPlainDigits (text ++ more) := by
  intro c member
  rcases List.mem_append.mp member with inside | inside
  · exact first c inside
  · exact second c inside

theorem digitsFrom? (plain : IsPlainDigits text) (value : Nat) :
    digitsFrom? value text = some (Nat.ofDigitChars 10 text value) := by
  induction text generalizing value with
  | nil => simp [Text.digitsFrom?]
  | cons c rest ih =>
      rcases exists_digit (plain c List.mem_cons_self) with ⟨digit, small, rfl⟩
      rw [Text.digitsFrom?, decimalValue?_digitChar small, Nat.ofDigitChars_cons_digitChar_of_lt_ten small]
      exact ih (fun d member => plain d (List.mem_cons_of_mem _ member)) _

end IsPlainDigits

/-! ## Writing and reading back -/

theorem isPlainDigits_ofNat (value : Nat) : IsPlainDigits (ofNat value) :=
  fun _ member => Nat.isDigit_of_mem_toDigits (by decide) (by decide) member

theorem ofNat_ne_nil (value : Nat) : ofNat value ≠ [] := Nat.toDigits_ne_nil

theorem length_ofNat_le_iff {value width : Nat} (positive : 0 < width) :
    (ofNat value).length ≤ width ↔ value < 10 ^ width :=
  Nat.length_toDigits_le_iff (by decide) positive

theorem isPlainDigits_padded (width value : Nat) : IsPlainDigits (padded width value) := by
  refine IsPlainDigits.append ?_ (isPlainDigits_ofNat value)
  intro c member
  rw [(List.mem_replicate.mp member).2]
  rfl

theorem padded_ne_nil (width value : Nat) : padded width value ≠ [] := by
  simp [padded, ofNat_ne_nil]

theorem length_padded {width value : Nat} (fits : value < 10 ^ width) (positive : 0 < width) :
    (padded width value).length = width := by
  have short := (length_ofNat_le_iff positive).mpr fits
  rw [padded, List.length_append, List.length_replicate]
  omega

theorem width_le_length_padded (width value : Nat) : width ≤ (padded width value).length := by
  rw [padded, List.length_append, List.length_replicate]
  omega

theorem digits?_padded (width value : Nat) : digits? (padded width value) = some value := by
  have filled : (padded width value).isEmpty = false := by
    simpa using padded_ne_nil width value
  rw [digits?, filled, if_neg Bool.false_ne_true, (isPlainDigits_padded width value).digitsFrom? 0,
    padded, Nat.ofDigitChars_append, Nat.ofDigitChars_replicate_zero, Nat.mul_zero, ofNat,
    Nat.ofDigitChars_toDigits (by decide) (by decide)]

theorem ofNat_eq_padded (value : Nat) : ofNat value = padded 0 value := by
  rw [padded, Nat.zero_sub, List.replicate_zero, List.nil_append]

theorem digits?_ofNat (value : Nat) : digits? (ofNat value) = some value := by
  rw [ofNat_eq_padded, digits?_padded]

theorem ofNat_injective {left right : Nat} (same : ofNat left = ofNat right) : left = right := by
  have read := digits?_ofNat left
  rw [same, digits?_ofNat] at read
  exact (Option.some.inj read).symm

/-! ## Whole numbers -/

theorem isSome_digitsFrom? {text : Text} (decimal : ∀ c ∈ text, isDecimal c = true) (value : Nat) :
    (digitsFrom? value text).isSome = true := by
  induction text generalizing value with
  | nil => rfl
  | cons c rest ih =>
      rw [digitsFrom?]
      cases read : decimalValue? c with
      | some digit => exact ih (fun d member => decimal d (List.mem_cons_of_mem _ member)) _
      | none =>
          have known := decimalValue?_isSome c
          rw [read, decimal c List.mem_cons_self] at known
          cases known

theorem mem_takeSign {text : Text} {c : Char} (member : c ∈ text) :
    c = '-' ∨ c = '+' ∨ c ∈ (takeSign text).2 := by
  unfold takeSign
  split
  · exact (List.mem_cons.mp member).imp_right Or.inr
  · exact Or.inr (List.mem_cons.mp member)
  · exact Or.inr (Or.inr member)

/-- A run of decimal digits of any script, with a sign or without one, is read unless it is too
long. -/
theorem toInteger_signed {text : Text} (filled : (takeSign text).2 ≠ [])
    (decimal : ∀ c ∈ (takeSign text).2, isDecimal c = true) :
    ∃ value, digits? (takeSign text).2 = some value ∧
      toInteger text =
        if digitLimit < (takeSign text).2.length then .error (.tooLong (takeSign text).2.length)
        else .ok (if (takeSign text).1 then -(value : Int) else value) := by
  have solid : ∀ c ∈ text, isNumberBlank c = false := by
    intro c member
    rcases mem_takeSign member with rfl | rfl | inside
    · decide
    · decide
    · rw [isNumberBlank, isBlank_of_isDecimal (decimal c inside), Bool.false_and]
  have whole : ((text.dropWhile isNumberBlank).reverse.dropWhile isNumberBlank).reverse = text := by
    have front : text.dropWhile isNumberBlank = text := by
      cases text with
      | nil => rfl
      | cons c rest => rw [List.dropWhile_cons, solid c List.mem_cons_self]; rfl
    rw [front]
    rcases List.eq_nil_or_concat text with rfl | ⟨others, c, rfl⟩
    · rfl
    · have last := solid c (by simp)
      rw [List.concat_eq_append, List.reverse_append, List.reverse_singleton, List.singleton_append,
        List.dropWhile_cons, last]
      simp
  have run : ((takeSign text).2.takeWhile fun c => isDecimal c || c == '_') = (takeSign text).2 := by
    rw [List.takeWhile_eq_self_iff]
    intro c member
    rw [decimal c member, Bool.true_or]
  have no_low_line : ∀ c ∈ (takeSign text).2, (c == '_') = false := by
    intro c member
    rw [beq_eq_false_iff_ne]
    rintro rfl
    have digit := decimal '_' member
    revert digit
    decide
  have digits : dropLowLines? (takeSign text).2 = some (takeSign text).2 := by
    rw [dropLowLines?, splitOn, splitWhen_of_none no_low_line]
    simp [filled]
  obtain ⟨value, read⟩ : ∃ value, digits? (takeSign text).2 = some value := by
    have empty : (takeSign text).2.isEmpty = false := by simpa using filled
    rw [digits?, empty, if_neg Bool.false_ne_true]
    exact Option.isSome_iff_exists.mp (isSome_digitsFrom? decimal 0)
  refine ⟨value, read, ?_⟩
  rw [toInteger]
  simp only [whole, run, digits, read, Nat.lt_irrefl, if_false, gt_iff_lt]

theorem takeSign_of_decimal {text : Text} (decimal : ∀ c ∈ text, isDecimal c = true) :
    takeSign text = (false, text) := by
  unfold takeSign
  split
  · exact absurd (decimal '-' List.mem_cons_self) (by decide)
  · exact absurd (decimal '+' List.mem_cons_self) (by decide)
  · rfl

/-- A number that is not too long is read back. -/
theorem toInteger_ofNat {value : Nat} (small : value < 10 ^ digitLimit) :
    toInteger (ofNat value) = .ok value := by
  have decimal : ∀ c ∈ ofNat value, isDecimal c = true :=
    fun c member => isDecimal_of_plain (isPlainDigits_ofNat value c member)
  have unsigned := takeSign_of_decimal decimal
  rcases @toInteger_signed (ofNat value) (by rw [unsigned]; exact ofNat_ne_nil value)
    (by rw [unsigned]; exact decimal) with ⟨number, read, result⟩
  have short := (length_ofNat_le_iff (by decide)).mpr small
  rw [unsigned] at read result
  rw [digits?_ofNat] at read
  rw [result, if_neg (not_lt.mpr short), ← Option.some.inj read]
  rfl

/-- Every digit adds a digit to the number. -/
theorem digitsFrom?_lt {text : Text} {before value : Nat} (read : digitsFrom? before text = some value) :
    value < (before + 1) * 10 ^ text.length := by
  induction text generalizing before with
  | nil =>
      rw [digitsFrom?] at read
      rw [← Option.some.inj read, List.length_nil, Nat.pow_zero]
      omega
  | cons c rest ih =>
      rw [digitsFrom?] at read
      split at read
      · rename_i digit known
        have small := decimalValue?_lt known
        calc value < (10 * before + digit + 1) * 10 ^ rest.length := ih read
          _ ≤ ((before + 1) * 10) * 10 ^ rest.length := Nat.mul_le_mul_right _ (by omega)
          _ = (before + 1) * 10 ^ (rest.length + 1) := by rw [Nat.pow_succ', Nat.mul_assoc]
      · cases read

theorem digits?_lt {text : Text} {value : Nat} (read : digits? text = some value) :
    value < 10 ^ text.length := by
  rw [digits?] at read
  split at read
  · cases read
  · simpa using digitsFrom?_lt read

/-- Only decimal digits are read. -/
theorem isDecimal_of_digitsFrom? {text : Text} {before value : Nat}
    (read : digitsFrom? before text = some value) : ∀ c ∈ text, isDecimal c = true := by
  induction text generalizing before with
  | nil => rintro c ⟨⟩
  | cons first rest ih =>
      rw [digitsFrom?] at read
      split at read
      · rename_i digit known
        intro c member
        rcases List.mem_cons.mp member with rfl | inside
        · rw [← decimalValue?_isSome, known]
          rfl
        · exact ih read c inside
      · cases read

/-- A number is bounded by how many of its characters are digits. -/
theorem digits?_lt_count {text : Text} {value : Nat} (read : digits? text = some value) :
    value < 10 ^ text.countP isDecimal := by
  have bound := digits?_lt read
  rw [digits?] at read
  split at read
  · cases read
  · rwa [List.countP_eq_length.mpr (isDecimal_of_digitsFrom? read)]

/-- A number that is read has no more digits than are read. -/
theorem natAbs_lt_of_toInteger {text : Text} {value : Int} (read : toInteger text = .ok value) :
    value.natAbs < 10 ^ digitLimit := by
  unfold toInteger at read
  dsimp only at read
  split at read
  · cases read
  · rename_i digits dropped
    split at read
    · cases read
    · rename_i short
      split at read
      · cases read
      · split at read
        · rename_i magnitude known
          have small : magnitude < 10 ^ digitLimit :=
            (digits?_lt known).trans_le (Nat.pow_le_pow_right (by decide) (Nat.not_lt.mp short))
          rw [← Except.ok.inj read]
          split
          · rwa [Int.natAbs_neg, Int.natAbs_natCast]
          · rwa [Int.natAbs_natCast]
        · cases read

/-- Trimming brings nothing in. -/
theorem mem_of_mem_trimmed {p : Char → Bool} {text : Text} {c : Char}
    (member : c ∈ ((text.dropWhile p).reverse.dropWhile p).reverse) : c ∈ text := by
  have inner := (List.dropWhile_sublist p).subset (List.mem_reverse.mp member)
  exact (List.dropWhile_sublist p).subset (List.mem_reverse.mp inner)

theorem takeSign_of_not_mem {text : Text} (absent : '-' ∉ text) : (takeSign text).1 = false := by
  unfold takeSign
  split
  · exact absurd List.mem_cons_self absent
  · rfl
  · rfl

theorem toInteger_nonneg {text : Text} {value : Int} (absent : '-' ∉ text)
    (read : toInteger text = .ok value) : 0 ≤ value := by
  have unsigned := takeSign_of_not_mem fun member => absent (@mem_of_mem_trimmed isNumberBlank _ _ member)
  unfold toInteger at read
  dsimp only at read
  split at read
  · cases read
  · split at read
    · cases read
    · split at read
      · cases read
      · split at read
        · rw [unsigned] at read
          rw [← Except.ok.inj read]
          exact Int.natCast_nonneg _
        · cases read

/-- A text that begins with something else than a sign or a digit is no number. -/
theorem toInteger_of_head {c : Char} {rest : Text} (letter : isNumberBlank c = false)
    (other : isDecimal c = false ∧ c ≠ '_' ∧ c ≠ '-' ∧ c ≠ '+') :
    ∃ fault, toInteger (c :: rest) = .error fault := by
  rcases other with ⟨figure, low, minus, plus⟩
  obtain ⟨inner, trimmed⟩ : ∃ inner,
      (((c :: rest).dropWhile isNumberBlank).reverse.dropWhile isNumberBlank).reverse = c :: inner := by
    rw [List.dropWhile_cons, letter, if_neg Bool.false_ne_true, List.reverse_cons, List.dropWhile_append]
    split
    · rw [List.dropWhile_cons, letter]
      exact ⟨[], rfl⟩
    · rw [List.reverse_append]
      exact ⟨_, rfl⟩
  have unsigned : takeSign (c :: inner) = (false, c :: inner) := by
    unfold takeSign
    split
    · rename_i shape
      exact absurd (List.cons.inj shape).1 minus
    · rename_i shape
      exact absurd (List.cons.inj shape).1 plus
    · rfl
  have run : ((c :: inner).takeWhile fun d => isDecimal d || d == '_') = [] := by
    rw [List.takeWhile_cons, figure, Bool.false_or, if_neg (by simpa using low)]
  refine ⟨.malformed (c :: rest), ?_⟩
  unfold toInteger
  simp only [trimmed, unsigned, run]
  rfl

end Text
end Daybook
