import Daybook.Money.Literal
import Daybook.Proofs.Currency.Registry
import Daybook.Proofs.Text.Squeezed

namespace Daybook

/-!
# The forms of written amounts

A text is read as an amount by trying three recognisers in turn.  Here the forms are said on
their own, as what is written around a number, and a text is read as a literal exactly if it has
one of them around what begins like a number.  So the order of trying does not matter: since a
number begins with a digit, which is no symbol, no text has two forms.

The recognisers look no further into a number than that it is made of digits and points.  A
numeral is a number in full: digits, or digits on both sides of one point.  What is no numeral is
refused when its value is asked for.
-/

open Unicode

namespace Literal

theorem takeMinus_of_ne {c : Char} (other : c ≠ '-') (rest : Text) :
    takeMinus (c :: rest) = (false, c :: rest) := by
  unfold takeMinus
  split
  · rename_i shape
    exact absurd (List.cons.inj shape).1 other
  · rfl

/-- A number begins with a digit, which is neither a minus nor a symbol. -/
theorem exists_head_of_isNumeric {number : Text} (numeric : isNumeric number = true) :
    ∃ c rest, number = c :: rest ∧ c ≠ '-' ∧ isSymbolChar c = false := by
  cases number with
  | nil => cases numeric
  | cons c rest =>
      rw [isNumeric, Bool.and_eq_true] at numeric
      refine ⟨c, rest, rfl, ?_, not_isSymbolChar_of_isWord (isWord_of_isDecimal numeric.1)⟩
      rintro rfl
      have decimal := numeric.1
      revert decimal
      decide

theorem takeMinus_number {number : Text} (numeric : isNumeric number = true) (behind : Text) :
    takeMinus (number ++ behind) = (false, number ++ behind) := by
  rcases exists_head_of_isNumeric numeric with ⟨c, rest, rfl, other, -⟩
  exact takeMinus_of_ne other _

/-- A number is made of digits and points. -/
theorem mem_of_isNumeric {number : Text} (numeric : isNumeric number = true) {c : Char} (member : c ∈ number) :
    isDecimal c = true ∨ c = '.' := by
  cases number with
  | nil => cases numeric
  | cons first rest =>
      rw [isNumeric, Bool.and_eq_true, List.all_eq_true] at numeric
      rcases List.mem_cons.mp member with rfl | inside
      · exact Or.inl numeric.1
      · simpa using numeric.2 c inside

theorem ne_nil_of_isNumeric {number : Text} (numeric : isNumeric number = true) : number ≠ [] := by
  rintro rfl
  cases numeric

theorem isSolid_of_isNumeric {number : Text} (numeric : isNumeric number = true) : Text.IsSolid number := by
  intro c member
  rcases mem_of_isNumeric numeric member with digit | rfl
  · exact isBlank_of_isDecimal digit
  · decide

def signText (negative : Bool) : Text := if negative then ['-'] else []

theorem takeMinus_signed {text : Text} (unsigned : takeMinus text = (false, text)) (negative : Bool) :
    takeMinus (signText negative ++ text) = (negative, text) := by
  cases negative
  · exact unsigned
  · rfl

theorem eq_of_takeMinus {text rest : Text} {negative : Bool} (taken : takeMinus text = (negative, rest)) :
    text = signText negative ++ rest := by
  unfold takeMinus at taken
  split at taken
  · rcases Prod.mk.inj taken with ⟨rfl, rfl⟩
    rfl
  · rcases Prod.mk.inj taken with ⟨rfl, rfl⟩
    rfl

/-! ## The forms -/

/-- What is written of an amount around its number: the symbol is first, with a minus before or
after it, or it is last, or a code is last after some blanks. -/
inductive Form : Text → Literal → Prop
  | before {symbol : Char} (is_symbol : isSymbolChar symbol = true) (outer inner : Bool)
      (once : (outer && inner) = false) (number : Text) :
      Form (signText outer ++ symbol :: (signText inner ++ number)) ⟨outer || inner, number, [symbol], .before⟩
  | after {symbol : Char} (is_symbol : isSymbolChar symbol = true) (negative : Bool) (number : Text) :
      Form (signText negative ++ (number ++ [symbol])) ⟨negative, number, [symbol], .after⟩
  | code {letters gap : Text} (each : IsLetters letters) (some_gap : gap ≠ []) (blank : Text.IsEmptySpace gap)
      (negative : Bool) (number : Text) :
      Form (signText negative ++ (number ++ (gap ++ letters))) ⟨negative, number, letters, .code⟩

/-- The designator that is meant by the symbol or code of an amount. -/
def designator (literal : Literal) : Text :=
  match literal.style with
  | .code => upper literal.token
  | _ => literal.token

namespace Form

variable {text : Text} {literal : Literal}

theorem designator_eq (form : Form text literal) : normalDesignator literal.token = literal.designator := by
  cases form with
  | before is_symbol => rw [normalDesignator, not_isCode_of_symbol is_symbol, if_neg Bool.false_ne_true]; rfl
  | after is_symbol => rw [normalDesignator, not_isCode_of_symbol is_symbol, if_neg Bool.false_ne_true]; rfl
  | code each => rw [normalDesignator, if_pos each.isCode]; rfl

/-- The designator suits the style that the amount is written in. -/
theorem suits (form : Form text literal) : literal.style.Suits (normalDesignator literal.token) := by
  rw [form.designator_eq]
  cases form with
  | before is_symbol => exact ⟨_, rfl, is_symbol⟩
  | after is_symbol => exact ⟨_, rfl, is_symbol⟩
  | code each => exact IsUpperCode.ofLetters each

/-! ## What is read has its form -/

theorem of_symbolFirst? (found : symbolFirst? text = some (.ok literal)) :
    Form text literal ∧ isNumeric literal.number = true := by
  unfold symbolFirst? at found
  cases taken : takeMinus text with
  | mk outer unsigned =>
      rcases eq_of_takeMinus taken with rfl
      rw [taken] at found
      dsimp only at found
      split at found
      · cases found
      · rename_i symbol rest
        cases taken_inside : takeMinus rest with
        | mk inner number =>
            rcases eq_of_takeMinus taken_inside with rfl
            rw [taken_inside] at found
            dsimp only at found
            split at found
            · rename_i shape
              rw [Bool.and_eq_true] at shape
              split at found
              · cases found
              · rename_i once
                rcases Except.ok.inj (Option.some.inj found) with rfl
                exact ⟨.before shape.1 outer inner (by simpa using once) number, shape.2⟩
            · cases found

theorem of_symbolLast? (found : symbolLast? text = some literal) :
    Form text literal ∧ isNumeric literal.number = true := by
  unfold symbolLast? at found
  cases taken : takeMinus text with
  | mk negative unsigned =>
      rcases eq_of_takeMinus taken with rfl
      rw [taken] at found
      dsimp only at found
      split at found
      · cases found
      · rename_i symbol last
        split at found
        · rename_i shape
          rw [Bool.and_eq_true] at shape
          rcases Option.some.inj found with rfl
          have parts : unsigned.dropLast ++ [symbol] = unsigned := List.dropLast_append_getLast? symbol last
          have form := Form.after shape.1 negative unsigned.dropLast
          rw [parts] at form
          exact ⟨form, shape.2⟩
        · cases found

theorem of_codeLast? (found : codeLast? text = some literal) :
    Form text literal ∧ isNumeric literal.number = true := by
  unfold codeLast? at found
  cases taken : takeMinus text with
  | mk negative unsigned =>
      rcases eq_of_takeMinus taken with rfl
      rw [taken] at found
      dsimp only at found
      split at found
      · rename_i shape
        simp only [Bool.and_eq_true, Bool.not_eq_true', List.isEmpty_eq_false_iff] at shape
        rcases shape with ⟨⟨⟨numeric, some_tail⟩, some_code⟩, letters⟩
        rcases Option.some.inj found with rfl
        have parts : unsigned.takeWhile (!isBlank ·) ++ unsigned.dropWhile (!isBlank ·) = unsigned :=
          List.takeWhile_append_dropWhile
        rcases Text.exists_stripStart (unsigned.dropWhile (!isBlank ·)) with ⟨gap, blank, tail⟩
        have some_gap : gap ≠ [] := by
          rintro rfl
          rcases List.exists_cons_of_ne_nil some_tail with ⟨c, rest, head⟩
          have is_blank := Text.not_of_dropWhile head
          rw [head, List.nil_append] at tail
          have letter := Text.stripStart_head tail.symm
          rw [letter] at is_blank
          cases is_blank
        have form := Form.code ⟨some_code, List.all_eq_true.mp letters⟩ some_gap blank negative
          (unsigned.takeWhile (!isBlank ·))
        rw [← tail, parts] at form
        exact ⟨form, numeric⟩
      · cases found

end Form

/-! ## What has a form is read -/

section Reading

variable {number : Text} (numeric : isNumeric number = true)
include numeric

theorem symbolFirst?_number (negative : Bool) (behind : Text) :
    symbolFirst? (signText negative ++ (number ++ behind)) = none := by
  rw [symbolFirst?, takeMinus_signed (takeMinus_number numeric behind)]
  rcases exists_head_of_isNumeric numeric with ⟨c, rest, rfl, -, letter⟩
  simp [letter]

theorem ofText_before {symbol : Char} (is_symbol : isSymbolChar symbol = true) {outer inner : Bool}
    (once : (outer && inner) = false) :
    ofText (signText outer ++ symbol :: (signText inner ++ number)) =
      .ok ⟨outer || inner, number, [symbol], .before⟩ := by
  have unsigned := takeMinus_number numeric []
  rw [List.append_nil] at unsigned
  have first : symbolFirst? (signText outer ++ symbol :: (signText inner ++ number)) =
      some (.ok ⟨outer || inner, number, [symbol], .before⟩) := by
    rw [symbolFirst?, takeMinus_signed (takeMinus_of_ne (ne_mark_of_isSymbolChar is_symbol).2 _)]
    dsimp only
    rw [takeMinus_signed unsigned]
    simp [is_symbol, numeric, once]
  rw [ofText, first]

theorem ofText_after {symbol : Char} (is_symbol : isSymbolChar symbol = true) (negative : Bool) :
    ofText (signText negative ++ (number ++ [symbol])) = .ok ⟨negative, number, [symbol], .after⟩ := by
  have last : symbolLast? (signText negative ++ (number ++ [symbol])) =
      some ⟨negative, number, [symbol], .after⟩ := by
    rw [symbolLast?, takeMinus_signed (takeMinus_number numeric [symbol])]
    simp [is_symbol, numeric]
  rw [ofText, symbolFirst?_number numeric, last]

/-- A text that ends in a letter has no symbol last. -/
theorem symbolLast?_letters {letters : Text} (each : IsLetters letters) (negative : Bool) (gap : Text) :
    symbolLast? (signText negative ++ (number ++ (gap ++ letters))) = none := by
  rw [symbolLast?, takeMinus_signed (takeMinus_number numeric (gap ++ letters))]
  rcases (List.eq_nil_or_concat letters).resolve_left each.1 with ⟨front, c, rfl⟩
  have letter := not_isSymbolChar_of_isWord (isWord_of_isCodeLetter (each.2 c (by simp)))
  have last : number ++ (gap ++ front.concat c) = (number ++ gap ++ front) ++ [c] := by simp
  rw [last]
  dsimp only
  rw [List.getLast?_append, List.getLast?_singleton, Option.some_or]
  dsimp only
  rw [letter, Bool.false_and, if_neg Bool.false_ne_true]

theorem ofText_code {letters gap : Text} (each : IsLetters letters) (some_gap : gap ≠ [])
    (blank : Text.IsEmptySpace gap) (negative : Bool) :
    ofText (signText negative ++ (number ++ (gap ++ letters))) = .ok ⟨negative, number, letters, .code⟩ := by
  have front : ∀ c ∈ number, (!isBlank c) = true := fun c member => by
    rw [isSolid_of_isNumeric numeric c member]
    rfl
  rcases List.exists_cons_of_ne_nil some_gap with ⟨space, more, shape⟩
  have is_blank : isBlank space = true := blank space (shape ▸ List.mem_cons_self)
  have take : (number ++ (gap ++ letters)).takeWhile (!isBlank ·) = number := by
    rw [List.takeWhile_append_of_pos front, shape, List.cons_append, List.takeWhile_cons, is_blank]
    simp
  have drop : (number ++ (gap ++ letters)).dropWhile (!isBlank ·) = gap ++ letters := by
    rw [List.dropWhile_append_of_pos front, shape, List.cons_append, List.dropWhile_cons, is_blank]
    simp
  have strip : Text.stripStart (gap ++ letters) = letters := by
    rw [Text.stripStart_space blank]
    exact each.isSolid.isTrim.stripStart_eq
  have last : codeLast? (signText negative ++ (number ++ (gap ++ letters))) =
      some ⟨negative, number, letters, .code⟩ := by
    rw [codeLast?, takeMinus_signed (takeMinus_number numeric (gap ++ letters))]
    dsimp only
    rw [take, drop, strip, numeric]
    simp [some_gap, each.1, List.all_eq_true.mpr each.2]
  rw [ofText, symbolFirst?_number numeric, symbolLast?_letters numeric each, last]

end Reading

/-- A text is read as a literal exactly if it has its form around what begins like a number. -/
theorem ofText_eq_ok_iff {text : Text} {literal : Literal} :
    ofText text = .ok literal ↔ Form text literal ∧ isNumeric literal.number = true := by
  constructor
  · intro ok
    unfold ofText at ok
    split at ok
    · rename_i result first
      rw [ok] at first
      exact Form.of_symbolFirst? first
    · split at ok
      · rename_i known last
        rcases Except.ok.inj ok with rfl
        exact Form.of_symbolLast? last
      · split at ok
        · rename_i known last
          rcases Except.ok.inj ok with rfl
          exact Form.of_codeLast? last
        · cases ok
  · rintro ⟨form, numeric⟩
    cases form with
    | before is_symbol outer inner once number => exact ofText_before numeric is_symbol once
    | after is_symbol negative number => exact ofText_after numeric is_symbol negative
    | code each some_gap blank negative number => exact ofText_code numeric each some_gap blank negative

/-! ## Numerals -/

/-- Whether a text is one or more decimal digits, of any script. -/
def IsDigits (text : Text) : Prop := text ≠ [] ∧ ∀ c ∈ text, isDecimal c = true

/-- Whether a text is digits, or digits on both sides of one point. -/
inductive IsNumeral : Text → Prop
  | whole {digits : Text} (run : IsDigits digits) : IsNumeral digits
  | fraction {whole fraction : Text} (run : IsDigits whole) (more : IsDigits fraction) :
      IsNumeral (whole ++ '.' :: fraction)

/-- What a numeral says: its digits as one whole number, with an exponent for those behind the
point. -/
inductive Numeral : Text → Decimal → Prop
  | whole {digits : Text} {coefficient : Nat} (spelled : Text.digits? digits = some coefficient) :
      Numeral digits ⟨false, coefficient, 0⟩
  | fraction {whole fraction : Text} {coefficient : Nat}
      (spelled : Text.digits? (whole ++ fraction) = some coefficient) :
      Numeral (whole ++ '.' :: fraction) ⟨false, coefficient, -fraction.length⟩

theorem IsDigits.append {text more : Text} (first : IsDigits text) (second : IsDigits more) :
    IsDigits (text ++ more) := by
  refine ⟨fun empty => first.1 (List.append_eq_nil_iff.mp empty).1, fun c member => ?_⟩
  rcases List.mem_append.mp member with inside | inside
  · exact first.2 c inside
  · exact second.2 c inside

theorem IsDigits.not_mem {text : Text} (run : IsDigits text) : '.' ∉ text := by
  intro member
  have digit := run.2 '.' member
  revert digit
  decide

theorem IsDigits.exists_spelled {text : Text} (run : IsDigits text) :
    ∃ coefficient, Text.digits? text = some coefficient := by
  have filled : text.isEmpty = false := by simpa using run.1
  rw [Text.digits?, filled, if_neg Bool.false_ne_true]
  exact Option.isSome_iff_exists.mp (Text.isSome_digitsFrom? run.2 0)

namespace IsNumeral

variable {number : Text}

theorem isNumeric (numeral : IsNumeral number) : Literal.isNumeric number = true := by
  have begins : ∀ {digits : Text}, IsDigits digits → ∀ behind : Text,
      (∀ c ∈ behind, isDecimal c = true ∨ c = '.') → Literal.isNumeric (digits ++ behind) = true := by
    rintro digits ⟨filled, each⟩ behind others
    rcases List.exists_cons_of_ne_nil filled with ⟨c, rest, rfl⟩
    rw [List.cons_append, Literal.isNumeric, each c List.mem_cons_self, Bool.true_and, List.all_eq_true]
    intro d member
    rw [Bool.or_eq_true, beq_iff_eq]
    rcases List.mem_append.mp member with inside | inside
    · exact Or.inl (each d (List.mem_cons_of_mem _ inside))
    · exact others d inside
  cases numeral with
  | whole run =>
      have numeric := begins run [] fun c member => (by cases member)
      rwa [List.append_nil] at numeric
  | fraction run more =>
      refine begins run _ fun c member => ?_
      rcases List.mem_cons.mp member with rfl | inside
      · exact Or.inr rfl
      · exact Or.inl (more.2 c inside)

/-- The value of a numeral is what it says. -/
theorem exists_value (numeral : IsNumeral number) {literal : Literal} (written : literal.number = number)
    (text : Text) : ∃ value, Numeral number value ∧ literal.value text = .ok value := by
  unfold Literal.value
  rw [written]
  cases numeral with
  | whole run =>
      rcases run.exists_spelled with ⟨coefficient, spelled⟩
      refine ⟨⟨false, coefficient, 0⟩, .whole spelled, ?_⟩
      rw [List.count_eq_zero.mpr run.not_mem, if_neg (by decide),
        if_neg fun last => run.not_mem (List.mem_of_getLast? last),
        Decimal.ofDigits?, Text.cutAt_of_not_mem run.not_mem]
      dsimp only [Option.getD_none]
      rw [List.append_nil, spelled]
      rfl
  | @fraction whole fraction run more =>
      rcases (run.append more).exists_spelled with ⟨coefficient, spelled⟩
      refine ⟨⟨false, coefficient, -fraction.length⟩, .fraction spelled, ?_⟩
      have once : (whole ++ '.' :: fraction).count '.' = 1 := by
        rw [List.count_append, List.count_cons_self, List.count_eq_zero.mpr run.not_mem,
          List.count_eq_zero.mpr more.not_mem]
      have last : (whole ++ '.' :: fraction).getLast? ≠ some '.' := by
        intro found
        rcases List.exists_cons_of_ne_nil more.1 with ⟨c, rest, rfl⟩
        rw [List.getLast?_append_of_ne_nil _ (List.cons_ne_nil _ _), List.getLast?_cons_cons] at found
        exact more.not_mem (List.mem_of_getLast? found)
      rw [once, if_neg (by decide), if_neg last, Decimal.ofDigits?, Text.cutAt_append run.not_mem]
      dsimp only [Option.getD_some]
      rw [spelled]
      simp

end IsNumeral

/-- What begins like a number and has a value is a numeral. -/
theorem isNumeral_of_value {literal : Literal} (numeric : isNumeric literal.number = true) {text : Text}
    {value : Decimal} (ok : literal.value text = .ok value) : IsNumeral literal.number := by
  unfold Literal.value at ok
  split at ok
  · cases ok
  · rename_i once
    split at ok
    · cases ok
    · rename_i last
      have digits_of : ∀ {part : Text}, part ≠ [] → part ⊆ literal.number → '.' ∉ part → IsDigits part := by
        intro part filled inside no_point
        refine ⟨filled, fun c member => (mem_of_isNumeric numeric (inside member)).resolve_right ?_⟩
        rintro rfl
        exact no_point member
      by_cases point : '.' ∈ literal.number
      · rcases List.eq_append_cons_of_mem point with ⟨whole, fraction, shape, no_point⟩
        rw [shape] at numeric once last digits_of ⊢
        have no_more : '.' ∉ fraction := by
          intro member
          have one := List.count_pos_iff.mpr member
          rw [List.count_append, List.count_cons_self] at once
          omega
        refine .fraction (digits_of ?_ (List.subset_append_left _ _) no_point) (digits_of ?_ ?_ no_more)
        · rintro rfl
          have digit : isDecimal '.' = true := by
            rw [List.nil_append, isNumeric, Bool.and_eq_true] at numeric
            exact numeric.1
          revert digit
          decide
        · rintro rfl
          exact last (by simp)
        · exact fun c member => List.mem_append_right _ (List.mem_cons_of_mem _ member)
      · refine .whole (digits_of ?_ (List.Subset.refl _) point)
        intro empty
        rw [empty] at numeric
        cases numeric

/-- A text is an amount if it has a form around a numeral. -/
structure Writes (text : Text) (literal : Literal) : Prop where
  form : Form text literal
  numeral : IsNumeral literal.number

theorem Writes.ofText {text : Text} {literal : Literal} (writes : Writes text literal) :
    Literal.ofText text = .ok literal :=
  ofText_eq_ok_iff.mpr ⟨writes.form, writes.numeral.isNumeric⟩

end Literal
end Daybook
