import Daybook.Currency.Basic
import Daybook.Proofs.Text.Words
import Daybook.Proofs.Unicode.Classes
import Daybook.Proofs.Unicode.UpperCase

namespace Daybook

/-!
# Symbols and codes

A designator is a symbol or the upper case of a code.  The upper case of a code
need not be a code: some letters become a letter with a combining mark.  It never is
a symbol, though, so that the two kinds stay apart, and it holds no character that
could end the word or the line it is written in.
-/

open Unicode

theorem isWord_of_isSymbolChar {c : Char} (symbol : isSymbolChar c = true) : isWord c = false := by
  simp only [isSymbolChar, Bool.and_eq_true, Bool.not_eq_true'] at symbol
  exact symbol.1.1.1.1

theorem isBlank_of_isSymbolChar {c : Char} (symbol : isSymbolChar c = true) : isBlank c = false := by
  simp only [isSymbolChar, Bool.and_eq_true, Bool.not_eq_true'] at symbol
  exact symbol.1.1.1.2

theorem ne_mark_of_isSymbolChar {c : Char} (symbol : isSymbolChar c = true) : c ≠ ';' ∧ c ≠ '-' := by
  simp only [isSymbolChar, Bool.and_eq_true, bne_iff_ne] at symbol
  exact ⟨symbol.1.2, symbol.2⟩

theorem not_isSymbolChar_of_isWord {c : Char} (word : isWord c = true) : isSymbolChar c = false := by
  rw [isSymbolChar, word]
  rfl

def IsLetters (text : Text) : Prop := text ≠ [] ∧ ∀ c ∈ text, isCodeLetter c = true

/-- In a text without blanks no line feed has to be looked past. -/
theorem endsLoosely_of_solid {recognises : Text → Bool} {text : Text} (solid : Text.IsSolid text) :
    Text.endsLoosely recognises text = recognises text := by
  unfold Text.endsLoosely
  split
  · rename_i rest shape
    have member : '\n' ∈ text := List.mem_reverse.mp (shape ▸ List.mem_cons_self)
    exact absurd (solid '\n' member) (by decide)
  · rw [Bool.or_false]

theorem isSymbol_iff {text : Text} (solid : Text.IsSolid text) :
    isSymbol text = true ↔ ∃ c, text = [c] ∧ isSymbolChar c = true := by
  rw [isSymbol, endsLoosely_of_solid solid]
  constructor
  · intro symbol
    split at symbol
    · rename_i c
      exact ⟨c, rfl, symbol⟩
    · cases symbol
  · rintro ⟨c, rfl, symbol⟩
    exact symbol

theorem isCode_iff {text : Text} (solid : Text.IsSolid text) : isCode text = true ↔ IsLetters text := by
  rw [isCode, endsLoosely_of_solid solid]
  simp [IsLetters]

theorem IsLetters.isSolid {text : Text} (letters : IsLetters text) : Text.IsSolid text :=
  fun c member => isBlank_of_isCodeLetter (letters.2 c member)

theorem IsLetters.isCode {text : Text} (letters : IsLetters text) : isCode text = true :=
  (isCode_iff letters.isSolid).mpr letters

theorem isSolid_symbol {c : Char} (symbol : isSymbolChar c = true) : Text.IsSolid [c] := by
  intro d member
  rw [List.mem_singleton.mp member]
  exact isBlank_of_isSymbolChar symbol

theorem isSymbol_of_char {c : Char} (symbol : isSymbolChar c = true) : isSymbol [c] = true :=
  (isSymbol_iff (isSolid_symbol symbol)).mpr ⟨c, rfl, symbol⟩

/-- A symbol is no code. -/
theorem not_isCode_of_symbol {c : Char} (symbol : isSymbolChar c = true) : isCode [c] = false := by
  by_contra code
  rw [Bool.not_eq_false, isCode_iff (isSolid_symbol symbol)] at code
  have word := isWord_of_isCodeLetter (code.2 c List.mem_cons_self)
  rw [isWord_of_isSymbolChar symbol] at word
  cases word

theorem exists_letter_of_isCode {text : Text} (code : isCode text = true) :
    ∃ c rest, text = c :: rest ∧ isCodeLetter c = true := by
  have first {letters : Text} (each : (!letters.isEmpty && letters.all isCodeLetter) = true) :
      ∃ c rest, letters = c :: rest ∧ isCodeLetter c = true := by
    cases letters with
    | nil => cases each
    | cons c rest => exact ⟨c, rest, rfl, (by simpa using each : _ ∧ _).1⟩
  rcases (Bool.or_eq_true _ _).mp code with whole | before
  · exact first whole
  · split at before
    · rename_i front shape
      rcases first before with ⟨c, rest, same, letter⟩
      have whole : text = front.reverse ++ ['\n'] := by
        rw [← List.reverse_cons, ← shape, List.reverse_reverse]
      exact ⟨c, rest ++ ['\n'], by rw [whole, same]; rfl, letter⟩
    · cases before

/-- No text goes on with a symbol and with a code. -/
theorem not_code_prefix {c : Char} {code text : Text} (symbol : isSymbolChar c = true)
    (is_code : isCode code = true) (begins : [c] <+: text) : ¬ code <+: text := by
  rintro ⟨more, rfl⟩
  rcases exists_letter_of_isCode is_code with ⟨d, rest, rfl, letter⟩
  obtain rfl := (List.cons_prefix_cons.mp begins).1
  have word := isWord_of_isCodeLetter letter
  rw [isWord_of_isSymbolChar symbol] at word
  cases word

/-! ## The upper case of a code -/

theorem upper_ne_nil {text : Text} (filled : text ≠ []) : upper text ≠ [] := by
  cases text with
  | nil => exact absurd rfl filled
  | cons c rest =>
      rw [upper, List.flatMap_cons]
      intro empty
      exact upperChar_ne_nil c (List.append_eq_nil_iff.mp empty).1

/-- Whether a text is the upper case of a code. -/
def IsUpperCode (text : Text) : Prop := ∃ letters, IsLetters letters ∧ text = upper letters

namespace IsUpperCode

variable {text : Text}

theorem ofLetters {letters : Text} (each : IsLetters letters) : IsUpperCode (upper letters) :=
  ⟨letters, each, rfl⟩

theorem upper_eq (code : IsUpperCode text) : upper text = text := by
  rcases code with ⟨letters, -, rfl⟩
  exact upper_fixed letters

theorem plain (code : IsUpperCode text) :
    ∀ c ∈ text, isBlank c = false ∧ isDecimal c = false ∧ c ≠ ';' := by
  rcases code with ⟨letters, each, rfl⟩
  intro c member
  rcases List.mem_flatMap.mp member with ⟨letter, among, inside⟩
  exact upperChar_plain (each.2 letter among) inside

theorem isSolid (code : IsUpperCode text) : Text.IsSolid text := fun c member => (code.plain c member).1

theorem ne_nil (code : IsUpperCode text) : text ≠ [] := by
  rcases code with ⟨letters, ⟨filled, -⟩, rfl⟩
  exact upper_ne_nil filled

/-- The upper case of a code is no symbol. -/
theorem not_isSymbol (code : IsUpperCode text) : Daybook.isSymbol text = false := by
  by_contra symbol
  rw [Bool.not_eq_false, isSymbol_iff code.isSolid] at symbol
  rcases code with ⟨letters, each, rfl⟩
  rcases symbol with ⟨d, shape, symbol⟩
  rcases each with ⟨filled, each⟩
  cases letters with
  | nil => exact filled rfl
  | cons c rest =>
      rw [upper, List.flatMap_cons] at shape
      have single : upperChar c = [d] := by
        cases image : upperChar c with
        | nil => exact absurd image (upperChar_ne_nil c)
        | cons e more =>
            rw [image, List.cons_append] at shape
            rcases List.cons.inj shape with ⟨rfl, none_left⟩
            rw [(List.append_eq_nil_iff.mp none_left).1]
      have word := isWord_of_upperChar (each c List.mem_cons_self) single
      rw [isWord_of_isSymbolChar symbol] at word
      cases word

end IsUpperCode

/-! ## Designators -/

/-- The form under which a designator is kept is kept. -/
theorem normalDesignator_normal (token : Text) :
    normalDesignator (normalDesignator token) = normalDesignator token := by
  by_cases code : isCode token = true
  · have shape : normalDesignator token = upper token := if_pos code
    rw [shape, normalDesignator, upper_fixed, ite_self]
  · have shape : normalDesignator token = token := if_neg code
    rw [shape, shape]

theorem normalDesignator_ne_nil {token : Text} (known : isSymbol token = true ∨ isCode token = true) :
    normalDesignator token ≠ [] := by
  have filled : token ≠ [] := by
    rintro rfl
    rcases known with symbol | code
    · cases symbol
    · cases code
  rw [normalDesignator]
  split
  · exact upper_ne_nil filled
  · exact filled

/-- Whether a text is a symbol or the upper case of a code. -/
def IsDesignator (designator : Text) : Prop :=
  (∃ c, designator = [c] ∧ isSymbolChar c = true) ∨ IsUpperCode designator

namespace IsDesignator

variable {designator : Text}

theorem isSolid (known : IsDesignator designator) : Text.IsSolid designator := by
  rcases known with ⟨c, rfl, symbol⟩ | code
  · exact isSolid_symbol symbol
  · exact code.isSolid

theorem ne_nil (known : IsDesignator designator) : designator ≠ [] := by
  rcases known with ⟨c, rfl, -⟩ | code
  · exact List.cons_ne_nil _ _
  · exact code.ne_nil

theorem not_mem_commentMark (known : IsDesignator designator) : ';' ∉ designator := by
  rcases known with ⟨c, rfl, symbol⟩ | code
  · intro member
    exact (ne_mark_of_isSymbolChar symbol).1 (List.mem_singleton.mp member).symm
  · exact fun member => (code.plain ';' member).2.2 rfl

theorem normalDesignator_eq (known : IsDesignator designator) :
    normalDesignator designator = designator := by
  rw [normalDesignator]
  rcases known with ⟨c, rfl, symbol⟩ | code
  · rw [not_isCode_of_symbol symbol, if_neg Bool.false_ne_true]
  · rw [code.upper_eq, ite_self]

end IsDesignator

/-- A symbol is kept as it is. -/
theorem normalDesignator_of_isSymbol {token : Text} (solid : Text.IsSolid token)
    (symbol : isSymbol token = true) :
    ∃ c, normalDesignator token = [c] ∧ isSymbolChar c = true := by
  rcases (isSymbol_iff solid).mp symbol with ⟨c, rfl, char⟩
  rw [normalDesignator, not_isCode_of_symbol char, if_neg Bool.false_ne_true]
  exact ⟨c, rfl, char⟩

/-- A symbol or a code is kept as a designator. -/
theorem isDesignator_normal {token : Text} (solid : Text.IsSolid token)
    (known : isSymbol token = true ∨ isCode token = true) : IsDesignator (normalDesignator token) := by
  rcases known with symbol | code
  · exact Or.inl (normalDesignator_of_isSymbol solid symbol)
  · rw [normalDesignator, if_pos code]
    exact Or.inr (IsUpperCode.ofLetters ((isCode_iff solid).mp code))

end Daybook
