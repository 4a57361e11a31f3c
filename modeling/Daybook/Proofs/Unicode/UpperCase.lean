import Daybook.Proofs.Unicode.Classes
import Daybook.Unicode.Case

namespace Daybook
namespace Unicode

/-!
# Upper case of codes

Codes are kept in upper case, and a code that is read back is put into upper case
again.  Upper case is its own upper case: no image of a segment and no letter of an
expansion is mapped any further.  The images of the letters of a code are not
blank, no digits, and, where one letter gives one character, word characters; an
expansion may bring in a combining mark, which is none.  These are facts about the
tables, found segment by segment.
-/

namespace CaseSegment

/-- The first image of a segment. -/
def low (segment : CaseSegment) : Nat := (segment.first + segment.shift).toNat

/-- The last image of a segment. -/
def high (segment : CaseSegment) : Nat := (segment.last + segment.shift).toNat

def hits (segment : CaseSegment) (code : Nat) : Bool :=
  Nat.ble segment.first code && Nat.ble code segment.last &&
    Nat.beq ((code - segment.first) % segment.stride) 0

/-- Whether neighbouring images of a segment differ by an even number. -/
def isEven (segment : CaseSegment) : Bool :=
  Nat.beq segment.stride 2 || Nat.beq segment.first segment.last

/-- Whether a segment has no image at a code point, as its bounds and its stride
show. -/
def avoids (segment : CaseSegment) (code : Nat) : Bool :=
  Nat.blt segment.high code || Nat.blt code segment.low ||
    (segment.isEven && Nat.beq ((segment.low + code) % 2) 1)

/-- Whether no image of a segment takes part in another one, as their bounds and
their strides show. -/
def misses (source target : CaseSegment) : Bool :=
  Nat.blt source.high target.first || Nat.blt target.last source.low ||
    (source.isEven && Nat.beq target.stride 2 && Nat.beq ((source.low + target.first) % 2) 1)

/-- Whether all images of a segment are code points of characters. -/
def isValid (segment : CaseSegment) : Bool :=
  decide (0 ≤ segment.first + segment.shift) &&
    (Nat.blt segment.high 0xd800 || (Nat.blt 0xdfff segment.low && Nat.blt segment.high 0x110000))

variable {segment : CaseSegment} {code : Nat}

theorem hits_iff : segment.hits code = true ↔
    segment.first ≤ code ∧ code ≤ segment.last ∧ (code - segment.first) % segment.stride = 0 := by
  simp [hits, and_assoc]

/-- What the image of a code point of a segment is known to be. -/
theorem image_bounds (hit : segment.hits code = true) (valid : segment.isValid = true) :
    segment.low ≤ (code + segment.shift).toNat ∧ (code + segment.shift).toNat ≤ segment.high ∧
      (segment.isEven = true → (code + segment.shift).toNat % 2 = segment.low % 2) := by
  rcases hits_iff.mp hit with ⟨least, most, stride⟩
  simp only [isValid, Bool.and_eq_true, decide_eq_true_eq] at valid
  unfold low high
  refine ⟨by omega, by omega, ?_⟩
  intro even
  rw [isEven, Bool.or_eq_true, Nat.beq_eq, Nat.beq_eq] at even
  rcases even with two | same
  · rw [two] at stride
    omega
  · omega

theorem ne_image_of_avoids (avoided : segment.avoids code = true) {other : Nat}
    (hit : segment.hits other = true) (valid : segment.isValid = true) :
    code ≠ (other + segment.shift).toNat := by
  rcases image_bounds hit valid with ⟨least, most, even⟩
  simp only [avoids, Bool.or_eq_true, Bool.and_eq_true, Nat.blt_eq, Nat.beq_eq] at avoided
  rintro rfl
  rcases avoided with (above | below) | ⟨parity, odd⟩
  · omega
  · omega
  · have := even parity
    omega

theorem not_hits_image {target : CaseSegment} (missed : segment.misses target = true)
    (hit : segment.hits code = true) (valid : segment.isValid = true) :
    target.hits (code + segment.shift).toNat = false := by
  rcases image_bounds hit valid with ⟨least, most, even⟩
  simp only [misses, Bool.or_eq_true, Bool.and_eq_true, Nat.blt_eq, Nat.beq_eq] at missed
  by_contra both
  rw [Bool.not_eq_false, hits_iff] at both
  rcases both with ⟨least', most', stride⟩
  rcases missed with (above | below) | ⟨⟨parity, two⟩, odd⟩
  · omega
  · omega
  · have := even parity
    rw [two] at stride
    omega

/-- Whether the images of a segment are letters or numbers, unless none of its own
code points is. -/
def keepsLetters (segment : CaseSegment) : Bool :=
  (alphanumericRanges.any fun range => Nat.ble range.1 segment.low && Nat.ble segment.high range.2) ||
    ((List.range (segment.high + 1 - segment.low)).all fun distance =>
      (segment.isEven && Nat.beq (distance % 2) 1) ||
        alphanumericRanges.covers (segment.low + distance)) ||
    alphanumericRanges.all fun range =>
      Nat.blt range.2 segment.first || Nat.blt segment.last range.1

def avoidsDigits (segment : CaseSegment) : Bool :=
  decimalRanges.all fun range => Nat.blt segment.high range.1 || Nat.blt range.2 segment.low

theorem covers_image (keeps : segment.keepsLetters = true) (hit : segment.hits code = true)
    (valid : segment.isValid = true) (letter : alphanumericRanges.covers code = true) :
    alphanumericRanges.covers (code + segment.shift).toNat = true := by
  rcases image_bounds hit valid with ⟨least, most, even⟩
  rcases hits_iff.mp hit with ⟨first, last, -⟩
  rw [keepsLetters, Bool.or_eq_true, Bool.or_eq_true] at keeps
  rcases keeps with (inside | each) | none_of_them
  · rcases List.any_eq_true.mp inside with ⟨range, member, bounds⟩
    simp only [Bool.and_eq_true, Nat.ble_eq] at bounds
    exact Ranges.covers_of_mem alphanumericRanges_isAscending member (by omega) (by omega)
  · have found := List.all_eq_true.mp each ((code + segment.shift).toNat - segment.low)
      (List.mem_range.mpr (by omega))
    rw [Nat.add_sub_cancel' least, Bool.or_eq_true, Bool.and_eq_true, Nat.beq_eq] at found
    rcases found with ⟨parity, odd⟩ | covered
    · have := even parity
      omega
    · exact covered
  · rcases Ranges.exists_mem_of_covers letter with ⟨range, member, least', most'⟩
    have apart := List.all_eq_true.mp none_of_them range member
    simp only [Bool.or_eq_true, Nat.blt_eq] at apart
    omega

theorem not_decimal_image (avoided : segment.avoidsDigits = true) (hit : segment.hits code = true)
    (valid : segment.isValid = true) :
    decimalRanges.covers (code + segment.shift).toNat = false := by
  rcases image_bounds hit valid with ⟨least, most, -⟩
  by_contra decimal
  rw [Bool.not_eq_false] at decimal
  rcases Ranges.exists_mem_of_covers decimal with ⟨range, member, least', most'⟩
  have apart := List.all_eq_true.mp avoided range member
  simp only [Bool.or_eq_true, Nat.blt_eq] at apart
  omega

/-- A code point keeps its place or takes part in a segment. -/
theorem image_cases (segments : List CaseSegment) (code : Nat) :
    image segments code = code ∨
      ∃ segment ∈ segments, segment.hits code = true ∧
        image segments code = (code + segment.shift).toNat := by
  induction segments with
  | nil => exact Or.inl rfl
  | cons segment rest ih =>
      rw [image]
      split
      · exact Or.inl rfl
      · split
        · rename_i least inside
          refine Or.inr ⟨segment, List.mem_cons_self, hits_iff.mpr ⟨?_, inside⟩, rfl⟩
          omega
        · rcases ih with same | ⟨found, member, hit, equal⟩
          · exact Or.inl same
          · exact Or.inr ⟨found, List.mem_cons_of_mem _ member, hit, equal⟩

/-- A code point that takes part in no segment keeps its place. -/
theorem image_of_no_hit {segments : List CaseSegment}
    (missed : ∀ segment ∈ segments, segment.hits code = false) : image segments code = code := by
  rcases image_cases segments code with same | ⟨segment, member, hit, -⟩
  · exact same
  · rw [missed segment member] at hit
    cases hit

end CaseSegment

/-! ## The tables -/

def expansionLetters : List Nat := upperExpansions.flatMap (·.2)

/-- What is found by looking the tables through: what their segments are like, that
nothing that they give is mapped further, that expansions hold no blank, no digit and no
mark of a comment and are longer than one letter, and that among the first characters
the tables say what the simple mapping says. -/
structure TablesChecked : Prop where
  segments : (upperSegments.all fun segment =>
    segment.isValid && segment.keepsLetters && segment.avoidsDigits) = true
  misses : (upperSegments.all fun source => upperSegments.all fun target => source.misses target) = true
  avoids : (upperSegments.all fun segment =>
    upperExpansions.all fun entry => segment.avoids entry.1) = true
  fixed : (expansionLetters.all fun code =>
    Nat.blt code 0xd800 && (upperSegments.all fun segment => !segment.hits code) &&
      upperExpansions.all fun entry => !Nat.beq entry.1 code) = true
  plain : (expansionLetters.all fun code =>
    (blankRanges ++ decimalRanges ++ [(59, 59)]).all fun range =>
      Nat.blt code range.1 || Nat.blt range.2 code) = true
  several : (upperExpansions.all fun entry => Nat.blt 1 entry.2.length) = true
  first : ∀ code < 128, [(Char.ofNat code).toUpper] =
    caseImage upperExpansions upperSegments (Char.ofNat code)

theorem tablesChecked : TablesChecked where
  segments := by decide +kernel
  misses := by decide +kernel
  avoids := by decide +kernel
  fixed := by decide +kernel
  plain := by decide +kernel
  several := by decide +kernel
  first := by decide +kernel

theorem upperChar_eq_caseImage (c : Char) : upperChar c = caseImage upperExpansions upperSegments c := by
  unfold upperChar
  split
  · rename_i small
    have same := tablesChecked.first c.toNat small
    rwa [Char.ofNat_toNat] at same
  · rfl

/-! ## Letters and their images -/

theorem toNat_ofNat {code : Nat} (valid : code < 0xd800 ∨ 0xdfff < code ∧ code < 0x110000) :
    (Char.ofNat code).toNat = code := by
  rw [Char.ofNat, dif_pos valid]
  rfl

/-- What is known of a segment of the table. -/
theorem upperSegments_known {segment : CaseSegment} (member : segment ∈ upperSegments) :
    segment.isValid = true ∧ segment.keepsLetters = true ∧ segment.avoidsDigits = true := by
  have checked := List.all_eq_true.mp tablesChecked.segments segment member
  simp only [Bool.and_eq_true] at checked
  exact ⟨checked.1.1, checked.1.2, checked.2⟩

theorem toNat_image {segment : CaseSegment} (member : segment ∈ upperSegments) {code : Nat}
    (hit : segment.hits code = true) :
    (Char.ofNat (code + segment.shift).toNat).toNat = (code + segment.shift).toNat := by
  have valid := (upperSegments_known member).1
  rcases CaseSegment.image_bounds hit valid with ⟨least, most, -⟩
  simp only [CaseSegment.isValid, Bool.and_eq_true, Bool.or_eq_true, Nat.blt_eq] at valid
  exact toNat_ofNat (by omega)

/-- The three ways in which a character is put into upper case. -/
theorem upperChar_cases (c : Char) :
    (∃ codes, (c.toNat, codes) ∈ upperExpansions ∧ upperChar c = codes.map Char.ofNat) ∨
      upperChar c = [c] ∨
      ∃ segment ∈ upperSegments, segment.hits c.toNat = true ∧
        upperChar c = [Char.ofNat (c.toNat + segment.shift).toNat] := by
  rw [upperChar_eq_caseImage, caseImage]
  cases found : upperExpansions.lookup c.toNat with
  | some codes =>
      rcases List.lookup_eq_some_iff.mp found with ⟨before, after, shape, -⟩
      refine Or.inl ⟨codes, ?_, rfl⟩
      rw [shape]
      exact List.mem_append_right _ List.mem_cons_self
  | none =>
      refine Or.inr ?_
      rcases CaseSegment.image_cases upperSegments c.toNat with same | ⟨segment, member, hit, equal⟩
      · exact Or.inl (by simp only [same, Char.ofNat_toNat])
      · exact Or.inr ⟨segment, member, hit, by simp only [equal]⟩

theorem upperChar_of_fixed {code : Nat} (valid : (Char.ofNat code).toNat = code)
    (missed : ∀ segment ∈ upperSegments, segment.hits code = false)
    (absent : ∀ entry ∈ upperExpansions, entry.1 ≠ code) :
    upperChar (Char.ofNat code) = [Char.ofNat code] := by
  have none_found : upperExpansions.lookup code = none := by
    rw [List.lookup_eq_none_iff]
    intro entry member
    exact bne_iff_ne.mpr (absent entry member).symm
  rw [upperChar_eq_caseImage, caseImage, valid, none_found]
  simp only [CaseSegment.image_of_no_hit missed]

/-- Upper case is its own upper case. -/
theorem upperChar_fixed (c : Char) : ∀ d ∈ upperChar c, upperChar d = [d] := by
  intro d member
  rcases upperChar_cases c with ⟨codes, expansion, equal⟩ | equal | ⟨segment, among, hit, equal⟩
  · rw [equal] at member
    rcases List.mem_map.mp member with ⟨code, inside, rfl⟩
    have letter : code ∈ expansionLetters := List.mem_flatMap.mpr ⟨_, expansion, inside⟩
    have known := List.all_eq_true.mp tablesChecked.fixed code letter
    simp only [Bool.and_eq_true, Nat.blt_eq, List.all_eq_true, Bool.not_eq_true'] at known
    refine upperChar_of_fixed (toNat_ofNat (Or.inl known.1.1)) known.1.2 ?_
    intro entry among same
    have := known.2 entry among
    rw [same, Nat.beq_refl] at this
    cases this
  · rw [equal, List.mem_singleton] at member
    rw [member, equal]
  · rw [equal, List.mem_singleton] at member
    have valid := (upperSegments_known among).1
    rw [member]
    refine upperChar_of_fixed (toNat_image among hit) ?_ ?_
    · intro target target_among
      exact CaseSegment.not_hits_image (List.all_eq_true.mp
        (List.all_eq_true.mp tablesChecked.misses segment among) target target_among) hit valid
    · intro entry entry_among
      exact CaseSegment.ne_image_of_avoids (List.all_eq_true.mp
        (List.all_eq_true.mp tablesChecked.avoids segment among) entry entry_among) hit valid

theorem upper_fixed (text : List Char) : upper (upper text) = upper text := by
  have fixed : ∀ letters : List Char, (∀ d ∈ letters, upperChar d = [d]) → upper letters = letters := by
    intro letters each
    induction letters with
    | nil => rfl
    | cons d rest ih =>
        have later := ih fun other member => each other (List.mem_cons_of_mem _ member)
        rw [upper, List.flatMap_cons, each d List.mem_cons_self, List.singleton_append]
        exact congrArg _ later
  apply fixed
  intro d member
  rcases List.mem_flatMap.mp member with ⟨c, -, inside⟩
  exact upperChar_fixed c d inside

theorem isAlphanumeric_of_isCodeLetter {c : Char} (letter : isCodeLetter c = true) :
    isAlphanumeric c = true := by
  simp only [isCodeLetter, isWord, Bool.and_eq_true, Bool.or_eq_true, bne_iff_ne, beq_iff_eq]
    at letter
  exact letter.1.1.resolve_right letter.2

/-- A letter of a code that has one upper case character has a word character. -/
theorem isWord_of_upperChar {c d : Char} (letter : isCodeLetter c = true)
    (single : upperChar c = [d]) : isWord d = true := by
  rcases upperChar_cases c with ⟨codes, expansion, equal⟩ | equal | ⟨segment, among, hit, equal⟩
  · have several := List.all_eq_true.mp tablesChecked.several _ expansion
    have length := congrArg List.length (equal.symm.trans single)
    rw [List.length_map, List.length_singleton] at length
    rw [Nat.blt_eq, length] at several
    exact absurd several (Nat.lt_irrefl 1)
  · rw [single] at equal
    rw [(List.cons.inj equal).1]
    exact isWord_of_isCodeLetter letter
  · rw [single] at equal
    rcases upperSegments_known among with ⟨valid, keeps, -⟩
    have covered := CaseSegment.covers_image keeps hit valid (isAlphanumeric_of_isCodeLetter letter)
    rw [(List.cons.inj equal).1, isWord, isAlphanumeric, toNat_image among hit, covered,
      Bool.true_or]

/-- What the upper case of a letter of a code is made of. -/
theorem upperChar_plain {c d : Char} (letter : isCodeLetter c = true) (member : d ∈ upperChar c) :
    isBlank d = false ∧ isDecimal d = false ∧ d ≠ ';' := by
  have of_word : isWord d = true → isBlank d = false ∧ d ≠ ';' := by
    intro word
    refine ⟨isBlank_of_isWord word, ?_⟩
    rintro rfl
    revert word
    decide
  rcases upperChar_cases c with ⟨codes, expansion, equal⟩ | equal | ⟨segment, among, hit, equal⟩
  · rw [equal] at member
    rcases List.mem_map.mp member with ⟨code, inside, rfl⟩
    have in_letters : code ∈ expansionLetters := List.mem_flatMap.mpr ⟨_, expansion, inside⟩
    have known := List.all_eq_true.mp tablesChecked.fixed code in_letters
    have plain := List.all_eq_true.mp tablesChecked.plain code in_letters
    simp only [Bool.and_eq_true, Nat.blt_eq] at known
    have valid := toNat_ofNat (Or.inl known.1.1)
    have outside : ∀ ranges : Ranges, (∀ range ∈ ranges,
        range ∈ blankRanges ++ decimalRanges ++ [(59, 59)]) → ranges.covers code = false := by
      intro ranges part
      by_contra covered
      rw [Bool.not_eq_false] at covered
      rcases Ranges.exists_mem_of_covers covered with ⟨range, among, least, most⟩
      have apart := List.all_eq_true.mp plain range (part range among)
      simp only [Bool.or_eq_true, Nat.blt_eq] at apart
      omega
    refine ⟨?_, ?_, ?_⟩
    · rw [isBlank, valid]
      exact outside blankRanges fun range among => by simp [among]
    · rw [isDecimal, valid]
      exact outside decimalRanges fun range among => by simp [among]
    · intro same
      have covered := outside [(59, 59)] fun range among => by simp [List.mem_singleton.mp among]
      rw [← valid, same] at covered
      revert covered
      decide
  · have word := isWord_of_upperChar letter equal
    rw [equal, List.mem_singleton] at member
    subst member
    rcases of_word word with ⟨blank, mark⟩
    exact ⟨blank, isDecimal_of_isCodeLetter letter, mark⟩
  · have word := isWord_of_upperChar letter equal
    rw [equal, List.mem_singleton] at member
    subst member
    rcases of_word word with ⟨blank, mark⟩
    rcases upperSegments_known among with ⟨valid, -, digits⟩
    refine ⟨blank, ?_, mark⟩
    rw [isDecimal, toNat_image among hit]
    exact CaseSegment.not_decimal_image digits hit valid

theorem upperChar_ne_nil (c : Char) : upperChar c ≠ [] := by
  rcases upperChar_cases c with ⟨codes, expansion, equal⟩ | equal | ⟨segment, among, hit, equal⟩
  · have several := List.all_eq_true.mp tablesChecked.several _ expansion
    rw [Nat.blt_eq] at several
    rw [equal]
    intro empty
    rw [List.map_eq_nil_iff.mp empty] at several
    cases several
  · rw [equal]
    exact List.cons_ne_nil _ _
  · rw [equal]
    exact List.cons_ne_nil _ _

end Unicode
end Daybook
