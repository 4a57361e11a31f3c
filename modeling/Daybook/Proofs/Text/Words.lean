import Daybook.Text.Basic
import Mathlib.Algebra.GroupWithZero.Nat
import Mathlib.Data.List.Basic

namespace Daybook
namespace Text

/-!
# Words of a text

Everything about the words of a text follows from one equation: at a blank the
words of what precedes and of what follows stand one after the other, each at its
offset.  A text that is written as words with blanks between them is therefore
read back as these words, however many blanks there are.
-/

open Unicode

/-- Whether nothing in a text is blank. -/
def IsSolid (text : Text) : Prop := ∀ c ∈ text, isBlank c = false

instance (text : Text) : Decidable (IsSolid text) :=
  decidable_of_iff (text.all fun c => !isBlank c) (by simp only [IsSolid, List.all_eq_true, Bool.not_eq_true'])

def IsEmptySpace (text : Text) : Prop := ∀ c ∈ text, isBlank c = true

theorem IsSolid.append {front back : Text} (first : IsSolid front) (second : IsSolid back) :
    IsSolid (front ++ back) := by
  intro c member
  rcases List.mem_append.mp member with inside | inside
  · exact first c inside
  · exact second c inside

/-! ## Pieces between separators -/

section Pieces

variable {separates : Char → Bool}

theorem splitWhen_append {c : Char} (separator : separates c = true) (front back : Text) :
    splitWhen separates (front ++ c :: back) =
      splitWhen separates front ++ splitWhen separates back := by
  induction front with
  | nil => simp [splitWhen, separator]
  | cons d rest ih =>
      rw [List.cons_append, splitWhen, splitWhen, ih]
      split
      · rfl
      · cases pieces : splitWhen separates rest with
        | nil => exact absurd pieces (splitWhen_ne_nil _ _)
        | cons piece more => rfl

theorem splitWhen_of_none {text : Text} (absent : ∀ c ∈ text, separates c = false) :
    splitWhen separates text = [text] := by
  induction text with
  | nil => rfl
  | cons c rest ih =>
      rw [splitWhen, ih fun d member => absent d (List.mem_cons_of_mem _ member),
        absent c List.mem_cons_self]
      rfl

/-- A piece holds no separator and is part of the text. -/
theorem mem_splitWhen {text piece : Text} (member : piece ∈ splitWhen separates text) :
    ∀ c ∈ piece, separates c = false ∧ c ∈ text := by
  induction text generalizing piece with
  | nil =>
      rw [splitWhen, List.mem_singleton] at member
      simp [member]
  | cons d rest ih =>
      intro c inside
      rw [splitWhen] at member
      split at member
      · rcases List.mem_cons.mp member with rfl | later
        · cases inside
        · exact ⟨(ih later c inside).1, List.mem_cons_of_mem _ (ih later c inside).2⟩
      · rename_i letter
        cases pieces : splitWhen separates rest with
        | nil => exact absurd pieces (splitWhen_ne_nil _ _)
        | cons first more =>
            rw [pieces] at member ih
            rcases List.mem_cons.mp member with rfl | later
            · rcases List.mem_cons.mp inside with rfl | behind
              · exact ⟨by simpa using letter, List.mem_cons_self⟩
              · have known := ih List.mem_cons_self c behind
                exact ⟨known.1, List.mem_cons_of_mem _ known.2⟩
            · have known := ih (List.mem_cons_of_mem _ later) c inside
              exact ⟨known.1, List.mem_cons_of_mem _ known.2⟩

/-- The pieces with their separators are as long as the text with one more. -/
theorem sum_length_splitWhen (text : Text) :
    ((splitWhen separates text).map (·.length + 1)).sum = text.length + 1 := by
  induction text with
  | nil => rfl
  | cons c rest ih =>
      rw [splitWhen]
      split
      · rw [List.map_cons, List.sum_cons, ih, List.length_nil, List.length_cons]
        omega
      · cases pieces : splitWhen separates rest with
        | nil => exact absurd pieces (splitWhen_ne_nil _ _)
        | cons piece more =>
            rw [pieces, List.map_cons, List.sum_cons] at ih
            simp only [List.map_cons, List.sum_cons, List.length_cons]
            omega

end Pieces

/-! ## Joining -/

theorem join_cons_cons (separator first second : Text) (rest : List Text) :
    join separator (first :: second :: rest) =
      first ++ separator ++ join separator (second :: rest) := rfl

theorem join_cons_of_ne_nil (separator first : Text) {rest : List Text} (more : rest ≠ []) :
    join separator (first :: rest) = first ++ separator ++ join separator rest := by
  cases rest with
  | nil => exact absurd rfl more
  | cons second others => rfl

/-- A letter in front of the first of several texts is in front of all of them. -/
theorem join_cons_letter (separator : Text) (c : Char) (first : Text) (rest : List Text) :
    join separator ((c :: first) :: rest) = c :: join separator (first :: rest) := by
  cases rest with
  | nil => rfl
  | cons second others => rfl

/-- A text joined from pieces without the separator splits into them. -/
theorem splitOn_join {separator : Char} {pieces : List Text} (some_piece : pieces ≠ [])
    (absent : ∀ piece ∈ pieces, separator ∉ piece) :
    splitOn separator (join [separator] pieces) = pieces := by
  have whole : ∀ piece ∈ pieces, splitWhen (· == separator) piece = [piece] := by
    intro piece member
    apply splitWhen_of_none
    intro c inside
    rw [beq_eq_false_iff_ne]
    rintro rfl
    exact absent piece member inside
  induction pieces with
  | nil => exact absurd rfl some_piece
  | cons first rest ih =>
      cases rest with
      | nil => exact whole first List.mem_cons_self
      | cons second others =>
          have cut := @splitWhen_append (· == separator) separator (beq_self_eq_true separator) first
            (join [separator] (second :: others))
          rw [join_cons_cons, splitOn, List.append_assoc, List.singleton_append, cut,
            whole first List.mem_cons_self]
          exact congrArg _ (ih (List.cons_ne_nil _ _)
            (fun piece member => absent piece (List.mem_cons_of_mem _ member))
            fun piece member => whole piece (List.mem_cons_of_mem _ member))

theorem mem_join {separator : Text} {pieces : List Text} {c : Char}
    (member : c ∈ join separator pieces) : c ∈ separator ∨ ∃ piece ∈ pieces, c ∈ piece := by
  induction pieces with
  | nil => cases member
  | cons first rest ih =>
      cases rest with
      | nil => exact Or.inr ⟨first, List.mem_cons_self, member⟩
      | cons second others =>
          rw [join_cons_cons, List.mem_append, List.mem_append] at member
          rcases member with (inside | inside) | later
          · exact Or.inr ⟨first, List.mem_cons_self, inside⟩
          · exact Or.inl inside
          · rcases ih later with inside | ⟨piece, among, inside⟩
            · exact Or.inl inside
            · exact Or.inr ⟨piece, List.mem_cons_of_mem _ among, inside⟩

/-! ## Words -/

theorem words_append {c : Char} (blank : isBlank c = true) (front back : Text) :
    words (front ++ c :: back) = words front ++ words back := by
  rw [words, splitWhen_append blank, List.filter_append]
  rfl

theorem words_of_solid {word : Text} (filled : word ≠ []) (solid : IsSolid word) :
    words word = [word] := by
  rw [words, splitWhen_of_none solid]
  cases word with
  | nil => exact absurd rfl filled
  | cons c rest => rfl

/-- A word is not empty and holds no blank. -/
theorem mem_words {text word : Text} (member : word ∈ words text) :
    word ≠ [] ∧ IsSolid word ∧ ∀ c ∈ word, c ∈ text := by
  rcases List.mem_filter.mp member with ⟨piece, filled⟩
  exact ⟨by simpa using filled, fun c inside => (mem_splitWhen piece c inside).1,
    fun c inside => (mem_splitWhen piece c inside).2⟩

/-- Words joined by spaces are read back. -/
theorem words_join {pieces : List Text} (each : ∀ piece ∈ pieces, piece ≠ [] ∧ IsSolid piece) :
    words (join [' '] pieces) = pieces := by
  induction pieces with
  | nil => rfl
  | cons first rest ih =>
      rcases each first List.mem_cons_self with ⟨filled, solid⟩
      cases rest with
      | nil => exact words_of_solid filled solid
      | cons second others =>
          rw [join_cons_cons, List.append_assoc, List.singleton_append, words_append (by decide),
            words_of_solid filled solid,
            ih fun piece member => each piece (List.mem_cons_of_mem _ member)]
          rfl

theorem collapse_collapse (text : Text) : collapse (collapse text) = collapse text := by
  rw [collapse, collapse, words_join fun piece member =>
    ⟨(mem_words member).1, (mem_words member).2.1⟩]

/-- Collapsing leaves no blank but spaces, and brings in nothing else. -/
theorem mem_collapse {text : Text} {c : Char} (member : c ∈ collapse text) :
    c = ' ' ∨ (c ∈ text ∧ isBlank c = false) := by
  rcases mem_join member with space | ⟨word, among, inside⟩
  · exact Or.inl (List.mem_singleton.mp space)
  · rcases mem_words among with ⟨-, solid, part⟩
    exact Or.inr ⟨part c inside, solid c inside⟩

/-! ## Words at their offsets -/

def wordsFrom (offset : Nat) (text : Text) : List (Nat × Text) :=
  (placed offset (splitWhen isBlank text)).filter (!·.2.isEmpty)

theorem wordsAt_eq (text : Text) : wordsAt text = wordsFrom 0 text := rfl

theorem placed_append (offset : Nat) (front back : List Text) :
    placed offset (front ++ back) =
      placed offset front ++ placed (offset + (front.map (·.length + 1)).sum) back := by
  induction front generalizing offset with
  | nil => rfl
  | cons piece rest ih =>
      rw [List.cons_append, placed, placed, ih, List.map_cons, List.sum_cons, List.cons_append]
      congr 3
      omega

theorem wordsFrom_append {c : Char} (blank : isBlank c = true) (offset : Nat) (front back : Text) :
    wordsFrom offset (front ++ c :: back) =
      wordsFrom offset front ++ wordsFrom (offset + front.length + 1) back := by
  rw [wordsFrom, splitWhen_append blank, placed_append, List.filter_append, sum_length_splitWhen]
  rfl

theorem wordsFrom_of_solid {word : Text} (filled : word ≠ []) (solid : IsSolid word) (offset : Nat) :
    wordsFrom offset word = [(offset, word)] := by
  rw [wordsFrom, splitWhen_of_none solid]
  simp [placed, filled]

/-- Empty space in front moves the words. -/
theorem wordsFrom_space {space : Text} (empty : IsEmptySpace space) (offset : Nat) (text : Text) :
    wordsFrom offset (space ++ text) = wordsFrom (offset + space.length) text := by
  induction space generalizing offset with
  | nil => rfl
  | cons c rest ih =>
      have first := wordsFrom_append (empty c List.mem_cons_self) offset [] (rest ++ text)
      rw [List.nil_append] at first
      rw [List.cons_append, first, ih fun d member => empty d (List.mem_cons_of_mem _ member),
        List.length_cons, List.length_nil, Nat.add_zero, Nat.add_assoc offset, Nat.add_comm 1]
      rfl

/-- A last word behind some space. -/
theorem wordsFrom_last {space word : Text} (some_space : space ≠ []) (empty : IsEmptySpace space)
    (filled : word ≠ []) (solid : IsSolid word) (offset : Nat) (front : Text) :
    wordsFrom offset (front ++ space ++ word) =
      wordsFrom offset front ++ [(offset + front.length + space.length, word)] := by
  cases space with
  | nil => exact absurd rfl some_space
  | cons c rest =>
      have later : IsEmptySpace rest := fun d member => empty d (List.mem_cons_of_mem _ member)
      rw [List.append_assoc, List.cons_append, wordsFrom_append (empty c List.mem_cons_self),
        wordsFrom_space later, wordsFrom_of_solid filled solid, List.length_cons]
      congr 3
      omega

theorem map_snd_placed (offset : Nat) (pieces : List Text) :
    (placed offset pieces).map (·.2) = pieces := by
  induction pieces generalizing offset with
  | nil => rfl
  | cons piece rest ih => rw [placed, List.map_cons, ih]

theorem map_snd_wordsFrom (offset : Nat) (text : Text) :
    (wordsFrom offset text).map (·.2) = words text := by
  have pushed := List.filter_map (f := fun entry : Nat × Text => entry.2)
    (p := fun piece => !piece.isEmpty) (l := placed offset (splitWhen isBlank text))
  rw [map_snd_placed] at pushed
  rw [words, pushed]
  rfl

theorem le_of_mem_placed {offset : Nat} {pieces : List Text} {place : Nat × Text}
    (member : place ∈ placed offset pieces) : offset ≤ place.1 := by
  induction pieces generalizing offset with
  | nil => cases member
  | cons piece rest ih =>
      rw [placed] at member
      rcases List.mem_cons.mp member with rfl | later
      · exact Nat.le_refl _
      · have := ih later
        omega

theorem pairwise_placed (offset : Nat) (pieces : List Text) :
    (placed offset pieces).Pairwise fun left right => left.1 < right.1 := by
  induction pieces generalizing offset with
  | nil => exact List.Pairwise.nil
  | cons piece rest ih =>
      rw [placed]
      refine List.Pairwise.cons (fun place later => ?_) (ih _)
      have := le_of_mem_placed later
      dsimp only
      omega

/-- Words are listed in the order in which they stand. -/
theorem lt_of_wordsAt {text : Text} {first : Nat × Text} {rest : List (Nat × Text)}
    (words : wordsAt text = first :: rest) : ∀ place ∈ rest, first.1 < place.1 := by
  have ordered : (wordsAt text).Pairwise fun left right => left.1 < right.1 :=
    (pairwise_placed 0 _).filter _
  rw [words] at ordered
  exact (List.pairwise_cons.mp ordered).1

theorem isSolid_of_mem_wordsAt {text : Text} {place : Nat × Text} (member : place ∈ wordsAt text) :
    IsSolid place.2 := by
  have word : place.2 ∈ words text := by
    rw [← map_snd_wordsFrom 0]
    exact List.mem_map_of_mem member
  exact (mem_words word).2.1

/-! ## Stripping -/

theorem stripStart_of_head {c : Char} (letter : isBlank c = false) (rest : Text) :
    stripStart (c :: rest) = c :: rest := by
  rw [stripStart, List.dropWhile_cons, letter]
  rfl

theorem stripStart_space {space : Text} (empty : IsEmptySpace space) (text : Text) :
    stripStart (space ++ text) = stripStart text :=
  List.dropWhile_append_of_pos empty

theorem stripEnd_of_last {c : Char} (letter : isBlank c = false) (front : Text) :
    stripEnd (front ++ [c]) = front ++ [c] := by
  rw [stripEnd, List.reverse_append, List.reverse_singleton, List.singleton_append,
    List.dropWhile_cons, letter]
  simp

theorem stripEnd_space {space : Text} (empty : IsEmptySpace space) (text : Text) :
    stripEnd (text ++ space) = stripEnd text := by
  rw [stripEnd, List.reverse_append, List.dropWhile_append_of_pos
    fun c member => empty c (List.mem_reverse.mp member)]
  rfl

/-- Whether a text neither begins nor ends with a blank. -/
def IsTrim (text : Text) : Prop :=
  (∀ c rest, text = c :: rest → isBlank c = false) ∧
    ∀ front c, text = front ++ [c] → isBlank c = false

namespace IsTrim

variable {text : Text}

theorem stripStart_eq (trim : IsTrim text) : stripStart text = text := by
  cases text with
  | nil => rfl
  | cons c rest => exact stripStart_of_head (trim.1 c rest rfl) rest

theorem stripEnd_eq (trim : IsTrim text) : stripEnd text = text := by
  rcases List.eq_nil_or_concat text with rfl | ⟨front, c, equal⟩
  · rfl
  · rw [List.concat_eq_append] at equal
    rw [equal]
    exact stripEnd_of_last (trim.2 front c equal) front

theorem strip_eq (trim : IsTrim text) : strip text = text := by
  rw [strip, trim.stripStart_eq, trim.stripEnd_eq]

/-- A trimmed text between empty spaces is found by stripping. -/
theorem strip_spaces (trim : IsTrim text) (filled : text ≠ []) {before after : Text}
    (first : IsEmptySpace before) (last : IsEmptySpace after) :
    strip (before ++ text ++ after) = text := by
  rw [strip, List.append_assoc, stripStart_space first]
  cases text with
  | nil => exact absurd rfl filled
  | cons c rest =>
      rw [List.cons_append, stripStart_of_head (trim.1 c rest rfl), ← List.cons_append,
        stripEnd_space last, trim.stripEnd_eq]

end IsTrim

theorem IsSolid.isTrim {text : Text} (solid : IsSolid text) : IsTrim text := by
  constructor
  · rintro c rest rfl
    exact solid c List.mem_cons_self
  · rintro front c rfl
    exact solid c (List.mem_append_right _ List.mem_cons_self)

/-- A text that begins and ends like trimmed ones is trimmed. -/
theorem IsTrim.append {front middle back : Text} (first : IsTrim front) (last : IsTrim back)
    (filled : front ≠ []) (also : back ≠ []) : IsTrim (front ++ middle ++ back) := by
  constructor
  · intro c rest equal
    cases front with
    | nil => exact absurd rfl filled
    | cons d others =>
        rw [List.cons_append, List.cons_append] at equal
        rw [← (List.cons.inj equal).1]
        exact first.1 d others rfl
  · intro begin_ c equal
    rcases List.eq_nil_or_concat back with rfl | ⟨others, d, shape⟩
    · exact absurd rfl also
    · rw [List.concat_eq_append] at shape
      rw [shape, ← List.append_assoc] at equal
      rw [← (List.append_singleton_inj.mp equal).2]
      exact last.2 others d shape

theorem suffix_of_dropWhile {p : Char → Bool} {text rest : Text} {c : Char}
    (shape : text.dropWhile p = c :: rest) : rest <:+ text :=
  (shape ▸ List.suffix_cons c rest : rest <:+ text.dropWhile p).trans (List.dropWhile_suffix p)

theorem not_of_dropWhile {p : Char → Bool} {text rest : Text} {c : Char}
    (dropped : text.dropWhile p = c :: rest) : p c = false := by
  have head := List.head?_dropWhile_not p text
  rw [dropped] at head
  simpa using head

/-- What stripping takes from the end is empty space. -/
theorem exists_stripEnd (text : Text) :
    ∃ space, IsEmptySpace space ∧ text = stripEnd text ++ space := by
  refine ⟨(text.reverse.takeWhile isBlank).reverse, ?_, ?_⟩
  · intro c member
    exact List.all_eq_true.mp List.all_takeWhile c (List.mem_reverse.mp member)
  · rw [stripEnd, ← List.reverse_append, List.takeWhile_append_dropWhile, List.reverse_reverse]

theorem stripEnd_last {text front : Text} {c : Char} (shape : stripEnd text = front ++ [c]) :
    isBlank c = false := by
  rw [stripEnd, ← List.reverse_inj, List.reverse_reverse, List.reverse_append] at shape
  exact not_of_dropWhile shape

/-- Stripping leaves a trimmed text. -/
theorem isTrim_strip (text : Text) : IsTrim (strip text) := by
  refine ⟨?_, fun front c shape => stripEnd_last shape⟩
  intro c rest shape
  rcases exists_stripEnd (stripStart text) with ⟨space, -, equal⟩
  rw [strip] at shape
  rw [shape, List.cons_append] at equal
  exact not_of_dropWhile equal

theorem mem_strip {text : Text} {c : Char} (member : c ∈ strip text) : c ∈ text := by
  have inner := (List.dropWhile_sublist isBlank).subset (List.mem_reverse.mp member)
  exact (List.dropWhile_sublist isBlank).subset (List.mem_reverse.mp inner)

theorem join_ne_nil {pieces : List Text} {separator : Text} (some_piece : pieces ≠ [])
    (each : ∀ piece ∈ pieces, piece ≠ []) : join separator pieces ≠ [] := by
  cases pieces with
  | nil => exact absurd rfl some_piece
  | cons first rest =>
      have filled := each first List.mem_cons_self
      cases rest with
      | nil => exact filled
      | cons second others =>
          rw [join_cons_cons]
          simp [filled]

theorem isTrim_join {pieces : List Text} {separator : Text}
    (each : ∀ piece ∈ pieces, piece ≠ [] ∧ IsTrim piece) : IsTrim (join separator pieces) := by
  induction pieces with
  | nil => exact ⟨by simp [join], by simp [join]⟩
  | cons first rest ih =>
      rcases each first List.mem_cons_self with ⟨filled, trim⟩
      have later := fun piece member => each piece (List.mem_cons_of_mem _ member)
      cases rest with
      | nil => exact trim
      | cons second others =>
          rw [join_cons_cons]
          exact trim.append (ih later) filled
            (join_ne_nil (List.cons_ne_nil _ _) fun piece member => (later piece member).1)

theorem isTrim_collapse (text : Text) : IsTrim (collapse text) :=
  isTrim_join fun _ member => ⟨(mem_words member).1, (mem_words member).2.1.isTrim⟩

/-! ## Cutting at a character -/

theorem cutAt_of_not_mem {separator : Char} {text : Text} (absent : separator ∉ text) :
    cutAt separator text = (text, none) := by
  induction text with
  | nil => rfl
  | cons c rest ih =>
      rw [List.mem_cons, not_or] at absent
      rcases absent with ⟨different, later⟩
      rw [cutAt, ih later, if_neg (by simpa using Ne.symm different)]

theorem cutAt_append {separator : Char} {front : Text} (absent : separator ∉ front) (back : Text) :
    cutAt separator (front ++ separator :: back) = (front, some back) := by
  induction front with
  | nil => simp [cutAt]
  | cons c rest ih =>
      rw [List.mem_cons, not_or] at absent
      rcases absent with ⟨different, later⟩
      rw [List.cons_append, cutAt, ih later, if_neg (by simpa using Ne.symm different)]

/-- What is cut off at a character does not hold it, and both parts come from the
text. -/
theorem mem_cutAt (separator : Char) (text : Text) :
    separator ∉ (cutAt separator text).1 ∧ (∀ c ∈ (cutAt separator text).1, c ∈ text) ∧
      ∀ back, (cutAt separator text).2 = some back → ∀ c ∈ back, c ∈ text := by
  induction text with
  | nil => simp [cutAt]
  | cons c rest ih =>
      rw [cutAt]
      split
      · refine ⟨by simp, by simp, ?_⟩
        rintro back ⟨⟩ d member
        exact List.mem_cons_of_mem _ member
      · rename_i different
        refine ⟨?_, ?_, ?_⟩
        · rw [List.mem_cons, not_or]
          exact ⟨by simpa using Ne.symm (by simpa using different), ih.1⟩
        · intro d member
          rcases List.mem_cons.mp member with rfl | inside
          · exact List.mem_cons_self
          · exact List.mem_cons_of_mem _ (ih.2.1 d inside)
        · intro back found d member
          exact List.mem_cons_of_mem _ (ih.2.2 back found d member)

end Text
end Daybook
