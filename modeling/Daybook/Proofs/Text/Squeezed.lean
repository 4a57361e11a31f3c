import Daybook.Proofs.Text.Words

namespace Daybook
namespace Text

/-!
# A text beside its collapsed form

Collapsing goes over all words at once, while a rule that recognises something at the
beginning of a text consumes it piece by piece.  `Squeezed` relates what is left of
the two texts at any point: either form is consumed in step with the other, so that a
rule for which one blank is as good as several recognises the same in both.
-/

open Unicode

/-- Whether the second text is the first one with every run of blanks before a letter
made one space, and with no blank at the end. -/
inductive Squeezed : Text → Text → Prop
  | ended {space : Text} (empty : IsEmptySpace space) : Squeezed space []
  | letter {c : Char} {text squeezed : Text} (solid : isBlank c = false)
      (rest : Squeezed text squeezed) : Squeezed (c :: text) (c :: squeezed)
  | gap {c : Char} {space text squeezed : Text} (filled : space ≠ []) (empty : IsEmptySpace space)
      (solid : isBlank c = false) (rest : Squeezed text squeezed) :
      Squeezed (space ++ c :: text) (' ' :: c :: squeezed)

theorem isEmptySpace_space : IsEmptySpace [' '] := by
  intro c member
  rw [List.mem_singleton.mp member]
  decide

theorem stripStart_eq_nil {space : Text} (empty : IsEmptySpace space) : stripStart space = [] := by
  have stripped := stripStart_space empty []
  rw [List.append_nil] at stripped
  rw [stripped]
  rfl

namespace Squeezed

variable {text squeezed : Text}

theorem stripStart (related : Squeezed text squeezed) :
    Squeezed (Text.stripStart text) (Text.stripStart squeezed) := by
  cases related with
  | ended empty =>
      rw [stripStart_eq_nil empty]
      exact ended fun _ member => by cases member
  | letter solid rest =>
      rw [stripStart_of_head solid, stripStart_of_head solid]
      exact letter solid rest
  | @gap c space text squeezed filled empty solid rest =>
      have stripped := stripStart_space isEmptySpace_space (c :: squeezed)
      rw [List.singleton_append] at stripped
      rw [stripStart_space empty, stripped, stripStart_of_head solid, stripStart_of_head solid]
      exact letter solid rest

/-- Letters that no blank belongs to are passed over in step. -/
theorem dropWhile_solid {p : Char → Bool} (letters : ∀ c, p c = true → isBlank c = false)
    (related : Squeezed text squeezed) :
    squeezed.takeWhile p = text.takeWhile p ∧ Squeezed (text.dropWhile p) (squeezed.dropWhile p) := by
  have blank : ∀ c, isBlank c = true → p c = false := by
    intro c is_blank
    by_contra letter
    rw [letters c (by simpa using letter)] at is_blank
    cases is_blank
  induction related with
  | @ended space empty =>
      cases space with
      | nil => exact ⟨rfl, ended empty⟩
      | cons c rest =>
          have stop := blank c (empty c List.mem_cons_self)
          simp only [List.takeWhile_cons, List.dropWhile_cons, stop]
          exact ⟨rfl, ended empty⟩
  | @letter c text squeezed solid rest ih =>
      simp only [List.takeWhile_cons, List.dropWhile_cons]
      split
      · exact ⟨by rw [ih.1], ih.2⟩
      · exact ⟨rfl, letter solid rest⟩
  | @gap c space text squeezed filled empty solid rest ih =>
      cases space with
      | nil => exact absurd rfl filled
      | cons d others =>
          have stop := blank d (empty d List.mem_cons_self)
          have stop' := blank ' ' (by decide)
          simp only [List.cons_append, List.takeWhile_cons, List.dropWhile_cons, stop, stop']
          exact ⟨rfl, gap filled empty solid rest⟩

/-- Characters that all blanks belong to are passed over in step. -/
theorem dropWhile_blank {p : Char → Bool} (blanks : ∀ c, isBlank c = true → p c = true)
    (related : Squeezed text squeezed) : Squeezed (text.dropWhile p) (squeezed.dropWhile p) := by
  induction related with
  | ended empty =>
      have dropped := @List.dropWhile_append_of_pos _ p _ [] fun c member => blanks c (empty c member)
      rw [List.append_nil] at dropped
      rw [dropped]
      exact ended fun _ member => by cases member
  | @letter c text squeezed solid rest ih =>
      simp only [List.dropWhile_cons]
      split
      · exact ih
      · exact letter solid rest
  | @gap c space text squeezed filled empty solid rest ih =>
      rw [List.dropWhile_append_of_pos fun d member => blanks d (empty d member)]
      simp only [List.dropWhile_cons, blanks ' ' (by decide)]
      split
      · exact ih
      · exact letter solid rest

/-- What follows the first letter of the squeezed text follows it in the other one. -/
theorem exists_of_cons {c : Char} {rest : Text} (solid : isBlank c = false)
    (related : Squeezed text (c :: rest)) : ∃ after, text = c :: after ∧ Squeezed after rest := by
  cases related with
  | letter _ later => exact ⟨_, rfl, later⟩
  | gap _ _ _ _ => exact absurd solid (by decide)

theorem isEmptySpace (related : Squeezed text []) : IsEmptySpace text := by
  cases related with
  | ended empty => exact empty

theorem isBlankText (related : Squeezed text squeezed) (blank : Text.isBlankText squeezed = true) :
    Text.isBlankText text = true := by
  cases related with
  | ended empty => exact List.all_eq_true.mpr empty
  | letter solid rest =>
      rw [Text.isBlankText, List.all_cons, solid, Bool.false_and] at blank
      cases blank
  | gap filled empty solid rest =>
      rw [Text.isBlankText, List.all_cons, List.all_cons, solid, Bool.false_and, Bool.and_false] at blank
      cases blank

theorem append_letters {word : Text} (solid : IsSolid word) (related : Squeezed text squeezed) :
    Squeezed (word ++ text) (word ++ squeezed) := by
  induction word with
  | nil => exact related
  | cons c rest ih =>
      exact letter (solid c List.mem_cons_self) (ih fun d member => solid d (List.mem_cons_of_mem _ member))

/-- Empty space in front of a text that begins with a letter becomes one space. -/
theorem append_space {space : Text} (filled : space ≠ []) (empty : IsEmptySpace space)
    (begins : ∀ c rest, text = c :: rest → isBlank c = false) (related : Squeezed text squeezed) :
    (squeezed = [] ∧ Squeezed (space ++ text) []) ∨
      (squeezed ≠ [] ∧ Squeezed (space ++ text) (' ' :: squeezed)) := by
  cases related with
  | ended nothing =>
      refine Or.inl ⟨rfl, ended ?_⟩
      intro c member
      rcases List.mem_append.mp member with inside | inside
      · exact empty c inside
      · exact nothing c inside
  | letter solid rest => exact Or.inr ⟨List.cons_ne_nil _ _, gap filled empty solid rest⟩
  | @gap c more _ _ some_space nothing _ _ =>
      cases more with
      | nil => exact absurd rfl some_space
      | cons d others =>
          have blank := nothing d List.mem_cons_self
          rw [begins d _ rfl] at blank
          cases blank

end Squeezed

/-! ## Collapsing squeezes -/

/-- The first word of a text, if it begins with one. -/
theorem exists_first_word (text : Text) :
    ∃ word rest, IsSolid word ∧ text = word ++ rest ∧
      (rest = [] ∨ ∃ c more, rest = c :: more ∧ isBlank c = true) := by
  refine ⟨text.takeWhile (!isBlank ·), text.dropWhile (!isBlank ·), ?_,
    (List.takeWhile_append_dropWhile).symm, ?_⟩
  · intro c member
    simpa using List.all_eq_true.mp List.all_takeWhile c member
  · cases dropped : text.dropWhile (!isBlank ·) with
    | nil => exact Or.inl rfl
    | cons c more =>
        refine Or.inr ⟨c, more, rfl, ?_⟩
        simpa using not_of_dropWhile dropped

/-- What precedes the stripped text is empty space. -/
theorem exists_stripStart (text : Text) :
    ∃ space, IsEmptySpace space ∧ text = space ++ stripStart text :=
  ⟨text.takeWhile isBlank, fun c member => List.all_eq_true.mp List.all_takeWhile c member,
    (List.takeWhile_append_dropWhile).symm⟩

theorem stripStart_head {text rest : Text} {c : Char} (shape : stripStart text = c :: rest) :
    isBlank c = false := not_of_dropWhile shape

theorem words_space {space : Text} (empty : IsEmptySpace space) (text : Text) :
    words (space ++ text) = words text := by
  induction space with
  | nil => rfl
  | cons c rest ih =>
      have cut := words_append (empty c List.mem_cons_self) [] (rest ++ text)
      rw [List.nil_append] at cut
      rw [List.cons_append, cut, ih fun d member => empty d (List.mem_cons_of_mem _ member)]
      rfl

theorem words_stripStart (text : Text) : words (stripStart text) = words text := by
  rcases exists_stripStart text with ⟨space, empty, equal⟩
  have same := words_space empty (stripStart text)
  rw [← equal] at same
  exact same.symm

theorem collapse_eq_nil {text : Text} (nothing : collapse text = []) : words text = [] := by
  by_contra some_word
  exact join_ne_nil some_word (fun word member => (mem_words member).1) nothing

/-- Collapsing at the end of a first word. -/
theorem squeezed_first_word {word more : Text} {c : Char} (filled : word ≠ []) (solid : IsSolid word)
    (blank : isBlank c = true) (related : Squeezed (stripStart more) (collapse more)) :
    Squeezed (word ++ c :: more) (collapse (word ++ c :: more)) := by
  rcases exists_stripStart more with ⟨space, empty, equal⟩
  have spaces : IsEmptySpace (c :: space) := by
    intro d member
    rcases List.mem_cons.mp member with rfl | inside
    · exact blank
    · exact empty d inside
  have joined := related.append_space (List.cons_ne_nil c space) spaces fun _ _ => stripStart_head
  rw [List.cons_append, ← equal] at joined
  rw [collapse, words_append blank, words_of_solid filled solid, List.singleton_append]
  rcases joined with ⟨nothing, ended⟩ | ⟨something, between⟩
  · rw [collapse_eq_nil nothing, join]
    have with_word := ended.append_letters solid
    rwa [List.append_nil] at with_word
  · cases others : words more with
    | nil =>
        rw [collapse, others] at something
        exact absurd rfl something
    | cons second rest =>
        rw [join_cons_cons, ← others, List.append_assoc]
        exact between.append_letters solid

/-- A text without leading blanks is squeezed by collapsing it. -/
theorem squeezed_collapse (text : Text) : Squeezed (stripStart text) (collapse text) := by
  induction size : text.length using Nat.strongRecOn generalizing text with
  | ind n ih =>
      have same : collapse text = collapse (stripStart text) := by
        rw [collapse, collapse, words_stripStart]
      rcases exists_stripStart text with ⟨space, -, equal⟩
      rcases exists_first_word (stripStart text) with ⟨word, rest, solid, shape, ends⟩
      rw [same, shape]
      rcases ends with rfl | ⟨c, more, rfl, blank⟩
      · rw [List.append_nil]
        cases word with
        | nil => exact Squeezed.ended fun _ member => by cases member
        | cons d letters =>
            rw [collapse, words_of_solid (List.cons_ne_nil _ _) solid, join]
            have nothing : Squeezed [] [] := Squeezed.ended fun _ member => by cases member
            have related := nothing.append_letters solid
            rwa [List.append_nil] at related
      · cases word with
        | nil => exact absurd blank (by simpa using not_of_dropWhile shape)
        | cons d letters =>
            have shorter : more.length < n := by
              rw [← size, equal, shape]
              simp only [List.length_append, List.length_cons]
              omega
            exact squeezed_first_word (List.cons_ne_nil _ _) solid blank (ih more.length shorter more rfl)

/-- A text in which there are no words is empty space. -/
theorem isEmptySpace_of_words_eq_nil {text : Text} (nothing : words text = []) : IsEmptySpace text := by
  have related := squeezed_collapse text
  rw [collapse, nothing, join] at related
  rcases exists_stripStart text with ⟨space, empty, equal⟩
  intro c member
  rw [equal] at member
  rcases List.mem_append.mp member with inside | inside
  · exact empty c inside
  · exact related.isEmptySpace c inside

end Text
end Daybook
