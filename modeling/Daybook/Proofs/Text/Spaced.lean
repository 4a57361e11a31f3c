import Daybook.Proofs.Text.Squeezed
import Mathlib.Data.List.Chain

namespace Daybook
namespace Text

/-!
# Texts up to their blanks

A text can be told by its words alone when it does not matter which blanks stand around them
and how many stand between.  What is made of given words is described here by how the text is
put together, apart from the way in which it is cut; cutting then gives exactly these words.
Among all texts made of the same words the collapsed one is distinguished: it has no blank at
either end and no two next to each other.
-/

open Unicode

/-! ## Texts made of words -/

/-- Whether a text is made of the given words: each is a run of characters that are not blank,
any blanks stand in front of it, and some blank stands before the next one. -/
inductive Spaced : List Text → Text → Prop
  | nothing {space : Text} (empty : IsEmptySpace space) : Spaced [] space
  | last {space word : Text} (empty : IsEmptySpace space) (filled : word ≠ []) (solid : IsSolid word) :
      Spaced [word] (space ++ word)
  | more {space word text : Text} {words : List Text} {c : Char} (empty : IsEmptySpace space)
      (filled : word ≠ []) (solid : IsSolid word) (blank : isBlank c = true) (rest : Spaced words text) :
      Spaced (word :: words) (space ++ (word ++ c :: text))

theorem words_eq_nil {space : Text} (empty : IsEmptySpace space) : words space = [] := by
  have front := words_space empty []
  rwa [List.append_nil] at front

/-- A text made of words is cut into them. -/
theorem Spaced.words_eq {pieces : List Text} {text : Text} (spaced : Spaced pieces text) :
    words text = pieces := by
  induction spaced with
  | nothing empty => exact words_eq_nil empty
  | last empty filled solid => rw [words_space empty, words_of_solid filled solid]
  | more empty filled solid blank rest ih =>
      rw [words_space empty, words_append blank, words_of_solid filled solid, ih]
      rfl

/-- Every text is made of its words. -/
theorem spaced_words (text : Text) : Spaced (words text) text := by
  induction size : text.length using Nat.strongRecOn generalizing text with
  | ind n ih =>
      rcases exists_stripStart text with ⟨space, empty, front⟩
      rcases exists_first_word (stripStart text) with ⟨word, rest, solid, shape, ends⟩
      rw [shape] at front
      by_cases filled : word = []
      · -- The stripped text begins with no blank, so without a first word it is empty.
        rcases ends with rfl | ⟨c, more, rfl, blank⟩
        · rw [filled, List.append_nil, List.append_nil] at front
          rw [front, words_eq_nil empty]
          exact .nothing empty
        · rw [filled, List.nil_append] at shape
          rw [stripStart_head shape] at blank
          cases blank
      · rcases ends with rfl | ⟨c, more, rfl, blank⟩
        · rw [List.append_nil] at front
          rw [front, words_space empty, words_of_solid filled solid]
          exact .last empty filled solid
        · have shorter : more.length < n := by
            rw [← size, front]
            simp only [List.length_append, List.length_cons]
            omega
          rw [front, words_space empty, words_append blank, words_of_solid filled solid]
          exact .more empty filled solid blank (ih more.length shorter more rfl)

/-- Whether two texts differ only in the blanks around their words and in the runs of blanks
between them. -/
def SameWords (text other : Text) : Prop := ∃ pieces, Spaced pieces text ∧ Spaced pieces other

theorem sameWords_iff {text other : Text} : SameWords text other ↔ words text = words other := by
  constructor
  · rintro ⟨pieces, one, two⟩
    rw [one.words_eq, two.words_eq]
  · intro same
    exact ⟨words text, spaced_words text, same ▸ spaced_words other⟩

instance (text other : Text) : Decidable (SameWords text other) := decidable_of_iff _ sameWords_iff.symm

/-- Whether the second text is the first one without its outer blanks and with one space in place
of each inner run of them. -/
def Collapses (text collapsed : Text) : Prop :=
  ∃ pieces, Spaced pieces text ∧ collapsed = join [' '] pieces

theorem collapses_collapse (text : Text) : Collapses text (collapse text) :=
  ⟨words text, spaced_words text, rfl⟩

/-! ## No blanks too many -/

/-- Whether a text has no leading, trailing or doubled blank. -/
structure IsTight (text : Text) : Prop where
  trim : IsTrim text
  single : text.IsChain fun c d => isBlank c = true → isBlank d = false

/-- A squeezed text has no two blanks next to each other. -/
theorem Squeezed.single {text squeezed : Text} (related : Squeezed text squeezed) :
    squeezed.IsChain fun c d => isBlank c = true → isBlank d = false := by
  induction related with
  | ended empty => exact .nil
  | letter solid rest ih =>
      apply List.isChain_cons.mpr
      exact ⟨fun d _ blank => by simp [solid] at blank, ih⟩
  | gap filled empty solid rest ih =>
      apply List.isChain_cons_cons.mpr
      refine ⟨fun _ => solid, List.isChain_cons.mpr ⟨fun d _ blank => ?_, ih⟩⟩
      simp [solid] at blank

theorem isTight_collapse (text : Text) : IsTight (collapse text) :=
  ⟨isTrim_collapse text, (squeezed_collapse text).single⟩

end Text
end Daybook
