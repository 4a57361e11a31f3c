import Daybook.Proofs.Booking.TagPlaces
import Daybook.Proofs.Table
import Daybook.Proofs.Text.Spaced

namespace Daybook

/-!
# Scanning leaves no tag at either end

The scanner recognises a tag by passing over its parts one after the other.  The ways in which a
tag may be written are given here on their own, and the scanner takes off exactly what is written
in one of them.  An argument may hold almost anything, even the marks of another tag, but no
parenthesis; so there is only one place where it can end, and no text begins with two tags of
which one is longer.

When nothing more can be taken off, the blanks that remain are collapsed.  That this brings no
tag about was seen before; what is left to say is what a description is then free of.
-/

open Unicode

namespace WrittenTag

open Text (IsEmptySpace)

variable {text rest : Text} {tag : WrittenTag}

/-! ## How tags are written -/

/-- What may stand behind the name of a tag, with the argument that it gives. -/
inductive Ending : Option Text → Text → Prop
  | bare {space : Text} (empty : IsEmptySpace space) : Ending none (space ++ [']'])
  | given {before argument after : Text} (first : IsEmptySpace before)
      (inner : ∀ c ∈ argument, isArgumentChar c = true) (last : IsEmptySpace after) :
      Ending (some argument) (before ++ '(' :: (argument ++ ')' :: (after ++ [']'])))

/-- Whether the source of a tag is a way to write it: both marks, the name in word characters
with any blanks around it, the argument in parentheses if there is one, and the bracket. -/
structure IsWritten (tag : WrittenTag) : Prop where
  named : tag.name ≠ []
  letters : ∀ c ∈ tag.name, isWord c = true
  marked : ∃ space ending, IsEmptySpace space ∧ Ending tag.argument ending ∧
    tag.source = '#' :: '[' :: (space ++ (tag.name ++ ending))

/-- An ending does not go on with the name. -/
theorem Ending.exists_cons {argument : Option Text} {ending : Text} (known : Ending argument ending) :
    ∃ c more, ending = c :: more ∧ isWord c = false := by
  have stops (space : Text) (empty : IsEmptySpace space) (c : Char) (behind : Text)
      (mark : isWord c = false) : ∃ d more, space ++ c :: behind = d :: more ∧ isWord d = false := by
    cases space with
    | nil => exact ⟨c, behind, rfl, mark⟩
    | cons d others =>
        refine ⟨d, _, rfl, ?_⟩
        by_contra word
        have solid := isBlank_of_isWord (by simpa using word)
        simp [empty d List.mem_cons_self] at solid
  cases known with
  | @bare space empty => exact stops space empty ']' [] (by decide +kernel)
  | @given before argument after first inner last => exact stops before first '(' _ (by decide +kernel)

/-! ## The scanner recognises them -/

theorem closed?_eq_some_iff :
    closed? text = some rest ↔ ∃ space, IsEmptySpace space ∧ text = space ++ ']' :: rest := by
  constructor
  · intro found
    rcases Text.exists_stripStart text with ⟨space, empty, shape⟩
    unfold closed? at found
    split at found
    · rename_i behind stripped
      rcases Option.some.inj found with rfl
      exact ⟨space, empty, stripped ▸ shape⟩
    · cases found
  · rintro ⟨space, empty, rfl⟩
    rw [closed?, Text.stripStart_space empty, Text.stripStart_of_head (by decide)]
    rfl

/-- An ending is passed over, whatever follows it. -/
theorem argument?_append {argument : Option Text} {ending : Text} (known : Ending argument ending)
    (rest : Text) : argument? (ending ++ rest) = some (argument, rest) := by
  cases known with
  | @bare space empty =>
      have stripped : Text.stripStart (space ++ [']'] ++ rest) = ']' :: rest := by
        rw [List.append_assoc, Text.stripStart_space empty]
        exact Text.stripStart_of_head (by decide) rest
      rw [argument?, stripped]
      have closes : closed? (']' :: rest) = some rest :=
        closed?_eq_some_iff.mpr ⟨[], by simp [IsEmptySpace], rfl⟩
      simp [closes]
  | @given before argument after first inner last =>
      have opened : Text.stripStart (before ++ '(' :: (argument ++ ')' :: (after ++ [']'])) ++ rest) =
          '(' :: (argument ++ ')' :: (after ++ ']' :: rest)) := by
        rw [List.append_assoc, Text.stripStart_space first]
        simpa using Text.stripStart_of_head (by decide) (argument ++ ')' :: (after ++ ']' :: rest))
      have parenthesis : isArgumentChar ')' = false := by decide
      have closing : (argument ++ ')' :: (after ++ ']' :: rest)).dropWhile isArgumentChar =
          ')' :: (after ++ ']' :: rest) := by
        rw [List.dropWhile_append_of_pos inner, List.dropWhile_cons, parenthesis]
        rfl
      have taken : (argument ++ ')' :: (after ++ ']' :: rest)).takeWhile isArgumentChar = argument := by
        rw [List.takeWhile_append_of_pos inner, List.takeWhile_cons, parenthesis]
        simp
      have closes : closed? (after ++ ']' :: rest) = some rest :=
        closed?_eq_some_iff.mpr ⟨after, last, rfl⟩
      rw [argument?_enclosed opened closing, taken, closes]
      rfl

/-- What is passed over behind a name is an ending. -/
theorem exists_ending {argument : Option Text} (found : argument? text = some (argument, rest)) :
    ∃ ending, Ending argument ending ∧ text = ending ++ rest := by
  rcases Text.exists_stripStart text with ⟨before, first, front⟩
  unfold argument? at found
  split at found
  · rename_i inner opened
    split at found
    · rename_i tail closing
      rcases Option.map_eq_some_iff.mp found with ⟨after, closes, same⟩
      rcases Prod.mk.inj same with ⟨rfl, rfl⟩
      rcases closed?_eq_some_iff.mp closes with ⟨space, last, shape⟩
      refine ⟨_, .given first (fun c => List.all_eq_true.mp List.all_takeWhile c) last, ?_⟩
      have whole := @List.takeWhile_append_dropWhile _ isArgumentChar inner
      rw [closing, shape] at whole
      rw [front, opened]
      simp [whole]
    · cases found
  · rcases Option.map_eq_some_iff.mp found with ⟨after, closes, same⟩
    rcases Prod.mk.inj same with ⟨rfl, rfl⟩
    rcases closed?_eq_some_iff.mp closes with ⟨space, empty, shape⟩
    refine ⟨before ++ space ++ [']'], .bare ?_, ?_⟩
    · intro c member
      rcases List.mem_append.mp member with inside | inside
      · exact first c inside
      · exact empty c inside
    · rw [front, shape]
      simp

/-- A written tag is taken off whatever follows it. -/
theorem IsWritten.take?_append (written : tag.IsWritten) (rest : Text) :
    take? (tag.source ++ rest) = some (tag, rest) := by
  rcases written.marked with ⟨space, ending, empty, known, source⟩
  rcases known.exists_cons with ⟨c, more, ends, stops⟩
  have stripped : Text.stripStart (space ++ (tag.name ++ (ending ++ rest))) =
      tag.name ++ (ending ++ rest) := by
    rw [Text.stripStart_space empty]
    cases name : tag.name with
    | nil => exact absurd name written.named
    | cons d letters =>
        apply Text.stripStart_of_head
        exact isBlank_of_isWord (written.letters d (name ▸ List.mem_cons_self))
  have named : (tag.name ++ (ending ++ rest)).takeWhile isWord = tag.name := by
    rw [List.takeWhile_append_of_pos written.letters, ends, List.cons_append, List.takeWhile_cons, stops]
    simp
  have behind : (tag.name ++ (ending ++ rest)).dropWhile isWord = ending ++ rest := by
    rw [List.dropWhile_append_of_pos written.letters, ends, List.cons_append, List.dropWhile_cons, stops]
    rfl
  have whole : tag.source ++ rest = '#' :: '[' :: (space ++ (tag.name ++ (ending ++ rest))) := by
    rw [source]
    simp
  have front : (tag.source ++ rest).take ((tag.source ++ rest).length - rest.length) = tag.source := by
    rw [List.length_append, Nat.add_sub_cancel, List.take_left]
  rw [whole] at front ⊢
  rw [take?_marked, stripped, named, behind, argument?_append known, Option.map_some]
  simp only [front, List.isEmpty_iff, written.named, if_false]

theorem isWritten_of_take? (found : take? text = some (tag, rest)) : tag.IsWritten := by
  have whole := append_of_take? found
  unfold take? at found
  split at found
  · rename_i body
    dsimp only at found
    split at found
    · cases found
    · rename_i named
      rcases Option.map_eq_some_iff.mp found with ⟨⟨argument, after⟩, read, same⟩
      rcases Prod.mk.inj same with ⟨rfl, rfl⟩
      rcases exists_ending read with ⟨ending, known, shape⟩
      rcases Text.exists_stripStart body with ⟨space, empty, front⟩
      refine ⟨by simpa using named, fun c => List.all_eq_true.mp List.all_takeWhile c,
        space, ending, empty, known, ?_⟩
      apply (List.append_left_inj after).mp
      rw [← whole]
      have name := @List.takeWhile_append_dropWhile _ isWord (Text.stripStart body)
      rw [shape] at name
      simp only [List.cons_append, List.append_assoc]
      rw [name, ← front]
  · cases found

/-- The scanner takes off what a text begins with if and only if it is written like a tag. -/
theorem take?_eq_some_iff : take? text = some (tag, rest) ↔ tag.IsWritten ∧ text = tag.source ++ rest := by
  constructor
  · intro found
    exact ⟨isWritten_of_take? found, append_of_take? found⟩
  · rintro ⟨written, rfl⟩
    exact written.take?_append rest

/-- Whether no tag stands at either end of a text, with nothing but blanks outside of it. -/
structure IsUntagged (text : Text) : Prop where
  front : ∀ space tag rest, IsEmptySpace space → IsWritten tag → text ≠ space ++ (tag.source ++ rest)
  behind : ∀ before tag space, IsEmptySpace space → IsWritten tag → text ≠ before ++ (tag.source ++ space)

theorem IsWritten.exists_source (written : tag.IsWritten) : ∃ more, tag.source = '#' :: more := by
  rcases written.marked with ⟨space, ending, -, -, source⟩
  exact ⟨_, source⟩

/-- A written tag is found at the beginning behind any blanks. -/
theorem IsWritten.take?_stripStart (written : tag.IsWritten) {space : Text} (empty : IsEmptySpace space)
    (rest : Text) : take? (Text.stripStart (space ++ (tag.source ++ rest))) = some (tag, rest) := by
  rcases written.exists_source with ⟨more, source⟩
  have stripped : Text.stripStart (tag.source ++ rest) = tag.source ++ rest := by
    rw [source]
    exact Text.stripStart_of_head (by decide) _
  rw [Text.stripStart_space empty, stripped, written.take?_append]

/-- A written tag is found at the end before any blanks, unless an earlier one is. -/
theorem IsWritten.takeLast?_append (written : tag.IsWritten) {space : Text} (empty : IsEmptySpace space)
    (before : Text) : (takeLast? (before ++ (tag.source ++ space))).isSome = true := by
  rcases written.exists_source with ⟨more, source⟩
  have taken := written.take?_append space
  rw [source, List.cons_append] at taken
  have last := takeLast?_of_take? taken (List.all_eq_true.mpr empty)
  rw [source]
  exact WrittenTag.takeLast?_append before last

/-- Nothing can be taken off a text if and only if no tag stands at either end of it. -/
theorem peel?_eq_none_iff : peel? text = none ↔ IsUntagged text := by
  rw [peel?_eq_none]
  constructor
  · rintro ⟨no_first, no_last⟩
    constructor
    · rintro space tag rest empty written rfl
      rw [written.take?_stripStart empty] at no_first
      cases no_first
    · rintro before tag space empty written rfl
      have last := written.takeLast?_append empty before
      rw [no_last] at last
      cases last
  · intro untagged
    constructor
    · apply Option.eq_none_iff_forall_ne_some.mpr
      rintro ⟨tag, rest⟩ first
      rcases Text.exists_stripStart text with ⟨space, empty, front⟩
      rcases take?_eq_some_iff.mp first with ⟨written, shape⟩
      rw [shape] at front
      exact untagged.front space tag rest empty written front
    · apply Option.eq_none_iff_forall_ne_some.mpr
      rintro ⟨tag, before⟩ last
      rcases append_of_takeLast? last with ⟨space, shape, empty, taken⟩
      exact untagged.behind before tag space empty (isWritten_of_take? taken) shape

end WrittenTag

/-! ## Contacts of a split -/

namespace Account

/-- Whether a text is what may follow the mark of a contact: words of letters, digits, low lines
and hyphens with one space between neighbours. -/
def IsContactName (contact : Text) : Prop :=
  ∃ words, words ≠ [] ∧ (∀ word ∈ words, word ≠ [] ∧ ∀ c ∈ word, isNameChar c = true) ∧
    contact = Text.join [' '] words

theorem isContact_iff {contact : Text} : IsContact contact ↔ IsContactName contact := by
  constructor
  · rintro ⟨words, segment, same⟩
    cases words with
    | nil => cases segment
    | cons first rest =>
        rcases word_of_isSegment segment List.mem_cons_self with ⟨filled, -⟩
        rw [isSegment, Bool.and_eq_true, List.all_eq_true] at segment
        rcases segment with ⟨name, others⟩
        cases first with
        | nil => exact absurd rfl filled
        | cons c letters =>
            rw [Text.join_cons_letter] at same
            rcases List.cons.inj same with ⟨mark, rfl⟩
            rw [← mark, dropMark, if_pos (beq_self_eq_true _)] at name
            refine ⟨letters :: rest, List.cons_ne_nil _ _, ?_, rfl⟩
            intro word member
            rcases List.mem_cons.mp member with rfl | inside
            · exact isNameWord_iff.mp name
            · exact isNameWord_iff.mp (others word inside)
  · rintro ⟨words, filled, names, rfl⟩
    cases words with
    | nil => exact absurd rfl filled
    | cons first rest =>
        refine ⟨(contactMark :: first) :: rest, ?_, (Text.join_cons_letter _ _ _ _).symm⟩
        rw [isSegment, dropMark, if_pos (beq_self_eq_true _), Bool.and_eq_true, List.all_eq_true]
        constructor
        · exact isNameWord_iff.mpr (names first List.mem_cons_self)
        · intro word member
          exact isNameWord_iff.mpr (names word (List.mem_cons_of_mem _ member))

end Account

namespace SplitDirective

/-- Whether a split names contacts as they are written, an even one at least one of them and none
twice, and one that charges a contact only this one. -/
structure IsProper (directive : SplitDirective) : Prop where
  names : ∀ contact ∈ directive.contacts, Account.IsContactName contact
  even : directive.mode = .even → directive.contacts ≠ [] ∧ directive.contacts.Nodup
  charged : directive.mode = .charged → ∃ contact, directive.contacts = [contact]

theorem length_of_readParticipants {items contacts : List Text}
    (ok : readParticipants items = .ok contacts) : contacts.length = items.length := by
  induction items generalizing contacts with
  | nil =>
      rcases Except.ok.inj ok with rfl
      rfl
  | cons item rest ih =>
      rcases Outcome.bind_eq_ok.mp ok with ⟨name, -, ok⟩
      rcases Outcome.bind_eq_ok.mp ok with ⟨others, later, ok⟩
      rcases Except.ok.inj ok with rfl
      rw [List.length_cons, List.length_cons, ih later]

theorem isProper_of_ofText {argument : Text} {directive : SplitDirective}
    (ok : ofText argument = .ok directive) : directive.IsProper := by
  have names : ∀ contact ∈ directive.contacts, Account.IsContactName contact :=
    fun contact member => Account.isContact_iff.mp (isNormal_of_ofText ok contact member)
  rcases ofText_eq_ok ok with ⟨item, name, -, rfl⟩ | ⟨contacts, read, distinct, rfl⟩
  · refine ⟨names, ?_, fun _ => ⟨name, rfl⟩⟩
    rintro ⟨⟩
  · refine ⟨names, fun _ => ⟨?_, nodup_of_length_eraseDups distinct⟩, ?_⟩
    · -- There is a piece even where no comma stands.
      rintro rfl
      exact Text.splitWhen_ne_nil _ _ (List.length_eq_zero_iff.mp (length_of_readParticipants read).symm)
    · rintro ⟨⟩

end SplitDirective

/-! ## Descriptions -/

namespace Annotated

/-- Scanning a description is complete, and nothing is left for a second scan.  Whatever text is
scanned, its description has no tag at either end and no leading, trailing or doubled blank, it
is scanned to itself without a split and without days, and a split names proper contacts. -/
theorem scanned_completely {text : Text} {line : Option Nat} {annotated : Annotated}
    (ok : ofText text line = .ok annotated) :
    WrittenTag.IsUntagged annotated.description ∧ Text.IsTight annotated.description ∧
      (∀ other, ofText annotated.description other =
        .ok { description := annotated.description, split := none, dateOffset := 0 }) ∧
      ∀ directive, annotated.split = some directive → directive.IsProper := by
  rcases ofText_eq_ok ok with ⟨description, -, said⟩
  refine ⟨WrittenTag.peel?_eq_none_iff.mp description.untagged, ?_, description.ofText_eq, ?_⟩
  · rw [← description.collapsed]
    exact Text.isTight_collapse _
  · intro directive given
    rcases said directive given with ⟨argument, read⟩
    exact SplitDirective.isProper_of_ofText read

/-- Tags at both ends with more blanks than needed, and one in the middle that stays. -/
theorem taxi_scanned_completely :
    let text := "#[date(-1)]  Taxi #[home]  ride #[ split (@Anna, @Bank  of America) ] ".toList
    let annotated : Annotated :=
      { description := "Taxi #[home] ride".toList
        split := some ⟨.even, ["Anna".toList, "Bank of America".toList]⟩
        dateOffset := -1 }
    ofText text none = .ok annotated ∧
      WrittenTag.IsUntagged annotated.description ∧ Text.IsTight annotated.description ∧
      (∀ other, ofText annotated.description other =
        .ok { description := annotated.description, split := none, dateOffset := 0 }) ∧
      ∀ directive, annotated.split = some directive → directive.IsProper := by
  intro text annotated
  have ok : ofText text none = .ok annotated := by decide +kernel
  exact ⟨ok, scanned_completely ok⟩

end Annotated
end Daybook
