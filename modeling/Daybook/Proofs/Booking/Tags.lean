import Daybook.Booking.Tags
import Daybook.Proofs.Account
import Daybook.Proofs.Outcome
import Daybook.Proofs.Text.Squeezed

namespace Daybook

/-!
# Descriptions have no tags left

A description is what remains when no tag can be taken off any more, with its blanks
collapsed.  Collapsing could bring a new tag about only if the rules for tags told
one blank from several; they do not, so a description is read as itself.
-/

open Unicode

namespace WrittenTag

open Text (Squeezed)

variable {text squeezed rest : Text}

/-! ## Tags in a collapsed text -/

theorem closed?_of_squeezed (related : Squeezed text squeezed) (found : closed? squeezed = some rest) :
    ∃ after, closed? text = some after ∧ Squeezed after rest := by
  unfold closed? at found
  split at found
  · rename_i inner shape
    rcases Option.some.inj found with rfl
    have stripped := related.stripStart
    rw [shape] at stripped
    rcases stripped.exists_of_cons (by decide) with ⟨after, equal, later⟩
    refine ⟨after, ?_, later⟩
    unfold closed?
    rw [equal]
    rfl
  · cases found

theorem argument?_enclosed {inner tail : Text} (opened : Text.stripStart text = '(' :: inner)
    (closing : inner.dropWhile isArgumentChar = ')' :: tail) :
    argument? text = (closed? tail).map fun rest => (some (inner.takeWhile isArgumentChar), rest) := by
  unfold argument?
  rw [opened]
  split
  · rename_i shape
    cases shape
    rw [closing]
    split
    · rename_i shape
      cases shape
      rfl
    · rename_i other_shape
      exact absurd rfl (other_shape tail)
  · rename_i other_shape
    exact absurd rfl (other_shape inner)

theorem argument?_of_squeezed {argument : Option Text} (related : Squeezed text squeezed)
    (found : argument? squeezed = some (argument, rest)) :
    ∃ other after, argument? text = some (other, after) ∧ Squeezed after rest := by
  have stripped := related.stripStart
  unfold argument? at found
  split at found
  · rename_i inner shape
    rw [shape] at stripped
    rcases stripped.exists_of_cons (by decide) with ⟨inner', equal, later⟩
    have blanks : ∀ c, isBlank c = true → isArgumentChar c = true := by
      intro c blank
      simp only [isArgumentChar, Bool.and_eq_true, bne_iff_ne]
      constructor
      all_goals
        rintro rfl
        revert blank
        decide
    have dropped := later.dropWhile_blank blanks
    split at found
    · rename_i tail shape'
      rw [shape'] at dropped
      rcases dropped.exists_of_cons (by decide) with ⟨tail', equal', final⟩
      rcases Option.map_eq_some_iff.mp found with ⟨found', ended, same⟩
      rcases Prod.mk.inj same with ⟨-, rfl⟩
      rcases closed?_of_squeezed final ended with ⟨after, closed, behind⟩
      refine ⟨some (inner'.takeWhile isArgumentChar), after, ?_, behind⟩
      rw [argument?_enclosed equal equal', closed]
      rfl
    · cases found
  · rename_i other not_open
    rcases Option.map_eq_some_iff.mp found with ⟨found', ended, same⟩
    rcases Prod.mk.inj same with ⟨-, rfl⟩
    rcases closed?_of_squeezed stripped ended with ⟨after, closed, behind⟩
    refine ⟨none, after, ?_, behind⟩
    unfold argument?
    split
    · rename_i inner shape
      rw [shape] at closed
      exact absurd closed (by simp [closed?, Text.stripStart, show isBlank '(' = false by decide])
    · rw [closed]
      rfl

/-- What is behind the marks of a tag. -/
theorem take?_marked (body : Text) :
    take? ('#' :: '[' :: body) =
      if ((Text.stripStart body).takeWhile isWord).isEmpty then none
      else
        (argument? ((Text.stripStart body).dropWhile isWord)).map fun (argument, rest) =>
          ({ name := (Text.stripStart body).takeWhile isWord
             argument
             source := ('#' :: '[' :: body).take (('#' :: '[' :: body).length - rest.length) },
            rest) := rfl

theorem take?_of_squeezed {tag : WrittenTag} (related : Squeezed text squeezed)
    (found : take? squeezed = some (tag, rest)) :
    ∃ other after, take? text = some (other, after) ∧ Squeezed after rest := by
  unfold take? at found
  split at found
  · rename_i body
    rcases related.exists_of_cons (by decide) with ⟨behind_mark, rfl, marked⟩
    rcases marked.exists_of_cons (by decide) with ⟨opened, rfl, bracketed⟩
    dsimp only at found
    rcases bracketed.stripStart.dropWhile_solid (fun c => isBlank_of_isWord) with ⟨same, dropped⟩
    split at found
    · cases found
    · rename_i named
      rcases Option.map_eq_some_iff.mp found with ⟨⟨argument, after⟩, read, same'⟩
      rcases Prod.mk.inj same' with ⟨-, rfl⟩
      rcases argument?_of_squeezed dropped read with ⟨other, after', read', behind⟩
      let tag : WrittenTag :=
        { name := (Text.stripStart opened).takeWhile isWord
          argument := other
          source := ('#' :: '[' :: opened).take (('#' :: '[' :: opened).length - after'.length) }
      refine ⟨tag, after', ?_, behind⟩
      rw [same] at named
      rw [take?_marked, if_neg named, read']
      rfl
  · cases found

theorem takeLast?_cons (c : Char) (found : (takeLast? text).isSome = true) :
    (takeLast? (c :: text)).isSome = true := by
  rw [takeLast?]
  split
  · rfl
  · rw [Option.isSome_map]
    exact found

theorem takeLast?_append (front : Text) (found : (takeLast? text).isSome = true) :
    (takeLast? (front ++ text)).isSome = true := by
  induction front with
  | nil => exact found
  | cons c more ih => exact takeLast?_cons c ih

theorem takeLast?_of_take? {c : Char} {tag : WrittenTag} {after : Text}
    (found : take? (c :: text) = some (tag, after)) (ends : Text.isBlankText after = true) :
    (takeLast? (c :: text)).isSome = true := by
  rw [takeLast?, found, Option.filter_some, if_pos ends]
  rfl

theorem takeLast?_of_squeezed (related : Squeezed text squeezed)
    (found : (takeLast? squeezed).isSome = true) : (takeLast? text).isSome = true := by
  induction related with
  | ended empty => cases found
  | @letter c text squeezed solid later ih =>
      rw [takeLast?] at found
      split at found
      · rename_i tag _ taken
        rcases Option.filter_eq_some_iff.mp taken with ⟨known, ends⟩
        obtain ⟨other, after, read, behind⟩ :=
          take?_of_squeezed (Squeezed.letter solid later) known
        exact takeLast?_of_take? read (behind.isBlankText ends)
      · rw [Option.isSome_map] at found
        exact takeLast?_cons c (ih found)
  | @gap c space text squeezed filled empty solid later ih =>
      have no_tag : take? (' ' :: c :: squeezed) = none := rfl
      rw [takeLast?, no_tag, Option.filter_none] at found
      dsimp only at found
      rw [Option.isSome_map, takeLast?] at found
      apply takeLast?_append
      split at found
      · rename_i tag _ taken
        rcases Option.filter_eq_some_iff.mp taken with ⟨known, ends⟩
        obtain ⟨other, after, read, behind⟩ :=
          take?_of_squeezed (Squeezed.letter solid later) known
        exact takeLast?_of_take? read (behind.isBlankText ends)
      · rw [Option.isSome_map] at found
        exact takeLast?_cons c (ih found)

theorem peel?_eq_none :
    peel? text = none ↔ take? (Text.stripStart text) = none ∧ takeLast? text = none := by
  unfold peel?
  cases take? (Text.stripStart text) <;> simp

/-- Collapsing brings no tag about. -/
theorem peel?_collapse (none_left : peel? text = none) : peel? (Text.collapse text) = none := by
  have related := Text.squeezed_collapse text
  rw [peel?_eq_none] at none_left ⊢
  rcases none_left with ⟨no_first, no_last⟩
  rw [(Text.isTrim_collapse text).stripStart_eq]
  constructor
  · apply Option.eq_none_iff_forall_ne_some.mpr
    rintro ⟨tag, rest⟩ front
    rcases take?_of_squeezed related front with ⟨other, after, read, -⟩
    rw [no_first] at read
    cases read
  · apply Option.not_isSome_iff_eq_none.mp
    intro found
    rcases Text.exists_stripStart text with ⟨space, -, equal⟩
    have last := takeLast?_append space (takeLast?_of_squeezed related found)
    rw [← equal, no_last] at last
    cases last

/-! ## What taking tags off leaves -/

theorem closed?_suffix (found : closed? text = some rest) : rest <:+ text := by
  unfold closed? at found
  split at found
  · rename_i inner shape
    rcases Option.some.inj found with rfl
    exact Text.suffix_of_dropWhile shape
  · cases found

theorem argument?_suffix {argument : Option Text} (found : argument? text = some (argument, rest)) :
    rest <:+ text := by
  unfold argument? at found
  split at found
  · rename_i inner shape
    split at found
    · rename_i tail dropped
      rcases Option.map_eq_some_iff.mp found with ⟨after, ended, same⟩
      rcases Prod.mk.inj same with ⟨-, rfl⟩
      exact ((closed?_suffix ended).trans (Text.suffix_of_dropWhile dropped)).trans
        (Text.suffix_of_dropWhile shape)
    · cases found
  · rcases Option.map_eq_some_iff.mp found with ⟨after, ended, same⟩
    rcases Prod.mk.inj same with ⟨-, rfl⟩
    exact (closed?_suffix ended).trans (List.dropWhile_suffix isBlank)

theorem take?_suffix {tag : WrittenTag} (found : take? text = some (tag, rest)) : rest <:+ text := by
  unfold take? at found
  split at found
  · rename_i body
    dsimp only at found
    split at found
    · cases found
    · rcases Option.map_eq_some_iff.mp found with ⟨⟨argument, after⟩, read, same⟩
      rcases Prod.mk.inj same with ⟨-, rfl⟩
      have inner := (argument?_suffix read).trans (List.dropWhile_suffix isWord)
      have opened := inner.trans (List.dropWhile_suffix isBlank)
      exact opened.trans ((List.suffix_cons _ _).trans (List.suffix_cons _ _))
  · cases found

theorem isPrefix_takeLast? {tag : WrittenTag} (found : takeLast? text = some (tag, rest)) :
    rest <+: text := by
  induction text generalizing tag rest with
  | nil => cases found
  | cons d more ih =>
      rw [takeLast?] at found
      split at found
      · rcases Prod.mk.inj (Option.some.inj found) with ⟨-, rfl⟩
        exact List.nil_prefix
      · rcases Option.map_eq_some_iff.mp found with ⟨⟨inner, before⟩, read, same⟩
        rcases Prod.mk.inj same with ⟨-, rfl⟩
        exact List.cons_prefix_cons.mpr ⟨rfl, ih read⟩

/-- What is left stands in the text. -/
theorem isInfix_peel? {tag : WrittenTag} (found : peel? text = some (tag, rest)) : rest <:+: text := by
  unfold peel? at found
  cases front : take? (Text.stripStart text) with
  | some taken =>
      rw [front, Option.orElse_some] at found
      rcases Option.some.inj found with rfl
      exact ((take?_suffix front).trans (List.dropWhile_suffix isBlank)).isInfix
  | none =>
      rw [front, Option.orElse_none] at found
      exact (isPrefix_takeLast? found).isInfix

end WrittenTag

/-! ## Contacts of a split -/

/-- Whether the contacts of a split are named in normal form. -/
def SplitDirective.IsNormal (directive : SplitDirective) : Prop :=
  ∀ contact ∈ directive.contacts, Account.IsContact contact

namespace SplitDirective

theorem isContact_of_readParticipant {item contact : Text} (ok : readParticipant item = .ok contact) :
    Account.IsContact contact := by
  unfold readParticipant at ok
  dsimp only at ok
  split at ok
  · rename_i participant
    rcases Except.ok.inj ok with rfl
    cases words : Text.words item with
    | nil =>
        rw [words] at participant
        cases participant
    | cons first rest =>
        rw [words, isParticipant, Bool.and_eq_true, Bool.and_eq_true, beq_iff_eq] at participant
        rcases participant with ⟨⟨marked, name⟩, others⟩
        rcases List.head?_eq_some_iff.mp marked with ⟨tail, rfl⟩
        refine ⟨(Account.contactMark :: tail) :: rest, ?_, ?_⟩
        · rw [Account.isSegment, Account.dropMark, if_pos (beq_self_eq_true _), others, Bool.and_true]
          exact name
        · cases rest with
          | nil => rfl
          | cons second more => rfl
  · cases ok

theorem isContact_of_readParticipants {items contacts : List Text}
    (ok : readParticipants items = .ok contacts) : ∀ contact ∈ contacts, Account.IsContact contact := by
  induction items generalizing contacts with
  | nil =>
      rcases Except.ok.inj ok with rfl
      exact fun _ member => by cases member
  | cons item rest ih =>
      rcases Outcome.bind_eq_ok.mp ok with ⟨name, read, ok⟩
      rcases Outcome.bind_eq_ok.mp ok with ⟨others, later, ok⟩
      rcases Except.ok.inj ok with rfl
      intro contact member
      rcases List.mem_cons.mp member with rfl | inside
      · exact isContact_of_readParticipant read
      · exact ih later contact inside

/-- A split charges the one contact that is named, or is even among as many contacts as there are
pieces between commas, all of them different. -/
theorem ofText_eq_ok {argument : Text} {directive : SplitDirective}
    (ok : ofText argument = .ok directive) :
    (∃ item name, readParticipant item = .ok name ∧ directive = ⟨.charged, [name]⟩) ∨
      ∃ contacts, readParticipants (Text.splitOn ',' (Text.strip argument)) = .ok contacts ∧
        contacts.eraseDups.length = contacts.length ∧ directive = ⟨.even, contacts⟩ := by
  unfold ofText at ok
  dsimp only at ok
  split at ok
  · split at ok
    · rcases Outcome.map_eq_ok.mp ok with ⟨name, read, rfl⟩
      exact Or.inl ⟨_, name, read, rfl⟩
    · cases ok
  · split at ok
    · cases ok
    · rcases Outcome.bind_eq_ok.mp ok with ⟨contacts, read, ok⟩
      split at ok
      · rename_i distinct
        exact Or.inr ⟨contacts, read, distinct, (Except.ok.inj ok).symm⟩
      · cases ok

theorem isNormal_of_ofText {argument : Text} {directive : SplitDirective}
    (ok : ofText argument = .ok directive) : directive.IsNormal := by
  rcases ofText_eq_ok ok with ⟨item, name, read, rfl⟩ | ⟨contacts, read, -, rfl⟩
  · intro contact member
    rw [List.mem_singleton.mp member]
    exact isContact_of_readParticipant read
  · exact isContact_of_readParticipants read

end SplitDirective

/-! ## Descriptions -/

namespace Annotated

/-- Whether a text is a description as it is printed: collapsed, without tags, and on
one line with nothing that begins a comment. -/
structure IsDescription (text : Text) : Prop where
  collapsed : Text.collapse text = text
  untagged : WrittenTag.peel? text = none

/-- A split comes from the argument of a tag. -/
theorem split_of_accept {line : Option Nat} {column : Nat} {progress next : Progress} {tag : WrittenTag}
    (ok : accept line column progress tag = .ok next) {directive : SplitDirective}
    (given : next.split = some directive) :
    progress.split = some directive ∨ ∃ argument, SplitDirective.ofText argument = .ok directive := by
  unfold accept at ok
  split at ok
  · split at ok
    · cases ok
    · split at ok
      · rename_i known read
        rcases Except.ok.inj ok with rfl
        rcases Option.some.inj given with rfl
        exact Or.inr ⟨_, read⟩
      · cases ok
  · split at ok
    · split at ok
      · cases ok
      · split at ok
        · cases ok
        · split at ok
          · rcases Except.ok.inj ok with rfl
            exact Or.inl given
          · cases ok
    · cases ok

/-- A tag is accepted wherever it stands. -/
theorem accept_anywhere {line : Option Nat} {column : Nat} {progress next : Progress} {tag : WrittenTag}
    (ok : accept line column progress tag = .ok next) (other : Option Nat) (place : Nat) :
    accept other place progress tag = .ok next := by
  unfold accept at ok ⊢
  split at ok
  · rename_i is_split
    rw [if_pos is_split]
    split at ok
    · cases ok
    · split at ok
      · exact ok
      · cases ok
  · rename_i not_split
    rw [if_neg not_split]
    split at ok
    · rename_i is_date
      rw [if_pos is_date]
      split at ok
      · cases ok
      · split at ok
        · cases ok
        · split at ok
          · exact ok
          · cases ok
    · cases ok

/-- What reading a description gives: a text that is a description, made of
characters of the line, and a split that the argument of a tag says. -/
theorem scan_eq_ok {whole remaining : Text} {line : Option Nat} {progress : Progress}
    {annotated : Annotated} (ok : scan whole line progress remaining = .ok annotated) :
    IsDescription annotated.description ∧
      (∀ c ∈ annotated.description, c = ' ' ∨ c ∈ remaining) ∧
      ∀ directive, annotated.split = some directive →
        progress.split = some directive ∨ ∃ argument, SplitDirective.ofText argument = .ok directive := by
  induction size : remaining.length using Nat.strongRecOn generalizing remaining progress with
  | ind n ih =>
      rw [scan] at ok
      split at ok
      · rename_i none_left
        rcases Except.ok.inj ok with rfl
        refine ⟨⟨Text.collapse_collapse remaining, WrittenTag.peel?_collapse none_left⟩, ?_,
          fun _ => Or.inl⟩
        intro c member
        exact (Text.mem_collapse member).imp_right And.left
      · rename_i tag rest found
        dsimp only at ok
        split at ok
        · rename_i next accepted
          have shorter := WrittenTag.length_peel?_lt found
          rcases ih rest.length (size ▸ shorter) ok rfl with ⟨description, part, said⟩
          refine ⟨description, fun c member => (part c member).imp_right
            fun inside => (WrittenTag.isInfix_peel? found).subset inside, ?_⟩
          intro directive given
          rcases said directive given with before | read
          · exact split_of_accept accepted before
          · exact Or.inr read
        · cases ok

theorem ofText_eq_ok {text : Text} {line : Option Nat} {annotated : Annotated}
    (ok : ofText text line = .ok annotated) :
    IsDescription annotated.description ∧ (∀ c ∈ annotated.description, c = ' ' ∨ c ∈ text) ∧
      ∀ directive, annotated.split = some directive →
        ∃ argument, SplitDirective.ofText argument = .ok directive := by
  rcases scan_eq_ok ok with ⟨description, part, said⟩
  exact ⟨description, part, fun directive given => (said directive given).resolve_left (by rintro ⟨⟩)⟩

/-- A description is read as itself. -/
theorem IsDescription.ofText_eq {text : Text} (description : IsDescription text) (line : Option Nat) :
    ofText text line = .ok { description := text } := by
  rw [ofText, scan]
  split
  · rw [description.collapsed]
    rfl
  · rename_i tag rest found
    rw [description.untagged] at found
    cases found

end Annotated
end Daybook
