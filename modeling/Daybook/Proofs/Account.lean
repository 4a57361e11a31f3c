import Daybook.Account
import Daybook.Proofs.Outcome
import Daybook.Proofs.Text.Lines
import Daybook.Proofs.Unicode.Classes

namespace Daybook
namespace Account

/-!
# Paths of accounts are read back

Reading the path of an account normalizes the blanks around and within its segments.
A path in normal form is read as it stands, and both what is read and what a split
makes up for a contact is in normal form.
-/

open Unicode

theorem isBlank_of_isNameChar {c : Char} (letter : isNameChar c = true) : isBlank c = false := by
  rw [isNameChar, Bool.or_eq_true, beq_iff_eq] at letter
  rcases letter with word | rfl
  · exact isBlank_of_isWord word
  · decide

def isSegmentChar (c : Char) : Bool := isNameChar c || c == contactMark

theorem isBlank_of_isSegmentChar {c : Char} (letter : isSegmentChar c = true) : isBlank c = false := by
  rw [isSegmentChar, Bool.or_eq_true, beq_iff_eq] at letter
  rcases letter with name | rfl
  · exact isBlank_of_isNameChar name
  · decide

theorem isNameWord_iff {word : Text} :
    isNameWord word = true ↔ word ≠ [] ∧ ∀ c ∈ word, isNameChar c = true := by
  simp [isNameWord]

theorem mem_dropMark {word : Text} {c : Char} (member : c ∈ word) :
    c = contactMark ∨ c ∈ dropMark word := by
  cases word with
  | nil => cases member
  | cons d rest =>
      rw [dropMark]
      split
      · rename_i mark
        rw [beq_iff_eq] at mark
        rcases List.mem_cons.mp member with rfl | inside
        · exact Or.inl mark
        · exact Or.inr inside
      · exact Or.inr member

/-- The words of a segment are words, and no character in them is a separator. -/
theorem word_of_isSegment {words : List Text} (segment : isSegment words = true) {word : Text}
    (member : word ∈ words) : word ≠ [] ∧ ∀ c ∈ word, isSegmentChar c = true := by
  cases words with
  | nil => cases member
  | cons first rest =>
      rw [isSegment, Bool.and_eq_true, isNameWord_iff, List.all_eq_true] at segment
      rcases segment with ⟨⟨filled, letters⟩, others⟩
      rcases List.mem_cons.mp member with rfl | inside
      · refine ⟨?_, ?_⟩
        · rintro rfl
          exact filled rfl
        · intro c among
          rw [isSegmentChar, Bool.or_eq_true, beq_iff_eq]
          rcases mem_dropMark among with mark | letter
          · exact Or.inr mark
          · exact Or.inl (letters c letter)
      · rcases isNameWord_iff.mp (others word inside) with ⟨some_letter, each⟩
        refine ⟨some_letter, fun c among => ?_⟩
        rw [isSegmentChar, each c among, Bool.true_or]

def IsSegmentText (segment : Text) : Prop :=
  ∃ words, isSegment words = true ∧ segment = Text.join [' '] words

namespace IsSegmentText

variable {segment : Text}

theorem words_eq {words : List Text} (each : isSegment words = true) :
    Text.words (Text.join [' '] words) = words :=
  Text.words_join fun _ member => ⟨(word_of_isSegment each member).1, fun c inside =>
    isBlank_of_isSegmentChar ((word_of_isSegment each member).2 c inside)⟩

theorem mem (known : IsSegmentText segment) {c : Char} (member : c ∈ segment) :
    c = ' ' ∨ isSegmentChar c = true := by
  rcases known with ⟨words, each, rfl⟩
  rcases Text.mem_join member with space | ⟨word, among, inside⟩
  · exact Or.inl (List.mem_singleton.mp space)
  · exact Or.inr ((word_of_isSegment each among).2 c inside)

theorem stroke_not_mem (known : IsSegmentText segment) : stroke ∉ segment := by
  intro inside
  rcases known.mem inside with space | letter
  · cases space
  · revert letter
    decide

theorem ne_nil (known : IsSegmentText segment) : segment ≠ [] := by
  rcases known with ⟨words, each, rfl⟩
  apply Text.join_ne_nil
  · rintro rfl
    cases each
  · exact fun word member => (word_of_isSegment each member).1

theorem isTrim (known : IsSegmentText segment) : Text.IsTrim segment := by
  rcases known with ⟨words, each, rfl⟩
  apply Text.isTrim_join
  intro word member
  rcases word_of_isSegment each member with ⟨filled, letters⟩
  have solid : Text.IsSolid word := fun c inside => isBlank_of_isSegmentChar (letters c inside)
  exact ⟨filled, solid.isTrim⟩

end IsSegmentText

/-- A path made of segments is split into them. -/
theorem segments_join {segments : List Text} (filled : segments ≠ [])
    (each : ∀ segment ∈ segments, IsSegmentText segment) :
    Text.splitOn stroke (Text.join [stroke] segments) = segments :=
  Text.splitOn_join filled fun segment member => (each segment member).stroke_not_mem

/-! ## Reading -/

/-- Pieces are read if and only if the words of each make a segment, and each segment is the
piece with its blanks collapsed. -/
theorem readSegments_eq_ok_iff {path : Text} {line : Option Nat} {column : Nat}
    {raws segments : List Text} :
    readSegments path line column raws = .ok segments ↔
      (∀ raw ∈ raws, isSegment (Text.words raw) = true) ∧ segments = raws.map Text.collapse := by
  induction raws generalizing column segments with
  | nil =>
      constructor
      · rintro ⟨⟩
        exact ⟨fun _ => (by simp), rfl⟩
      · rintro ⟨-, rfl⟩
        rfl
  | cons raw rest ih =>
      rw [readSegments]
      by_cases segment : isSegment (Text.words raw) = true
      · rw [if_pos segment, Outcome.map_eq_ok]
        simp only [ih, List.forall_mem_cons, segment, true_and, List.map_cons, Text.collapse]
        constructor
        · rintro ⟨others, ⟨later, rfl⟩, rfl⟩
          exact ⟨later, rfl⟩
        · rintro ⟨later, rfl⟩
          exact ⟨_, ⟨later, rfl⟩, rfl⟩
      · rw [if_neg segment]
        constructor
        · rintro ⟨⟩
        · rintro ⟨each, -⟩
          exact absurd (each raw List.mem_cons_self) segment

/-- A path is read if and only if the words of each of its pieces make a segment, and the account
is made of the collapsed pieces. -/
theorem ofText_eq_ok_iff {text : Text} {line : Option Nat} {column : Nat} {account : Account} :
    ofText text line column = .ok account ↔
      (∀ raw ∈ Text.splitOn stroke text, isSegment (Text.words raw) = true) ∧
        account = ⟨Text.join [stroke] ((Text.splitOn stroke text).map Text.collapse)⟩ := by
  rw [ofText, Outcome.map_eq_ok]
  simp only [readSegments_eq_ok_iff]
  constructor
  · rintro ⟨segments, ⟨each, rfl⟩, rfl⟩
    exact ⟨each, rfl⟩
  · rintro ⟨each, rfl⟩
    exact ⟨_, ⟨each, rfl⟩, rfl⟩

def IsNormal (account : Account) : Prop :=
  ∃ segments, segments ≠ [] ∧ (∀ segment ∈ segments, IsSegmentText segment) ∧
    account.name = Text.join [stroke] segments

namespace IsNormal

variable {account : Account}

theorem mem (normal : account.IsNormal) {c : Char} (member : c ∈ account.name) :
    c = ' ' ∨ c = stroke ∨ isSegmentChar c = true := by
  rcases normal with ⟨segments, -, each, equal⟩
  rw [equal] at member
  rcases Text.mem_join member with mark | ⟨segment, among, inside⟩
  · exact Or.inr (Or.inl (List.mem_singleton.mp mark))
  · rcases (each segment among).mem inside with space | letter
    · exact Or.inl space
    · exact Or.inr (Or.inr letter)

theorem ne_nil (normal : account.IsNormal) : account.name ≠ [] := by
  rcases normal with ⟨segments, some_segment, each, equal⟩
  rw [equal]
  exact Text.join_ne_nil some_segment fun segment member => (each segment member).ne_nil

theorem isTrim (normal : account.IsNormal) : Text.IsTrim account.name := by
  rcases normal with ⟨segments, -, each, equal⟩
  rw [equal]
  exact Text.isTrim_join fun segment member => ⟨(each segment member).ne_nil, (each segment member).isTrim⟩

theorem not_mem_commentMark (normal : account.IsNormal) : ';' ∉ account.name := by
  intro member
  rcases normal.mem member with equal | equal | letter
  · cases equal
  · cases equal
  · revert letter
    decide

theorem isLine (normal : account.IsNormal) : Text.IsLine account.name := by
  intro c member
  rcases normal.mem member with rfl | rfl | letter
  · decide
  · decide
  · exact Text.not_isLineBreak_of_not_isBlank (isBlank_of_isSegmentChar letter)

/-- A path in normal form is read as it stands. -/
theorem ofText_name (normal : account.IsNormal) (line : Option Nat) (column : Nat) :
    ofText account.name line column = .ok account := by
  rcases normal with ⟨segments, some_segment, each, equal⟩
  have words (segment : Text) (member : segment ∈ segments) :
      isSegment (Text.words segment) = true ∧ Text.collapse segment = segment := by
    rcases each segment member with ⟨words, known, rfl⟩
    rw [Text.collapse, IsSegmentText.words_eq known]
    exact ⟨known, rfl⟩
  have collapsed : segments.map Text.collapse = segments :=
    (List.map_congr_left fun segment member => (words segment member).2).trans (List.map_id segments)
  apply ofText_eq_ok_iff.mpr
  rw [equal, segments_join some_segment each, collapsed, ← equal]
  exact ⟨fun segment member => (words segment member).1, rfl⟩

end IsNormal

/-! ## What is in normal form -/

theorem isSegmentText_collapse {raw : Text} (segment : isSegment (Text.words raw) = true) :
    IsSegmentText (Text.collapse raw) := ⟨Text.words raw, segment, rfl⟩

/-- What a path is read as is made of the collapsed pieces, which are segments. -/
theorem segments_of_ofText {text : Text} {line : Option Nat} {column : Nat} {account : Account}
    (ok : ofText text line column = .ok account) :
    ∃ segments, segments = (Text.splitOn stroke text).map Text.collapse ∧ segments ≠ [] ∧
      (∀ segment ∈ segments, IsSegmentText segment) ∧ account.name = Text.join [stroke] segments := by
  rcases ofText_eq_ok_iff.mp ok with ⟨each, rfl⟩
  refine ⟨_, rfl, ?_, ?_, rfl⟩
  · exact mt List.map_eq_nil_iff.mp (Text.splitWhen_ne_nil _ _)
  · intro segment member
    rcases List.mem_map.mp member with ⟨raw, inside, rfl⟩
    exact isSegmentText_collapse (each raw inside)

theorem isNormal_of_ofText {text : Text} {line : Option Nat} {column : Nat} {account : Account}
    (ok : ofText text line column = .ok account) : account.IsNormal := by
  rcases segments_of_ofText ok with ⟨segments, -, filled, each, name⟩
  exact ⟨segments, filled, each, name⟩

/-- Whether a name with the mark of a contact is a segment in normal form. -/
def IsContact (contact : Text) : Prop := IsSegmentText (contactMark :: contact)

theorem isSegmentText_of_isNameWord {word : Text} (name : isNameWord (dropMark word) = true) :
    IsSegmentText word :=
  ⟨[word], by rw [isSegment, name]; rfl, rfl⟩

theorem isNormal_ofContact {root contact leaf : Text} (first : isNameWord (dropMark root) = true)
    (known : IsContact contact) (last : isNameWord (dropMark leaf) = true) :
    (ofContact root contact leaf).IsNormal := by
  refine ⟨[root, contactMark :: contact, leaf], List.cons_ne_nil _ _, ?_, rfl⟩
  intro segment member
  simp only [List.mem_cons, List.not_mem_nil, or_false] at member
  rcases member with rfl | rfl | rfl
  · exact isSegmentText_of_isNameWord first
  · exact known
  · exact isSegmentText_of_isNameWord last

/-- The account of a contact behind an unmarked segment names the contact. -/
theorem contact?_ofContact {root contact leaf : Text} (first : isNameWord (dropMark root) = true)
    (unmarked : markedName? root = none) (known : IsContact contact)
    (last : isNameWord (dropMark leaf) = true) : (ofContact root contact leaf).contact? = some contact := by
  have each : ∀ segment ∈ [root, contactMark :: contact, leaf], IsSegmentText segment := by
    simpa using ⟨isSegmentText_of_isNameWord first, known, isSegmentText_of_isNameWord last⟩
  rw [contact?, segments, ofContact, segments_join (List.cons_ne_nil _ _) each, List.findSome?_cons,
    unmarked]
  rfl

/-- The accounts that a split may post to for a contact: for what the contact owes, and for what
is owed to the contact. -/
def contactAccounts (contact : Text) : List Account :=
  [ofContact "asset".toList contact "receivable".toList,
    ofContact "liability".toList contact "payable".toList]

/-- Both accounts of a contact are in normal form and name the contact. -/
theorem normal_of_mem_contactAccounts {contact : Text} (known : IsContact contact) {account : Account}
    (member : account ∈ contactAccounts contact) :
    account.IsNormal ∧ account.contact? = some contact := by
  rcases List.mem_cons.mp member with rfl | member
  · exact ⟨isNormal_ofContact (by decide) known (by decide),
      contact?_ofContact (by decide) rfl known (by decide)⟩
  · rcases List.mem_singleton.mp member with rfl
    exact ⟨isNormal_ofContact (by decide) known (by decide),
      contact?_ofContact (by decide) rfl known (by decide)⟩

end Account
end Daybook
