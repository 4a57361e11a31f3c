import Daybook.Ledger.Entry
import Daybook.Proofs.Text.Squeezed

namespace Daybook
namespace Text

/-!
# Where passages stand

A place in a line is put together from offsets: of a segment in a path, of the path in what is
left of the line without its outer blanks, of that in the line.  A passage stands in a text at an
offset if the text goes on with the passage from there, and offsets of passages in passages add
up.  The offsets that are computed while a line is taken apart are all of this kind.
-/

open Unicode

/-- Whether a passage stands in a text at an offset. -/
structure StandsAt (passage text : Text) (offset : Nat) : Prop where
  inside : offset ≤ text.length
  begins : passage <+: text.drop offset

namespace StandsAt

variable {passage text whole : Text} {offset : Nat}

theorem ofPrefix (begins : passage <+: text) : StandsAt passage text 0 :=
  ⟨Nat.zero_le _, begins⟩

theorem nil (inside : offset ≤ text.length) : StandsAt [] text offset :=
  ⟨inside, List.nil_prefix⟩

theorem length_le (stands : StandsAt passage text offset) : offset + passage.length ≤ text.length := by
  have shorter := stands.begins.length_le
  have inside := stands.inside
  rw [List.length_drop] at shorter
  omega

/-- Offsets of passages in passages add up. -/
theorem trans {place : Nat} (inner : StandsAt passage text offset) (outer : StandsAt text whole place) :
    StandsAt passage whole (place + offset) := by
  have room := outer.length_le
  have inside := inner.inside
  refine ⟨by omega, ?_⟩
  rcases outer.begins with ⟨rest, shape⟩
  rw [← List.drop_drop, ← shape, List.drop_append_of_le_length inside]
  exact inner.begins.trans (List.prefix_append _ _)

/-- The beginning of a passage stands where the passage does. -/
theorem of_begins {beginning : Text} (begins : beginning <+: passage)
    (stands : StandsAt passage text offset) : StandsAt beginning text offset :=
  ⟨stands.inside, begins.trans stands.begins⟩

theorem cons (stands : StandsAt passage text offset) (c : Char) : StandsAt passage (c :: text) (offset + 1) :=
  ⟨Nat.succ_le_succ stands.inside, stands.begins⟩

end StandsAt

/-! ## Blanks -/

theorem isPrefix_stripEnd (text : Text) : stripEnd text <+: text := by
  rcases exists_stripEnd text with ⟨space, -, whole⟩
  exact ⟨space, whole.symm⟩

theorem standsAt_stripStart (text : Text) :
    StandsAt (stripStart text) text (text.takeWhile isBlank).length := by
  have whole : text.takeWhile isBlank ++ stripStart text = text := List.takeWhile_append_dropWhile
  constructor
  · exact (List.takeWhile_sublist _).length_le
  · have dropped : text.drop (text.takeWhile isBlank).length = stripStart text := by
      conv_lhs =>
        rhs
        rw [← whole]
      exact List.drop_left
    exact dropped ▸ List.prefix_refl _

/-- A text without its outer blanks stands behind the leading ones. -/
theorem standsAt_strip (text : Text) : StandsAt (strip text) text (text.takeWhile isBlank).length :=
  (standsAt_stripStart text).of_begins (isPrefix_stripEnd _)

/-! ## Pieces -/

/-- The pieces of a text stand where they are placed. -/
theorem standsAt_of_mem_placed {separates : Char → Bool} {text piece : Text} {start offset : Nat}
    (member : (offset, piece) ∈ placed start (splitWhen separates text)) :
    ∃ place, offset = start + place ∧ StandsAt piece text place := by
  induction text generalizing start offset piece with
  | nil =>
      rw [splitWhen, placed, placed, List.mem_singleton] at member
      rcases Prod.mk.inj member with ⟨rfl, rfl⟩
      exact ⟨0, rfl, .nil (Nat.le_refl _)⟩
  | cons c rest ih =>
      rw [splitWhen] at member
      split at member
      · rw [placed] at member
        rcases List.mem_cons.mp member with here | later
        · rcases Prod.mk.inj here with ⟨rfl, rfl⟩
          exact ⟨0, rfl, .nil (Nat.zero_le _)⟩
        · rcases ih later with ⟨place, rfl, stands⟩
          refine ⟨place + 1, ?_, stands.cons c⟩
          rw [List.length_nil]
          omega
      · cases pieces : splitWhen separates rest with
        | nil => exact absurd pieces (splitWhen_ne_nil _ _)
        | cons first others =>
            rw [pieces] at member ih
            rw [placed] at member
            rcases List.mem_cons.mp member with here | later
            · rcases Prod.mk.inj here with ⟨rfl, rfl⟩
              have here : (0, first) ∈ placed 0 (first :: others) := List.mem_cons_self
              rcases ih here with ⟨place, zero, stands⟩
              obtain rfl : place = 0 := by omega
              exact ⟨0, rfl, Nat.zero_le _, List.cons_prefix_cons.mpr ⟨rfl, stands.begins⟩⟩
            · rw [List.length_cons, ← Nat.add_assoc, Nat.add_right_comm start first.length 1] at later
              have among : (offset, piece) ∈ placed (start + 1) (first :: others) :=
                List.mem_cons_of_mem _ later
              rcases ih among with ⟨place, rfl, stands⟩
              exact ⟨place + 1, by omega, stands.cons c⟩

/-- The words of a text stand at their offsets. -/
theorem standsAt_of_mem_wordsAt {text : Text} {place : Nat × Text} (member : place ∈ wordsAt text) :
    StandsAt place.2 text place.1 := by
  rcases standsAt_of_mem_placed (List.mem_filter.mp member).1 with ⟨offset, same, stands⟩
  rw [Nat.zero_add] at same
  exact same ▸ stands

/-- A passage that is found stands where it is found. -/
theorem standsAt_of_find? {passage text : Text} {offset : Nat} (found : find? passage text = some offset) :
    StandsAt passage text offset := by
  induction text generalizing offset with
  | nil =>
      rw [find?] at found
      split at found
      · rename_i empty
        rw [← Option.some.inj found, List.isEmpty_iff.mp empty]
        exact .nil (Nat.le_refl _)
      · cases found
  | cons c rest ih =>
      rw [find?] at found
      split at found
      · rename_i begins
        rw [← Option.some.inj found]
        exact .ofPrefix (List.isPrefixOf_iff_prefix.mp begins)
      · rcases Option.map_eq_some_iff.mp found with ⟨place, later, rfl⟩
        exact (ih later).cons c

/-- A passage that stands in a text is found, at the first of its places. -/
theorem exists_find?_le {passage text : Text} {place : Nat} (stands : StandsAt passage text place) :
    ∃ offset, find? passage text = some offset ∧ offset ≤ place := by
  induction text generalizing place with
  | nil =>
      have empty : passage = [] := List.eq_nil_of_length_eq_zero
        (by have room := stands.length_le; rw [List.length_nil] at room; omega)
      exact ⟨0, by rw [empty]; rfl, Nat.zero_le _⟩
  | cons c rest ih =>
      rw [find?]
      by_cases begins : passage.isPrefixOf (c :: rest) = true
      · exact ⟨0, by rw [if_pos begins], Nat.zero_le _⟩
      · cases place with
        | zero => exact absurd (List.isPrefixOf_iff_prefix.mpr stands.begins) begins
        | succ earlier =>
            rcases ih ⟨Nat.le_of_succ_le_succ stands.inside, stands.begins⟩ with ⟨offset, found, first⟩
            exact ⟨offset + 1, by rw [if_neg begins, found]; rfl, Nat.succ_le_succ first⟩

/-- A passage is found where it stands unless it stands somewhere before. -/
theorem find?_eq_some_iff {passage text : Text} {place : Nat} (stands : StandsAt passage text place) :
    find? passage text = some place ↔ ∀ earlier < place, ¬ StandsAt passage text earlier := by
  rcases exists_find?_le stands with ⟨offset, found, first⟩
  constructor
  · intro here earlier before other
    rcases exists_find?_le other with ⟨sooner, found', least⟩
    rw [here] at found'
    rcases Option.some.inj found' with rfl
    omega
  · intro only
    rcases Nat.lt_or_eq_of_le first with before | rfl
    · exact absurd (standsAt_of_find? found) (only offset before)
    · exact found

end Text

/-! ## Postings -/

namespace PostingText

/-- The account of a posting stands at its beginning. -/
theorem isPrefix_account (body : Text) : (ofText body).account <+: body := by
  have before (start : Nat) : Text.stripEnd (body.take start) <+: body :=
    (Text.isPrefix_stripEnd _).trans (List.take_prefix _ _)
  unfold ofText
  dsimp only
  split
  · split
    · exact before _
    · split
      · exact before _
      · exact List.prefix_refl _
  · exact List.prefix_refl _

/-- The amount of a posting has no outer blanks and stands at its offset. -/
theorem money_stands {body text : Text} (written : (ofText body).money = some text) :
    Text.IsTrim text ∧ Text.StandsAt text body (ofText body).offset := by
  unfold ofText at written ⊢
  dsimp only at written ⊢
  split at written
  · rename_i codeStart code start number others words
    have all : ∀ place ∈ (Text.wordsAt body).reverse, place ∈ Text.wordsAt body :=
      fun place => List.mem_reverse.mp
    rw [words] at all
    split at written
    · rename_i amount
      rw [if_pos amount]
      rcases Option.some.inj written with rfl
      refine ⟨Text.isTrim_strip _, ?_⟩
      -- A word begins at the offset, so that nothing is stripped in front of it.
      have second := all _ (List.mem_cons_of_mem _ List.mem_cons_self)
      have stands := Text.standsAt_of_mem_wordsAt second
      have no_blank : ((body.drop start).takeWhile Unicode.isBlank).length = 0 := by
        have filled := (List.mem_filter.mp second).2
        have solid := Text.isSolid_of_mem_wordsAt second
        rcases stands.begins with ⟨rest, shape⟩
        cases number with
        | nil => cases filled
        | cons c more =>
            rw [← shape, List.cons_append, List.takeWhile_cons, solid c List.mem_cons_self]
            rfl
      have inner := Text.standsAt_strip (body.drop start)
      rw [no_blank] at inner
      exact inner.trans ⟨stands.inside, List.prefix_refl _⟩
    · rename_i no_amount
      rw [if_neg no_amount]
      split at written
      · rename_i digits
        rw [if_pos digits]
        rcases Option.some.inj written with rfl
        have last := all _ List.mem_cons_self
        exact ⟨(Text.isSolid_of_mem_wordsAt last).isTrim, Text.standsAt_of_mem_wordsAt last⟩
      · cases written
  · cases written

end PostingText
end Daybook
