import Daybook.Proofs.Booking.Tags
import Daybook.Proofs.Text.Standing

namespace Daybook

/-!
# Where a refused tag stands

Tags are taken off both ends of what remains of a description, and only the text of a tag is
known when it is refused.  Its column is that of the first place in the description where this
text stands.  What remains is always a part of the description, so the place of each tag that
is taken off is known all the same, and the column that is reported can be compared with it.
They differ exactly when the text of the tag stands somewhere before it, in an earlier tag or
in the middle of the description.
-/

open Unicode

namespace WrittenTag

variable {text rest : Text} {tag : WrittenTag}

/-! ## One tag -/

/-- A tag in front of a text is what is missing from the rest. -/
theorem append_of_take? (found : take? text = some (tag, rest)) : text = tag.source ++ rest := by
  have suffix := take?_suffix found
  have source : tag.source = text.take (text.length - rest.length) := by
    unfold take? at found
    split at found
    · dsimp only at found
      split at found
      · cases found
      · rcases Option.map_eq_some_iff.mp found with ⟨⟨argument, after⟩, -, same⟩
        rcases Prod.mk.inj same with ⟨rfl, rfl⟩
        rfl
    · cases found
  rcases suffix with ⟨front, rfl⟩
  rw [source, List.length_append, Nat.add_sub_cancel, List.take_left]

/-- The last tag is one, and only blanks stand behind it. -/
theorem append_of_takeLast? {before : Text} (found : takeLast? text = some (tag, before)) :
    ∃ space, text = before ++ (tag.source ++ space) ∧ Text.IsEmptySpace space ∧
      take? (tag.source ++ space) = some (tag, space) := by
  induction text generalizing before with
  | nil => cases found
  | cons c more ih =>
      rw [takeLast?] at found
      split at found
      · rename_i last behind taken
        rcases Prod.mk.inj (Option.some.inj found) with ⟨rfl, rfl⟩
        rcases Option.filter_eq_some_iff.mp taken with ⟨first, blank⟩
        have shape := append_of_take? first
        exact ⟨behind, shape, List.all_eq_true.mp blank, shape ▸ first⟩
      · rcases Option.map_eq_some_iff.mp found with ⟨⟨last, ahead⟩, read, same⟩
        rcases Prod.mk.inj same with ⟨rfl, rfl⟩
        rcases ih read with ⟨space, shape, known⟩
        exact ⟨space, congrArg (c :: ·) shape, known⟩

/-- The tag that is taken off a text with the offset at which it begins, and what is left with
the offset at which that begins: behind a tag in front, and where the text does otherwise. -/
def peelAt? (text : Text) : Option ((Nat × WrittenTag) × (Nat × Text)) :=
  match take? (Text.stripStart text) with
  | some (tag, rest) =>
    some (((text.takeWhile isBlank).length, tag), (text.length - rest.length, rest))
  | none => (takeLast? text).map fun (tag, before) => ((before.length, tag), (0, before))

/-- Offsets are all that is added. -/
theorem map_peelAt? (text : Text) :
    (peelAt? text).map (fun found => (found.1.2, found.2.2)) = peel? text := by
  unfold peelAt? peel?
  cases take? (Text.stripStart text) with
  | some taken => rfl
  | none =>
      cases takeLast? text with
      | some taken => rfl
      | none => rfl

variable {place onward : Nat}

theorem peel?_of_peelAt? (found : peelAt? text = some ((place, tag), (onward, rest))) :
    peel? text = some (tag, rest) := by
  rw [← map_peelAt?, found]
  rfl

/-- Both the tag and what is left stand where they are said to. -/
theorem standsAt_of_peelAt? (found : peelAt? text = some ((place, tag), (onward, rest))) :
    Text.StandsAt tag.source text place ∧ Text.StandsAt rest text onward := by
  unfold peelAt? at found
  split at found
  · rename_i front left taken
    rcases Option.some.inj found with ⟨⟩
    have shape := append_of_take? taken
    have stripped := Text.standsAt_stripStart text
    rcases (take?_suffix taken).trans (List.dropWhile_suffix isBlank) with ⟨ahead, whole⟩
    have offset : text.length - rest.length = ahead.length := by
      rw [← whole, List.length_append, Nat.add_sub_cancel]
    have behind : text.drop (text.length - rest.length) = rest := by
      rw [offset, ← whole, List.drop_left]
    exact ⟨stripped.of_begins (shape ▸ List.prefix_append _ _), Nat.sub_le _ _,
      behind.symm ▸ List.prefix_refl rest⟩
  · rcases Option.map_eq_some_iff.mp found with ⟨⟨last, before⟩, taken, same⟩
    rcases same with ⟨⟩
    rcases append_of_takeLast? taken with ⟨space, shape, -⟩
    refine ⟨⟨?_, ?_⟩, .ofPrefix (shape ▸ List.prefix_append _ _)⟩
    · rw [shape, List.length_append]
      exact Nat.le_add_right _ _
    · rw [shape, List.drop_left]
      exact List.prefix_append _ _

end WrittenTag

namespace Annotated

variable {line : Option Nat} {text remaining : Text} {progress next : Progress} {tag : WrittenTag}
  {start place column : Nat}

/-! ## The tags of a description -/

/-- The tags that are taken off what remains of a description, in order, each with its offset in
the description; what remains begins at the given one. -/
def occurrences (start : Nat) (remaining : Text) : List (Nat × WrittenTag) :=
  match _found : WrittenTag.peelAt? remaining with
  | none => []
  | some ((place, tag), (onward, rest)) =>
    (start + place, tag) :: occurrences (start + onward) rest
termination_by remaining.length
decreasing_by exact WrittenTag.length_peel?_lt (WrittenTag.peel?_of_peelAt? _found)

theorem occurrences_of_peelAt? {onward : Nat} {rest : Text}
    (found : WrittenTag.peelAt? remaining = some ((place, tag), (onward, rest))) :
    occurrences start remaining = (start + place, tag) :: occurrences (start + onward) rest := by
  rw [occurrences]
  split
  · rename_i none_left
    rw [none_left] at found
    cases found
  · rename_i known
    rw [known] at found
    rcases Option.some.inj found with ⟨⟩
    rfl

/-- Every tag stands in the description at its offset. -/
theorem standsAt_of_mem_occurrences (inside : Text.StandsAt remaining text start)
    (member : (place, tag) ∈ occurrences start remaining) : Text.StandsAt tag.source text place := by
  induction size : remaining.length using Nat.strongRecOn generalizing remaining start with
  | ind n ih =>
      cases found : WrittenTag.peelAt? remaining with
      | none =>
          rw [occurrences, found] at member
          cases member
      | some peeled =>
          rcases peeled with ⟨⟨offset, first⟩, onward, rest⟩
          have stands := WrittenTag.standsAt_of_peelAt? found
          have shorter := WrittenTag.length_peel?_lt (WrittenTag.peel?_of_peelAt? found)
          rw [occurrences_of_peelAt? found] at member
          rcases List.mem_cons.mp member with here | later
          · rcases Prod.mk.inj here with ⟨rfl, rfl⟩
            exact stands.1.trans inside
          · exact ih rest.length (size ▸ shorter) (stands.2.trans inside) later rfl

/-! ## The tag that is refused -/

/-- Takes in what tags say, in order, wherever they stand. -/
def acceptAll (line : Option Nat) : Progress → List (Nat × WrittenTag) → Outcome Progress
  | progress, [] => .ok progress
  | progress, (place, tag) :: rest => do
    acceptAll line (← accept line (place + 1) progress tag) rest

/-- Whether a tag at an offset of a description is the one that is refused for a cause: it is
taken off, the tags before it are accepted, and it is refused after them whatever its column. -/
def Refused (line : Option Nat) (text : Text) (cause : Cause) (place : Nat) (tag : WrittenTag) : Prop :=
  ∃ earlier later progress, occurrences 0 text = earlier ++ (place, tag) :: later ∧
    acceptAll line {} earlier = .ok progress ∧
    ∀ column, accept line column progress tag = .error (tagFault cause line column)

/-- A scan that fails does so at a tag, and the tags before it are accepted. -/
theorem scan_eq_error_at {whole : Text} {failure : Failure}
    (failed : scan whole line progress remaining = .error failure) (start : Nat) :
    ∃ earlier place tag later reached,
      occurrences start remaining = earlier ++ (place, tag) :: later ∧
      acceptAll line progress earlier = .ok reached ∧
      accept line ((Text.find? tag.source whole).getD 0 + 1) reached tag = .error failure := by
  induction size : remaining.length using Nat.strongRecOn generalizing remaining progress start with
  | ind n ih =>
      rw [scan] at failed
      split at failed
      · cases failed
      · rename_i tag rest found
        have shorter := WrittenTag.length_peel?_lt found
        rw [← WrittenTag.map_peelAt?] at found
        rcases Option.map_eq_some_iff.mp found with ⟨⟨⟨place, first⟩, onward, left⟩, peeled, same⟩
        rcases Prod.mk.inj same with ⟨rfl, rfl⟩
        rw [occurrences_of_peelAt? peeled]
        dsimp only at failed
        split at failed
        · rename_i next accepted
          rcases ih left.length (size ▸ shorter) failed (start + onward) rfl with
            ⟨earlier, place', tag', later, reached, shape, before, refused⟩
          refine ⟨(start + place, first) :: earlier, place', tag', later, reached,
            congrArg ((start + place, first) :: ·) shape, ?_, refused⟩
          exact Outcome.bind_eq_ok.mpr ⟨next, accept_anywhere accepted line _, before⟩
        · rename_i refusal refused
          rcases Except.error.inj failed with rfl
          exact ⟨[], start + place, first, _, progress, rfl, rfl, refused⟩

/-- A fault with a column is a fault of the tag itself, and has the column that is given. -/
theorem accept_eq_fault {fault : LedgerFault} {shown : Nat}
    (failed : accept line column progress tag = .error (.ledger fault))
    (placed : fault.column = some shown) :
    shown = column ∧ ∀ other, accept line other progress tag = .error (tagFault fault.cause line other) := by
  unfold accept at failed ⊢
  split at failed
  · rename_i is_split
    simp only [if_pos is_split]
    split at failed
    · cases failed
      exact ⟨(Option.some.inj placed).symm, fun _ => rfl⟩
    · split at failed
      · cases failed
      · cases failed
        cases placed
  · rename_i not_split
    simp only [if_neg not_split]
    split at failed
    · rename_i is_date
      simp only [if_pos is_date]
      split at failed
      · cases failed
        exact ⟨(Option.some.inj placed).symm, fun _ => rfl⟩
      · split at failed
        · cases failed
          exact ⟨(Option.some.inj placed).symm, fun _ => rfl⟩
        · split at failed
          · cases failed
          · cases failed
    · rename_i not_date
      simp only [if_neg not_date]
      cases failed
      exact ⟨(Option.some.inj placed).symm, fun _ => rfl⟩

/-- The column of a refused tag.  When a description is refused with a column, there is a tag
that is refused, and the column is that of the first place in the description where the text of
the tag stands.  It is the place of the tag itself if and only if its text stands nowhere
before it; otherwise the column lies too far left. -/
theorem column_of_refused_tag {fault : LedgerFault}
    (failed : ofText text line = .error (.ledger fault)) (placed : fault.column = some column) :
    ∃ place tag offset, Refused line text fault.cause place tag ∧
      Text.StandsAt tag.source text place ∧ Text.StandsAt tag.source text offset ∧
      column = offset + 1 ∧ offset ≤ place ∧
      (column = place + 1 ↔ ∀ earlier < place, ¬ Text.StandsAt tag.source text earlier) := by
  rcases scan_eq_error_at failed 0 with
    ⟨earlier, place, tag, later, progress, shape, before, refused⟩
  rcases accept_eq_fault refused placed with ⟨rfl, anywhere⟩
  have member : (place, tag) ∈ occurrences 0 text := shape ▸ List.mem_append_right _ List.mem_cons_self
  have stands := standsAt_of_mem_occurrences (.ofPrefix (List.prefix_refl text)) member
  rcases Text.exists_find?_le stands with ⟨offset, found, first⟩
  refine ⟨place, tag, offset, ⟨earlier, later, progress, shape, before, anywhere⟩, stands,
    Text.standsAt_of_find? found, ?_, first, ?_⟩
  · rw [found]
    rfl
  · rw [← Text.find?_eq_some_iff stands, found]
    simp

/-- A tag behind an accepted one and a description, refused at its place. -/
theorem column_of_unknown_tag :
    let text := "#[date(-1)] Dinner #[foo]".toList
    let fault : LedgerFault := { cause := .unknownTag "foo".toList, line := some 7, column := some 20 }
    ofText text (some 7) = .error (.ledger fault) ∧ fault.column = some 20 ∧
      ∃ place tag offset, Refused (some 7) text fault.cause place tag ∧
        Text.StandsAt tag.source text place ∧ Text.StandsAt tag.source text offset ∧
        20 = offset + 1 ∧ offset ≤ place ∧
        (20 = place + 1 ↔ ∀ earlier < place, ¬ Text.StandsAt tag.source text earlier) := by
  intro text fault
  have failed : ofText text (some 7) = .error (.ledger fault) := by decide +kernel
  exact ⟨failed, rfl, column_of_refused_tag failed rfl⟩

/-- A tag that is written twice in the same way is refused at its second place, and the column
is that of the first. -/
theorem repeated_tag_misplaced :
    let text := "#[date(1)] Taxi #[date(1)]".toList
    let tag : WrittenTag := ⟨"date".toList, some ['1'], "#[date(1)]".toList⟩
    occurrences 0 text = [(0, tag), (16, tag)] ∧ Refused none text (.repeatedTag .date) 16 tag ∧
      ofText text = .error (tagFault (.repeatedTag .date) none 1) := by
  intro text tag
  have tags : occurrences 0 text = [(0, tag), (16, tag)] := by decide +kernel
  have first : acceptAll none {} [(0, tag)] = .ok { offset := some 1 } := rfl
  exact ⟨tags, ⟨[(0, tag)], [], { offset := some 1 }, tags, first, fun _ => rfl⟩, by decide +kernel⟩

end Annotated
end Daybook
