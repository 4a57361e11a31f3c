import Daybook.Table
import Mathlib.Data.List.Basic
import Mathlib.Data.List.Forall2
import Mathlib.Data.List.Perm.Subperm

namespace Daybook
namespace Table

/-!
# Tables and lists

Giving a value to a key and erasing one keep the keys distinct, and as long as
they are distinct, asking for a key answers with the entry that is listed.  Where a
list is not a table, repetitions are dropped from it by hand.  Two lists may also be related
place by place.
-/

variable {κ α : Type} [DecidableEq κ]

/-- A known key keeps its place, and a new one comes last. -/
theorem keys_put (table : Table κ α) (key : κ) (value : α) :
    (table.put key value).keys = if key ∈ table.keys then table.keys else table.keys ++ [key] := by
  induction table with
  | nil => rfl
  | cons entry rest ih =>
      rcases entry with ⟨known, old⟩
      by_cases same : known = key
      · simp [put, keys, same]
      · have whole : ∀ others : Table κ α, keys ((known, old) :: others) = known :: keys others := fun _ => rfl
        have elsewhere : key ∈ known :: keys rest ↔ key ∈ keys rest := by
          rw [List.mem_cons]
          exact or_iff_right (Ne.symm same)
        rw [put, if_neg same, whole, whole, ih, if_congr elsewhere rfl rfl]
        split <;> rfl

theorem mem_keys_put (table : Table κ α) (key wanted : κ) (value : α) :
    wanted ∈ (table.put key value).keys ↔ wanted = key ∨ wanted ∈ table.keys := by
  rw [keys_put]
  split
  · rename_i known
    exact ⟨Or.inr, fun member => member.elim (fun same => same ▸ known) id⟩
  · rw [List.mem_append, List.mem_singleton, or_comm]

theorem nodup_keys_put {table : Table κ α} (distinct : table.keys.Nodup) (key : κ) (value : α) :
    (table.put key value).keys.Nodup := by
  rw [keys_put]
  split
  · exact distinct
  · rename_i unknown
    refine List.nodup_append.mpr ⟨distinct, List.nodup_cons.mpr ⟨List.not_mem_nil, List.nodup_nil⟩, ?_⟩
    rintro known member other last rfl
    exact unknown (List.mem_singleton.mp last ▸ member)

theorem keys_erase_sublist (table : Table κ α) (key : κ) :
    (table.erase key).keys.Sublist table.keys := by
  induction table with
  | nil => exact List.Sublist.slnil
  | cons entry rest ih =>
      rcases entry with ⟨known, old⟩
      by_cases same : known = key
      · rw [erase, if_pos same]
        exact ih.cons known
      · rw [erase, if_neg same]
        exact ih.cons_cons known

theorem nodup_keys_erase {table : Table κ α} (distinct : table.keys.Nodup) (key : κ) :
    (table.erase key).keys.Nodup :=
  distinct.sublist (keys_erase_sublist table key)

/-- Among distinct keys, the value of a key is the listed one. -/
theorem get?_eq_some_iff {table : Table κ α} (distinct : table.keys.Nodup) (key : κ) (value : α) :
    table.get? key = some value ↔ (key, value) ∈ table := by
  induction table with
  | nil => simp [get?]
  | cons entry rest ih =>
      rcases entry with ⟨known, old⟩
      have parts := List.nodup_cons.mp distinct
      by_cases same : known = key
      · subst same
        have absent : (known, value) ∉ rest := by
          intro member
          exact parts.1 (List.mem_map.mpr ⟨(known, value), member, rfl⟩)
        simp [get?, absent, eq_comm]
      · have other : (key, value) ≠ (known, old) := fun equal => same (congrArg Prod.fst equal).symm
        rw [get?, if_neg same, List.mem_cons, ih parts.2]
        simp [other]

theorem mem_of_get? {table : Table κ α} {key : κ} {value : α} (found : table.get? key = some value) :
    (key, value) ∈ table := by
  induction table with
  | nil => simp [get?] at found
  | cons entry rest ih =>
      rcases entry with ⟨known, old⟩
      by_cases same : known = key
      · rw [get?, if_pos same] at found
        rw [← same, ← Option.some.inj found]
        exact List.mem_cons_self
      · rw [get?, if_neg same] at found
        exact List.mem_cons_of_mem _ (ih found)

theorem get?_eq_none_iff (table : Table κ α) (key : κ) : table.get? key = none ↔ key ∉ table.keys := by
  rw [← has_iff_mem_keys, has]
  simp

/-- Of two values given to one key only the second counts. -/
theorem put_put (table : Table κ α) (key : κ) (first second : α) :
    (table.put key first).put key second = table.put key second := by
  induction table with
  | nil => simp [put]
  | cons entry rest ih =>
      rcases entry with ⟨known, old⟩
      by_cases same : known = key
      · rw [put, put, if_pos same, if_pos same, put, if_pos same]
      · rw [put, put, if_neg same, if_neg same, put, if_neg same, ih]

/-- A new key comes last. -/
theorem put_of_not_mem {table : Table κ α} {key : κ} (absent : key ∉ table.keys) (value : α) :
    table.put key value = table ++ [(key, value)] := by
  induction table with
  | nil => rfl
  | cons entry rest ih =>
      rcases entry with ⟨known, old⟩
      have parts : key ≠ known ∧ key ∉ keys rest := by
        simpa [keys] using absent
      rw [put, if_neg (Ne.symm parts.1), ih parts.2, List.cons_append]

end Table

/-! ## Dropping repetitions -/

section Repetitions

variable {α : Type} [BEq α] [LawfulBEq α]

theorem nodup_eraseDups : ∀ elements : List α, elements.eraseDups.Nodup
  | [] => List.nodup_nil
  | first :: rest => by
      rw [List.eraseDups_cons, List.nodup_cons]
      refine ⟨?_, nodup_eraseDups _⟩
      simp [List.mem_eraseDups]
termination_by elements => elements.length
decreasing_by exact Nat.lt_succ_of_le (List.length_filter_le _ _)

/-- Without repetitions there is nothing to drop. -/
theorem eraseDups_of_nodup {elements : List α} (distinct : elements.Nodup) :
    elements.eraseDups = elements := by
  induction elements with
  | nil => rfl
  | cons first rest ih =>
      have parts := List.nodup_cons.mp distinct
      have others : (rest.filter fun other => !other == first) = rest := by
        refine List.filter_eq_self.mpr fun other member => ?_
        rw [Bool.not_eq_true', beq_eq_false_iff_ne]
        rintro rfl
        exact parts.1 member
      rw [List.eraseDups_cons, others, ih parts.2]

/-- A list that is as long without repetitions has none. -/
theorem nodup_of_length_eraseDups {elements : List α}
    (same : elements.eraseDups.length = elements.length) : elements.Nodup := by
  have part : elements.eraseDups ⊆ elements := fun _ => List.mem_eraseDups.mp
  have whole := ((nodup_eraseDups elements).subperm part).perm_of_length_le (Nat.le_of_eq same.symm)
  exact whole.nodup_iff.mp (nodup_eraseDups elements)

/-- Only the first occurrence of an element is kept. -/
theorem eraseDups_concat (elements : List α) (last : α) :
    (elements ++ [last]).eraseDups =
      if last ∈ elements then elements.eraseDups else elements.eraseDups ++ [last] := by
  rw [List.eraseDups_append]
  by_cases known : last ∈ elements
  · simp [List.removeAll, known]
  · simp [List.removeAll, known, List.eraseDups_cons]

/-- Of one element repeated, one is left. -/
theorem eraseDups_of_same {elements : List α} {element : α} (filled : elements ≠ [])
    (same : ∀ other ∈ elements, other = element) : elements.eraseDups = [element] := by
  rcases List.exists_cons_of_ne_nil filled with ⟨first, rest, rfl⟩
  rcases same first List.mem_cons_self with rfl
  have none_left : (rest.filter fun other => !other == first) = [] :=
    List.filter_eq_nil_iff.mpr fun other member => by
      simp [same other (List.mem_cons_of_mem first member)]
  rw [List.eraseDups_cons, none_left]
  rfl

/-- Dropping repetitions and choosing elements commute. -/
theorem eraseDups_filter (chosen : α → Bool) : ∀ elements : List α,
    (elements.filter chosen).eraseDups = elements.eraseDups.filter chosen
  | [] => rfl
  | first :: rest => by
      have others := eraseDups_filter chosen (rest.filter fun other => !other == first)
      rw [List.eraseDups_cons, List.filter_cons, List.filter_cons]
      cases kept : chosen first with
      | true =>
          rw [if_pos rfl, if_pos rfl, List.eraseDups_cons, ← others]
          simp only [List.filter_filter, Bool.and_comm]
      | false =>
          have same : (rest.filter fun other => !other == first).filter chosen = rest.filter chosen := by
            rw [List.filter_filter]
            refine List.filter_congr fun other _ => ?_
            by_cases equal : other = first
            · simp [equal, kept]
            · simp [equal]
          rw [if_neg Bool.false_ne_true, if_neg Bool.false_ne_true, ← others, same]
termination_by elements => elements.length
decreasing_by exact Nat.lt_succ_of_le (List.length_filter_le _ _)

/-- What is the same without repetitions stays so when such lists are joined. -/
theorem eraseDups_flatMap_congr {β : Type} {parts : List β} {left right : β → List α}
    (same : ∀ part ∈ parts, (left part).eraseDups = (right part).eraseDups) :
    (parts.flatMap left).eraseDups = (parts.flatMap right).eraseDups := by
  induction parts with
  | nil => rfl
  | cons part rest ih =>
      have here := same part List.mem_cons_self
      have later := ih fun other member => same other (List.mem_cons_of_mem part member)
      have among : ∀ element, element ∈ left part ↔ element ∈ right part := fun element => by
        rw [← List.mem_eraseDups, here, List.mem_eraseDups]
      have beside : (fun element => !(left part).elem element) = fun element => !(right part).elem element := by
        funext element
        rw [Bool.eq_iff_iff]
        simp [among]
      rw [List.flatMap_cons, List.flatMap_cons, List.eraseDups_append, List.eraseDups_append, here,
        List.removeAll, List.removeAll, eraseDups_filter, eraseDups_filter, later, beside]

end Repetitions

/-! ## Related lists -/

/-- In related lists, everything on the right is related to something on the left. -/
theorem exists_of_forall₂ {α β : Type} {R : α → β → Prop} {left : List α} {right : List β}
    (related : List.Forall₂ R left right) {b : β} (member : b ∈ right) : ∃ a ∈ left, R a b := by
  induction related with
  | nil => cases member
  | cons here later ih =>
      rcases List.mem_cons.mp member with rfl | inside
      · exact ⟨_, List.mem_cons_self, here⟩
      · rcases ih inside with ⟨a, among, relates⟩
        exact ⟨a, List.mem_cons_of_mem _ among, relates⟩

theorem forall₂_replicate {α β : Type} {R : α → β → Prop} {a : α} {b : β} (relates : R a b)
    (count : Nat) : List.Forall₂ R (List.replicate count a) (List.replicate count b) := by
  induction count with
  | zero => exact .nil
  | succ count ih => exact .cons relates ih

end Daybook
