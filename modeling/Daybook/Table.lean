namespace Daybook

/-!
# Tables in insertion order

A table gives at most one value to a key and remembers in which order the keys
came in: a new value for a known key takes the old one's place, a key that was
erased and comes back is last.  Two tables agree when they give the same values
to the same keys, whatever the order.
-/

/-- Keys with their values, in the order in which the keys came in. -/
abbrev Table (κ : Type) (α : Type) := List (κ × α)

namespace Table

variable {κ α : Type} [DecidableEq κ]

def get? : Table κ α → κ → Option α
  | [], _ => none
  | (key, value) :: rest, wanted => if key = wanted then some value else get? rest wanted

def has (table : Table κ α) (key : κ) : Bool := (table.get? key).isSome

/-- Gives a value to a key: in its place if it is known, otherwise at the end. -/
def put : Table κ α → κ → α → Table κ α
  | [], key, value => [(key, value)]
  | (known, old) :: rest, key, value =>
    if known = key then (known, value) :: rest else (known, old) :: put rest key value

def erase : Table κ α → κ → Table κ α
  | [], _ => []
  | (known, old) :: rest, key =>
    if known = key then erase rest key else (known, old) :: erase rest key

def keys (table : Table κ α) : List κ := table.map (·.1)

def values (table : Table κ α) : List α := table.map (·.2)

/-- Whether two tables give related values to the same keys. -/
def agrees (related : α → α → Bool) (left right : Table κ α) : Bool :=
  left.length == right.length &&
    left.all fun entry =>
      match get? right entry.1 with
      | some value => related entry.2 value
      | none => false

/-- After a value is given to a key, the key has that value and the others have
theirs. -/
theorem get?_put (table : Table κ α) (key wanted : κ) (value : α) :
    (table.put key value).get? wanted = if key = wanted then some value else table.get? wanted := by
  induction table with
  | nil => simp [put, get?]
  | cons entry rest ih =>
    obtain ⟨known, old⟩ := entry
    by_cases same : known = key
    · subst same
      by_cases hit : known = wanted <;> simp [put, get?, hit]
    · by_cases hit : known = wanted
      · subst hit
        simp [put, get?, same, Ne.symm same]
      · simp [put, get?, same, hit, ih]

/-- An erased key has no value and the others have theirs. -/
theorem get?_erase (table : Table κ α) (key wanted : κ) :
    (table.erase key).get? wanted = if key = wanted then none else table.get? wanted := by
  induction table with
  | nil => simp [erase, get?]
  | cons entry rest ih =>
    obtain ⟨known, old⟩ := entry
    by_cases same : known = key
    · subst same
      by_cases hit : known = wanted <;> simp_all [erase, get?]
    · by_cases hit : known = wanted
      · subst hit
        simp [erase, get?, same, Ne.symm same]
      · simp [erase, get?, same, hit, ih]

/-- A key has a value exactly when it is among the keys. -/
theorem has_iff_mem_keys (table : Table κ α) (key : κ) :
    table.has key = true ↔ key ∈ table.keys := by
  induction table with
  | nil => simp [has, get?, keys]
  | cons entry rest ih =>
    obtain ⟨known, old⟩ := entry
    by_cases same : known = key
    · simp [has, get?, keys, same]
    · have : ¬ key = known := fun h => same h.symm
      simp only [has, get?, same, if_false, keys, List.map_cons, List.mem_cons, this, false_or]
      simpa [has, keys] using ih

end Table
end Daybook
