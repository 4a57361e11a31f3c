import Daybook.Proofs.Currency.Registry
import Mathlib.Data.Char
import Mathlib.Data.List.Lex
import Mathlib.Data.List.Nodup

namespace Daybook

/-!
# Declaring the currencies of a ledger again

The currencies of a ledger, declared in the order in which they are printed, are never
in conflict with one another, although they were first declared in another order.
What must be known is that the aliases are codes, because any other alias is not
compared with the designators.  In the end the same currencies stand under the same
designators, in the order of printing.
-/

theorem Text.precedes_trans {first second third : Text} (left : precedes first second = true)
    (right : precedes second third = true) : precedes first third = true := by
  unfold precedes at *
  simp only [Bool.not_eq_true', decide_eq_false_iff_not, not_lt] at *
  exact le_trans left right

theorem Text.precedes_antisymm {left right : Text} (before : precedes left right = true)
    (behind : precedes right left = true) : left = right := by
  unfold precedes at *
  simp only [Bool.not_eq_true', decide_eq_false_iff_not, not_lt] at *
  exact le_antisymm before behind

theorem Text.precedes_total (left right : Text) : (precedes left right || precedes right left) = true := by
  unfold precedes
  simp only [Bool.or_eq_true, Bool.not_eq_true', decide_eq_false_iff_not, not_lt]
  exact le_total left right

namespace Registry

variable {registry : Registry}

/-! ## The currencies in order -/

theorem pairwise_toList (registry : Registry) :
    registry.toList.Pairwise fun left right => Text.precedes left.designator right.designator = true :=
  @List.pairwise_mergeSort Currency (fun left right => Text.precedes left.designator right.designator)
    (fun _ _ _ => Text.precedes_trans) (fun _ _ => Text.precedes_total _ _) _

theorem length_toList (registry : Registry) : registry.toList.length = registry.currencies.length := by
  rw [toList, List.length_mergeSort, Table.values, List.length_map]

namespace Coherent

theorem mem_toList (coherent : registry.Coherent) {currency : Currency} :
    currency ∈ registry.toList ↔ registry.currencies.get? currency.designator = some currency := by
  rw [toList, List.mem_mergeSort, Table.values, List.mem_map]
  constructor
  · rintro ⟨⟨designator, other⟩, member, rfl⟩
    have found := (Table.get?_eq_some_iff coherent.distinct designator other).mpr member
    rw [(coherent.own designator other found).1]
    exact found
  · intro found
    exact ⟨_, Table.mem_of_get? found, rfl⟩

theorem nodup_toList (coherent : registry.Coherent) : (registry.toList.map (·.designator)).Nodup := by
  have order := (List.mergeSort_perm registry.currencies.values fun left right =>
    Text.precedes left.designator right.designator).map (·.designator)
  rw [toList, order.nodup_iff]
  have keys : registry.currencies.values.map (·.designator) = registry.currencies.keys := by
    rw [Table.values, Table.keys, List.map_map]
    apply List.map_congr_left
    rintro ⟨designator, currency⟩ member
    exact (coherent.own designator currency
      ((Table.get?_eq_some_iff coherent.distinct designator currency).mpr member)).1
  rw [keys]
  exact coherent.distinct

/-- The order of the currencies does not depend on the order in which they came in. -/
theorem toList_congr (coherent : registry.Coherent) {other : Registry} (other_coherent : other.Coherent)
    (same : ∀ designator, registry.currencies.get? designator = other.currencies.get? designator) :
    registry.toList = other.toList := by
  have members : ∀ currency, currency ∈ registry.toList ↔ currency ∈ other.toList := by
    intro currency
    rw [coherent.mem_toList, other_coherent.mem_toList, same]
  have order : registry.toList.Perm other.toList :=
    (List.perm_ext_iff_of_nodup (List.Nodup.of_map _ coherent.nodup_toList)
      (List.Nodup.of_map _ other_coherent.nodup_toList)).mpr members
  refine order.eq_of_pairwise ?_ registry.pairwise_toList other.pairwise_toList
  intro left right here there before behind
  have designators := Text.precedes_antisymm before behind
  have found := coherent.mem_toList.mp here
  rw [designators, coherent.mem_toList.mp ((members right).mpr there)] at found
  exact (Option.some.inj found).symm

end Coherent

/-! ## One declaration after the other -/

/-- Whether a registry is what some currencies of another one give when they are
declared in order. -/
structure Redeclares (registry : Registry) (declared : List Currency) (again : Registry) : Prop where
  currencies : again.currencies = declared.map fun currency => (currency.designator, currency)
  aliases : ∀ code owner, again.aliases.get? code = some owner →
    ∃ currency ∈ declared, currency.designator = owner ∧ currency.code = some code
  bound : again.bound = []
  closed : again.closed = registry.closed

theorem redeclares_nil (registry : Registry) : registry.Redeclares [] { closed := registry.closed } :=
  ⟨rfl, by rintro code owner ⟨⟩, rfl, rfl⟩

namespace Redeclares

variable {again : Registry} {declared : List Currency}

theorem get?_eq (redeclares : registry.Redeclares declared again)
    (distinct : (declared.map (·.designator)).Nodup) (designator : Text) (currency : Currency) :
    again.currencies.get? designator = some currency ↔
      currency ∈ declared ∧ currency.designator = designator := by
  have keys : (again.currencies.keys).Nodup := by
    rw [redeclares.currencies, Table.keys, List.map_map]
    exact distinct
  rw [Table.get?_eq_some_iff keys, redeclares.currencies, List.mem_map]
  constructor
  · rintro ⟨other, member, same⟩
    rcases Prod.mk.inj same with ⟨rfl, rfl⟩
    exact ⟨member, rfl⟩
  · rintro ⟨member, rfl⟩
    exact ⟨currency, member, rfl⟩

theorem get?_eq_none (redeclares : registry.Redeclares declared again)
    {designator : Text} (absent : ∀ currency ∈ declared, currency.designator ≠ designator) :
    again.currencies.get? designator = none := by
  rw [Table.get?_eq_none_iff, redeclares.currencies, Table.keys, List.map_map]
  intro member
  rcases List.mem_map.mp member with ⟨currency, inside, same⟩
  exact absent currency inside same

/-- The next currency is in conflict with none. -/
theorem conflict?_eq_none (redeclares : registry.Redeclares declared again) (proper : registry.Proper)
    {currency : Currency} (fresh : ∀ other ∈ declared, other.designator ≠ currency.designator)
    (known : registry.currencies.get? currency.designator = some currency)
    (inside : ∀ other ∈ declared, registry.currencies.get? other.designator = some other)
    (letters : ∀ code, currency.code = some code → isCode code = true) :
    again.conflict? currency = none := by
  have claimed : ∀ code owner, again.aliases.get? code = some owner →
      registry.aliases.get? code = some owner := by
    intro code owner found
    rcases redeclares.aliases code owner found with ⟨other, member, rfl, given⟩
    exact proper.claimed _ other code (inside other member) given
  rw [conflict?_eq_none_iff]
  constructor
  · intro is_code
    cases found : again.aliases.get? currency.designator with
    | none => rfl
    | some owner =>
        have absent := proper.apart _ owner (claimed _ owner found) is_code
        rw [known] at absent
        cases absent
  · intro code given
    have own := proper.claimed _ currency code known given
    have unclaimed : again.aliases.get? code = none := by
      cases found : again.aliases.get? code with
      | none => rfl
      | some owner =>
          rcases redeclares.aliases code owner found with ⟨other, member, rfl, -⟩
          have same := claimed code _ found
          rw [own, Option.some.injEq] at same
          exact absurd same.symm (fresh other member)
    have no_designator : again.currencies.get? code = none := by
      apply redeclares.get?_eq_none
      rintro other member rfl
      have absent := proper.apart _ _ own (letters _ given)
      rw [inside other member] at absent
      cases absent
    rw [aliasOwner?, unclaimed, has, Table.has, no_designator]
    rfl

/-- Declaring the next currency. -/
theorem declare (redeclares : registry.Redeclares declared again) (proper : registry.Proper)
    {currency : Currency} (fresh : ∀ other ∈ declared, other.designator ≠ currency.designator)
    (known : registry.currencies.get? currency.designator = some currency)
    (inside : ∀ other ∈ declared, registry.currencies.get? other.designator = some other)
    (letters : ∀ code, currency.code = some code → isCode code = true)
    {declaration : Declaration} (same : declaration.currency = currency) :
    ∃ after, again.declare declaration = (.ok currency, after) ∧
      registry.Redeclares (declared ++ [currency]) after := by
  have absent := redeclares.get?_eq_none fresh
  have kept : again.withoutBinding currency.designator = again := by
    rw [withoutBinding, has, Table.has, absent]
    rfl
  have free := redeclares.conflict?_eq_none proper fresh known inside letters
  have new_key : currency.designator ∉ again.currencies.keys :=
    (Table.get?_eq_none_iff _ _).mp absent
  have declared_now : again.declare declaration = (.ok currency, again.adding currency) := by
    have declaring := @declare_of_free again declaration
    rw [same, kept] at declaring
    exact declaring absent free
  refine ⟨again.adding currency, declared_now, ?_, ?_, redeclares.bound, redeclares.closed⟩
  · rw [adding, Table.put_of_not_mem new_key, redeclares.currencies, List.map_append]
    rfl
  · intro code owner found
    rw [get?_aliases_adding] at found
    split at found
    · rename_i given
      exact ⟨currency, by simp, Option.some.inj found, given⟩
    · rcases redeclares.aliases code owner found with ⟨other, member, rest⟩
      exact ⟨other, List.mem_append_left _ member, rest⟩

/-- When all currencies are declared again, they stand where they stood. -/
theorem currencies_get? (redeclares : registry.Redeclares registry.toList again) (proper : registry.Proper)
    (designator : Text) : again.currencies.get? designator = registry.currencies.get? designator := by
  apply Option.ext
  intro currency
  rw [redeclares.get?_eq proper.coherent.nodup_toList, proper.coherent.mem_toList]
  constructor
  · rintro ⟨found, rfl⟩
    exact found
  · intro found
    have same := (proper.listed designator currency found).1
    rw [same]
    exact ⟨found, rfl⟩

/-- They also come in the same order. -/
theorem toList_eq (redeclares : registry.Redeclares registry.toList again) :
    again.toList = registry.toList := by
  have values : again.currencies.values = registry.toList := by
    rw [redeclares.currencies, Table.values, List.map_map]
    exact List.map_id _
  rw [toList, values]
  exact List.mergeSort_of_pairwise registry.pairwise_toList

end Redeclares
end Registry
end Daybook
