import Daybook.Currency.Registry
import Daybook.Proofs.Currency.Designator
import Daybook.Proofs.Table

namespace Daybook

/-!
# Names of currencies that fit together

The currencies and the aliases of a registry are two tables, and the bindings of first uses are
listed beside them.  Here it is said what keeps the three in step, with nothing asked of the
currencies themselves: every currency stands under its own designator in the form under which
designators are kept, aliases and the currencies that carry them name each other, and an alias
that is a code is no designator but perhaps that of its own currency.  A binding has no alias,
which is why it can be given up.

Three things change the tables: a binding is given up, a declared currency is added, and a
designator that is met is bound.  Each keeps them in step.
-/

open Unicode

/-- The currency of a designator that was met in an amount of some style. -/
def Currency.met (designator : Text) (style : Style) : Currency := { plain designator with style }

namespace Registry

/-! ## The changes -/

def adding (registry : Registry) (currency : Currency) : Registry :=
  { registry with
    currencies := registry.currencies.put currency.designator currency
    aliases :=
      match currency.code with
      | some code => registry.aliases.put code currency.designator
      | none => registry.aliases }

theorem get?_currencies_adding (registry : Registry) (currency : Currency) (designator : Text) :
    (registry.adding currency).currencies.get? designator =
      if currency.designator = designator then some currency
      else registry.currencies.get? designator :=
  Table.get?_put _ _ _ _

/-- A new currency takes no other one away. -/
theorem get?_currencies_adding_of_known {registry : Registry} {currency other : Currency} {designator : Text}
    (fresh : registry.currencies.get? currency.designator = none)
    (known : registry.currencies.get? designator = some other) :
    (registry.adding currency).currencies.get? designator = some other := by
  rw [get?_currencies_adding, if_neg, known]
  rintro rfl
  rw [fresh] at known
  cases known

theorem get?_aliases_adding (registry : Registry) (currency : Currency) (code : Text) :
    (registry.adding currency).aliases.get? code =
      if currency.code = some code then some currency.designator else registry.aliases.get? code := by
  unfold adding
  cases given : currency.code with
  | none => simp
  | some own => simp [Table.get?_put]

/-- A currency is in conflict with none if its designator is no alias and its own
alias is free. -/
theorem conflict?_eq_none_iff (registry : Registry) (currency : Currency) :
    registry.conflict? currency = none ↔
      (isCode currency.designator = true → registry.aliases.get? currency.designator = none) ∧
        ∀ code, currency.code = some code → registry.aliasOwner? code = none := by
  unfold conflict?
  by_cases letters : isCode currency.designator = true
  · cases claimed : registry.aliases.get? currency.designator with
    | none => cases given : currency.code <;> simp [letters, claimed]
    | some owner => simp [letters, claimed]
  · cases given : currency.code <;> simp [letters]

/-- Where there is no binding, there is none to give up. -/
theorem withoutBinding_of_not_mem {registry : Registry} {designator : Text}
    (absent : designator ∉ registry.bound) : registry.withoutBinding designator = registry := by
  rw [withoutBinding, if_neg]
  simp [absent]

theorem closed_withoutBinding (registry : Registry) (designator : Text) :
    (registry.withoutBinding designator).closed = registry.closed := by
  unfold withoutBinding
  split
  · rfl
  · rfl

theorem aliases_withoutBinding (registry : Registry) (designator : Text) :
    (registry.withoutBinding designator).aliases = registry.aliases := by
  unfold withoutBinding
  split
  · rfl
  · rfl

theorem get?_withoutBinding (registry : Registry) (designator wanted : Text) :
    (registry.withoutBinding designator).currencies.get? wanted =
      if designator = wanted ∧ designator ∈ registry.bound then none
      else registry.currencies.get? wanted := by
  unfold withoutBinding
  split
  · rename_i binding
    rw [Bool.and_eq_true, List.elem_eq_mem, decide_eq_true_eq] at binding
    rw [Table.get?_erase]
    by_cases same : designator = wanted
    · rw [if_pos same, if_pos ⟨same, binding.2⟩]
    · rw [if_neg same, if_neg fun both => same both.1]
  · rename_i no_binding
    split
    · rename_i both
      rcases both with ⟨rfl, bound⟩
      simpa [bound, has, Table.has] using no_binding
    · rfl

/-- Whether every designator that is bound has a currency. -/
def HasBound (registry : Registry) : Prop :=
  ∀ designator ∈ registry.bound, registry.has designator = true

/-- A designator that is given up is bound no longer. -/
theorem mem_bound_withoutBinding {registry : Registry} (known : registry.HasBound) (designator other : Text) :
    other ∈ (registry.withoutBinding designator).bound ↔ other ∈ registry.bound ∧ other ≠ designator := by
  unfold withoutBinding
  split
  · simp [List.mem_filter]
  · rename_i no_binding
    have different : other ∈ registry.bound → other ≠ designator := by
      rintro bound rfl
      simp [bound, known other bound] at no_binding
    exact ⟨fun bound => ⟨bound, different bound⟩, And.left⟩

/-- The registry with a currency of its own for a designator that was met. -/
def meeting (registry : Registry) (designator : Text) (style : Style) : Registry :=
  { registry with
    currencies := registry.currencies.put designator (.met designator style)
    bound := registry.bound ++ [designator] }

theorem get?_meeting (registry : Registry) (designator wanted : Text) (style : Style) :
    (registry.meeting designator style).currencies.get? wanted =
      if designator = wanted then some (.met designator style)
      else registry.currencies.get? wanted :=
  Table.get?_put _ _ _ _

/-- The designator of a text that names no currency is not taken. -/
theorem get?_of_unknown {registry : Registry} {token : Text} (unknown : registry.lookup? token = none) :
    registry.currencies.get? (normalDesignator token) = none := by
  unfold lookup? at unknown
  unfold normalDesignator
  cases exact_match : registry.currencies.get? token with
  | some currency =>
      rw [exact_match] at unknown
      cases unknown
  | none =>
      rw [exact_match] at unknown
      split
      · rename_i letters
        dsimp only at unknown
        rw [if_pos letters] at unknown
        cases found : registry.currencies.get? (upper token) with
        | some currency =>
            rw [found] at unknown
            cases unknown
        | none => rfl
      · exact exact_match

/-! ## Tables in step -/

/-- Whether the tables of a registry are in step. -/
structure Coherent (registry : Registry) : Prop where
  distinct : registry.currencies.keys.Nodup
  own : ∀ designator currency, registry.currencies.get? designator = some currency →
    currency.designator = designator ∧ normalDesignator designator = designator
  owned : ∀ code owner, registry.aliases.get? code = some owner → owner ≠ [] ∧
    ∃ currency, registry.currencies.get? owner = some currency ∧ currency.code = some code
  claimed : ∀ designator currency code, registry.currencies.get? designator = some currency →
    currency.code = some code → registry.aliases.get? code = some designator
  apart : ∀ code owner, registry.aliases.get? code = some owner → isCode code = true →
    registry.has code = true → code = owner
  bound : ∀ designator ∈ registry.bound,
    ∃ currency, registry.currencies.get? designator = some currency ∧ currency.code = none

theorem coherent_empty (closed : Bool) : Coherent { closed } := by
  refine ⟨List.nodup_nil, ?_, ?_, ?_, ?_, ?_⟩
  · rintro designator currency ⟨⟩
  · rintro code owner ⟨⟩
  · rintro designator currency code ⟨⟩
  · rintro code owner ⟨⟩
  · rintro designator ⟨⟩

namespace Coherent

variable {registry : Registry}

theorem withClosed (coherent : registry.Coherent) (closed : Bool) : (registry.withClosed closed).Coherent :=
  ⟨coherent.distinct, coherent.own, coherent.owned, coherent.claimed, coherent.apart, coherent.bound⟩

theorem hasBound (coherent : registry.Coherent) : registry.HasBound := by
  intro designator bound
  rcases coherent.bound designator bound with ⟨currency, found, -⟩
  rw [has, Table.has, found]
  rfl

/-- A designator that is bound has no alias, so no alias loses its currency. -/
theorem withoutBinding (coherent : registry.Coherent) (designator : Text) :
    (registry.withoutBinding designator).Coherent := by
  have known : ∀ wanted currency,
      (registry.withoutBinding designator).currencies.get? wanted = some currency →
        registry.currencies.get? wanted = some currency := by
    intro wanted currency found
    rw [get?_withoutBinding] at found
    split at found
    · cases found
    · exact found
  have still : ∀ wanted currency, registry.currencies.get? wanted = some currency →
      (designator = wanted → designator ∉ registry.bound) →
        (registry.withoutBinding designator).currencies.get? wanted = some currency := by
    intro wanted currency found other
    rw [get?_withoutBinding, if_neg fun both => other both.1 both.2, found]
  refine ⟨?_, fun wanted currency found => coherent.own wanted currency (known wanted currency found),
    ?_, ?_, ?_, ?_⟩
  · unfold Registry.withoutBinding
    split
    · exact Table.nodup_keys_erase coherent.distinct designator
    · exact coherent.distinct
  · rw [aliases_withoutBinding]
    intro code owner found
    rcases coherent.owned code owner found with ⟨filled, currency, owns, with_code⟩
    refine ⟨filled, currency, still owner currency owns ?_, with_code⟩
    rintro rfl bound
    rcases coherent.bound designator bound with ⟨first, listed, no_code⟩
    rw [owns, Option.some.injEq] at listed
    rw [← listed, with_code] at no_code
    cases no_code
  · rw [aliases_withoutBinding]
    exact fun wanted currency code found => coherent.claimed wanted currency code (known wanted currency found)
  · rw [aliases_withoutBinding]
    intro code owner found letters present
    rcases Option.isSome_iff_exists.mp present with ⟨currency, listed⟩
    refine coherent.apart code owner found letters ?_
    rw [has, Table.has, known code currency listed]
    rfl
  · intro other member
    have inside := (mem_bound_withoutBinding coherent.hasBound designator other).mp member
    rcases coherent.bound other inside.1 with ⟨currency, listed, no_code⟩
    exact ⟨currency, still other currency listed fun same => absurd same.symm inside.2, no_code⟩

/-- The aliases are those of the currencies. -/
theorem get?_aliases_iff (coherent : registry.Coherent) (code owner : Text) :
    registry.aliases.get? code = some owner ↔
      ∃ currency, registry.currencies.get? owner = some currency ∧ currency.code = some code :=
  ⟨fun found => (coherent.owned code owner found).2,
    fun ⟨currency, owns, with_code⟩ => coherent.claimed owner currency code owns with_code⟩

/-- A claimed alias has an owner. -/
theorem aliasOwner?_of_get? (coherent : registry.Coherent) {code owner : Text}
    (found : registry.aliases.get? code = some owner) : registry.aliasOwner? code = some owner := by
  have filled : owner.isEmpty = false := by
    simpa using (coherent.owned code owner found).1
  rw [aliasOwner?, found]
  dsimp only
  rw [filled, if_neg Bool.false_ne_true]

/-- An alias without an owner is neither claimed nor a designator. -/
theorem of_aliasOwner?_eq_none (coherent : registry.Coherent) {code : Text}
    (free : registry.aliasOwner? code = none) :
    registry.aliases.get? code = none ∧ registry.currencies.get? code = none := by
  cases found : registry.aliases.get? code with
  | some owner =>
      rw [coherent.aliasOwner?_of_get? found] at free
      cases free
  | none =>
      refine ⟨rfl, ?_⟩
      unfold aliasOwner? at free
      rw [found] at free
      dsimp only at free
      split at free
      · cases free
      · rename_i absent
        simpa [has, Table.has] using absent

/-- A new currency that is in conflict with none. -/
theorem put (coherent : registry.Coherent) {currency : Currency}
    (normal : normalDesignator currency.designator = currency.designator)
    (filled : currency.code ≠ none → currency.designator ≠ [])
    (fresh : registry.currencies.get? currency.designator = none)
    (free : registry.conflict? currency = none) :
    (registry.adding currency).Coherent := by
  rcases (registry.conflict?_eq_none_iff currency).mp free with ⟨not_alias, no_owner⟩
  have get_alias := registry.get?_aliases_adding currency
  refine ⟨Table.nodup_keys_put coherent.distinct _ _, ?_, ?_, ?_, ?_, ?_⟩
  · intro designator other found
    rw [get?_currencies_adding] at found
    split at found
    · rename_i same
      rw [← Option.some.inj found, ← same]
      exact ⟨rfl, normal⟩
    · exact coherent.own designator other found
  · intro code owner found
    rw [get_alias] at found
    split at found
    · rename_i given
      rw [← Option.some.inj found]
      exact ⟨filled (by rw [given]; exact Option.some_ne_none code),
        currency, by rw [get?_currencies_adding, if_pos rfl], given⟩
    · rcases coherent.owned code owner found with ⟨long, other, owns, with_code⟩
      exact ⟨long, other, get?_currencies_adding_of_known fresh owns, with_code⟩
  · intro designator other code found with_code
    rw [get?_currencies_adding] at found
    rw [get_alias]
    split at found
    · rename_i same
      rw [← Option.some.inj found] at with_code
      rw [if_pos with_code, same]
    · have claimed := coherent.claimed designator other code found with_code
      rw [if_neg, claimed]
      intro given
      rw [(coherent.of_aliasOwner?_eq_none (no_owner code given)).1] at claimed
      cases claimed
  · intro code owner found letters present
    rw [get_alias] at found
    rw [has, Table.has, get?_currencies_adding] at present
    split at present
    · -- The code is the designator of the new currency, so it can only be its own alias.
      rename_i same
      split at found
      · rw [← Option.some.inj found, same]
      · rw [← same, not_alias (same ▸ letters)] at found
        cases found
    · split at found
      · rename_i given
        rw [(coherent.of_aliasOwner?_eq_none (no_owner code given)).2] at present
        cases present
      · exact coherent.apart code owner found letters present
  · intro designator member
    rcases coherent.bound designator member with ⟨other, found, none_of_it⟩
    exact ⟨other, get?_currencies_adding_of_known fresh found, none_of_it⟩

/-- A first use binds a designator. -/
theorem meeting (coherent : registry.Coherent) {designator : Text} (style : Style)
    (normal : normalDesignator designator = designator)
    (fresh : registry.currencies.get? designator = none)
    (not_alias : isCode designator = true → registry.aliases.get? designator = none) :
    (registry.meeting designator style).Coherent := by
  have free : registry.conflict? (.met designator style) = none :=
    (registry.conflict?_eq_none_iff _).mpr ⟨not_alias, by rintro code ⟨⟩⟩
  have next := coherent.put normal (fun aliased => absurd rfl aliased) fresh free
  refine ⟨next.distinct, next.own, next.owned, next.claimed, next.apart, ?_⟩
  intro other member
  rcases List.mem_append.mp member with inside | inside
  · exact next.bound other inside
  · rw [List.mem_singleton.mp inside]
    exact ⟨_, by rw [get?_meeting, if_pos rfl], rfl⟩

/-! ## Looking up -/

/-- A text is looked up under its designator, and if it is a code then as an alias. -/
theorem lookup?_eq (coherent : registry.Coherent) (token : Text) :
    registry.lookup? token = (registry.currencies.get? (normalDesignator token)).or
      (if isCode token = true then
        (registry.aliases.get? (normalDesignator token)).bind registry.currencies.get?
      else none) := by
  unfold Registry.lookup?
  cases found : registry.currencies.get? token with
  | some currency =>
      rw [(coherent.own token currency found).2, found]
      rfl
  | none =>
      dsimp only
      unfold normalDesignator
      split
      · cases registry.currencies.get? (upper token) with
        | some currency => rfl
        | none => rfl
      · rw [found]
        rfl

/-- The designator of a text that names no currency is neither taken nor an alias. -/
theorem fresh_of_lookup? (coherent : registry.Coherent) {token : Text}
    (unknown : registry.lookup? token = none) :
    registry.currencies.get? (normalDesignator token) = none ∧
      (isCode (normalDesignator token) = true →
        registry.aliases.get? (normalDesignator token) = none) := by
  refine ⟨get?_of_unknown unknown, fun letters => ?_⟩
  rw [coherent.lookup?_eq, Option.or_eq_none_iff] at unknown
  cases claimed : registry.aliases.get? (normalDesignator token) with
  | none => rfl
  | some owner =>
      have code : isCode token = true := by
        by_contra other
        rw [normalDesignator, if_neg other] at letters
        exact other letters
      rcases coherent.owned _ owner claimed with ⟨-, currency, owns, -⟩
      rw [if_pos code, claimed, Option.bind_some, owns] at unknown
      cases unknown.2

end Coherent
end Registry
end Daybook
