import Daybook.Proofs.Currency.Calls

namespace Daybook

/-!
# Names of currencies are unambiguous

As long as declarations name currencies by symbols and codes and give them codes as aliases,
every name leads to one currency, whatever else is called in between and whichever calls fail.
The tables stay in step, and every alias is a code in upper case.  That is why it does no harm
that a text is first looked up as it stands: a code that is a designator is in upper case, so
nothing else could be found under its upper case.

The alias has to be a code after it is put into upper case, since only then is it compared with
designators that are declared later.

A text is compared with the aliases by its upper case, and not every spelling of an alias has the
same one: the upper case of `groß` is `GROSS`, so that the alias `GROẞ` is not found under it.
-/

open Unicode

/-- Whether a declaration names its currency by a symbol or a code, with a code as its alias. -/
structure Declaration.IsNamed (declaration : Declaration) : Prop where
  designator : isSymbol declaration.designator = true ∨ isCode declaration.designator = true
  code : ∀ code ∈ declaration.code, isCode code = true ∧ isCode (upper code) = true

instance (declaration : Declaration) : Decidable declaration.IsNamed :=
  decidable_of_iff
    ((isSymbol declaration.designator = true ∨ isCode declaration.designator = true) ∧
      ∀ code ∈ declaration.code, isCode code = true ∧ isCode (upper code) = true)
    ⟨fun both => ⟨both.1, both.2⟩, fun named => ⟨named.designator, named.code⟩⟩

namespace Registry

/-- Whether a call declares a currency that is named by symbols and codes, if it declares one. -/
def Call.IsNamed : Call → Prop
  | .declare declaration => declaration.IsNamed
  | _ => True

instance (call : Call) : Decidable call.IsNamed :=
  match call with
  | .declare declaration => inferInstanceAs (Decidable declaration.IsNamed)
  | .resolve _ _ | .amount _ | .close _ => inferInstanceAs (Decidable True)

/-- Whether the tables of a registry are in step and its aliases are codes in upper case. -/
structure Named (registry : Registry) : Prop extends Coherent registry where
  coded : ∀ code owner, registry.aliases.get? code = some owner → isCode code = true ∧ upper code = code

theorem named_empty (closed : Bool) : Named { closed } :=
  ⟨coherent_empty closed, by rintro code owner ⟨⟩⟩

namespace Named

variable {registry after : Registry}

theorem withoutBinding (named : registry.Named) (designator : Text) :
    (registry.withoutBinding designator).Named := by
  refine ⟨named.toCoherent.withoutBinding designator, ?_⟩
  rw [aliases_withoutBinding]
  exact named.coded

/-- A declared currency that is in conflict with none. -/
theorem put (named : registry.Named) {declaration : Declaration} (allowed : declaration.IsNamed)
    (fresh : registry.currencies.get? declaration.currency.designator = none)
    (free : registry.conflict? declaration.currency = none) :
    (registry.adding declaration.currency).Named := by
  refine ⟨named.toCoherent.put (normalDesignator_normal declaration.designator)
    (fun _ => normalDesignator_ne_nil allowed.designator) fresh free, ?_⟩
  intro code owner found
  rw [get?_aliases_adding] at found
  split at found
  · rename_i given
    rcases Option.map_eq_some_iff.mp given with ⟨written, declared, rfl⟩
    exact ⟨(allowed.code written declared).2, upper_fixed written⟩
  · exact named.coded code owner found

/-- Every change keeps the names apart. -/
theorem changes (named : registry.Named) {call : Call} (allowed : call.IsNamed)
    (changes : registry.Changes call after) : after.Named := by
  cases changes with
  | nothing => exact named
  | close closed => exact ⟨named.toCoherent.withClosed closed, named.coded⟩
  | giveUp declaration => exact named.withoutBinding _
  | add fresh free => exact (named.withoutBinding _).put allowed fresh free
  | @meet _ token style other unknown opened =>
      rcases named.toCoherent.fresh_of_lookup? unknown with ⟨fresh, not_alias⟩
      exact ⟨named.toCoherent.meeting style (normalDesignator_normal token) fresh not_alias, named.coded⟩

/-- An alias is the designator of no other currency. -/
theorem eq_of_designator (named : registry.Named) {code owner : Text} {currency : Currency}
    (found : registry.aliases.get? code = some owner)
    (listed : registry.currencies.get? code = some currency) : code = owner := by
  refine named.apart code owner found (named.coded code owner found).1 ?_
  rw [has, Table.has, listed]
  rfl

/-- A code with the upper case of an alias finds the currency of the alias. -/
theorem lookup?_alias (named : registry.Named) {code owner token : Text} {currency : Currency}
    (found : registry.aliases.get? code = some owner)
    (listed : registry.currencies.get? owner = some currency) (letters : isCode token = true)
    (same : upper token = upper code) : registry.lookup? token = some currency := by
  have normal : normalDesignator token = code := by
    rw [normalDesignator, if_pos letters, same, (named.coded code owner found).2]
  rw [named.toCoherent.lookup?_eq, normal, if_pos letters, found, Option.bind_some, listed]
  cases here : registry.currencies.get? code with
  | none => rfl
  | some other =>
      rw [← named.eq_of_designator found here, here] at listed
      exact listed

/-- What a text finds: the currency it designates, or the one whose alias is its upper case. -/
theorem lookup?_eq_some_iff (named : registry.Named) {token : Text} {currency : Currency} :
    registry.lookup? token = some currency ↔
      registry.currencies.get? currency.designator = some currency ∧
        (normalDesignator token = currency.designator ∨
          isCode token = true ∧ currency.code = some (upper token)) := by
  constructor
  · intro found
    rw [named.toCoherent.lookup?_eq, Option.or_eq_some_iff] at found
    rcases found with listed | ⟨-, found⟩
    · have own := (named.own _ currency listed).1
      exact ⟨own ▸ listed, Or.inl own.symm⟩
    · split at found
      · rename_i letters
        rcases Option.bind_eq_some_iff.mp found with ⟨owner, claimed, listed⟩
        rcases (named.owned _ owner claimed).2 with ⟨other, owns, code⟩
        obtain rfl := Option.some.inj (owns.symm.trans listed)
        rw [normalDesignator, if_pos letters] at code
        exact ⟨(named.own owner other listed).1 ▸ listed, Or.inr ⟨letters, code⟩⟩
      · cases found
  · rintro ⟨listed, same | ⟨letters, code⟩⟩
    · rw [named.toCoherent.lookup?_eq, same, listed]
      rfl
    · exact named.lookup?_alias (named.claimed _ currency _ listed code) listed letters
        (upper_fixed token).symm

/-- Codes with one upper case find the same. -/
theorem lookup?_congr (named : registry.Named) {token other : Text} (letters : isCode token = true)
    (other_letters : isCode other = true) (same : upper token = upper other) :
    registry.lookup? token = registry.lookup? other := by
  have normal : normalDesignator token = normalDesignator other := by
    rw [normalDesignator, normalDesignator, if_pos letters, if_pos other_letters, same]
  rw [named.toCoherent.lookup?_eq, named.toCoherent.lookup?_eq, normal, letters, other_letters]

end Named

/-- While a registry is closed, only a declaration changes its currencies. -/
theorem Changes.currencies_of_closed {registry after : Registry} {call : Call}
    (changes : registry.Changes call after) (closed : registry.closed = true)
    (other : ∀ declaration, call ≠ .declare declaration) : after.currencies = registry.currencies := by
  cases changes with
  | nothing => rfl
  | close closed => rfl
  | giveUp declaration => exact absurd rfl (other declaration)
  | @add declaration fresh free => exact absurd rfl (other declaration)
  | meet style other unknown opened =>
      rw [closed] at opened
      cases opened

/-- Whether every name of a currency leads to it and to no other one.  A currency stands under its
own designator, and no designator is listed twice.  An alias is a code in upper case and leads to a
currency with exactly this alias, and the alias of a currency leads to it; an alias is the
designator of no other currency, and of no other currency the alias.  A designator that is bound
has a currency without an alias.  A designator finds its currency, and an alias finds its owner in
every letter case whose upper case it is, but nothing else does; codes with one upper case find the
same.  While the registry is closed, only declarations add currencies. -/
structure Unambiguous (registry : Registry) : Prop where
  own : ∀ designator currency, registry.currencies.get? designator = some currency →
    currency.designator = designator
  distinct : registry.currencies.keys.Nodup
  owned : ∀ code owner, registry.aliases.get? code = some owner →
    isCode code = true ∧ upper code = code ∧
      ∃ currency, registry.currencies.get? owner = some currency ∧ currency.code = some code
  claimed : ∀ designator currency code, registry.currencies.get? designator = some currency →
    currency.code = some code → registry.aliases.get? code = some designator
  apart : ∀ code owner currency, registry.aliases.get? code = some owner →
    registry.currencies.get? code = some currency → code = owner
  unshared : ∀ left right one other code, registry.currencies.get? left = some one →
    registry.currencies.get? right = some other → one.code = some code → other.code = some code →
      left = right
  bound : ∀ designator ∈ registry.bound,
    ∃ currency, registry.currencies.get? designator = some currency ∧ currency.code = none
  lookup?_designator : ∀ designator currency, registry.currencies.get? designator = some currency →
    registry.lookup? designator = some currency
  lookup?_alias : ∀ code owner currency token, registry.aliases.get? code = some owner →
    registry.currencies.get? owner = some currency →
      (registry.lookup? token = some currency ↔
        normalDesignator token = owner ∨ isCode token = true ∧ upper token = code)
  lookup?_congr : ∀ token other, isCode token = true → isCode other = true →
    upper token = upper other → registry.lookup? token = registry.lookup? other
  closed : registry.closed = true → ∀ call : Call, (∀ declaration, call ≠ .declare declaration) →
    (registry.call call).currencies = registry.currencies

/-- After any calls, failing ones among them, every name leads to one currency. -/
theorem names_unambiguous (closed : Bool) (calls : List Call) (allowed : ∀ call ∈ calls, call.IsNamed) :
    (callAll { closed } calls).Unambiguous := by
  have named : (callAll { closed } calls).Named :=
    callAll_induction (fun named allowed changes => Named.changes named allowed changes)
      (named_empty closed) allowed
  refine ⟨fun designator currency found => (named.own designator currency found).1, named.distinct, ?_,
    named.claimed, fun code owner currency found => named.eq_of_designator found, ?_, named.bound, ?_, ?_,
    fun token other letters => named.lookup?_congr letters, ?_⟩
  · intro code owner found
    rcases named.coded code owner found with ⟨letters, capital⟩
    exact ⟨letters, capital, (named.owned code owner found).2⟩
  · intro left right one other code one_listed other_listed one_code other_code
    have claimed := named.claimed left one code one_listed one_code
    rw [named.claimed right other code other_listed other_code] at claimed
    exact (Option.some.inj claimed).symm
  · intro designator currency found
    rw [lookup?, found]
  · intro code owner currency token found listed
    rcases (named.owned code owner found).2 with ⟨other, owns, given⟩
    obtain rfl := Option.some.inj (owns.symm.trans listed)
    rw [named.lookup?_eq_some_iff, (named.own owner other listed).1, given, Option.some_inj, eq_comm (a := code)]
    exact and_iff_right listed
  · intro is_closed call other
    exact (changes_call _ call).currencies_of_closed is_closed other

/-- A currency bound and then declared, one refused for its alias, one refused for a designator
that is bound, and an amount that a closed registry refuses. -/
def travelCalls : List Call :=
  [.amount "10$".toList, .declare { designator := ['$'], code := some "usd".toList },
    .declare { designator := ['€'], code := some "USD".toList }, .resolve "eur".toList .code,
    .declare { designator := ['€'], code := some "Eur".toList }, .close true, .amount "5 gbp".toList]

theorem travel_names_unambiguous :
    (∀ call ∈ travelCalls, call.IsNamed) ∧ (callAll {} travelCalls).Unambiguous := by
  have allowed : ∀ call ∈ travelCalls, call.IsNamed := by decide +kernel
  exact ⟨allowed, names_unambiguous false travelCalls allowed⟩

/-- A currency with an alias whose lower case has another upper case. -/
def streetCalls : List Call := [.declare { designator := ['$'], code := some "GROẞ".toList }]

/-- So an alias is not found in every letter case. -/
theorem lower_alias_unknown :
    (∀ call ∈ streetCalls, call.IsNamed) ∧
      (callAll {} streetCalls).aliases.get? "GROẞ".toList = some ['$'] ∧
      lower "GROẞ".toList = "groß".toList ∧ isCode "groß".toList = true ∧
      (callAll {} streetCalls).lookup? "groß".toList = none := by
  refine ⟨?_, ?_, ?_, ?_, ?_⟩
  · decide +kernel
  · decide +kernel
  · decide +kernel
  · decide +kernel
  · decide +kernel

end Registry
end Daybook
