import Daybook.Proofs.Currency.Registry

namespace Daybook
namespace Registry

/-!
# Declarations before and after the first use

A ledger may declare its currencies before it uses them or behind.  In the first case each use
finds a declaration or an alias, or else it binds its designator.  In the second each use binds
its designator, and the declarations then replace these bindings.  Both ways lead to one
registry: the declared currencies, and the bindings of all other designators.  What could tell
them apart is an alias that is itself a designator in use, and the declaration of such an alias
is refused.
-/

open Unicode

/-! ## Registries in step -/

/-- Whether registries stay related in use: what the first finds for a designator or an alias,
the second finds under the same designator.  That is asked only of uses which leave the first as
it is allowed to be, and of declarations and closure only if there are currency `blocks`. -/
structure Follows (related : Registry → Registry → Prop) (allowed : Registry → Prop) (blocks : Prop) :
    Prop where
  earlier : ∀ {left after : Registry}, left.Grows after → allowed after → allowed left
  resolve : ∀ {left after right : Registry} {token : Text} {style : Style} {currency : Currency},
    related left right → allowed after → style.Suits (normalDesignator token) →
      left.resolve token style = (.ok currency, after) →
        ∃ known next, right.resolve token style = (.ok known, next) ∧
          known.designator = currency.designator ∧ related after next
  declare : blocks → ∀ {left after right : Registry} {declaration : Declaration} {currency : Currency},
    related left right → left.declare declaration = (.ok currency, after) →
      ∃ known next, right.declare declaration = (.ok known, next) ∧ related after next
  close : blocks → ∀ {left right : Registry}, related left right →
    related (left.withClosed true) (right.withClosed true)

/-- Every registry follows itself. -/
theorem follows_self : Follows (fun left right => right = left) (fun _ => True) True where
  earlier _ _ := trivial
  resolve := by
    rintro left after _ token style currency rfl - - ok
    exact ⟨currency, after, ok, rfl, rfl⟩
  declare := by
    rintro - left after _ declaration currency rfl ok
    exact ⟨currency, after, ok, rfl⟩
  close := by
    rintro - left _ rfl
    rfl

/-- Whether two registries give the same answers. -/
structure Agrees (left right : Registry) : Prop where
  closed : right.closed = left.closed
  currencies : ∀ designator, right.currencies.get? designator = left.currencies.get? designator
  aliases : ∀ code, right.aliases.get? code = left.aliases.get? code
  bound : ∀ designator, designator ∈ right.bound ↔ designator ∈ left.bound

namespace Agrees

variable {left right : Registry}

theorem lookup? (agrees : left.Agrees right) (token : Text) : right.lookup? token = left.lookup? token := by
  have currencies : right.currencies.get? = left.currencies.get? := funext agrees.currencies
  have aliases : right.aliases.get? = left.aliases.get? := funext agrees.aliases
  rw [Registry.lookup?, Registry.lookup?, currencies, aliases]

theorem currencyFor (agrees : left.Agrees right) (designator : Text) :
    right.currencyFor designator = left.currencyFor designator := by
  rw [Registry.currencyFor, Registry.currencyFor, agrees.currencies]

theorem meeting (agrees : left.Agrees right) (designator : Text) (style : Style) :
    (left.meeting designator style).Agrees (right.meeting designator style) := by
  refine ⟨agrees.closed, ?_, agrees.aliases, ?_⟩
  · intro wanted
    rw [get?_meeting, get?_meeting, agrees.currencies]
  · intro wanted
    have same := agrees.bound wanted
    simp only [Registry.meeting, List.mem_append, same]

end Agrees

/-- Registries that give the same answers go on giving them. -/
theorem follows_agrees : Follows Agrees (fun _ => True) False where
  earlier _ _ := trivial
  resolve := by
    intro left after right token style currency agrees _ _ ok
    rcases resolve_eq_ok ok with ⟨found, rfl⟩ | ⟨unknown, opened, rfl, rfl⟩
    · exact ⟨currency, right, resolve_of_lookup? ((agrees.lookup? token).trans found) style, rfl, agrees⟩
    · exact ⟨_, _, resolve_of_unknown ((agrees.lookup? token).trans unknown) (agrees.closed.trans opened) style,
        rfl, agrees.meeting _ style⟩
  declare := False.elim
  close := False.elim

/-! ## Bindings and declarations -/

/-- Whether the currencies of a registry are bindings of designators that were met. -/
structure OnlyMet (registry : Registry) : Prop where
  proper : registry.Proper
  aliases : ∀ code, registry.aliases.get? code = none
  bound : ∀ designator, registry.has designator = true → designator ∈ registry.bound

/-- Whether the currencies of a registry are declared. -/
structure OnlyDeclared (registry : Registry) : Prop where
  proper : registry.Proper
  bound : registry.bound = []

/-- Whether no alias of declared currencies is a designator that was met. -/
def Apart (declared met : Registry) : Prop :=
  ∀ code owner, declared.aliases.get? code = some owner → met.has code = false

/-- Whether a registry has the declared currencies, and the bindings of all other designators
that were met.  All three are closed or none is. -/
structure Merged (declared met merged : Registry) : Prop where
  closed : merged.closed = declared.closed
  met_closed : met.closed = declared.closed
  currencies : ∀ designator, merged.currencies.get? designator =
    (declared.currencies.get? designator).or (met.currencies.get? designator)
  aliases : ∀ code, merged.aliases.get? code = declared.aliases.get? code
  bound : ∀ designator, designator ∈ merged.bound ↔
    designator ∈ met.bound ∧ declared.currencies.get? designator = none

theorem onlyMet_empty (closed : Bool) : OnlyMet { closed } :=
  ⟨proper_empty closed, fun _ => rfl, by rintro designator ⟨⟩⟩

theorem onlyDeclared_empty (closed : Bool) : OnlyDeclared { closed } := ⟨proper_empty closed, rfl⟩

theorem apart_empty (closed : Bool) (met : Registry) : Apart { closed } met := by rintro code owner ⟨⟩

/-- Without declarations there are the bindings. -/
theorem OnlyMet.merged {met : Registry} (only : met.OnlyMet) : Merged { closed := met.closed } met met :=
  ⟨rfl, rfl, fun _ => rfl, only.aliases, fun _ => ⟨fun bound => ⟨bound, rfl⟩, And.left⟩⟩

/-- Before the first use there are the declarations. -/
theorem OnlyDeclared.merged {declared : Registry} (only : declared.OnlyDeclared) :
    Merged declared { closed := declared.closed } declared := by
  refine ⟨rfl, rfl, fun designator => (Option.or_none).symm, fun _ => rfl, fun designator => ?_⟩
  rw [only.bound]
  exact ⟨fun bound => (by cases bound), fun both => (by cases both.1)⟩

namespace OnlyMet

variable {registry after : Registry} {token : Text} {style : Style} {currency : Currency}

theorem lookup?_eq (only : registry.OnlyMet) (token : Text) :
    registry.lookup? token = registry.currencies.get? (normalDesignator token) := by
  rw [only.proper.coherent.lookup?_eq, only.aliases, Option.bind_none, ite_self, Option.or_none]

/-- Every use is under the designator itself. -/
theorem resolve (only : registry.OnlyMet) (suits : style.Suits (normalDesignator token))
    (ok : registry.resolve token style = (.ok currency, after)) :
    after.OnlyMet ∧ currency.designator = normalDesignator token ∧
      after.has (normalDesignator token) = true := by
  rcases only.proper.resolve suits ok with ⟨proper, -, -⟩
  rcases resolve_eq_ok ok with ⟨found, rfl⟩ | ⟨-, -, rfl, rfl⟩
  · rw [only.lookup?_eq] at found
    refine ⟨only, (only.proper.listed _ _ found).1, ?_⟩
    rw [has, Table.has, found]
    rfl
  · refine ⟨⟨proper, only.aliases, ?_⟩, rfl, ?_⟩
    · intro designator present
      rw [has, Table.has, get?_meeting] at present
      split at present
      · rename_i same
        exact List.mem_append_right _ (List.mem_singleton.mpr same.symm)
      · exact List.mem_append_left _ (only.bound designator present)
    · rw [has, Table.has, get?_meeting, if_pos rfl]
      rfl

end OnlyMet

namespace Merged

variable {declared met merged : Registry}

/-- Two registries that are merged of the same give the same answers. -/
theorem agrees (one : Merged declared met merged) {other : Registry} (second : Merged declared met other) :
    merged.Agrees other :=
  ⟨second.closed.trans one.closed.symm,
    fun designator => (second.currencies designator).trans (one.currencies designator).symm,
    fun code => (second.aliases code).trans (one.aliases code).symm,
    fun designator => (second.bound designator).trans (one.bound designator).symm⟩

/-- A designator that is declared need not be bound. -/
theorem meeting_declared (together : Merged declared met merged) {designator : Text} {currency : Currency}
    (found : declared.currencies.get? designator = some currency) (style : Style) :
    Merged declared (met.meeting designator style) merged := by
  refine ⟨together.closed, together.met_closed, ?_, together.aliases, ?_⟩
  · intro wanted
    rw [together.currencies, get?_meeting]
    split
    · rename_i same
      rw [← same, found]
      rfl
    · rfl
  · intro wanted
    rw [together.bound, Registry.meeting, List.mem_append, List.mem_singleton]
    constructor
    · exact fun both => ⟨Or.inl both.1, both.2⟩
    · rintro ⟨before | rfl, absent⟩
      · exact ⟨before, absent⟩
      · rw [found] at absent
        cases absent

/-- A designator that is not declared is bound in both. -/
theorem meeting_undeclared (together : Merged declared met merged) {designator : Text}
    (absent : declared.currencies.get? designator = none) (style : Style) :
    Merged declared (met.meeting designator style) (merged.meeting designator style) := by
  refine ⟨together.closed, together.met_closed, ?_, together.aliases, ?_⟩
  · intro wanted
    rw [get?_meeting, get?_meeting, together.currencies]
    split
    · rename_i same
      rw [← same, absent]
      rfl
    · rfl
  · intro wanted
    simp only [Registry.meeting, List.mem_append, List.mem_singleton, together.bound]
    constructor
    · rintro (⟨before, undeclared⟩ | rfl)
      · exact ⟨Or.inl before, undeclared⟩
      · exact ⟨Or.inr rfl, absent⟩
    · rintro ⟨before | rfl, undeclared⟩
      · exact Or.inl ⟨before, undeclared⟩
      · exact Or.inr rfl

end Merged

/-- With declarations before it, a use finds what it would have bound, as long as no alias is a
designator in use. -/
theorem follows_merged (declared : Registry) :
    Follows (fun met merged => met.OnlyMet ∧ merged.Proper ∧ Merged declared met merged)
      (Apart declared) False where
  earlier := by
    intro left after grows apart code owner given
    have absent := apart code owner given
    by_contra present
    rw [grows.has code (by simpa using present)] at absent
    cases absent
  resolve := by
    rintro met after merged token style currency ⟨only, proper, together⟩ apart suits ok
    rcases only.resolve suits ok with ⟨only_after, designator, present⟩
    -- The designator is in use from now on, so that it is no alias.
    have not_alias : declared.aliases.get? (normalDesignator token) = none := by
      cases given : declared.aliases.get? (normalDesignator token) with
      | none => rfl
      | some owner =>
          rw [apart _ owner given] at present
          cases present
    have lookup : merged.lookup? token = (declared.currencies.get? (normalDesignator token)).or
        (met.lookup? token) := by
      rw [proper.coherent.lookup?_eq, together.aliases, not_alias, Option.bind_none, ite_self, Option.or_none,
        together.currencies, only.lookup?_eq]
    cases found : declared.currencies.get? (normalDesignator token) with
    | some known =>
        rw [found] at lookup
        have same : known.designator = normalDesignator token :=
          (proper.listed _ known (by rw [together.currencies, found]; rfl)).1
        refine ⟨known, merged, resolve_of_lookup? lookup style, same.trans designator.symm, only_after, proper, ?_⟩
        rcases resolve_eq_ok ok with ⟨-, rfl⟩ | ⟨-, -, -, rfl⟩
        · exact together
        · exact together.meeting_declared found style
    | none =>
        rw [found, Option.none_or] at lookup
        rcases resolve_eq_ok ok with ⟨here, rfl⟩ | ⟨unknown, opened, rfl, rfl⟩
        · exact ⟨currency, merged, resolve_of_lookup? (lookup.trans here) style, rfl, only, proper, together⟩
        · have also_opened := together.closed.trans (together.met_closed.symm.trans opened)
          have answered := resolve_of_unknown (lookup.trans unknown) also_opened style
          exact ⟨_, _, answered, rfl, only_after, (proper.resolve suits answered).1,
            together.meeting_undeclared found style⟩
  declare := False.elim
  close := False.elim

/-! ## Declaring after the first use -/

section Declaring

variable {declared met merged after : Registry} {declaration : Declaration} {currency : Currency}

/-- A declaration gives up the binding of its designator, so that only a declaration is left
under it. -/
theorem Merged.get?_withoutBinding_self (together : Merged declared met merged) (only : met.OnlyMet)
    (designator : Text) : (merged.withoutBinding designator).currencies.get? designator =
      declared.currencies.get? designator := by
  have bound := together.bound designator
  rw [get?_withoutBinding, together.currencies]
  cases found : declared.currencies.get? designator with
  | some known =>
      rw [found] at bound
      rw [if_neg fun both => (by cases (bound.mp both.2).2)]
      rfl
  | none =>
      split
      · rfl
      · rename_i no_binding
        rw [Option.none_or]
        by_contra present
        have has : met.has designator = true := Option.isSome_iff_ne_none.mpr present
        exact no_binding ⟨rfl, bound.mpr ⟨only.bound designator has, found⟩⟩

theorem Merged.get?_withoutBinding_of_ne (together : Merged declared met merged) {designator wanted : Text}
    (different : designator ≠ wanted) : (merged.withoutBinding designator).currencies.get? wanted =
      (declared.currencies.get? wanted).or (met.currencies.get? wanted) := by
  rw [get?_withoutBinding, if_neg fun both => different both.1, together.currencies]

/-- A declaration that is accepted after the first uses is accepted before them. -/
theorem Merged.conflict?_eq_none (together : Merged declared met merged)
    (proper : merged.Proper) (known : currency.Proper)
    (free : (merged.withoutBinding currency.designator).conflict? currency = none) :
    declared.conflict? currency = none ∧
      ∀ code, currency.code = some code → met.has code = false := by
  rcases (conflict?_eq_none_iff _ _).mp free with ⟨not_alias, no_owner⟩
  have alias_free : ∀ code, currency.code = some code →
      declared.aliases.get? code = none ∧ declared.currencies.get? code = none ∧ met.has code = false := by
    intro code given
    rcases (proper.withoutBinding currency.designator).coherent.of_aliasOwner?_eq_none (no_owner code given) with
      ⟨unclaimed, absent⟩
    have different : currency.designator ≠ code := by
      rintro same
      rcases known.code code given with ⟨symbol, upper_code⟩
      rw [same, upper_code.not_isSymbol] at symbol
      cases symbol
    rw [aliases_withoutBinding, together.aliases] at unclaimed
    rw [together.get?_withoutBinding_of_ne different, Option.or_eq_none_iff] at absent
    exact ⟨unclaimed, absent.1, by rw [has, Table.has, absent.2]; rfl⟩
  refine ⟨(conflict?_eq_none_iff _ _).mpr ⟨?_, ?_⟩, fun code given => (alias_free code given).2.2⟩
  · intro letters
    have unclaimed := not_alias letters
    rwa [aliases_withoutBinding, together.aliases] at unclaimed
  · intro code given
    rcases alias_free code given with ⟨unclaimed, absent, -⟩
    rw [aliasOwner?, unclaimed]
    dsimp only
    rw [has, Table.has, absent]
    rfl

/-- The declaration takes the place of the binding. -/
theorem Merged.adding (together : Merged declared met merged) (proper : merged.Proper) (currency : Currency) :
    Merged (declared.adding currency) met ((merged.withoutBinding currency.designator).adding currency) := by
  refine ⟨(closed_withoutBinding _ _).trans together.closed, together.met_closed, ?_, ?_, ?_⟩
  · intro wanted
    rw [get?_currencies_adding, get?_currencies_adding]
    split
    · rfl
    · rename_i different
      exact together.get?_withoutBinding_of_ne different
  · intro code
    rw [get?_aliases_adding, get?_aliases_adding, aliases_withoutBinding, together.aliases]
  · intro wanted
    have bound := mem_bound_withoutBinding proper.coherent.hasBound currency.designator wanted
    rw [together.bound] at bound
    refine bound.trans ?_
    rw [get?_currencies_adding]
    by_cases same : currency.designator = wanted
    · rw [if_pos same]
      exact ⟨fun both => absurd same.symm both.2, fun both => (by cases both.2)⟩
    · rw [if_neg same]
      exact and_iff_left (Ne.symm same)

theorem Apart.adding (apart : Apart declared met)
    (free : ∀ code, currency.code = some code → met.has code = false) : Apart (declared.adding currency) met := by
  intro code owner found
  rw [get?_aliases_adding] at found
  split at found
  · rename_i given
    exact free code given
  · exact apart code owner found

/-- What is declared after the first uses can be declared before them. -/
theorem Merged.declare (together : Merged declared met merged) (only_declared : declared.OnlyDeclared)
    (only_met : met.OnlyMet) (apart : Apart declared met) (proper : merged.Proper)
    (known : declaration.currency.Proper) (ok : merged.declare declaration = (.ok currency, after)) :
    ∃ result next, declared.declare declaration = (.ok result, next) ∧ next.OnlyDeclared ∧
      Apart next met ∧ Merged next met after := by
  have same : declared.withoutBinding declaration.currency.designator = declared :=
    withoutBinding_of_not_mem (by rw [only_declared.bound]; exact List.not_mem_nil)
  have here := together.get?_withoutBinding_self only_met declaration.currency.designator
  rcases declare_eq_ok ok with ⟨rfl, existing, found, agree⟩ | ⟨fresh, free, rfl⟩
  · rw [here] at found
    have declaring := @declare_of_agrees declared declaration existing (same.symm ▸ found) agree
    rw [same] at declaring
    have no_binding : declaration.currency.designator ∉ merged.bound := by
      rw [together.bound, found]
      exact fun both => (by cases both.2)
    rw [withoutBinding_of_not_mem no_binding]
    exact ⟨existing, declared, declaring, only_declared, apart, together⟩
  · rw [here] at fresh
    rcases together.conflict?_eq_none proper known free with ⟨no_conflict, not_used⟩
    have declaring := @declare_of_free declared declaration (same.symm ▸ fresh) (same.symm ▸ no_conflict)
    rw [same] at declaring
    refine ⟨_, _, declaring, ⟨?_, only_declared.bound⟩, apart.adding not_used,
      together.adding proper declaration.currency⟩
    exact only_declared.proper.put known fresh no_conflict

/-- All that is declared after the first uses can be declared before them. -/
theorem Merged.declareAll (together : Merged declared met merged) (only_declared : declared.OnlyDeclared)
    (only_met : met.OnlyMet) (apart : Apart declared met) (proper : merged.Proper)
    {declarations : List Declaration} (known : ∀ declaration ∈ declarations, declaration.currency.Proper)
    (ok : merged.declareAll declarations = .ok after) :
    ∃ next, declared.declareAll declarations = .ok next ∧ next.OnlyDeclared ∧ Apart next met ∧
      Merged next met after := by
  induction declarations generalizing declared merged with
  | nil =>
      rcases Except.ok.inj ok with rfl
      exact ⟨declared, rfl, only_declared, apart, together⟩
  | cons declaration rest ih =>
      have first := known declaration List.mem_cons_self
      rw [Registry.declareAll] at ok
      split at ok
      · rename_i currency middle declaring
        rcases together.declare only_declared only_met apart proper first declaring with
          ⟨result, next, here, only_next, apart_next, merged_next⟩
        rcases ih merged_next only_next apart_next (proper.declare first declaring)
          (fun other member => known other (List.mem_cons_of_mem _ member)) ok with ⟨last, later, facts⟩
        refine ⟨last, ?_, facts⟩
        rw [Registry.declareAll, here]
        exact later
      · cases ok

end Declaring

end Registry
end Daybook
