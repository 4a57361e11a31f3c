import Daybook.Proofs.Currency.Merged
import Daybook.Proofs.Currency.Names
import Daybook.Proofs.Currency.Redeclared

namespace Daybook

/-!
# The order of declarations does not matter

A declaration is checked against those before it, and not in one way: its designator against
their aliases, its alias against their aliases and their designators, and all of it against an
earlier declaration of the same designator.  Two declarations are checked differently in their
two orders, but with the same result, since only a code can be an alias.  So it is enough to
say of any two declared currencies whether they are compatible.  Declarations succeed together
exactly if each two of their currencies are, which no order can change, and they leave the
currencies behind that they describe.
-/

namespace Currency

/-- Whether two currencies can be declared together: they are the same, or neither's names are
names of the other. -/
inductive Compatible (one : Currency) : Currency → Prop
  | same : Compatible one one
  | apart {other : Currency} (designators : one.designator ≠ other.designator)
      (no_alias : one.code ≠ some other.designator) (no_alias_back : other.code ≠ some one.designator)
      (codes : ∀ code, one.code = some code → other.code ≠ some code) : Compatible one other

theorem Compatible.symm {one other : Currency} (compatible : one.Compatible other) :
    other.Compatible one := by
  cases compatible with
  | same => exact .same
  | apart designators no_alias no_alias_back codes =>
      exact .apart (Ne.symm designators) no_alias_back no_alias fun code given back => codes code back given

/-- Whether each two of some currencies are compatible. -/
def AllCompatible (currencies : List Currency) : Prop :=
  ∀ one ∈ currencies, ∀ other ∈ currencies, one.Compatible other

theorem AllCompatible.mono {currencies more : List Currency} (compatible : AllCompatible more)
    (inside : currencies ⊆ more) : AllCompatible currencies :=
  fun one member other also => compatible one (inside member) other (inside also)

/-- Declarations of one designator agree if they describe the same currency. -/
theorem agrees_iff {one other : Currency} (designators : one.designator = other.designator) :
    one.agrees other = true ↔ one = other := by
  rcases one with ⟨designator, code, precision, name, style⟩
  rcases other with ⟨designator', code', precision', name', style'⟩
  simp only [agrees, Bool.and_eq_true, beq_iff_eq, mk.injEq]
  exact ⟨fun same => ⟨designators, same.1.1.1, same.1.1.2, same.1.2, same.2⟩,
    fun same => ⟨⟨⟨same.2.1, same.2.2.1⟩, same.2.2.2.1⟩, same.2.2.2.2⟩⟩

end Currency

namespace Registry

/-- Whether a registry has some currencies and no other ones, all of them declared and each two of
them compatible. -/
structure Declares (registry : Registry) (currencies : List Currency) : Prop where
  named : registry.Named
  listed : ∀ currency, registry.currencies.get? currency.designator = some currency ↔ currency ∈ currencies
  bound : registry.bound = []
  compatible : Currency.AllCompatible currencies

theorem declares_empty (closed : Bool) : Declares { closed } [] :=
  ⟨named_empty closed, fun _ => ⟨fun found => (by cases found), fun member => (by cases member)⟩, rfl,
    fun _ member => (by cases member)⟩

namespace Declares

variable {registry : Registry} {currencies : List Currency} {declaration : Declaration}

/-- There are no bindings to give up. -/
theorem withoutBinding (declares : registry.Declares currencies) (designator : Text) :
    registry.withoutBinding designator = registry :=
  withoutBinding_of_not_mem (by rw [declares.bound]; exact List.not_mem_nil)

/-- A compatible currency of a new designator is in conflict with none. -/
theorem conflict?_eq_none (declares : registry.Declares currencies) {currency : Currency}
    (fresh : registry.currencies.get? currency.designator = none)
    (compatible : ∀ known ∈ currencies, known.Compatible currency) : registry.conflict? currency = none := by
  have carrier : ∀ code owner, registry.aliases.get? code = some owner →
      ∃ known ∈ currencies, known.code = some code := by
    intro code owner found
    rcases (declares.named.owned code owner found).2 with ⟨known, owns, with_code⟩
    rw [← (declares.named.own owner known owns).1] at owns
    exact ⟨known, (declares.listed known).mp owns, with_code⟩
  have different : ∀ known ∈ currencies, known ≠ currency := by
    rintro known member rfl
    rw [(declares.listed known).mpr member] at fresh
    cases fresh
  rw [conflict?_eq_none_iff]
  constructor
  · intro letters
    cases found : registry.aliases.get? currency.designator with
    | none => rfl
    | some owner =>
        rcases carrier _ owner found with ⟨known, member, with_code⟩
        cases compatible known member with
        | same => exact absurd rfl (different _ member)
        | apart _ no_alias => exact absurd with_code no_alias
  · intro code given
    have unclaimed : registry.aliases.get? code = none := by
      cases found : registry.aliases.get? code with
      | none => rfl
      | some owner =>
          rcases carrier code owner found with ⟨known, member, with_code⟩
          cases compatible known member with
          | same => exact absurd rfl (different _ member)
          | apart _ _ _ codes => exact absurd given (codes code with_code)
    have no_designator : registry.currencies.get? code = none := by
      cases found : registry.currencies.get? code with
      | none => rfl
      | some known =>
          rcases (declares.named.own code known found).1 with rfl
          cases compatible known ((declares.listed known).mp found) with
          | same => exact absurd rfl (different _ ((declares.listed _).mp found))
          | apart _ _ no_alias_back => exact absurd given no_alias_back
    rw [aliasOwner?, unclaimed, has, Table.has, no_designator]
    rfl

/-- A currency that is in conflict with none is compatible with all. -/
theorem compatible_of_conflict? (declares : registry.Declares currencies) {currency : Currency}
    (fresh : registry.currencies.get? currency.designator = none)
    (free : registry.conflict? currency = none) {known : Currency} (member : known ∈ currencies) :
    known.Compatible currency := by
  have listed := (declares.listed known).mpr member
  rcases (conflict?_eq_none_iff registry currency).mp free with ⟨not_alias, no_owner⟩
  refine .apart ?_ ?_ ?_ ?_
  · intro same
    rw [← same, listed] at fresh
    cases fresh
  · intro with_code
    have claimed := declares.named.claimed _ known _ listed with_code
    rw [not_alias (declares.named.coded _ _ claimed).1] at claimed
    cases claimed
  · intro given
    have absent := (declares.named.toCoherent.of_aliasOwner?_eq_none (no_owner _ given)).2
    rw [listed] at absent
    cases absent
  · intro code with_code given
    have claimed := declares.named.claimed _ known code listed with_code
    rw [(declares.named.toCoherent.of_aliasOwner?_eq_none (no_owner code given)).1] at claimed
    cases claimed

/-- The registry with one more currency. -/
theorem adding (declares : registry.Declares currencies) (allowed : declaration.IsNamed)
    (fresh : registry.currencies.get? declaration.currency.designator = none)
    (free : registry.conflict? declaration.currency = none) :
    (registry.adding declaration.currency).Declares (currencies ++ [declaration.currency]) := by
  have compatible : ∀ known ∈ currencies, known.Compatible declaration.currency :=
    fun known member => declares.compatible_of_conflict? fresh free member
  refine ⟨declares.named.put allowed fresh free, ?_, declares.bound, ?_⟩
  · intro currency
    rw [get?_currencies_adding, List.mem_append, List.mem_singleton]
    split
    · rename_i same
      constructor
      · exact fun found => Or.inr (Option.some.inj found).symm
      · rintro (member | rfl)
        · rw [same, (declares.listed currency).mpr member] at fresh
          cases fresh
        · rfl
    · rename_i different
      rw [declares.listed]
      refine ⟨Or.inl, fun either => either.resolve_right ?_⟩
      rintro rfl
      exact different rfl
  · intro one one_member other other_member
    rw [List.mem_append, List.mem_singleton] at one_member other_member
    rcases one_member with one_known | rfl
    · rcases other_member with other_known | rfl
      · exact declares.compatible one one_known other other_known
      · exact compatible one one_known
    · rcases other_member with other_known | rfl
      · exact (compatible other other_known).symm
      · exact .same

/-- A currency that is there may be declared again. -/
theorem again (declares : registry.Declares currencies) {currency : Currency} (member : currency ∈ currencies) :
    registry.Declares (currencies ++ [currency]) := by
  have members : ∀ other, other ∈ currencies ++ [currency] ↔ other ∈ currencies := by
    intro other
    rw [List.mem_append, List.mem_singleton]
    exact ⟨fun either => either.elim id fun same => same ▸ member, Or.inl⟩
  exact ⟨declares.named, fun other => (declares.listed other).trans (members other).symm, declares.bound,
    declares.compatible.mono fun other => (members other).mp⟩

/-- A declaration of a currency that is compatible with all succeeds. -/
theorem exists_declare (declares : registry.Declares currencies)
    (compatible : ∀ known ∈ currencies, known.Compatible declaration.currency) :
    ∃ currency after, registry.declare declaration = (.ok currency, after) := by
  have kept := declares.withoutBinding declaration.currency.designator
  cases found : registry.currencies.get? declaration.currency.designator with
  | some existing =>
      have designators := (declares.named.own _ existing found).1
      have member : existing ∈ currencies := (declares.listed existing).mp (designators.symm ▸ found)
      have agree : existing.agrees declaration.currency = true := by
        rw [Currency.agrees_iff designators]
        cases compatible existing member with
        | same => rfl
        | apart different => exact absurd designators different
      exact ⟨_, _, declare_of_agrees (kept.symm ▸ found) agree⟩
  | none =>
      have free := declares.conflict?_eq_none found compatible
      exact ⟨_, _, declare_of_free (kept.symm ▸ found) (kept.symm ▸ free)⟩

/-- A declaration succeeds, or it is in conflict with one before it. -/
theorem declare (declares : registry.Declares currencies) (allowed : declaration.IsNamed) :
    (∃ currency after, registry.declare declaration = (.ok currency, after) ∧
      after.closed = registry.closed ∧ after.Declares (currencies ++ [declaration.currency])) ∨
    ∃ cause after, registry.declare declaration = (.error cause, after) ∧ cause.kind = .conflict ∧
      ∃ known ∈ currencies, ¬ known.Compatible declaration.currency := by
  have kept := declares.withoutBinding declaration.currency.designator
  cases outcome : registry.declare declaration with
  | mk result after =>
      cases result with
      | ok currency =>
          refine Or.inl ⟨currency, after, rfl, ?_⟩
          rcases declare_eq_ok outcome with ⟨rfl, existing, found, agree⟩ | ⟨fresh, free, rfl⟩
          · rw [kept] at found ⊢
            have designators := (declares.named.own _ existing found).1
            rw [(Currency.agrees_iff designators).mp agree] at found
            exact ⟨rfl, declares.again ((declares.listed _).mp found)⟩
          · rw [kept] at fresh free ⊢
            exact ⟨rfl, declares.adding allowed fresh free⟩
      | error cause =>
          refine Or.inr ⟨cause, after, rfl, (declare_eq_error outcome).1, ?_⟩
          by_contra none_against
          obtain ⟨currency, next, declaring⟩ := declares.exists_declare fun known member => by
            by_contra against
            exact none_against ⟨known, member, against⟩
          rw [declaring] at outcome
          cases outcome

/-- Declarations in a row succeed, or two of their currencies are not compatible. -/
theorem declareAll (declares : registry.Declares currencies) {declarations : List Declaration}
    (allowed : ∀ declaration ∈ declarations, declaration.IsNamed) :
    (∃ after, registry.declareAll declarations = .ok after ∧ after.closed = registry.closed ∧
      after.Declares (currencies ++ declarations.map (·.currency))) ∨
    ∃ cause, registry.declareAll declarations = .error cause ∧ cause.kind = .conflict ∧
      ¬ Currency.AllCompatible (currencies ++ declarations.map (·.currency)) := by
  induction declarations generalizing registry currencies with
  | nil =>
      refine Or.inl ⟨registry, rfl, rfl, ?_⟩
      rw [List.map_nil, List.append_nil]
      exact declares
  | cons declaration rest ih =>
      have later : ∀ other ∈ rest, other.IsNamed :=
        fun other member => allowed other (List.mem_cons_of_mem _ member)
      rw [Registry.declareAll, List.map_cons]
      rcases declares.declare (allowed declaration List.mem_cons_self) with
        ⟨currency, middle, outcome, closed, next⟩ | ⟨cause, middle, outcome, kind, known, member, against⟩
      · rw [outcome, ← closed, ← List.singleton_append, ← List.append_assoc]
        exact ih next later
      · rw [outcome]
        refine Or.inr ⟨cause, rfl, kind, fun compatible => against ?_⟩
        exact compatible known (List.mem_append_left _ member) declaration.currency
          (List.mem_append_right _ List.mem_cons_self)

/-- Registries with the same declared currencies give the same answers and list the currencies in
the same order. -/
theorem agrees (declares : registry.Declares currencies) {other : Registry} {more : List Currency}
    (other_declares : other.Declares more) (closed : other.closed = registry.closed)
    (same : ∀ currency, currency ∈ currencies ↔ currency ∈ more) :
    registry.Agrees other ∧ registry.toList = other.toList := by
  have lists : ∀ designator currency, registry.currencies.get? designator = some currency ↔
      other.currencies.get? designator = some currency := by
    have from_members : ∀ {one two : Registry} {ones twos : List Currency}, one.Declares ones →
        two.Declares twos → (∀ currency ∈ ones, currency ∈ twos) → ∀ designator currency,
          one.currencies.get? designator = some currency → two.currencies.get? designator = some currency := by
      intro one two ones twos has_ones has_twos inside designator currency found
      rcases (has_ones.named.own designator currency found).1 with rfl
      exact (has_twos.listed currency).mpr (inside currency ((has_ones.listed currency).mp found))
    exact fun designator currency =>
      ⟨from_members declares other_declares (fun known => (same known).mp) designator currency,
        from_members other_declares declares (fun known => (same known).mpr) designator currency⟩
  have currencies_eq : ∀ designator,
      registry.currencies.get? designator = other.currencies.get? designator :=
    fun designator => Option.ext (lists designator)
  refine ⟨⟨closed, fun designator => (currencies_eq designator).symm, ?_, ?_⟩,
    declares.named.toCoherent.toList_congr other_declares.named.toCoherent currencies_eq⟩
  · intro code
    refine Option.ext fun owner => ?_
    rw [declares.named.toCoherent.get?_aliases_iff, other_declares.named.toCoherent.get?_aliases_iff]
    simp only [lists]
  · intro designator
    rw [declares.bound, other_declares.bound]

end Declares

section Fresh

variable (closed : Bool) {declarations : List Declaration}
  (allowed : ∀ declaration ∈ declarations, declaration.IsNamed)
include allowed

theorem declareAll_of_compatible (compatible : Currency.AllCompatible (declarations.map (·.currency))) :
    ∃ after, declareAll { closed } declarations = .ok after ∧ after.closed = closed ∧
      after.Declares (declarations.map (·.currency)) := by
  rcases (declares_empty closed).declareAll allowed with declared | ⟨-, -, -, against⟩
  · exact declared
  · exact absurd compatible against

theorem declareAll_of_incompatible (against : ¬ Currency.AllCompatible (declarations.map (·.currency))) :
    ∃ cause, declareAll { closed } declarations = .error cause ∧ cause.kind = .conflict := by
  rcases (declares_empty closed).declareAll allowed with ⟨after, -, -, declares⟩ | ⟨cause, refused, kind, -⟩
  · exact absurd declares.compatible against
  · exact ⟨cause, refused, kind⟩

/-- Declarations on a fresh registry succeed exactly if each two of their currencies are
compatible. -/
theorem declareAll_eq_ok_iff :
    (∃ after, declareAll { closed } declarations = .ok after) ↔
      Currency.AllCompatible (declarations.map (·.currency)) := by
  constructor
  · rintro ⟨after, declared⟩
    by_contra against
    rcases declareAll_of_incompatible closed allowed against with ⟨cause, refused, -⟩
    rw [declared] at refused
    cases refused
  · intro compatible
    rcases declareAll_of_compatible closed allowed compatible with ⟨after, declared, -⟩
    exact ⟨after, declared⟩

end Fresh

/-- Declarations on a fresh registry succeed in every order or in none.  Where they succeed, the
currencies, the aliases and their listing are the same; where they fail, it is for a conflict. -/
theorem declareAll_perm (closed : Bool) {declarations permuted : List Declaration}
    (order : declarations.Perm permuted) (allowed : ∀ declaration ∈ declarations, declaration.IsNamed) :
    (∃ one other, declareAll { closed } declarations = .ok one ∧ declareAll { closed } permuted = .ok other ∧
      one.Agrees other ∧ one.toList = other.toList) ∨
    ∃ cause other, declareAll { closed } declarations = .error cause ∧ cause.kind = .conflict ∧
      declareAll { closed } permuted = .error other ∧ other.kind = .conflict := by
  have also_allowed : ∀ declaration ∈ permuted, declaration.IsNamed :=
    fun declaration member => allowed declaration (order.mem_iff.mpr member)
  have same : (declarations.map (·.currency)).Perm (permuted.map (·.currency)) := order.map _
  by_cases compatible : Currency.AllCompatible (declarations.map (·.currency))
  · have also_compatible := compatible.mono same.symm.subset
    rcases declareAll_of_compatible closed allowed compatible with ⟨one, first, one_closed, declares⟩
    rcases declareAll_of_compatible closed also_allowed also_compatible with
      ⟨other, second, other_closed, also_declares⟩
    exact Or.inl ⟨one, other, first, second,
      declares.agrees also_declares (other_closed.trans one_closed.symm) fun currency => same.mem_iff⟩
  · have also_against : ¬ Currency.AllCompatible (permuted.map (·.currency)) :=
      fun also_compatible => compatible (also_compatible.mono same.subset)
    rcases declareAll_of_incompatible closed allowed compatible with ⟨cause, first, kind⟩
    rcases declareAll_of_incompatible closed also_allowed also_against with ⟨other, second, other_kind⟩
    exact Or.inr ⟨cause, other, first, kind, second, other_kind⟩

/-- Three currencies, one of them declared twice. -/
def marketDeclarations : List Declaration :=
  [{ designator := ['$'], code := some "usd".toList }, { designator := "chf".toList, precision := 0 },
    { designator := ['€'], code := some "EUR".toList }, { designator := ['$'], code := some "USD".toList }]

theorem market_in_any_order :
    marketDeclarations.Perm marketDeclarations.reverse ∧
      (∀ declaration ∈ marketDeclarations, declaration.IsNamed) ∧
      ∃ one other, declareAll {} marketDeclarations = .ok one ∧
        declareAll {} marketDeclarations.reverse = .ok other ∧ one.Agrees other ∧ one.toList = other.toList := by
  have order := (List.reverse_perm marketDeclarations).symm
  have allowed : ∀ declaration ∈ marketDeclarations, declaration.IsNamed := by decide +kernel
  refine ⟨order, allowed, ?_⟩
  rcases declareAll_perm false order allowed with declared | ⟨cause, other, refused, -⟩
  · exact declared
  · have accepted : (declareAll {} marketDeclarations).isOk = true := by decide +kernel
    rw [refused] at accepted
    cases accepted

end Registry
end Daybook
