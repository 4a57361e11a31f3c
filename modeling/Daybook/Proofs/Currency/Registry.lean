import Daybook.Proofs.Currency.Coherent
import Daybook.Proofs.Text.Digits
import Daybook.Proofs.Text.Lines

namespace Daybook

/-!
# What holds of the currencies of a ledger

In a ledger the tables of currencies and aliases are in step, and the currencies themselves are
fit to be printed and read again: the style suits the designator, the decimals are a number that
can be written, and only a symbol has an alias, whose upper case comes from a code.  So no alias
that is a code is a designator, not even that of its own currency.  The point needs the
condition: an alias whose upper case is no code is not compared with designators when they are
declared.
-/

open Unicode

/-- Whether a designator has the form that a style is for. -/
def Style.Suits (style : Style) (designator : Text) : Prop :=
  match style with
  | .code => IsUpperCode designator
  | _ => ∃ c, designator = [c] ∧ isSymbolChar c = true

theorem Style.Suits.isDesignator {style : Style} {designator : Text} (suits : style.Suits designator) :
    IsDesignator designator := by
  cases style
  · exact Or.inl suits
  · exact Or.inl suits
  · exact Or.inr suits

/-- The style that is taken when none is asked for suits its designator. -/
theorem Currency.defaultStyle_suits {designator : Text} (known : IsDesignator designator) :
    (Currency.defaultStyle designator).Suits designator := by
  unfold Currency.defaultStyle
  rcases known with ⟨c, rfl, symbol⟩ | upper_code
  · rw [isSymbol_of_char symbol, if_pos rfl]
    exact ⟨c, rfl, symbol⟩
  · rw [upper_code.not_isSymbol, if_neg Bool.false_ne_true]
    exact upper_code

/-- What every currency of a ledger satisfies. -/
structure Currency.Proper (currency : Currency) : Prop where
  suits : currency.style.Suits currency.designator
  precision : 0 ≤ currency.precision ∧ currency.precision.natAbs < 10 ^ Text.digitLimit
  code : ∀ code, currency.code = some code →
    Daybook.isSymbol currency.designator = true ∧ IsUpperCode code
  name : ∀ name, currency.name = some name → name ≠ [] ∧ Text.IsTrim name ∧ Text.IsLine name

theorem Currency.defaultPrecision_proper :
    0 ≤ Currency.defaultPrecision ∧ Currency.defaultPrecision.natAbs < 10 ^ Text.digitLimit :=
  ⟨by decide, (by decide : 2 < 10 ^ 1).trans_le (Nat.pow_le_pow_right (by decide) (by decide))⟩

theorem Currency.Proper.met {designator : Text} {style : Style} (suits : style.Suits designator) :
    (Currency.met designator style).Proper :=
  ⟨suits, Currency.defaultPrecision_proper, by rintro code ⟨⟩, by rintro name ⟨⟩⟩

namespace Registry

/-- What holds of the currencies of a ledger at any time. -/
structure Proper (registry : Registry) : Prop where
  distinct : registry.currencies.keys.Nodup
  listed : ∀ designator currency, registry.currencies.get? designator = some currency →
    currency.designator = designator ∧ currency.Proper
  owned : ∀ code owner, registry.aliases.get? code = some owner →
    ∃ currency, registry.currencies.get? owner = some currency ∧ currency.code = some code
  claimed : ∀ designator currency code, registry.currencies.get? designator = some currency →
    currency.code = some code → registry.aliases.get? code = some designator
  apart : ∀ code owner, registry.aliases.get? code = some owner → isCode code = true →
    registry.currencies.get? code = none
  bound : ∀ designator ∈ registry.bound,
    ∃ currency, registry.currencies.get? designator = some currency ∧ currency.code = none

theorem proper_empty (closed : Bool) : Proper { closed } := by
  refine ⟨List.nodup_nil, ?_, ?_, ?_, ?_, ?_⟩
  · rintro designator currency ⟨⟩
  · rintro code owner ⟨⟩
  · rintro designator currency code ⟨⟩
  · rintro code owner ⟨⟩
  · rintro designator ⟨⟩

/-- A reading without currencies of its own starts closed if it is strict. -/
theorem withClosed_empty (strict : Bool) :
    (if strict then withClosed {} true else {}) = { closed := strict } := by
  cases strict with
  | false => rfl
  | true => rfl

namespace Proper

variable {registry : Registry}

theorem withClosed (proper : registry.Proper) (closed : Bool) : (registry.withClosed closed).Proper :=
  ⟨proper.distinct, proper.listed, proper.owned, proper.claimed, proper.apart, proper.bound⟩

/-- The tables of a ledger are in step. -/
theorem coherent (proper : registry.Proper) : registry.Coherent := by
  refine ⟨proper.distinct, ?_, ?_, proper.claimed, ?_, proper.bound⟩
  · intro designator currency found
    rcases proper.listed designator currency found with ⟨rfl, known⟩
    exact ⟨rfl, known.suits.isDesignator.normalDesignator_eq⟩
  · intro code owner found
    rcases proper.owned code owner found with ⟨currency, owns, with_code⟩
    rcases proper.listed owner currency owns with ⟨rfl, known⟩
    exact ⟨known.suits.isDesignator.ne_nil, currency, owns, with_code⟩
  · intro code owner found letters present
    rw [has, Table.has, proper.apart code owner found letters] at present
    cases present

/-- Tables in step are those of a ledger if every currency is as it should be. -/
theorem of_coherent (coherent : registry.Coherent)
    (known : ∀ designator currency, registry.currencies.get? designator = some currency →
      currency.Proper) : registry.Proper := by
  refine ⟨coherent.distinct,
    fun designator currency found => ⟨(coherent.own designator currency found).1,
      known designator currency found⟩,
    fun code owner found => (coherent.owned code owner found).2, coherent.claimed, ?_, coherent.bound⟩
  intro code owner found letters
  by_contra present
  -- Only a symbol has an alias, so that no alias is the designator of its own currency.
  rcases coherent.apart code owner found letters (Option.isSome_iff_ne_none.mpr present) with rfl
  rcases coherent.owned code code found with ⟨-, currency, owns, with_code⟩
  rcases (known code currency owns).code code with_code with ⟨symbol, upper_code⟩
  rw [(coherent.own code currency owns).1, upper_code.not_isSymbol] at symbol
  cases symbol

theorem withoutBinding (proper : registry.Proper) (designator : Text) :
    (registry.withoutBinding designator).Proper := by
  refine of_coherent (proper.coherent.withoutBinding designator) fun other currency found => ?_
  rw [get?_withoutBinding] at found
  split at found
  · cases found
  · exact (proper.listed other currency found).2

/-- A new currency that is in conflict with none. -/
theorem put (proper : registry.Proper) {currency : Currency} (known : currency.Proper)
    (fresh : registry.currencies.get? currency.designator = none)
    (free : registry.conflict? currency = none) :
    (registry.adding currency).Proper := by
  have designator := known.suits.isDesignator
  have coherent := proper.coherent.put designator.normalDesignator_eq (fun _ => designator.ne_nil) fresh free
  refine of_coherent coherent fun other listed found => ?_
  rw [get?_currencies_adding] at found
  split at found
  · rw [← Option.some.inj found]
    exact known
  · exact (proper.listed other listed found).2

end Proper

/-! ## Declaring -/

theorem declare_eq_ok {registry after : Registry} {declaration : Declaration} {currency : Currency}
    (ok : registry.declare declaration = (.ok currency, after)) :
    (registry.withoutBinding declaration.currency.designator = after ∧
        ∃ existing, after.currencies.get? declaration.currency.designator = some existing ∧
          existing.agrees declaration.currency = true) ∨
      ((registry.withoutBinding declaration.currency.designator).currencies.get?
          declaration.currency.designator = none ∧
        (registry.withoutBinding declaration.currency.designator).conflict? declaration.currency =
          none ∧
        after =
          (registry.withoutBinding declaration.currency.designator).adding declaration.currency) := by
  unfold declare at ok
  dsimp only at ok
  split at ok
  · rename_i existing found
    split at ok
    · rename_i same
      rcases Prod.mk.inj ok with ⟨-, rfl⟩
      exact Or.inl ⟨rfl, existing, found, same⟩
    · cases ok
  · rename_i fresh
    split at ok
    · cases ok
    · rename_i free
      exact Or.inr ⟨fresh, free, (Prod.mk.inj ok).2.symm⟩

theorem declare_of_agrees {registry : Registry} {declaration : Declaration} {existing : Currency}
    (found : (registry.withoutBinding declaration.currency.designator).currencies.get?
      declaration.currency.designator = some existing)
    (same : existing.agrees declaration.currency = true) :
    registry.declare declaration =
      (.ok existing, registry.withoutBinding declaration.currency.designator) := by
  unfold declare
  dsimp only
  rw [found]
  dsimp only
  rw [if_pos same]

theorem declare_of_free {registry : Registry} {declaration : Declaration}
    (fresh : (registry.withoutBinding declaration.currency.designator).currencies.get?
      declaration.currency.designator = none)
    (free : (registry.withoutBinding declaration.currency.designator).conflict? declaration.currency = none) :
    registry.declare declaration = (.ok declaration.currency,
      (registry.withoutBinding declaration.currency.designator).adding declaration.currency) := by
  unfold declare
  dsimp only
  rw [fresh]
  dsimp only
  rw [free]
  rfl

theorem Proper.declare {registry after : Registry} (proper : registry.Proper)
    {declaration : Declaration} {currency : Currency} (known : declaration.currency.Proper)
    (ok : registry.declare declaration = (.ok currency, after)) : after.Proper := by
  have kept := proper.withoutBinding declaration.currency.designator
  rcases declare_eq_ok ok with ⟨rfl, -⟩ | ⟨fresh, free, rfl⟩
  · exact kept
  · exact kept.put known fresh free

/-- What was declared is there. -/
theorem has_declared {registry after : Registry} {declaration : Declaration} {currency : Currency}
    (ok : registry.declare declaration = (.ok currency, after)) :
    after.has declaration.currency.designator = true := by
  rcases declare_eq_ok ok with ⟨rfl, existing, found, -⟩ | ⟨-, -, rfl⟩
  · rw [has, Table.has, found]
    rfl
  · rw [has, Table.has, get?_currencies_adding, if_pos rfl]
    rfl

/-- No currency is lost by a declaration. -/
theorem has_of_declare {registry after : Registry} {declaration : Declaration} {currency : Currency}
    (ok : registry.declare declaration = (.ok currency, after)) {designator : Text}
    (present : registry.has designator = true) : after.has designator = true := by
  have kept : designator ≠ declaration.currency.designator →
      (registry.withoutBinding declaration.currency.designator).has designator = true := by
    intro different
    rw [has, Table.has, get?_withoutBinding, if_neg fun both => different both.1.symm]
    exact present
  by_cases same : designator = declaration.currency.designator
  · exact same ▸ has_declared ok
  · rcases declare_eq_ok ok with ⟨rfl, -⟩ | ⟨-, -, rfl⟩
    · exact kept same
    · rw [has, Table.has, get?_currencies_adding, if_neg (Ne.symm same)]
      exact kept same

/-! ## Meeting a designator -/

theorem Proper.lookup? {registry : Registry} (proper : registry.Proper) {token : Text}
    {currency : Currency} (found : registry.lookup? token = some currency) :
    registry.currencies.get? currency.designator = some currency := by
  have under : ∀ designator, registry.currencies.get? designator = some currency →
      registry.currencies.get? currency.designator = some currency := by
    intro designator listed
    rw [(proper.listed designator currency listed).1, listed]
  unfold Registry.lookup? at found
  split at found
  · rename_i known listed
    rw [← Option.some.inj found] at under ⊢
    exact under token listed
  · split at found
    · dsimp only at found
      split at found
      · rename_i known listed
        rw [← Option.some.inj found] at under ⊢
        exact under _ listed
      · rcases Option.bind_eq_some_iff.mp found with ⟨owner, -, listed⟩
        exact under owner listed
    · cases found

theorem resolve_of_lookup? {registry : Registry} {token : Text} {currency : Currency}
    (found : registry.lookup? token = some currency) (style : Style) :
    registry.resolve token style = (.ok currency, registry) := by
  rw [resolve, found]

theorem resolve_of_unknown {registry : Registry} {token : Text} (unknown : registry.lookup? token = none)
    (opened : registry.closed = false) (style : Style) :
    registry.resolve token style =
      (.ok (.met (normalDesignator token) style), registry.meeting (normalDesignator token) style) := by
  rw [resolve, unknown]
  dsimp only
  rw [if_neg (by rw [opened]; exact Bool.false_ne_true)]
  rfl

theorem resolve_of_closed {registry : Registry} {token : Text} (unknown : registry.lookup? token = none)
    (closed : registry.closed = true) (style : Style) :
    registry.resolve token style = (.error (.unknownCurrency token), registry) := by
  rw [resolve, unknown]
  dsimp only
  rw [if_pos closed]

/-- A text names a known currency, or it is met for the first time. -/
theorem resolve_eq_ok {registry after : Registry} {token : Text} {style : Style} {currency : Currency}
    (ok : registry.resolve token style = (.ok currency, after)) :
    registry.lookup? token = some currency ∧ after = registry ∨
      registry.lookup? token = none ∧ registry.closed = false ∧
        currency = .met (normalDesignator token) style ∧
          after = registry.meeting (normalDesignator token) style := by
  unfold resolve at ok
  split at ok
  · rename_i known found
    rcases Prod.mk.inj ok with ⟨same, rfl⟩
    exact Or.inl ⟨found.trans (congrArg some (Except.ok.inj same)), rfl⟩
  · rename_i unknown
    split at ok
    · cases ok
    · rename_i open_
      rcases Prod.mk.inj ok with ⟨same, rfl⟩
      exact Or.inr ⟨unknown, by simpa using open_, (Except.ok.inj same).symm, rfl⟩

/-- No currency is lost when a designator is met. -/
theorem has_of_resolve {registry after : Registry} {token : Text} {style : Style} {currency : Currency}
    (ok : registry.resolve token style = (.ok currency, after)) {designator : Text}
    (present : registry.has designator = true) : after.has designator = true := by
  rcases resolve_eq_ok ok with ⟨-, rfl⟩ | ⟨-, -, -, rfl⟩
  · exact present
  · rw [has, Table.has, get?_meeting]
    split
    · rfl
    · exact present

/-- A first use binds a designator. -/
theorem Proper.meeting {registry : Registry} (proper : registry.Proper) {designator : Text}
    {style : Style} (suits : style.Suits designator)
    (fresh : registry.currencies.get? designator = none)
    (not_alias : isCode designator = true → registry.aliases.get? designator = none) :
    (registry.meeting designator style).Proper := by
  have normal := suits.isDesignator.normalDesignator_eq
  refine of_coherent (proper.coherent.meeting style normal fresh not_alias) fun other listed found => ?_
  rw [get?_meeting] at found
  split at found
  · rw [← Option.some.inj found]
    exact Currency.Proper.met suits
  · exact (proper.listed other listed found).2

/-- Meeting a designator keeps the currencies and gives one of them. -/
theorem Proper.resolve {registry after : Registry} (proper : registry.Proper) {token : Text}
    {style : Style} (suits : style.Suits (normalDesignator token)) {currency : Currency}
    (ok : registry.resolve token style = (.ok currency, after)) :
    after.Proper ∧ after.has currency.designator = true ∧
      ∀ designator, registry.has designator = true → after.has designator = true := by
  have more := fun designator => @has_of_resolve _ _ _ _ _ ok designator
  rcases resolve_eq_ok ok with ⟨found, rfl⟩ | ⟨unknown, -, rfl, rfl⟩
  · refine ⟨proper, ?_, more⟩
    rw [has, Table.has, proper.lookup? found]
    rfl
  · rcases proper.coherent.fresh_of_lookup? unknown with ⟨fresh, not_alias⟩
    refine ⟨proper.meeting suits fresh not_alias, ?_, more⟩
    have here := registry.get?_meeting (normalDesignator token) (normalDesignator token) style
    rw [if_pos rfl] at here
    exact congrArg Option.isSome here

/-! ## What is never given up -/

/-- Whether a registry is as closed as another one and has its currencies. -/
structure Grows (registry after : Registry) : Prop where
  closed : registry.closed = true → after.closed = true
  has : ∀ designator, registry.has designator = true → after.has designator = true

namespace Grows

variable {registry middle after : Registry}

theorem refl (registry : Registry) : registry.Grows registry := ⟨id, fun _ => id⟩

theorem trans (first : registry.Grows middle) (second : middle.Grows after) : registry.Grows after :=
  ⟨fun closed => second.closed (first.closed closed),
    fun designator present => second.has designator (first.has designator present)⟩

theorem close (registry : Registry) : registry.Grows (registry.withClosed true) :=
  ⟨fun _ => rfl, fun _ => id⟩

theorem declare {declaration : Declaration} {currency : Currency}
    (ok : registry.declare declaration = (.ok currency, after)) : registry.Grows after := by
  have kept := closed_withoutBinding registry declaration.currency.designator
  refine ⟨?_, fun designator => has_of_declare ok⟩
  rcases declare_eq_ok ok with ⟨rfl, -⟩ | ⟨-, -, rfl⟩
  · exact kept.trans
  · exact kept.trans

theorem resolve {token : Text} {style : Style} {currency : Currency}
    (ok : registry.resolve token style = (.ok currency, after)) : registry.Grows after := by
  refine ⟨?_, fun designator => has_of_resolve ok⟩
  rcases resolve_eq_ok ok with ⟨-, rfl⟩ | ⟨-, -, -, rfl⟩
  · exact id
  · exact id

end Grows
end Registry
end Daybook
