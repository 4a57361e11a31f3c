import Daybook.Money.Printed
import Daybook.Proofs.Decimal.Printed
import Daybook.Proofs.Decimal.Quantize
import Daybook.Proofs.Money.Forms
import Daybook.Proofs.Outcome

namespace Daybook

/-!
# Printed amounts are read back

An amount on the grid of its currency is printed without loss: what is read back has
its value, the unit of the currency as its exponent, and a sign only if it is not
zero.  Such an amount passes the check of its decimals and is printed as before.  All
of this holds in any registry in which the designator has the same currency.
-/

open Unicode

/-- Whether a designator is written in a way that is read in the same style. -/
def Style.Reads (style : Style) (designator : Text) : Prop :=
  match style with
  | .code => IsLetters designator
  | _ => ∃ c, designator = [c] ∧ isSymbolChar c = true

/-- The condition on a designator that makes it readable. -/
theorem Style.Suits.reads {style : Style} {designator : Text} (suits : style.Suits designator)
    (readable : isSymbol designator = true ∨ isCode designator = true) : style.Reads designator := by
  have solid := suits.isDesignator.isSolid
  cases style
  · exact suits
  · exact suits
  · have code : IsUpperCode designator := suits
    rw [code.not_isSymbol] at readable
    exact (isCode_iff solid).mp (readable.resolve_left Bool.false_ne_true)

/-- A dressed number is taken apart into what it was dressed with. -/
theorem Literal.ofText_dress {number : Text} (numeric : isNumeric number = true) {style : Style}
    {designator : Text} (reads : style.Reads designator) (negative : Bool) :
    ofText (Money.dress style negative designator number) =
      .ok ⟨negative, number, designator, style⟩ := by
  cases style with
  | before =>
      rcases reads with ⟨c, rfl, symbol⟩
      have read := @ofText_before _ numeric _ symbol negative false (Bool.and_false negative)
      rw [Bool.or_false] at read
      rw [Money.dress, List.append_assoc]
      exact read
  | after =>
      rcases reads with ⟨c, rfl, symbol⟩
      rw [Money.dress, List.append_assoc]
      exact ofText_after numeric symbol negative
  | code =>
      have space : Text.IsEmptySpace [' '] := fun c member => by
        rw [List.mem_singleton.mp member]
        decide
      rw [Money.dress, List.append_assoc]
      exact ofText_code numeric reads (List.cons_ne_nil _ _) space negative

namespace Money

open Decimal

/-- Whether an amount is a whole number of the smallest amounts that its currency
shows. -/
def OnCurrencyGrid (registry : Registry) (money : Money) : Prop :=
  ∀ unit, unitExponent (registry.currencyFor money.currency).precision = .ok unit →
    OnGrid unit money.amount.value

theorem unitExponent_eq_ok {precision unit : Int} (positive : 0 ≤ precision)
    (ok : unitExponent precision = .ok unit) : ledger.tiniest ≤ unit ∧ unit ≤ 0 := by
  rcases Outcome.map_eq_ok.mp ok with ⟨smallest, found, rfl⟩
  rcases smallestUnit_eq_ok positive (Outcome.ofNumbers_eq_ok.mp found) with ⟨least, most, -⟩
  exact ⟨least, most⟩

/-! ## Printing -/

/-- A number as an amount shows it: without a sign if it is zero. -/
structure IsPrinted (unit : Int) (shown : Decimal) : Prop extends IsShown unit shown where
  sign : shown.negative = true → shown.isZero = false

def textOf (currency : Currency) (shown : Decimal) : Text :=
  dress currency.style shown.negative currency.designator
    (positional (-shown.exponent).toNat shown.coefficient)

theorem formatAmount_eq {precision unit : Int} {shown : Decimal}
    (smallest : unitExponent precision = .ok unit) (is_shown : IsShown unit shown) :
    formatAmount shown precision = .ok (positional (-shown.exponent).toNat shown.coefficient) := by
  unfold formatAmount
  rw [smallest, is_shown.abs_eq]
  change (do
    let shown ← Outcome.ofNumbers (quantize .halfEven unit { shown with negative := false })
    return shown.toPositional : Outcome Text) = _
  rw [(is_shown.withSign false).quantize_eq]
  exact congrArg Except.ok (toPositional_eq shown.coefficient (is_shown.exponent ▸ is_shown.most))

/-- A printed number is printed again as it is. -/
theorem format_of_isPrinted {registry : Registry} {currency : Currency} {designator : Text} {unit : Int}
    {shown : Decimal} (known : registry.currencyFor designator = currency)
    (smallest : unitExponent currency.precision = .ok unit) (printed : IsPrinted unit shown) :
    format ⟨designator, shown⟩ registry = .ok (textOf currency shown) := by
  unfold format
  dsimp only
  rw [known, smallest]
  change (do
    let rounded ← Outcome.ofNumbers (quantize .halfEven unit shown)
    let number ← formatAmount rounded currency.precision
    return dress currency.style rounded.isNegative currency.designator number : Outcome Text) = _
  rw [printed.quantize_eq]
  change (do
    let number ← formatAmount shown currency.precision
    return dress currency.style shown.isNegative currency.designator number : Outcome Text) = _
  have sign : shown.isNegative = shown.negative := by
    cases negative : shown.negative with
    | false => rw [isNegative, negative, Bool.false_and]
    | true => rw [isNegative, negative, printed.sign negative]; rfl
  rw [formatAmount_eq smallest printed.toIsShown, sign]
  rfl

/-- What is printed of an amount is its rounding to the unit of its currency. -/
theorem exists_isPrinted_nearest {registry : Registry} {money : Money} {text : Text}
    (positive : 0 ≤ (registry.currencyFor money.currency).precision)
    (ok : money.format registry = .ok text) :
    ∃ unit shown, unitExponent (registry.currencyFor money.currency).precision = .ok unit ∧
      IsPrinted unit shown ∧ IsNearest unit money.amount.value shown.value ∧
      text = textOf (registry.currencyFor money.currency) shown := by
  unfold format at ok
  rcases Outcome.bind_eq_ok.mp ok with ⟨unit, smallest, ok⟩
  rcases Outcome.bind_eq_ok.mp ok with ⟨rounded, quantized, ok⟩
  rcases Outcome.bind_eq_ok.mp ok with ⟨number, written, ok⟩
  rw [Outcome.ofNumbers_eq_ok] at quantized
  have is_shown := isShown_of_quantize (unitExponent_eq_ok positive smallest).2 quantized
  have nearest := isNearest_quantize quantized
  refine ⟨unit, { rounded with negative := rounded.isNegative }, smallest,
    ⟨is_shown.withSign _, ?_⟩, ?_, ?_⟩
  · intro negative
    simp only [isNegative, Bool.and_eq_true, Bool.not_eq_true'] at negative
    exact negative.2
  · have value : value { rounded with negative := rounded.isNegative } = rounded.value := by
      rcases rounded with ⟨negative, coefficient, exponent⟩
      rw [value_signed, value_signed]
      by_cases zero : coefficient = 0
      · simp [zero]
      · simp [isNegative, isZero, zero]
    rwa [value]
  · rw [formatAmount_eq smallest is_shown] at written
    rw [← Except.ok.inj ok, ← Except.ok.inj written]
    rfl

/-- Whatever is printed of an amount is a number in the dress of its currency. -/
theorem exists_dress_of_format {registry : Registry} {money : Money} {text : Text}
    (ok : money.format registry = .ok text) :
    ∃ negative number, Literal.isNumeric number = true ∧
      text = dress (registry.currencyFor money.currency).style negative
        (registry.currencyFor money.currency).designator number := by
  unfold format at ok
  rcases Outcome.bind_eq_ok.mp ok with ⟨unit, -, ok⟩
  rcases Outcome.bind_eq_ok.mp ok with ⟨rounded, -, ok⟩
  rcases Outcome.bind_eq_ok.mp ok with ⟨number, written, ok⟩
  unfold formatAmount at written
  rcases Outcome.bind_eq_ok.mp written with ⟨smallest, -, written⟩
  rcases Outcome.bind_eq_ok.mp written with ⟨magnitude, unsigned, written⟩
  rcases Outcome.bind_eq_ok.mp written with ⟨shown, quantized, written⟩
  rw [Outcome.ofNumbers_eq_ok] at unsigned quantized
  rw [← Except.ok.inj written] at ok
  exact ⟨rounded.isNegative, shown.toPositional,
    isNumeric_toPositional ((negative_of_quantize quantized).trans (negative_of_abs unsigned)),
    (Except.ok.inj ok).symm⟩

/-- What is printed of an amount on the grid of its currency. -/
theorem exists_isPrinted {registry : Registry} {money : Money} {text : Text}
    (positive : 0 ≤ (registry.currencyFor money.currency).precision)
    (grid : money.OnCurrencyGrid registry) (ok : money.format registry = .ok text) :
    ∃ unit shown, unitExponent (registry.currencyFor money.currency).precision = .ok unit ∧
      IsPrinted unit shown ∧ shown.value = money.amount.value ∧
      text = textOf (registry.currencyFor money.currency) shown := by
  rcases exists_isPrinted_nearest positive ok with ⟨unit, shown, smallest, printed, nearest, same⟩
  exact ⟨unit, shown, smallest, printed, nearest.eq_of_onGrid (grid unit smallest), same⟩

/-- Whether an amount is what is read back of another one: equal in value, as it is
printed. -/
structure Rereads (registry : Registry) (money reread : Money) : Prop where
  currency : reread.currency = money.currency
  value : reread.amount.value = money.amount.value
  printed : ∃ unit, unitExponent (registry.currencyFor money.currency).precision = .ok unit ∧
    IsPrinted unit reread.amount
  format : money.format registry = .ok (textOf (registry.currencyFor money.currency) reread.amount)

theorem exists_rereads {registry : Registry} {money : Money} {text : Text}
    (positive : 0 ≤ (registry.currencyFor money.currency).precision)
    (grid : money.OnCurrencyGrid registry) (ok : money.format registry = .ok text) :
    ∃ reread, money.Rereads registry reread ∧
      text = textOf (registry.currencyFor money.currency) reread.amount := by
  rcases exists_isPrinted positive grid ok with ⟨unit, shown, smallest, printed, value, rfl⟩
  exact ⟨⟨money.currency, shown⟩, ⟨rfl, value, ⟨unit, smallest, printed⟩, ok⟩, rfl⟩

/-! ## Reading -/

theorem mem_textOf {currency : Currency} {shown : Decimal} {c : Char} (member : c ∈ textOf currency shown) :
    c = ' ' ∨ c = '-' ∨ c = '.' ∨ c.isDigit = true ∨ c ∈ currency.designator := by
  have part : c = ' ' ∨ c ∈ Literal.signText shown.negative ∨ c ∈ currency.designator ∨
      c ∈ positional (-shown.exponent).toNat shown.coefficient := by
    unfold textOf dress at member
    dsimp only at member
    rw [← Literal.signText] at member
    cases style : currency.style with
    | before =>
        rw [style, List.mem_append, List.mem_append] at member
        tauto
    | after =>
        rw [style, List.mem_append, List.mem_append] at member
        tauto
    | code =>
        rw [style, List.mem_append, List.mem_append, List.mem_cons] at member
        tauto
  rcases part with space | sign | designator | number
  · exact Or.inl space
  · unfold Literal.signText at sign
    split at sign
    · exact Or.inr (Or.inl (List.mem_singleton.mp sign))
    · cases sign
  · simp [designator]
  · rcases mem_positional number with point | digit
    · simp [point]
    · simp [digit]

theorem dress_ne_nil (style : Style) (negative : Bool) (designator : Text) {number : Text}
    (filled : number ≠ []) : dress style negative designator number ≠ [] := by
  unfold dress
  cases style with
  | before => simp [filled]
  | after => simp [filled]
  | code => simp

theorem textOf_ne_nil (currency : Currency) (shown : Decimal) : textOf currency shown ≠ [] :=
  dress_ne_nil currency.style shown.negative currency.designator (positional_ne_nil _ _)

theorem not_mem_textOf {currency : Currency} (known : IsDesignator currency.designator) (shown : Decimal) :
    ';' ∉ textOf currency shown := by
  intro member
  rcases mem_textOf member with equal | equal | equal | digit | inside
  · cases equal
  · cases equal
  · cases equal
  · revert digit
    decide
  · exact known.not_mem_commentMark inside

theorem isLine_textOf {currency : Currency} (known : IsDesignator currency.designator) (shown : Decimal) :
    Text.IsLine (textOf currency shown) := by
  intro c member
  rcases mem_textOf member with rfl | rfl | rfl | digit | inside
  · decide
  · decide
  · decide
  · exact Text.not_isLineBreak_of_not_isBlank (isBlank_of_isDecimal (Text.isDecimal_of_plain digit))
  · exact Text.not_isLineBreak_of_not_isBlank (known.isSolid c inside)

theorem isSolid_signText (negative : Bool) : Text.IsSolid (Literal.signText negative) := by
  cases negative
  · exact fun _ member => by cases member
  · intro c member
    rw [List.mem_singleton.mp member]
    decide

theorem isTrim_dress {style : Style} {designator : Text} (reads : style.Reads designator)
    (negative : Bool) {number : Text} (filled : number ≠ []) (solid : Text.IsSolid number) :
    Text.IsTrim (dress style negative designator number) := by
  have sign := isSolid_signText negative
  have symbol : (∃ c, designator = [c] ∧ isSymbolChar c = true) → Text.IsSolid designator := by
    rintro ⟨c, rfl, symbol⟩
    exact isSolid_symbol symbol
  cases style with
  | before =>
      apply Text.IsSolid.isTrim
      exact (sign.append (symbol reads)).append solid
  | after =>
      apply Text.IsSolid.isTrim
      exact (sign.append solid).append (symbol reads)
  | code =>
      have letters : IsLetters designator := reads
      have trim := @Text.IsTrim.append _ [' '] _ (sign.append solid).isTrim letters.isSolid.isTrim
        (by simp [filled]) letters.1
      rw [List.append_assoc, List.singleton_append] at trim
      exact trim

/-- What was printed is read back. -/
theorem ofText_textOf {registry : Registry} {currency : Currency} {unit : Int} {shown : Decimal}
    (known : registry.currencies.get? currency.designator = some currency)
    (reads : currency.style.Reads currency.designator) (printed : IsPrinted unit shown) :
    ofText (textOf currency shown) registry = (.ok ⟨currency.designator, shown⟩, registry) := by
  have numeric := isNumeric_positional (-shown.exponent).toNat shown.coefficient
  have solid := isSolid_positional (-shown.exponent).toNat shown.coefficient
  have filled := positional_ne_nil (-shown.exponent).toNat shown.coefficient
  have trim := (isTrim_dress reads shown.negative filled solid).strip_eq
  have literal := Literal.ofText_dress numeric reads shown.negative
  have places : -(((-shown.exponent).toNat : Nat) : Int) = shown.exponent := by
    have := printed.exponent ▸ printed.most
    omega
  have value := @value_positional (-shown.exponent).toNat shown.coefficient
    ⟨shown.negative, positional (-shown.exponent).toNat shown.coefficient, currency.designator,
      currency.style⟩ rfl (textOf currency shown)
  rw [places] at value
  have resolved : registry.resolve currency.designator currency.style = (.ok currency, registry) := by
    rw [Registry.resolve, Registry.lookup?, known]
  have amount : (if shown.negative then
      Decimal.neg ⟨false, shown.coefficient, shown.exponent⟩ else
      .ok ⟨false, shown.coefficient, shown.exponent⟩) = .ok shown := by
    have round := printed.toIsShown.round_eq
    have sign := printed.sign
    rcases shown with ⟨negative, coefficient, exponent⟩
    cases negative with
    | false => rfl
    | true =>
        have nonzero : isZero ⟨false, coefficient, exponent⟩ = false := sign rfl
        rw [if_pos rfl, Decimal.neg, nonzero]
        exact round
  unfold ofText
  dsimp only
  rw [textOf] at value ⊢
  rw [trim, literal]
  dsimp only
  rw [value]
  dsimp only
  rw [resolved]
  dsimp only
  rw [amount]
  rfl

/-- What was read back passes the check of its decimals. -/
theorem checkPrecision_of_isPrinted {registry : Registry} {designator : Text} {unit : Int}
    {shown : Decimal} (smallest : unitExponent (registry.currencyFor designator).precision = .ok unit)
    (printed : IsPrinted unit shown) :
    checkPrecision ⟨designator, shown⟩ registry = .ok ⟨designator, shown⟩ := by
  unfold checkPrecision
  dsimp only
  rw [smallest]
  change (do
    let quantized ← Outcome.ofNumbers (quantize .halfEven unit shown)
    if shown.same quantized then .ok ⟨designator, shown⟩
    else .error _ : Outcome Money) = _
  rw [printed.quantize_eq]
  change (if shown.same shown then _ else _) = _
  rw [if_pos ((same_iff shown shown).mpr rfl)]

end Money

/-! ## What is read -/

theorem Registry.Proper.precision_currencyFor {registry : Registry} (proper : registry.Proper)
    (designator : Text) : 0 ≤ (registry.currencyFor designator).precision := by
  unfold Registry.currencyFor
  cases found : registry.currencies.get? designator with
  | none => exact Currency.defaultPrecision_proper.1
  | some currency => exact (proper.listed designator currency found).2.precision.1

namespace Money

open Decimal

/-- Reading an amount asks for one currency, and goes the same way wherever that is answered. -/
theorem exists_resolve_of_ofText {text : Text} {registry after : Registry} {money : Money}
    (ok : ofText text registry = (.ok money, after)) :
    ∃ token style currency, style.Suits (normalDesignator token) ∧
      registry.resolve token style = (.ok currency, after) ∧ money.currency = currency.designator ∧
        ∀ other known next, other.resolve token style = (.ok known, next) →
          ofText text other = (.ok ⟨known.designator, money.amount⟩, next) := by
  unfold ofText at ok ⊢
  dsimp only at ok ⊢
  split at ok
  · cases ok
  · rename_i literal read
    split at ok
    · cases ok
    · split at ok
      · cases ok
      · rename_i value measured _ currency left resolved
        rcases Prod.mk.inj ok with ⟨signed, rfl⟩
        rcases Outcome.map_eq_ok.mp signed with ⟨amount, computed, rfl⟩
        refine ⟨literal.token, literal.style, currency, (Literal.ofText_eq_ok_iff.mp read).1.suits, resolved, rfl, ?_⟩
        intro other known next answered
        rw [answered]
        dsimp only
        rw [computed]
        rfl

/-- Reading an amount keeps the currencies and finds one of them. -/
theorem ofText_eq_ok {text : Text} {registry after : Registry} {money : Money} (proper : registry.Proper)
    (ok : ofText text registry = (.ok money, after)) :
    after.Proper ∧ after.has money.currency = true ∧
      ∀ designator, registry.has designator = true → after.has designator = true := by
  rcases exists_resolve_of_ofText ok with ⟨token, style, currency, suits, resolved, same, -⟩
  rw [same]
  exact proper.resolve suits resolved

theorem eq_of_checkPrecision {money checked : Money} {registry : Registry}
    (ok : money.checkPrecision registry = .ok checked) : checked = money := by
  unfold checkPrecision at ok
  rcases Outcome.bind_eq_ok.mp ok with ⟨unit, -, ok⟩
  rcases Outcome.bind_eq_ok.mp ok with ⟨shown, -, ok⟩
  split at ok
  · exact (Except.ok.inj ok).symm
  · cases ok

/-- An amount that passes the check of its decimals is on the grid of its currency and
has no more digits than are kept. -/
theorem checkPrecision_eq_ok {money checked : Money} {registry : Registry} (proper : registry.Proper)
    (ok : money.checkPrecision registry = .ok checked) :
    money.OnCurrencyGrid registry ∧ Within 28 money.amount := by
  unfold checkPrecision at ok
  rcases Outcome.bind_eq_ok.mp ok with ⟨unit, smallest, ok⟩
  rcases Outcome.bind_eq_ok.mp ok with ⟨shown, quantized, ok⟩
  rw [Outcome.ofNumbers_eq_ok] at quantized
  split at ok
  · rename_i same
    have value := (same_iff _ _).mp same
    have most := (unitExponent_eq_ok (proper.precision_currencyFor money.currency) smallest).2
    have is_shown := isShown_of_quantize most quantized
    constructor
    · intro other also
      rcases Except.ok.inj (smallest.symm.trans also) with rfl
      rw [value]
      exact is_shown.onGrid
    · rw [Within, value]
      exact is_shown.within
  · cases ok

end Money
end Daybook
