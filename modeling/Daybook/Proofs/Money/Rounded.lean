import Daybook.Proofs.Money.Printed

namespace Daybook

/-!
# Printed amounts are rounded

What is read back of a printed amount is its rounding to the decimals of its
currency, half-even, in the registry it was printed in; nothing is bound on the
way.  An amount that rounds to zero is printed without a sign.

The exponents of numbers are bounded, and a currency may be declared with more
decimals than they can count.  Its amounts are printed in the smallest unit
there is, and that is what they are rounded to.
-/

open Unicode Decimal

namespace Decimal

/-- One with one digit or more dropped is nothing. -/
theorem dropDigits_one {count : Nat} (some_dropped : 0 < count) : dropDigits .halfEven 1 count = 0 := by
  have power : 10 ≤ 10 ^ count := Nat.le_self_pow some_dropped.ne' 10
  unfold dropDigits
  rw [Nat.pow_eq, Nat.div_eq_of_lt (by omega), Nat.mod_eq_of_lt (by omega)]
  dsimp only
  rw [if_neg (by omega)]

/-- The unit of a currency is the last of its decimals that exponents can count. -/
theorem exponent_smallestUnit {precision : Int} {unit : Decimal} (positive : 0 ≤ precision)
    (ok : smallestUnit precision = .ok unit) : unit.exponent = max ledger.tiniest (-precision) := by
  rcases le_or_gt ledger.tiniest (-precision) with fine | tiny
  · rw [smallestUnit_of_fine positive fine] at ok
    rw [← Except.ok.inj ok, max_eq_right fine]
  · have first : digitCount 1 = 1 := by rw [digitCount]; rfl
    have kept : keptUnit ⟨false, 1, -precision⟩ = ledger.tiniest := by
      rw [keptUnit, leading, first]
      exact max_eq_right (by dsimp only; omega)
    unfold smallestUnit at ok
    split at ok
    · cases ok
    · have rounds := rounds_round ⟨false, 1, -precision⟩
      rw [ok] at rounds
      rw [max_eq_left tiny.le]
      cases rounds with
      | zero zero => exact absurd zero Nat.one_ne_zero
      | whole _ small fine =>
          rw [kept] at fine
          exact absurd fine (not_le.mpr tiny)
      | dropped _ small coarse short => exact kept
      | carried _ small coarse carry room =>
          rw [dropDigits_one (by rw [kept]; dsimp only; omega)] at carry
          exact absurd carry (by decide)

end Decimal

/-- The exponent of the last decimal that amounts of a currency are printed with. -/
def Currency.unit (currency : Currency) : Int :=
  max ledger.tiniest (-currency.precision)

namespace Money

theorem unitExponent_eq_unit {currency : Currency} {unit : Int} (positive : 0 ≤ currency.precision)
    (ok : unitExponent currency.precision = .ok unit) : unit = currency.unit := by
  rcases Outcome.map_eq_ok.mp ok with ⟨smallest, found, rfl⟩
  exact exponent_smallestUnit positive (Outcome.ofNumbers_eq_ok.mp found)

/-! ## The sign -/

theorem not_mem_minus {style : Style} {designator : Text} (reads : style.Reads designator) :
    '-' ∉ designator := by
  intro member
  have symbol : (∃ c, designator = [c] ∧ isSymbolChar c = true) → False := by
    rintro ⟨c, rfl, symbol⟩
    rw [← List.mem_singleton.mp member] at symbol
    revert symbol
    decide
  cases style with
  | before => exact symbol reads
  | after => exact symbol reads
  | code =>
      have letter := reads.2 _ member
      revert letter
      decide

theorem minus_mem_textOf_iff {currency : Currency} {shown : Decimal}
    (reads : currency.style.Reads currency.designator) :
    '-' ∈ textOf currency shown ↔ shown.negative = true := by
  have designator := not_mem_minus reads
  have number : '-' ∉ positional (-shown.exponent).toNat shown.coefficient := by
    intro member
    rcases mem_positional member with point | digit
    · revert point
      decide
    · revert digit
      decide
  unfold textOf dress
  cases currency.style <;> cases shown.negative <;> simp [designator, number]

theorem IsPrinted.negative_iff {unit : Int} {shown : Decimal} (printed : IsPrinted unit shown) :
    shown.negative = true ↔ shown.value < 0 := by
  have power : (0 : Rat) < 10 ^ shown.exponent := by positivity
  have sign := printed.sign
  rcases shown with ⟨negative, coefficient, exponent⟩
  cases negative with
  | false =>
      have : 0 ≤ value ⟨false, coefficient, exponent⟩ := by
        rw [value_signed]
        simpa using mul_nonneg (Nat.cast_nonneg coefficient) power.le
      simpa using this
  | true =>
      have nonzero := sign rfl
      rw [isZero, beq_eq_false_iff_ne] at nonzero
      have : 0 < (coefficient : Rat) := by exact_mod_cast Nat.pos_of_ne_zero nonzero
      rw [value_signed]
      simpa using mul_pos this power

/-! ## Reading back -/

/-- Whether a number is what is read back of a printed amount: reading finds the currency and
leaves the registry as it was, and the number is the amount rounded half-even to the decimals of
the currency.  Exactly what lies below zero has a sign. -/
structure IsReadBack (registry : Registry) (currency : Currency) (amount : Decimal) (text : Text)
    (rounded : Decimal) : Prop where
  reads : ofText text registry = (.ok ⟨currency.designator, rounded⟩, registry)
  decimals : rounded.exponent = currency.unit
  nearest : IsNearest currency.unit amount.value rounded.value
  minus_iff : '-' ∈ text ↔ rounded.value < 0

/-- A printed amount is read back as its rounding. -/
theorem format_reads_back {registry : Registry} {currency : Currency} {amount : Decimal} {text : Text}
    (known : registry.currencies.get? currency.designator = some currency)
    (readable : currency.style.Reads currency.designator) (positive : 0 ≤ currency.precision)
    (printed : format ⟨currency.designator, amount⟩ registry = .ok text) :
    ∃ rounded, IsReadBack registry currency amount text rounded := by
  have found : registry.currencyFor currency.designator = currency := by
    rw [Registry.currencyFor, known]
    rfl
  rcases exists_isPrinted_nearest (found.symm ▸ positive) printed with
    ⟨unit, shown, smallest, is_printed, nearest, rfl⟩
  rw [found] at smallest
  rw [found]
  rcases unitExponent_eq_unit positive smallest with rfl
  exact ⟨shown, ofText_textOf known readable is_printed, is_printed.exponent, nearest,
    (minus_mem_textOf_iff readable).trans is_printed.negative_iff⟩

/-- A half cent below zero is read back as nothing, and printed without a sign. -/
theorem halfCent_reads_back :
    let euro : Currency := ⟨['€'], none, 2, none, .after⟩
    let registry : Registry := { closed := true, currencies := [(['€'], euro)] }
    format ⟨['€'], ⟨true, 5, -3⟩⟩ registry = .ok "0.00€".toList ∧
      ∃ rounded, IsReadBack registry euro ⟨true, 5, -3⟩ "0.00€".toList rounded := by
  intro euro registry
  have printed : format ⟨['€'], ⟨true, 5, -3⟩⟩ registry = .ok "0.00€".toList := by decide +kernel
  exact ⟨printed, format_reads_back rfl ⟨'€', rfl, by decide +kernel⟩ (by decide) printed⟩

/-! ## What is not read back -/

/-- A currency with one decimal more than exponents can count. -/
def speck : Currency := ⟨['X'], none, 1000027, none, .code⟩

theorem exists_format_speck {registry : Registry} (known : registry.currencies.get? ['X'] = some speck) :
    ∃ text, format ⟨['X'], ⟨false, 1, -1000027⟩⟩ registry = .ok text ∧
      ofText text registry = (.ok ⟨['X'], ⟨false, 0, -1000026⟩⟩, registry) := by
  have smallest : unitExponent 1000027 = .ok (-1000026) := by decide +kernel
  have quantized : quantize .halfEven (-1000026) ⟨false, 1, -1000027⟩ = .ok ⟨false, 0, -1000026⟩ := by
    decide +kernel
  have is_shown := isShown_of_quantize (by decide) quantized
  have printed : IsPrinted (-1000026) ⟨false, 0, -1000026⟩ := ⟨is_shown, fun negative => by cases negative⟩
  have found : registry.currencyFor ['X'] = speck := by
    rw [Registry.currencyFor, known]
    rfl
  refine ⟨textOf speck ⟨false, 0, -1000026⟩, ?_, ?_⟩
  · unfold format
    dsimp only
    rw [found]
    change (do
      let unit ← unitExponent 1000027
      let rounded ← Outcome.ofNumbers (quantize .halfEven unit ⟨false, 1, -1000027⟩)
      let number ← formatAmount rounded 1000027
      return dress speck.style rounded.isNegative speck.designator number : Outcome Text) = _
    rw [smallest]
    change (do
      let rounded ← Outcome.ofNumbers (quantize .halfEven (-1000026) ⟨false, 1, -1000027⟩)
      let number ← formatAmount rounded 1000027
      return dress speck.style rounded.isNegative speck.designator number : Outcome Text) = _
    rw [quantized]
    change (do
      let number ← formatAmount ⟨false, 0, -1000026⟩ 1000027
      return dress speck.style false speck.designator number : Outcome Text) = _
    rw [formatAmount_eq smallest is_shown]
    rfl
  · have letter : isCodeLetter 'X' = true := by decide +kernel
    have readable : speck.style.Reads speck.designator := by
      refine ⟨List.cons_ne_nil _ _, fun c member => ?_⟩
      rw [List.mem_singleton.mp member]
      exact letter
    exact ofText_textOf (known : registry.currencies.get? speck.designator = some speck) readable printed

/-- The smallest amounts of a currency with too many decimals are lost when they are
printed.  So is every amount whose designator counts as a code or a symbol without being
read as one: a letter whose capital takes two characters, and a symbol with a line feed
behind it. -/
theorem printed_amounts_lost :
    (∃ registry text,
      Registry.declare {} { designator := ['X'], precision := 1000027 } = (.ok speck, registry) ∧
      format ⟨['X'], ⟨false, 1, -1000027⟩⟩ registry = .ok text ∧
      ∀ read after, ofText text registry = (.ok read, after) →
        ¬ IsNearest (-speck.precision) (value ⟨false, 1, -1000027⟩) read.amount.value) ∧
    (∃ registry currency, Registry.declare {} { designator := ['ǰ'] } = (.ok currency, registry) ∧
      isCode ['ǰ'] = true ∧ currency.designator = upper ['ǰ'] ∧ currency.style = .code ∧
      format ⟨upper ['ǰ'], ⟨false, 10, 0⟩⟩ registry = .ok "10.00 J̌".toList ∧
      ofText "10.00 J̌".toList registry =
        (.error (.ofCause (.malformedMoney "10.00 J̌".toList)), registry)) ∧
    (∃ registry currency, Registry.declare {} { designator := ['$', '\n'] } = (.ok currency, registry) ∧
      isSymbol ['$', '\n'] = true ∧ currency.designator = ['$', '\n'] ∧ currency.style = .before ∧
      format ⟨['$', '\n'], ⟨false, 10, 0⟩⟩ registry = .ok "$\n10.00".toList ∧
      ofText "$\n10.00".toList registry =
        (.error (.ofCause (.malformedMoney "$\n10.00".toList)), registry)) := by
  refine ⟨?_, ?_, ?_⟩
  · obtain ⟨registry, declared, known⟩ : ∃ registry,
        Registry.declare {} { designator := ['X'], precision := 1000027 } = (.ok speck, registry) ∧
          registry.currencies.get? ['X'] = some speck :=
      ⟨(Registry.declare {} { designator := ['X'], precision := 1000027 }).2,
        Prod.ext (by decide +kernel) rfl, by decide +kernel⟩
    rcases exists_format_speck known with ⟨text, printed, reads⟩
    refine ⟨registry, text, declared, printed, fun read after ok nearest => ?_⟩
    rw [reads] at ok
    rw [← Except.ok.inj (Prod.mk.inj ok).1] at nearest
    have kept := nearest.eq_of_onGrid (OnGrid.ofValue ⟨false, 1, -1000027⟩)
    rw [(value_eq_zero_iff ⟨false, 0, -1000026⟩).mpr rfl] at kept
    exact absurd ((value_eq_zero_iff ⟨false, 1, -1000027⟩).mp kept.symm) one_ne_zero
  · exact ⟨_, _, Prod.ext rfl rfl, by decide +kernel, by decide +kernel, by decide +kernel,
      by decide +kernel, by decide +kernel⟩
  · exact ⟨_, _, Prod.ext rfl rfl, by decide +kernel, by decide +kernel, by decide +kernel,
      by decide +kernel, by decide +kernel⟩

end Money
end Daybook
