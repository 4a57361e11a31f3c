import Daybook.Booking.Resolution
import Daybook.Proofs.Ledger.Bounded
import Daybook.Proofs.Ledger.Reader
import Daybook.Proofs.Money.Shares

namespace Daybook

/-!
# Resolved bookings

Carrying out a split and inferring an amount bring in accounts and amounts that were
not written.  They are of the same kind as the written ones: the accounts are in
normal form, the amounts are on the grid of a currency that the ledger knows, and all
amounts stay far below what arithmetic can hold.
-/

/-- Whether an amount is in a known currency and on its grid, within a power of ten. -/
structure Money.Settled (registry : Registry) (power : Int) (money : Money) : Prop where
  known : registry.has money.currency = true
  bounds : ∀ unit, Money.unitExponent (registry.currencyFor money.currency).precision = .ok unit →
    Decimal.InBounds unit power money.amount
  within : Decimal.Within power money.amount

theorem Money.Settled.mono {registry : Registry} {small large : Int} {money : Money}
    (order : small ≤ large) (settled : money.Settled registry small) : money.Settled registry large :=
  ⟨settled.known, fun unit smallest => (settled.bounds unit smallest).mono order,
    settled.within.mono order⟩

theorem Money.Settled.onCurrencyGrid {registry : Registry} {power : Int} {money : Money}
    (settled : money.Settled registry power) : money.OnCurrencyGrid registry :=
  fun unit smallest => (settled.bounds unit smallest).grid

theorem Money.Settled.exists_neg {registry : Registry} {power : Int} (low : 0 ≤ power)
    (high : power < Decimal.ledger.largest) {money : Money} (settled : money.Settled registry power) :
    ∃ opposite, money.neg = .ok opposite ∧ opposite.Settled registry power := by
  rcases Decimal.neg_within low high settled.within with ⟨amount, negated, within⟩
  refine ⟨⟨money.currency, amount⟩, Money.neg_of_amount negated, settled.known, ?_, within⟩
  exact fun unit smallest => (settled.bounds unit smallest).neg low high negated

theorem Money.Settled.neg {registry : Registry} {power : Int} (low : 0 ≤ power)
    (high : power < Decimal.ledger.largest) {money opposite : Money}
    (settled : money.Settled registry power) (ok : money.neg = .ok opposite) :
    opposite.Settled registry power := by
  rcases settled.exists_neg low high with ⟨other, same, known⟩
  rcases Except.ok.inj (same.symm.trans ok) with rfl
  exact known

namespace Posting

variable {posting : Posting} {money : Money}

theorem isBlank_of_none (waits : posting.money = none) : posting.isBlank = true := by
  rw [isBlank, waits, Option.isNone_none]

theorem isBlank_of_some (given : posting.money = some money) : posting.isBlank = false := by
  rw [isBlank, given, Option.isNone_some]

theorem exists_money (filled : ¬ posting.isBlank = true) : ∃ money, posting.money = some money := by
  rw [isBlank, Option.isNone_iff_eq_none] at filled
  exact Option.ne_none_iff_exists'.mp filled

end Posting

namespace Booking

/-- A booking whose postings are as they should be, as far as they have amounts. -/
structure Halfway (registry : Registry) (power : Int) (booking : Booking) : Prop where
  description : IsDescriptionLine booking.description
  split : booking.split = none
  filled : booking.postings ≠ []
  accounts : ∀ posting ∈ booking.postings, posting.account.IsNormal
  settled : ∀ posting ∈ booking.postings, ∀ money, posting.money = some money →
    money.Settled registry power

/-- A booking of a resolved ledger: every posting has an amount. -/
structure Settled (registry : Registry) (booking : Booking) : Prop
    extends Booking.Halfway registry amountPower booking where
  complete : ∀ posting ∈ booking.postings, ∃ money, posting.money = some money

variable {registry : Registry} {booking resolved : Booking}

theorem Settled.blankPostings_eq_nil (settled : booking.Settled registry) :
    booking.blankPostings = [] := by
  rw [blankPostings, List.filter_eq_nil_iff]
  intro posting member
  rcases settled.complete posting member with ⟨money, given⟩
  rw [Posting.isBlank_of_some given]
  exact Bool.false_ne_true

theorem Halfway.mono {small large : Int} (order : small ≤ large)
    (halfway : booking.Halfway registry small) : booking.Halfway registry large :=
  ⟨halfway.description, halfway.split, halfway.filled, halfway.accounts,
    fun posting member money found => (halfway.settled posting member money found).mono order⟩

/-! ## Splits -/

/-- The power of ten that bounds amounts after a split. -/
def splitPower : Int := Money.splitPower

theorem mem_contactAccounts (contact : Text) (share : Money) :
    (contactPosting contact share).account ∈ Account.contactAccounts contact := by
  unfold contactPosting
  dsimp only
  split
  · exact List.mem_cons_self
  · exact List.mem_cons_of_mem _ List.mem_cons_self

theorem account_contactPosting {contact : Text} (known : Account.IsContact contact) (share : Money) :
    (contactPosting contact share).account.IsNormal :=
  (Account.normal_of_mem_contactAccounts known (mem_contactAccounts contact share)).1

/-- What was written is settled. -/
theorem Written.settled (written : booking.Written registry) {posting : Posting}
    (member : posting ∈ booking.postings) {money : Money} (found : posting.money = some money) :
    money.Settled registry 28 := by
  rcases written.grid posting member money found with ⟨grid, within⟩
  exact ⟨written.known posting member money found, fun unit smallest => ⟨grid unit smallest, within⟩,
    within⟩

theorem mem_moneys {money : Money} (member : money ∈ booking.moneys) :
    ∃ posting ∈ booking.postings, posting.money = some money :=
  List.mem_filterMap.mp member

/-- A share is settled once it is known to be in bounds for the unit of its currency. -/
theorem settled_of_share {total share : Money} (settled : total.Settled registry 28)
    (smallest : ∃ unit, Money.unitExponent (registry.currencyFor total.currency).precision = .ok unit)
    (same : share.currency = total.currency)
    (bounds : ∀ unit, Money.unitExponent (registry.currencyFor total.currency).precision = .ok unit →
      Decimal.InBounds unit splitPower share.amount) : share.Settled registry splitPower := by
  rcases smallest with ⟨unit, found⟩
  exact ⟨same ▸ settled.known, same ▸ bounds, (bounds unit found).within⟩

/-- A posting of a contact has its money settled when its share is. -/
theorem contactPosting_settled {contact : Text} {share : Money} (known : Account.IsContact contact)
    (settled : share.Settled registry splitPower) :
    (contactPosting contact share).account.IsNormal ∧
      ∀ money, (contactPosting contact share).money = some money → money.Settled registry splitPower := by
  refine ⟨account_contactPosting known share, ?_⟩
  rintro _ ⟨⟩
  exact settled

/-- Written postings together with settled ones that were added. -/
theorem Written.extended (written : booking.Written registry) {kept added : List Posting}
    (within : kept ⊆ booking.postings) (filled : kept ++ added ≠ [])
    (settled : ∀ posting ∈ added, posting.account.IsNormal ∧
      ∀ money, posting.money = some money → money.Settled registry splitPower) :
    Halfway registry splitPower { booking with postings := kept ++ added, split := none } := by
  refine ⟨written.description, rfl, filled, ?_, ?_⟩
  · intro posting member
    rcases List.mem_append.mp member with inside | inside
    · exact written.accounts posting (within inside)
    · exact (settled posting inside).1
  · intro posting member money found
    rcases List.mem_append.mp member with inside | inside
    · exact (written.settled (within inside) found).mono (by decide)
    · exact (settled posting inside).2 money found

/-- The shares of a settled total are settled. -/
theorem settled_of_splitEven (proper : registry.Proper) {total : Money} {parts : Int}
    {shares : List Money} (settled : total.Settled registry 28)
    (divided : total.splitEven parts (registry.currencyFor total.currency).precision = .ok shares) :
    ∀ share ∈ shares, share.Settled registry splitPower := by
  intro share member
  rcases Money.splitEven_eq_ok (proper.precision_currencyFor total.currency) settled.bounds divided
    share member with ⟨same, bounds⟩
  exact settled_of_share settled (Money.exists_unit_of_splitEven divided) same bounds

/-- What carrying out a split consists of: nothing if there is none, and otherwise the one
amount is turned around, and either divided, with a share for every contact, or charged to
one contact as a whole. -/
theorem resolveSplit_eq_ok (ok : booking.resolveSplit registry = .ok resolved) :
    (booking.split = none ∧ resolved = booking) ∨
      ∃ directive first others funding total, booking.split = some directive ∧
        directive.contacts = first :: others ∧ booking.moneys = [funding] ∧
        funding.neg = .ok total ∧
        ((∃ shares, total.splitEven ((first :: others).length + 1)
              (registry.currencyFor total.currency).precision = .ok shares ∧
            resolved =
              { booking with
                postings := booking.postings ++
                  List.zipWith contactPosting (first :: others) shares.tail
                split := none }) ∨
          resolved =
            { booking with
              postings := booking.explicitPostings ++ [contactPosting first total]
              split := none }) := by
  unfold resolveSplit at ok
  split at ok
  · rename_i nothing
    exact Or.inl ⟨nothing, (Except.ok.inj ok).symm⟩
  · rename_i directive to_do
    right
    split at ok
    · cases ok
    · rename_i first others funding named one_amount
      rcases Outcome.bind_eq_ok.mp ok with ⟨total, negated, ok⟩
      refine ⟨directive, first, others, funding, total, to_do, named, one_amount, negated, ?_⟩
      split at ok
      · rcases Outcome.bind_eq_ok.mp ok with ⟨shares, divided, ok⟩
        exact Or.inl ⟨shares, divided, (Except.ok.inj ok).symm⟩
      · exact Or.inr (Except.ok.inj ok).symm
    · cases ok

/-- The posting of a contact carries a share. -/
theorem exists_share {contacts : List Text} {shares : List Money} {posting : Posting}
    (member : posting ∈ List.zipWith contactPosting contacts shares) :
    ∃ contact ∈ contacts, ∃ share ∈ shares, posting = contactPosting contact share := by
  rw [← List.map_uncurry_zip_eq_zipWith] at member
  rcases List.mem_map.mp member with ⟨⟨contact, share⟩, paired, rfl⟩
  rcases List.of_mem_zip paired with ⟨named, listed⟩
  exact ⟨contact, named, share, listed, rfl⟩

/-- Where the amounts of a booking come from whose split was carried out: they were there
before, or they are the whole or a share of the one amount turned around. -/
theorem amount_of_resolveSplit (ok : booking.resolveSplit registry = .ok resolved) {money : Money}
    (member : money ∈ resolved.moneys) :
    money ∈ booking.moneys ∨
      ∃ funding total, booking.moneys = [funding] ∧ funding.neg = .ok total ∧
        (money = total ∨
          ∃ parts shares,
            total.splitEven parts (registry.currencyFor total.currency).precision = .ok shares ∧
            money ∈ shares) := by
  rcases resolveSplit_eq_ok ok with ⟨-, rfl⟩ |
    ⟨directive, first, others, funding, total, -, -, one_amount, negated, ok⟩
  · exact Or.inl member
  · rcases ok with ⟨shares, divided, rfl⟩ | rfl
    · rw [moneys, List.filterMap_append, List.mem_append] at member
      refine member.imp_right fun inside => ?_
      rcases List.mem_filterMap.mp inside with ⟨posting, added, found⟩
      rcases exists_share added with ⟨contact, -, share, listed, rfl⟩
      rcases Option.some.inj found with rfl
      exact ⟨funding, total, one_amount, negated, Or.inr ⟨_, shares, divided, List.mem_of_mem_tail listed⟩⟩
    · rw [moneys, List.filterMap_append, List.mem_append] at member
      rcases member with inside | inside
      · rcases List.mem_filterMap.mp inside with ⟨posting, kept, found⟩
        exact Or.inl (List.mem_filterMap.mpr ⟨posting, List.mem_of_mem_filter kept, found⟩)
      · rcases List.mem_filterMap.mp inside with ⟨posting, added, found⟩
        rcases List.mem_singleton.mp added with rfl
        exact Or.inr ⟨funding, total, one_amount, negated, Or.inl (Option.some.inj found).symm⟩

theorem settled_of_resolveSplit (proper : registry.Proper)
    (settled : ∀ money ∈ booking.moneys, money.Settled registry 28)
    (ok : booking.resolveSplit registry = .ok resolved) :
    ∀ money ∈ resolved.moneys, money.Settled registry splitPower := by
  intro money member
  rcases amount_of_resolveSplit ok member with before | ⟨funding, total, one_amount, negated, origin⟩
  · exact (settled money before).mono (by decide)
  · have among : funding ∈ booking.moneys := by rw [one_amount]; exact List.mem_cons_self
    have known := (settled funding among).neg (by decide) (by decide) negated
    rcases origin with rfl | ⟨parts, shares, divided, listed⟩
    · exact known.mono (by decide)
    · exact settled_of_splitEven proper known divided money listed

/-- Carrying out a split. -/
theorem Written.resolveSplit (proper : registry.Proper) (written : booking.Written registry)
    (ok : booking.resolveSplit registry = .ok resolved) : resolved.Halfway registry splitPower := by
  rcases resolveSplit_eq_ok ok with ⟨nothing, rfl⟩ |
    ⟨directive, first, others, funding, total, to_do, named, one_amount, negated, ok⟩
  · exact ⟨written.description, nothing, written.filled, written.accounts,
      fun posting member money found => (written.settled member found).mono (by decide)⟩
  · have normal := written.split directive to_do
    obtain ⟨posting, among, found⟩ := @mem_moneys booking funding
      (by rw [one_amount]; exact List.mem_cons_self)
    have total_settled := (written.settled among found).neg (by decide) (by decide) negated
    rcases ok with ⟨shares, divided, rfl⟩ | rfl
    · have shares_settled := settled_of_splitEven proper total_settled divided
      apply written.extended (List.Subset.refl _) (by simp [written.filled])
      intro posting member
      rcases exists_share member with ⟨contact, in_contacts, share, in_shares, rfl⟩
      exact contactPosting_settled (normal contact (named ▸ in_contacts))
        (shares_settled share (List.mem_of_mem_tail in_shares))
    · apply written.extended List.filter_sublist.subset (by simp)
      intro posting member
      rw [List.mem_singleton.mp member]
      exact contactPosting_settled (normal first (named ▸ List.mem_cons_self))
        (total_settled.mono (by decide))

/-! ## Totals -/

/-- Whether totals are settled, each in the currency it is listed under. -/
def SettledTotals (registry : Registry) (power : Int) (totals : Table Text Decimal) : Prop :=
  ∀ currency total, totals.get? currency = some total →
    (⟨currency, total⟩ : Money).Settled registry power

theorem SettledTotals.addTotals {power : Int} (low : 0 ≤ power) (high : power < Decimal.ledger.largest)
    {totals result : Table Text Decimal} {moneys : List Money}
    (before : SettledTotals registry power totals)
    (each : ∀ money ∈ moneys, money.Settled registry (power - Decimal.margin))
    (ok : Booking.addTotals totals moneys = .ok result) : SettledTotals registry power result := by
  induction moneys generalizing totals with
  | nil =>
      rcases Except.ok.inj ok with rfl
      exact before
  | cons money rest ih =>
      rcases Outcome.bind_eq_ok.mp ok with ⟨sum, added, ok⟩
      refine ih ?_ (fun other member => each other (List.mem_cons_of_mem _ member)) ok
      have settled := each money List.mem_cons_self
      have current : (∀ unit,
          Money.unitExponent (registry.currencyFor money.currency).precision = .ok unit →
            Decimal.InBounds unit power ((totals.get? money.currency).getD .zero)) ∧
          Decimal.Within power ((totals.get? money.currency).getD .zero) := by
        cases found : totals.get? money.currency with
        | none => exact ⟨fun unit _ => Decimal.InBounds.zero unit power, Decimal.within_zero power⟩
        | some total =>
            have known := before money.currency total found
            exact ⟨known.bounds, known.within⟩
      intro currency total found
      rw [Table.get?_put] at found
      split at found
      · rename_i same
        rw [← Option.some.inj found]
        rcases Decimal.add_within low high current.2 settled.within with ⟨known, equal, within⟩
        rcases Except.ok.inj (equal.symm.trans added) with rfl
        refine ⟨same ▸ settled.known, ?_, within⟩
        intro unit smallest
        rw [← same] at smallest
        exact (current.1 unit smallest).add low high (settled.bounds unit smallest) added
      · exact before currency total found

/-! ## Inference -/

theorem blankPostings_eq_nil (complete : booking.blankPostings = []) :
    ∀ posting ∈ booking.postings, ∃ money, posting.money = some money := by
  intro posting member
  exact Posting.exists_money (List.filter_eq_nil_iff.mp complete posting member)

theorem settled_of_balancing {power : Int} (low : 0 ≤ power) (high : power < Decimal.ledger.largest)
    {currency : Text} {total amount : Decimal} (settled : (⟨currency, total⟩ : Money).Settled registry power)
    (ok : balancing total = .ok amount) : (⟨currency, amount⟩ : Money).Settled registry power := by
  unfold balancing at ok
  split at ok
  · rcases Except.ok.inj ok with rfl
    exact ⟨settled.known, fun unit _ => Decimal.InBounds.zero unit power, Decimal.within_zero power⟩
  · exact settled.neg low high (Money.neg_of_amount ok)

theorem Halfway.moneys {power : Int} (halfway : booking.Halfway registry power) :
    ∀ money ∈ booking.moneys, money.Settled registry power := by
  intro money member
  rcases mem_moneys member with ⟨posting, among, found⟩
  exact halfway.settled posting among money found

/-- The totals of a booking whose split has been carried out. -/
theorem settledTotals (settled : ∀ money ∈ booking.moneys, money.Settled registry splitPower)
    {totals : Table Text Decimal} (added : Booking.addTotals [] booking.moneys = .ok totals) :
    SettledTotals registry (splitPower + Decimal.margin) totals := by
  refine SettledTotals.addTotals (by decide) (by decide) (by rintro currency total ⟨⟩) ?_ added
  intro money member
  rw [add_sub_cancel_right]
  exact settled money member

/-- What inferring consists of: a balanced booking without a blank stays as it is, and in one with
one blank and amounts of one currency the blank takes what makes their total zero. -/
theorem infer_eq_ok (ok : booking.infer = .ok resolved) :
    booking.blankPostings = [] ∧ booking.validate = .ok () ∧ resolved = booking ∨
      ∃ blank currency total amount, booking.blankPostings = [blank] ∧
        booking.imbalance = .ok [(currency, total)] ∧ balancing total = .ok amount ∧
        resolved = { booking with postings := fillBlanks ⟨currency, amount⟩ booking.postings } := by
  unfold Booking.infer at ok
  split at ok
  · rename_i complete
    rcases Outcome.map_eq_ok.mp ok with ⟨⟨⟩, valid, rfl⟩
    exact Or.inl ⟨complete, valid, rfl⟩
  · rename_i blank one_blank
    rcases Outcome.bind_eq_ok.mp ok with ⟨totals, imbalance, ok⟩
    split at ok
    · rename_i currency total
      rcases Outcome.bind_eq_ok.mp ok with ⟨amount, balanced, ok⟩
      exact Or.inr ⟨blank, currency, total, amount, one_blank, imbalance,
        Outcome.ofNumbers_eq_ok.mp balanced, (Except.ok.inj ok).symm⟩
    · cases ok
  · cases ok

/-- Inferring an omitted amount. -/
theorem Halfway.infer (halfway : booking.Halfway registry splitPower) (ok : booking.infer = .ok resolved) :
    resolved.Settled registry := by
  rcases infer_eq_ok ok with ⟨complete, -, rfl⟩ |
    ⟨blank, currency, total, amount, -, imbalance, balanced, rfl⟩
  · exact ⟨halfway.mono (by decide), blankPostings_eq_nil complete⟩
  · have settled := settledTotals halfway.moneys (Outcome.ofNumbers_eq_ok.mp imbalance)
    have known := settled currency total (by rw [Table.get?, if_pos rfl])
    have inferred := (settled_of_balancing (by decide) (by decide) known balanced).mono
      (by decide : _ ≤ amountPower)
    have before := halfway.mono (by decide : splitPower ≤ amountPower)
    have fill : ∀ posting ∈ fillBlanks ⟨currency, amount⟩ booking.postings,
        posting.account.IsNormal ∧
          ∃ money, posting.money = some money ∧ money.Settled registry amountPower := by
      intro posting member
      rcases List.mem_map.mp member with ⟨old, inside, rfl⟩
      split
      · exact ⟨before.accounts old inside, _, rfl, inferred⟩
      · rename_i filled
        rcases Posting.exists_money filled with ⟨money, found⟩
        exact ⟨before.accounts old inside, money, found, before.settled old inside money found⟩
    refine ⟨⟨before.description, before.split, ?_, fun posting member => (fill posting member).1, ?_⟩, ?_⟩
    · simpa [fillBlanks] using before.filled
    · intro posting member money found
      rcases (fill posting member).2 with ⟨other, given, settled⟩
      rcases Option.some.inj (given.symm.trans found) with rfl
      exact settled
    · intro posting member
      rcases (fill posting member).2 with ⟨money, given, -⟩
      exact ⟨money, given⟩

/-- What resolving a booking consists of. -/
theorem resolve_eq_ok (ok : booking.resolve registry = .ok resolved) :
    ∃ carried, booking.resolveSplit registry = .ok carried ∧ carried.infer = .ok resolved := by
  unfold Booking.resolve at ok
  split at ok
  · rename_i known result
    rcases Except.ok.inj ok with rfl
    exact Outcome.bind_eq_ok.mp result
  · split at ok
    · cases ok
    · cases ok

/-- Resolving leaves the offset of the date alone. -/
theorem dateOffset_of_resolve (ok : booking.resolve registry = .ok resolved) :
    resolved.dateOffset = booking.dateOffset := by
  rcases resolve_eq_ok ok with ⟨carried, split_off, inferred⟩
  have first : carried.dateOffset = booking.dateOffset := by
    rcases resolveSplit_eq_ok split_off with ⟨-, rfl⟩ |
      ⟨_, _, _, _, _, -, -, -, -, ⟨shares, -, rfl⟩ | rfl⟩
    · rfl
    · rfl
    · rfl
  rw [← first]
  rcases infer_eq_ok inferred with ⟨-, -, rfl⟩ | ⟨_, _, _, _, -, -, -, rfl⟩
  · rfl
  · rfl

/-! ## Refusals -/

/-- Why a split is not carried out: it names no contact, not exactly one posting has an amount, or
that amount cannot be turned around or divided. -/
inductive Unsplit (registry : Registry) (booking : Booking) : Failure → Prop
  | nobody : Unsplit registry booking (booking.faultOf (.splitAmongNobody booking.description))
  | funding : Unsplit registry booking
      (booking.faultOf (.fundingPostings booking.description booking.moneys.length))
  | opposite {funding : Money} {failure : Failure} (one_amount : booking.moneys = [funding])
      (refused : funding.neg = .error failure) : Unsplit registry booking failure
  | shares {directive : SplitDirective} {funding total : Money} {failure : Failure}
      (to_do : booking.split = some directive) (even : directive.mode = .even)
      (some_contact : directive.contacts ≠ []) (one_amount : booking.moneys = [funding])
      (negated : funding.neg = .ok total)
      (refused : total.splitEven (directive.contacts.length + 1)
        (registry.currencyFor total.currency).precision = .error failure) :
      Unsplit registry booking failure

theorem unsplit_of_resolveSplit {failure : Failure}
    (failed : booking.resolveSplit registry = .error failure) : Unsplit registry booking failure := by
  unfold resolveSplit at failed
  split at failed
  · cases failed
  · rename_i directive to_do
    split at failed
    · cases failed
      exact .nobody
    · rename_i first others funding named one_amount
      rcases Outcome.bind_eq_error.mp failed with refused | ⟨total, negated, failed⟩
      · exact .opposite one_amount refused
      · split at failed
        · rename_i even
          rcases Outcome.bind_eq_error.mp failed with refused | ⟨shares, -, done⟩
          · rw [← named] at refused
            exact .shares to_do even (named ▸ List.cons_ne_nil first others) one_amount negated refused
          · cases done
        · cases failed
    · cases failed
      exact .funding

/-- Why the amounts of a booking are not completed.  They cannot be added up, or they are complete
and leave a rest, or what is left over cannot be turned around, or the one amount that is missing
is of no certain currency, or several are missing. -/
inductive Uninferred (booking : Booking) : Failure → Prop
  | sum {failure : Failure} (refused : booking.imbalance = .error failure) :
      Uninferred booking failure
  | rest {currency : Text} {total : Decimal} : Uninferred booking
      (booking.faultOf (.unbalanced booking.description total currency))
  | opposite {currency : Text} {total : Decimal} {signal : Decimal.Signal}
      (imbalance : booking.imbalance = .ok [(currency, total)])
      (refused : balancing total = .error signal) : Uninferred booking (.arithmetic signal)
  | none {blank : Posting} (waiting : booking.blankPostings = [blank]) : Uninferred booking
      (.ledger { cause := .noCurrency booking.description, line := booking.lineOf blank })
  | currencies {blank : Posting} {count : Nat} (waiting : booking.blankPostings = [blank]) :
      Uninferred booking (.ledger
        { cause := .severalCurrencies booking.description count, line := booking.lineOf blank })
  | blanks {first second : Posting} {others : List Posting}
      (waiting : booking.blankPostings = first :: second :: others) : Uninferred booking (.ledger
        { cause := .severalBlanks booking.description booking.blankPostings.length
          line := booking.lineOf second })

theorem uninferred_of_validate {failure : Failure} (failed : booking.validate = .error failure) :
    booking.Uninferred failure := by
  rcases Outcome.bind_eq_error.mp failed with refused | ⟨totals, -, failed⟩
  · exact .sum refused
  · split at failed
    · cases failed
      exact .rest
    · cases failed

theorem uninferred_of_infer {failure : Failure} (failed : booking.infer = .error failure) :
    booking.Uninferred failure := by
  unfold Booking.infer at failed
  split at failed
  · exact uninferred_of_validate (Outcome.map_eq_error.mp failed)
  · rename_i blank waiting
    rcases Outcome.bind_eq_error.mp failed with refused | ⟨totals, imbalance, failed⟩
    · exact .sum refused
    · split at failed
      · rcases Outcome.bind_eq_error.mp failed with refused | ⟨amount, -, done⟩
        · rcases Outcome.ofNumbers_eq_error.mp refused with ⟨signal, stopped, rfl⟩
          exact .opposite imbalance stopped
        · cases done
      · cases failed
        split
        · exact .none waiting
        · exact .currencies waiting
  · rename_i waiting
    cases failed
    rw [← waiting]
    exact .blanks waiting

/-- A booking is refused for its split or for its amounts, and a failure without a place gets the
line of the booking. -/
theorem resolve_eq_error {failure : Failure} (failed : booking.resolve registry = .error failure) :
    ∃ refusal, (booking.Unsplit registry refusal ∨
        ∃ carried, booking.resolveSplit registry = .ok carried ∧ carried.Uninferred refusal) ∧
      failure = booking.line.elim refusal (refusal.placedAt · 1) := by
  unfold Booking.resolve at failed
  split at failed
  · cases failed
  · rename_i refusal refused
    refine ⟨refusal, ?_, ?_⟩
    · rcases Outcome.bind_eq_error.mp refused with unsplit | ⟨carried, split_off, uninferred⟩
      · exact Or.inl (unsplit_of_resolveSplit unsplit)
      · exact Or.inr ⟨carried, split_off, uninferred_of_infer uninferred⟩
    · split at failed
      · rename_i line
        rw [line]
        exact (Except.error.inj failed).symm
      · rename_i line
        rw [line]
        exact (Except.error.inj failed).symm

/-! ## What becomes of the postings -/

/-- A posting with an amount is kept. -/
theorem mem_of_resolve (ok : booking.resolve registry = .ok resolved) {posting : Posting}
    (member : posting ∈ booking.postings) {money : Money} (given : posting.money = some money) :
    posting ∈ resolved.postings := by
  have filled := Posting.isBlank_of_some given
  rcases resolve_eq_ok ok with ⟨carried, split_off, inferred⟩
  have kept : posting ∈ carried.postings := by
    rcases resolveSplit_eq_ok split_off with ⟨-, rfl⟩ |
      ⟨_, _, _, _, _, -, -, -, -, ⟨shares, -, rfl⟩ | rfl⟩
    · exact member
    · exact List.mem_append_left _ member
    · exact List.mem_append_left _ (List.mem_filter.mpr ⟨member, by rw [filled]; rfl⟩)
  rcases infer_eq_ok inferred with ⟨-, -, rfl⟩ | ⟨_, _, _, _, -, -, -, rfl⟩
  · exact kept
  · exact List.mem_map.mpr ⟨posting, kept, by rw [filled]; rfl⟩

/-- A posting with a line was written there, and if an amount was written, it is the same posting. -/
theorem exists_of_resolve (ok : booking.resolve registry = .ok resolved) {posting : Posting}
    (member : posting ∈ resolved.postings) {number : Nat} (line : posting.line = some number) :
    ∃ old ∈ booking.postings, old.line = some number ∧
      ∀ money, old.money = some money → posting = old := by
  rcases resolve_eq_ok ok with ⟨carried, split_off, inferred⟩
  obtain ⟨middle, inside, same_line, same⟩ : ∃ middle ∈ carried.postings, middle.line = some number ∧
      ∀ money, middle.money = some money → posting = middle := by
    rcases infer_eq_ok inferred with ⟨-, -, rfl⟩ | ⟨_, _, _, _, -, -, -, rfl⟩
    · exact ⟨posting, member, line, fun _ _ => rfl⟩
    · rcases List.mem_map.mp member with ⟨middle, inside, rfl⟩
      split at line
      · rename_i blank
        refine ⟨middle, inside, line, fun money given => ?_⟩
        rw [Posting.isBlank_of_some given] at blank
        cases blank
      · rename_i filled
        exact ⟨middle, inside, line, fun _ _ => if_neg filled⟩
  have contact_line : ∀ contact share, (contactPosting contact share).line = none := fun _ _ => rfl
  rcases resolveSplit_eq_ok split_off with ⟨-, rfl⟩ |
    ⟨_, _, _, _, _, -, -, -, -, ⟨shares, -, rfl⟩ | rfl⟩
  · exact ⟨middle, inside, same_line, same⟩
  · rcases List.mem_append.mp inside with kept | added
    · exact ⟨middle, kept, same_line, same⟩
    · rcases exists_share added with ⟨contact, -, share, -, rfl⟩
      rw [contact_line] at same_line
      cases same_line
  · rcases List.mem_append.mp inside with kept | added
    · exact ⟨middle, List.mem_of_mem_filter kept, same_line, same⟩
    · rw [List.mem_singleton.mp added, contact_line] at same_line
      cases same_line

/-- Resolving a written booking. -/
theorem Written.resolve (proper : registry.Proper) (written : booking.Written registry)
    (ok : booking.resolve registry = .ok resolved) : resolved.Settled registry := by
  rcases resolve_eq_ok ok with ⟨middle, carried, inferred⟩
  exact (written.resolveSplit proper carried).infer inferred

end Booking
end Daybook
