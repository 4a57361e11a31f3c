import Daybook.Proofs.Booking.Inference
import Daybook.Proofs.Money.Fairness
import Mathlib.Algebra.BigOperators.Ring.Finset
import Mathlib.Algebra.BigOperators.Ring.List

namespace Daybook

/-!
# Bookings with a split

A split is carried out in two passes that know nothing of each other.  The first turns the
one amount of the booking around and gives every contact a posting; the share of the payer
is put aside and written nowhere.  The second infers what is missing from what the amounts
leave over.  That it comes to the share that was put aside takes an argument, for the second
pass adds up with rounding: from the funding on, every share brings the total nearer to zero,
so no sum has more units than the amount itself, and none is rounded.

The amount has to be a whole number of units that arithmetic can hold with all its digits.
Below the finest unit of arithmetic an amount cannot even be turned around without loss.
-/

open Decimal

namespace Money

/-! ## What can be split -/

/-- Whether an amount is a whole number of units of its currency, with a digit less than
arithmetic keeps, and the unit is one that arithmetic reaches. -/
structure IsWhole (registry : Registry) (money : Money) : Prop where
  coarsest : -999973 ≤ (registry.currencyFor money.currency).precision
  finest : (registry.currencyFor money.currency).precision ≤ 1000026
  units : ∃ n : Int, n.natAbs < 10 ^ 27 ∧
    money.amount.value = n * 10 ^ (-(registry.currencyFor money.currency).precision)

theorem IsWhole.least {registry : Registry} {money : Money} (whole : money.IsWhole registry) :
    ledger.tiniest ≤ -(registry.currencyFor money.currency).precision := by
  have tiniest : ledger.tiniest = -1000026 := by decide
  have := whole.finest
  omega

theorem IsWhole.most {registry : Registry} {money : Money} (whole : money.IsWhole registry) :
    -(registry.currencyFor money.currency).precision ≤ topUnit + 1 := by
  have top : topUnit = 999972 := rfl
  have := whole.coarsest
  omega

/-- Whether a total is the exact opposite of a funding, and has so many units of one sign. -/
structure Turned (unit sign : Int) (count : Nat) (funding total : Money) : Prop where
  negated : funding.neg = .ok total
  currency : total.currency = funding.currency
  signs : sign.natAbs = 1
  few : count < 10 ^ 27
  funding : Amounts unit (-(sign * count)) funding.amount
  total : Amounts unit (sign * count) total.amount

theorem IsWhole.exists_total {registry : Registry} {money : Money} (whole : money.IsWhole registry) :
    ∃ total sign count,
      Turned (-(registry.currencyFor money.currency).precision) sign count money total := by
  rcases whole.units with ⟨n, few, amounts⟩
  rcases exists_sign (-n) with ⟨sign, signs, signed, -⟩
  rw [Int.natAbs_neg] at signed
  have held : n.natAbs ≤ 10 ^ (ledger.digits - 1) - 1 := Nat.le_sub_one_of_lt few
  rcases Amounts.neg (holds_of_le whole.least whole.most) amounts held with ⟨amount, negated, opposite⟩
  refine ⟨⟨money.currency, amount⟩, sign, n.natAbs, neg_of_amount negated, rfl, signs, few, ?_, ?_⟩
  · rw [← signed, neg_neg]
    exact amounts
  · rw [← signed]
    exact opposite

theorem Turned.value_eq {unit sign : Int} {count : Nat} {funding total : Money}
    (turned : Turned unit sign count funding total) : total.amount.value = -funding.amount.value := by
  rw [turned.total, turned.funding, Int.cast_neg, neg_mul, neg_neg]

namespace Counted

variable {currency : Text} {unit : Int} {counts : List Int} {moneys : List Money}

/-- What moneys of one currency come to in any currency. -/
theorem totalIn_eq (counted : Counted currency unit counts moneys) (other : Text) :
    totalIn other moneys = if currency = other then (counts.sum : Rat) * 10 ^ unit else 0 := by
  induction counted with
  | nil =>
      rw [List.sum_nil, Int.cast_zero, zero_mul, ite_self]
      rfl
  | cons first _ ih =>
      rw [totalIn_cons, totalIn_singleton, ih, first.1, first.2, List.sum_cons, Int.cast_add, add_mul]
      split
      · rfl
      · exact add_zero 0

end Counted
end Money

namespace Booking

variable {registry : Registry} {booking carried resolved : Booking} {currency : Text} {unit sign : Int}
  {limit own count : Nat} {funding total : Money}

/-! ## A total that comes nearer to zero -/

theorem addTotals_single {total sum : Decimal} {money : Money} (rest : List Money)
    (added : total.add money.amount = .ok sum) :
    addTotals [(money.currency, total)] (money :: rest) = addTotals [(money.currency, sum)] rest := by
  have stored : Table.put [(money.currency, total)] money.currency sum = [(money.currency, sum)] :=
    if_pos rfl
  rw [addTotals, Table.get?, if_pos rfl, Option.getD_some, added, ← stored]
  rfl

/-- Shares of one sign that are added to a total of the other sign bring it nearer to zero, and
no sum on the way is rounded. -/
theorem exists_addTotals (holds : Holds unit limit) (signs : sign.natAbs = 1) {counts : List Nat}
    {moneys : List Money} {start : Decimal}
    (amounts : Amounts unit (-(sign * (own + counts.sum : Nat))) start) (few : own + counts.sum ≤ limit)
    (counted : Money.Counted currency unit (counts.map fun count : Nat => sign * count) moneys) :
    ∃ left, addTotals [(currency, start)] moneys = .ok [(currency, left)] ∧
      Amounts unit (-(sign * own)) left := by
  induction counts generalizing moneys start with
  | nil =>
      rcases List.forall₂_nil_left_iff.mp counted with rfl
      exact ⟨start, rfl, amounts⟩
  | cons count counts ih =>
      rcases List.forall₂_cons_left_iff.mp counted with ⟨money, rest, ⟨rfl, share⟩, others, rfl⟩
      rw [List.sum_cons] at amounts few
      have step : -(sign * (own + (count + counts.sum) : Nat)) + sign * count =
          -(sign * (own + counts.sum : Nat)) := by
        push_cast
        ring
      have size : (-(sign * (own + counts.sum : Nat))).natAbs ≤ limit := by
        rw [Int.natAbs_neg, natAbs_signed signs]
        omega
      rcases amounts.add holds share (by rwa [step]) with ⟨next, added, next_amounts⟩
      rw [step] at next_amounts
      rcases ih next_amounts (by omega) others with ⟨left, ok, left_amounts⟩
      exact ⟨left, (addTotals_single rest added).trans ok, left_amounts⟩

/-- A booking of a funding and the shares of it leaves over what is not among the shares. -/
theorem leavesOver_of_shares (holds : Holds unit limit) (signs : sign.natAbs = 1) {counts : List Nat}
    {shares : List Money} (moneys : booking.moneys = funding :: shares)
    (amounts : Amounts unit (-(sign * (own + counts.sum : Nat))) funding.amount)
    (few : own + counts.sum ≤ limit)
    (counted :
      Money.Counted funding.currency unit (counts.map fun count : Nat => sign * count) shares) :
    booking.LeavesOver unit (-(sign * own)) funding.currency := by
  constructor
  · have size : (0 + -(sign * (own + counts.sum : Nat))).natAbs ≤ limit := by
      rw [zero_add, Int.natAbs_neg, natAbs_signed signs]
      exact few
    rcases (Amounts.zero unit).add holds amounts size with ⟨start, added, start_amounts⟩
    rw [zero_add] at start_amounts
    rcases exists_addTotals holds signs start_amounts few counted with ⟨left, ok, left_amounts⟩
    refine ⟨left, Outcome.ofNumbers_eq_ok.mpr ?_, left_amounts⟩
    rw [moneys, addTotals]
    exact Outcome.bind_eq_ok.mpr ⟨start, added, ok⟩
  · intro other
    have all : Money.Counted funding.currency unit
        (-(sign * (own + counts.sum : Nat)) :: counts.map fun count : Nat => sign * count)
        (funding :: shares) := .cons ⟨rfl, amounts⟩ counted
    have sum : (counts.map fun count : Nat => sign * (count : Int)).sum = sign * counts.sum := by
      rw [List.sum_map_mul_left, Nat.cast_list_sum]
    rw [exactTotal, moneys, all.totalIn_eq, List.sum_cons, sum]
    congr 3
    push_cast
    ring

/-! ## The postings of contacts -/

/-- A booking whose split was carried out: some postings, and those for the shares of contacts. -/
def withShares (booking : Booking) (kept : List Posting) (contacts : List Text) (shares : List Money) :
    Booking :=
  { booking with postings := kept ++ List.zipWith contactPosting contacts shares, split := none }

variable {contacts : List Text} {shares : List Money} {kept : List Posting}

/-- Contacts do not wait for their amounts. -/
theorem blankPostings_withShares :
    (booking.withShares kept contacts shares).blankPostings = kept.filter (·.isBlank) := by
  have filled : (List.zipWith contactPosting contacts shares).filter (·.isBlank) = [] := by
    refine List.filter_eq_nil_iff.mpr fun posting member => ?_
    rcases exists_share member with ⟨contact, -, share, -, rfl⟩
    exact Bool.false_ne_true
  rw [blankPostings, withShares, List.filter_append, filled, List.append_nil]

theorem moneys_contactPostings (each : contacts.length = shares.length) :
    (List.zipWith contactPosting contacts shares).filterMap (·.money) = shares := by
  induction contacts generalizing shares with
  | nil => rw [List.length_eq_zero_iff.mp each.symm]; rfl
  | cons contact contacts ih =>
      cases shares with
      | nil => cases each
      | cons share shares =>
          rw [List.zipWith_cons_cons, List.filterMap_cons, ih (Nat.succ.inj each)]
          rfl

theorem moneys_withShares (each : contacts.length = shares.length) :
    (booking.withShares kept contacts shares).moneys = kept.filterMap (·.money) ++ shares := by
  rw [moneys, withShares, List.filterMap_append, moneys_contactPostings each]

theorem fillBlanks_withShares (money : Money) :
    { booking.withShares kept contacts shares with
        postings := fillBlanks money (booking.withShares kept contacts shares).postings } =
      booking.withShares (fillBlanks money kept) contacts shares := by
  have filled : fillBlanks money (List.zipWith contactPosting contacts shares) =
      List.zipWith contactPosting contacts shares := by
    refine Eq.trans (List.map_congr_left fun posting member => ?_) (List.map_id _)
    rcases exists_share member with ⟨contact, -, share, -, rfl⟩
    rfl
  have apart : fillBlanks money (kept ++ List.zipWith contactPosting contacts shares) =
      fillBlanks money kept ++ List.zipWith contactPosting contacts shares := by
    rw [fillBlanks, List.map_append, ← fillBlanks, ← fillBlanks, filled]
  rw [withShares, withShares, apart]

/-- Filling leaves every posting its account and its place, and its amount if it has one. -/
theorem fillBlanks_eq (money : Money) (postings : List Posting) :
    fillBlanks money postings =
      postings.map fun posting => { posting with money := some (posting.money.getD money) } := by
  refine List.map_congr_left fun posting _ => ?_
  cases given : posting.money with
  | none => rw [Posting.isBlank_of_none given, if_pos rfl, Option.getD_none]
  | some other =>
      rw [Posting.isBlank_of_some given, if_neg Bool.false_ne_true, Option.getD_some, ← given]

/-- Without a posting that waits there is nothing to fill. -/
theorem fillBlanks_of_complete (complete : kept.filter (·.isBlank) = []) (money : Money) :
    fillBlanks money kept = kept := by
  refine Eq.trans (List.map_congr_left fun posting member => ?_) (List.map_id _)
  exact if_neg (List.filter_eq_nil_iff.mp complete posting member)

/-- A funding with the shares of contacts leaves over what is not among the shares. -/
theorem leavesOver_withShares (holds : Holds unit limit) (signs : sign.natAbs = 1) {counts : List Nat}
    (each : contacts.length = shares.length) (one_amount : kept.filterMap (·.money) = [funding])
    (amounts : Amounts unit (-(sign * (own + counts.sum : Nat))) funding.amount)
    (few : own + counts.sum ≤ limit)
    (counted :
      Money.Counted funding.currency unit (counts.map fun count : Nat => sign * count) shares) :
    (booking.withShares kept contacts shares).LeavesOver unit (-(sign * own)) funding.currency := by
  refine leavesOver_of_shares holds signs ?_ amounts few counted
  rw [moneys_withShares each, one_amount, List.singleton_append]

/-- The postings with an amount are as many as the amounts. -/
theorem map_explicitPostings (booking : Booking) :
    booking.explicitPostings.map (·.money) = booking.moneys.map some := by
  unfold explicitPostings moneys
  induction booking.postings with
  | nil => rfl
  | cons posting rest ih =>
      cases given : posting.money with
      | none =>
          rw [List.filter_cons, Posting.isBlank_of_none given, Bool.not_true,
            if_neg Bool.false_ne_true, List.filterMap_cons_none given, ih]
      | some money =>
          rw [List.filter_cons, Posting.isBlank_of_some given, Bool.not_false, if_pos rfl,
            List.filterMap_cons_some given, List.map_cons, List.map_cons, ih, given]

/-- The one posting with an amount. -/
theorem exists_funding (one_amount : booking.moneys = [funding]) :
    ∃ posting ∈ booking.postings, posting.money = some funding ∧
      booking.explicitPostings = [posting] := by
  have explicit := booking.map_explicitPostings
  rw [one_amount] at explicit
  rcases List.map_eq_singleton_iff.mp explicit with ⟨posting, alone, given⟩
  have member : posting ∈ booking.explicitPostings := by
    rw [alone]
    exact List.mem_singleton_self posting
  exact ⟨posting, List.mem_of_mem_filter member, given, alone⟩

/-! ## The two passes -/

/-- Whether resolving a booking is refused for a cause. -/
def Refuses (registry : Registry) (cause : Cause) (booking : Booking) : Prop :=
  ∃ fault, booking.resolve registry = .error (.ledger fault) ∧ fault.cause = cause

theorem refuses_of_fault {fault : LedgerFault}
    (failed : (booking.resolveSplit registry).bind infer = .error (.ledger fault)) :
    booking.Refuses registry fault.cause := by
  unfold Refuses resolve
  rw [failed]
  cases booking.line with
  | none => exact ⟨fault, rfl, rfl⟩
  | some line =>
      refine ⟨fault.placedAt line 1, rfl, ?_⟩
      unfold LedgerFault.placedAt
      split
      · rfl
      · rfl

theorem resolve_of_infer (split_off : booking.resolveSplit registry = .ok carried)
    (inferred : carried.infer = .ok resolved) : booking.resolve registry = .ok resolved := by
  have both : (booking.resolveSplit registry).bind infer = .ok resolved := by
    rw [split_off]
    exact inferred
  rw [resolve, both]

variable {directive : SplitDirective} {first : Text} {others : List Text}

theorem refuses_of_moneys (to_do : booking.split = some directive)
    (named : directive.contacts = first :: others) (not_one : booking.moneys.length ≠ 1) :
    booking.Refuses registry (.fundingPostings booking.description booking.moneys.length) := by
  have split_off : booking.resolveSplit registry =
      .error (booking.faultOf (.fundingPostings booking.description booking.moneys.length)) := by
    unfold resolveSplit
    rw [to_do]
    dsimp only
    rw [named]
    rcases moneys : booking.moneys with _ | ⟨money, _ | ⟨second, rest⟩⟩
    · rfl
    · rw [moneys] at not_one
      exact absurd rfl not_one
    · rfl
  exact refuses_of_fault (by rw [split_off]; rfl)

theorem resolveSplit_charged (to_do : booking.split = some directive)
    (named : directive.contacts = first :: others) (mode : directive.mode = .charged)
    (one_amount : booking.moneys = [funding]) (negated : funding.neg = .ok total) :
    booking.resolveSplit registry =
      .ok (booking.withShares booking.explicitPostings [first] [total]) := by
  unfold resolveSplit
  rw [to_do]
  dsimp only
  rw [named, one_amount]
  dsimp only
  rw [negated, mode]
  rfl

theorem resolveSplit_even (to_do : booking.split = some directive)
    (named : directive.contacts = first :: others) (mode : directive.mode = .even)
    (one_amount : booking.moneys = [funding]) (negated : funding.neg = .ok total) {share : Money}
    (divided : total.splitEven ((first :: others).length + 1)
      (registry.currencyFor total.currency).precision = .ok (share :: shares)) :
    booking.resolveSplit registry =
      .ok (booking.withShares booking.postings (first :: others) shares) := by
  unfold resolveSplit
  rw [to_do]
  dsimp only
  rw [named, one_amount]
  dsimp only
  rw [negated, mode]
  change (total.splitEven _ _).bind _ = _
  rw [divided]
  rfl

/-! ## Charging one contact -/

/-- How a booking is resolved that charges all of a total to one contact: the funding stays, the
contact follows, and whatever waits for an amount is dropped. -/
def ChargesTo (registry : Registry) (contact : Text) (funding total : Money) (booking : Booking) :
    Prop :=
  ∃ posting ∈ booking.postings, posting.money = some funding ∧
    ∃ resolved, booking.resolve registry = .ok resolved ∧ resolved.IsDone ∧
      resolved =
        { booking with postings := [posting, contactPosting contact total], split := none }

theorem chargesTo_of_turned (to_do : booking.split = some directive)
    (named : directive.contacts = first :: others) (mode : directive.mode = .charged)
    (one_amount : booking.moneys = [funding]) (turned : Money.Turned unit sign count funding total)
    (holds : Holds unit limit) (few : count ≤ limit) :
    booking.ChargesTo registry first funding total := by
  rcases exists_funding one_amount with ⟨posting, member, given, alone⟩
  have split_off : booking.resolveSplit registry =
      .ok (booking.withShares booking.explicitPostings [first] [total]) :=
    resolveSplit_charged to_do named mode one_amount turned.negated
  rw [alone] at split_off
  have complete : (booking.withShares [posting] [first] [total]).blankPostings = [] := by
    rw [blankPostings_withShares, List.filter_cons, Posting.isBlank_of_some given,
      if_neg Bool.false_ne_true, List.filter_nil]
  have counted : Money.Counted funding.currency unit ([count].map fun count : Nat => sign * count)
      [total] := .cons ⟨turned.currency, turned.total⟩ .nil
  have leaves : (booking.withShares [posting] [first] [total]).LeavesOver unit (-(sign * (0 : Nat)))
      funding.currency :=
    leavesOver_withShares holds turned.signs rfl (List.filterMap_cons_some given)
      (by simpa using turned.funding) (by simpa using few) counted
  rw [Nat.cast_zero, mul_zero, neg_zero] at leaves
  exact ⟨posting, member, given, _, resolve_of_infer split_off (leaves.infer_nothing complete),
    leaves.isDone rfl complete, rfl⟩

/-! ## Sharing evenly -/

/-- How a booking is resolved that splits a total into a share of its own and shares of contacts:
the share of its own goes to the one posting that waits, and if none waits, it must be zero.  The
other postings stay what and where they are, and the contacts follow in order. -/
structure SharesAmong (registry : Registry) (contacts : List Text) (own : Money) (shares : List Money)
    (booking : Booking) : Prop where
  resolved_iff : (∃ resolved, booking.resolve registry = .ok resolved) ↔
    booking.blankPostings.length = 1 ∨ booking.blankPostings = [] ∧ own.amount.value = 0
  several : 2 ≤ booking.blankPostings.length →
    booking.Refuses registry (.severalBlanks booking.description booking.blankPostings.length)
  unplaced : booking.blankPostings = [] → own.amount.value ≠ 0 →
    ∃ left, booking.Refuses registry (.unbalanced booking.description left own.currency)
  shape : ∀ resolved, booking.resolve registry = .ok resolved → resolved.IsDone ∧
    ∃ held, held.same own = true ∧
      resolved = booking.withShares
        (booking.postings.map fun posting => { posting with money := some (posting.money.getD held) })
        contacts shares

theorem Refuses.not_resolved {cause : Cause} (refused : booking.Refuses registry cause) :
    ¬ ∃ resolved, booking.resolve registry = .ok resolved := by
  rintro ⟨resolved, ok⟩
  rcases refused with ⟨fault, failed, -⟩
  rw [ok] at failed
  cases failed

/-- Whether the first pass puts a share of so many units aside: the amounts leave over the opposite. -/
structure PutsAside (registry : Registry) (contacts : List Text) (shares : List Money) (unit n : Int)
    (own : Money) (booking : Booking) : Prop where
  carried : booking.resolveSplit registry = .ok (booking.withShares booking.postings contacts shares)
  leaves : (booking.withShares booking.postings contacts shares).LeavesOver unit (-n) own.currency
  amounts : Amounts unit n own.amount

namespace PutsAside

variable {n : Int} {share : Money}

/-- The share that was put aside is inferred again. -/
theorem exists_held (aside : booking.PutsAside registry contacts shares unit n share)
    (holds : Holds unit limit) (few : n.natAbs ≤ limit)
    (place : booking.blankPostings.length = 1 ∨ booking.blankPostings = [] ∧ n = 0) :
    ∃ held, held.same share = true ∧
      (booking.withShares (fillBlanks held booking.postings) contacts shares).IsDone ∧
      booking.resolve registry =
        .ok (booking.withShares (fillBlanks held booking.postings) contacts shares) := by
  have waiting : (booking.withShares booking.postings contacts shares).blankPostings =
      booking.blankPostings := blankPostings_withShares
  rcases place with one_blank | ⟨complete, rfl⟩
  · rcases List.length_eq_one_iff.mp one_blank with ⟨blank, one_blank⟩
    rw [one_blank] at waiting
    rcases aside.leaves.infer_single waiting holds (by rwa [Int.natAbs_neg]) with
      ⟨amount, inferred, opposite⟩
    have done := aside.leaves.isDone_filled rfl waiting opposite
    rw [fillBlanks_withShares] at inferred done
    refine ⟨⟨share.currency, amount⟩, ?_, done, resolve_of_infer aside.carried inferred⟩
    rw [neg_neg] at opposite
    rw [Money.same, beq_self_eq_true, Bool.true_and, Decimal.same_iff, opposite, aside.amounts]
  · rw [complete] at waiting
    have leaves := aside.leaves
    rw [neg_zero] at leaves
    refine ⟨share, ?_, ?_⟩
    · rw [Money.same, beq_self_eq_true, Bool.true_and, Decimal.same_iff]
    · rw [fillBlanks_of_complete complete]
      exact ⟨leaves.isDone rfl waiting, resolve_of_infer aside.carried (leaves.infer_nothing waiting)⟩

theorem refuses_unplaced (aside : booking.PutsAside registry contacts shares unit n share)
    (complete : booking.blankPostings = []) (some_units : n ≠ 0) :
    ∃ left, booking.Refuses registry (.unbalanced booking.description left share.currency) := by
  rcases aside.leaves.infer_rest (blankPostings_withShares.trans complete)
    (neg_ne_zero.mpr some_units) with ⟨left, failed, -⟩
  exact ⟨left, refuses_of_fault (by rw [aside.carried]; exact failed)⟩

theorem refuses_several (aside : booking.PutsAside registry contacts shares unit n share)
    (several : 2 ≤ booking.blankPostings.length) :
    booking.Refuses registry (.severalBlanks booking.description booking.blankPostings.length) := by
  have waiting : (booking.withShares booking.postings contacts shares).blankPostings =
      booking.blankPostings := blankPostings_withShares
  rcases infer_several (waiting.symm ▸ several) with ⟨fault, failed, cause⟩
  rw [waiting] at cause
  exact cause ▸ refuses_of_fault (by rw [aside.carried]; exact failed)

theorem sharesAmong (aside : booking.PutsAside registry contacts shares unit n share)
    (holds : Holds unit limit) (few : n.natAbs ≤ limit) :
    booking.SharesAmong registry contacts share shares := by
  have zero_iff : share.amount.value = 0 ↔ n = 0 := by
    rw [← Decimal.isZero_iff, aside.amounts.isZero_iff]
  have place : (∃ resolved, booking.resolve registry = .ok resolved) →
      booking.blankPostings.length = 1 ∨ booking.blankPostings = [] ∧ n = 0 := by
    intro ok
    rcases lt_trichotomy booking.blankPostings.length 1 with none | one | several
    · have complete := List.length_eq_zero_iff.mp (Nat.lt_one_iff.mp none)
      refine Or.inr ⟨complete, by_contra fun some_units => ?_⟩
      rcases aside.refuses_unplaced complete some_units with ⟨left, refused⟩
      exact refused.not_resolved ok
    · exact Or.inl one
    · exact absurd ok (aside.refuses_several several).not_resolved
  refine ⟨?_, aside.refuses_several, ?_, ?_⟩
  · rw [zero_iff]
    refine ⟨place, fun there => ?_⟩
    rcases aside.exists_held holds few there with ⟨held, -, -, ok⟩
    exact ⟨_, ok⟩
  · intro complete some_share
    exact aside.refuses_unplaced complete (zero_iff.not.mp some_share)
  · intro resolved ok
    rcases aside.exists_held holds few (place ⟨resolved, ok⟩) with ⟨held, same, done, known⟩
    rcases Except.ok.inj (ok.symm.trans known) with rfl
    exact ⟨done, held, same, by rw [fillBlanks_eq]⟩

end PutsAside

/-! ## All bookings with a split -/

/-- The shares of an amount, of which the first is put aside. -/
theorem exists_shares (to_do : booking.split = some directive)
    (named : directive.contacts = first :: others) (mode : directive.mode = .even)
    (one_amount : booking.moneys = [funding]) (whole : funding.IsWhole registry)
    (turned : Money.Turned (-(registry.currencyFor funding.currency).precision) sign count funding total) :
    ∃ own shares,
      total.splitEven ((first :: others).length + 1) (registry.currencyFor total.currency).precision =
        .ok (own :: shares) ∧
      shares.length = (first :: others).length ∧
      booking.SharesAmong registry (first :: others) own shares := by
  have holds := holds_of_le whole.least whole.most
  rcases Money.exists_splitEven_sum whole.least whole.most turned.signs turned.total turned.few
    (Nat.succ_pos (first :: others).length) with ⟨all, divided, counts, parts, sum, counted⟩
  rcases List.exists_cons_of_length_eq_add_one parts with ⟨aside, rest, rfl⟩
  rcases List.forall₂_cons_left_iff.mp counted with
    ⟨own, shares, ⟨own_currency, own_amounts⟩, others_counted, rfl⟩
  rw [List.sum_cons] at sum
  rw [List.length_cons] at parts
  have held : aside + rest.sum ≤ 10 ^ (ledger.digits - 1) - 1 := by
    rw [sum]
    exact Nat.le_sub_one_of_lt turned.few
  have each : (first :: others).length = shares.length := by
    rw [← List.Forall₂.length_eq others_counted, List.length_map]
    exact (Nat.succ.inj parts).symm
  have divided : total.splitEven ((first :: others).length + 1)
      (registry.currencyFor total.currency).precision = .ok (own :: shares) := by
    rw [turned.currency, ← divided, Nat.cast_succ]
  refine ⟨own, shares, divided, each.symm, ?_⟩
  have leaves : (booking.withShares booking.postings (first :: others) shares).LeavesOver
      (-(registry.currencyFor funding.currency).precision) (-(sign * aside)) funding.currency :=
    leavesOver_withShares holds turned.signs each one_amount (by rw [sum]; exact turned.funding) held
      (turned.currency ▸ others_counted)
  have aside_of : booking.PutsAside registry (first :: others) shares
      (-(registry.currencyFor funding.currency).precision) (sign * aside) own :=
    ⟨resolveSplit_even to_do named mode one_amount turned.negated divided,
      (own_currency.trans turned.currency) ▸ leaves, own_amounts⟩
  refine aside_of.sharesAmong holds ?_
  rw [natAbs_signed turned.signs]
  exact (Nat.le_add_right _ _).trans held

/-- The posting of a contact: what the contact owes is receivable, and what is owed to the contact, or
nothing at all, is payable. -/
theorem contactPosting_eq (contact : Text) (share : Money) :
    contactPosting contact share =
      { account :=
          ⟨if 0 < share.amount.value then "asset/@".toList ++ contact ++ "/receivable".toList
            else "liability/@".toList ++ contact ++ "/payable".toList⟩
        money := some share } := by
  have joined : ∀ root leaf : Text, Account.ofContact root contact leaf =
      ⟨root ++ ['/', '@'] ++ contact ++ '/' :: leaf⟩ := by
    intro root leaf
    simp [Account.ofContact, Text.join, Account.stroke, Account.contactMark]
  unfold contactPosting
  rw [joined, joined]
  by_cases owed : 0 < share.amount.value
  · rw [if_pos owed, if_pos ((Decimal.isPositive_iff _).mpr owed)]
    rfl
  · rw [if_neg owed, if_neg fun positive => owed ((Decimal.isPositive_iff _).mp positive)]
    rfl

/-- How a booking with a split is resolved.  It needs exactly one amount.  If that is a whole number of
units, charging it to a contact always succeeds, and sharing it evenly does exactly when the payer's
share has a place, or is nothing; what comes out is done. -/
theorem resolve_of_split (to_do : booking.split = some directive)
    (named : directive.contacts = first :: others) :
    (booking.moneys.length ≠ 1 →
      booking.Refuses registry (.fundingPostings booking.description booking.moneys.length)) ∧
    (∀ funding, booking.moneys = [funding] → funding.IsWhole registry →
      ∃ total, funding.neg = .ok total ∧ total.currency = funding.currency ∧
        total.amount.value = -funding.amount.value ∧
        (directive.mode = .charged → booking.ChargesTo registry first funding total) ∧
        (directive.mode = .even → ∃ own shares,
          total.splitEven (directive.contacts.length + 1)
              (registry.currencyFor total.currency).precision = .ok (own :: shares) ∧
            shares.length = directive.contacts.length ∧
            booking.SharesAmong registry directive.contacts own shares)) ∧
    ∀ contact share, contactPosting contact share =
      { account :=
          ⟨if 0 < share.amount.value then "asset/@".toList ++ contact ++ "/receivable".toList
            else "liability/@".toList ++ contact ++ "/payable".toList⟩
        money := some share } := by
  refine ⟨refuses_of_moneys to_do named, ?_, contactPosting_eq⟩
  intro funding one_amount whole
  rcases whole.exists_total with ⟨total, sign, count, turned⟩
  refine ⟨total, turned.negated, turned.currency, turned.value_eq, ?_, ?_⟩
  · intro mode
    exact chargesTo_of_turned to_do named mode one_amount turned
      (holds_of_le whole.least whole.most) (Nat.le_sub_one_of_lt turned.few)
  · intro mode
    rw [named]
    exact exists_shares to_do named mode one_amount whole turned

def pizza : Booking where
  description := "pizza".toList
  postings :=
    [{ account := ⟨"asset/cash".toList⟩ },
      { account := ⟨"expense/food".toList⟩, money := some ⟨['$'], ⟨false, 10, 0⟩⟩ }]
  split := some ⟨.even, ["bob".toList, "eve".toList]⟩

theorem pizza_is_shared :
    pizza.split = some ⟨.even, ["bob".toList, "eve".toList]⟩ ∧
      pizza.moneys = [⟨['$'], ⟨false, 10, 0⟩⟩] ∧
      (⟨['$'], ⟨false, 10, 0⟩⟩ : Money).IsWhole {} ∧
      ∃ resolved, pizza.resolve {} = .ok resolved ∧ resolved.IsDone ∧
        (resolved.postings.map fun posting => (posting.account.name, posting.money)) =
          [("asset/cash".toList, some ⟨['$'], ⟨true, 333, -2⟩⟩),
            ("expense/food".toList, some ⟨['$'], ⟨false, 10, 0⟩⟩),
            ("liability/@bob/payable".toList, some ⟨['$'], ⟨true, 333, -2⟩⟩),
            ("liability/@eve/payable".toList, some ⟨['$'], ⟨true, 334, -2⟩⟩)] := by
  have whole : (⟨['$'], ⟨false, 10, 0⟩⟩ : Money).IsWhole {} := by
    refine ⟨by decide, by decide, 1000, by decide, ?_⟩
    have precision : (({} : Registry).currencyFor ['$']).precision = 2 := rfl
    rw [precision]
    norm_num [Decimal.value]
  have postings : (pizza.resolve {}).map (fun resolved =>
        resolved.postings.map fun posting => (posting.account.name, posting.money)) =
      .ok [("asset/cash".toList, some ⟨['$'], ⟨true, 333, -2⟩⟩),
        ("expense/food".toList, some ⟨['$'], ⟨false, 10, 0⟩⟩),
        ("liability/@bob/payable".toList, some ⟨['$'], ⟨true, 333, -2⟩⟩),
        ("liability/@eve/payable".toList, some ⟨['$'], ⟨true, 334, -2⟩⟩)] := by
    decide +kernel
  rcases @resolve_of_split {} pizza _ _ _ rfl rfl with ⟨-, splits, -⟩
  rcases splits _ rfl whole with ⟨total, -, -, -, -, even⟩
  rcases even rfl with ⟨own, shares, -, -, shared⟩
  rcases shared.resolved_iff.mpr (Or.inl rfl) with ⟨resolved, ok⟩
  rw [ok] at postings
  exact ⟨rfl, rfl, whole, resolved, ok, (shared.shape resolved ok).1, Except.ok.inj postings⟩

/-- A price, in a currency of its own, that is charged to a contact. -/
def charge (price : Decimal) : Booking where
  description := "charge".toList
  postings :=
    [{ account := ⟨"expense/food".toList⟩, money := some ⟨['X'], price⟩ },
      { account := ⟨"asset/cash".toList⟩ }]
  split := some ⟨.charged, ["bob".toList]⟩

def chargedIn (precision : Int) : Registry where
  currencies := [(['X'], { Currency.plain ['X'] with precision })]

/-- The charge when its opposite was rounded to nothing. -/
def lostCharge (price : Decimal) : Booking :=
  (charge price).withShares [{ account := ⟨"expense/food".toList⟩, money := some ⟨['X'], price⟩ }]
    ["bob".toList] [⟨['X'], ⟨true, 0, -1000026⟩⟩]

theorem exactTotal_lostCharge (price : Decimal) :
    (lostCharge price).exactTotal ['X'] = price.value := by
  have moneys : (lostCharge price).moneys = [⟨['X'], price⟩, ⟨['X'], ⟨true, 0, -1000026⟩⟩] := rfl
  have nothing : Decimal.value ⟨true, 0, -1000026⟩ = 0 := (value_eq_zero_iff _).mpr rfl
  rw [exactTotal, moneys, Money.totalIn_cons, Money.totalIn_singleton, Money.totalIn_singleton,
    if_pos rfl, if_pos rfl, nothing, add_zero]

/-- Where the unit is finer than those of arithmetic, five units are accepted as balanced without
being charged, and where it is coarser, an amount of the allowed size cannot be turned around. -/
theorem charges_outside_arithmetic :
    (charge ⟨false, 5, -1000027⟩).resolve (chargedIn 1000027) = .ok (lostCharge ⟨false, 5, -1000027⟩) ∧
      (lostCharge ⟨false, 5, -1000027⟩).exactTotal ['X'] ≠ 0 ∧
      (charge ⟨false, 5, -2000055⟩).resolve (chargedIn 2000055) =
        .ok (lostCharge ⟨false, 5, -2000055⟩) ∧
      (lostCharge ⟨false, 5, -2000055⟩).exactTotal ['X'] ≠ 0 ∧
      (charge ⟨false, 10 ^ 26, 999974⟩).resolve (chargedIn (-999974)) =
        .error (.arithmetic .overflow) := by
  have some_units : ∀ exponent, Decimal.value ⟨false, 5, exponent⟩ ≠ 0 := fun exponent zero =>
    absurd ((value_eq_zero_iff _).mp zero) (Nat.succ_ne_zero 4)
  refine ⟨by decide +kernel, ?_, by decide +kernel, ?_, by decide +kernel⟩
  · rw [exactTotal_lostCharge]
    exact some_units _
  · rw [exactTotal_lostCharge]
    exact some_units _

end Booking
end Daybook
