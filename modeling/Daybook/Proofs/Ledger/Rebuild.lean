import Daybook.Proofs.Ledger.Store

namespace Daybook
namespace Snapshot

/-!
# Rebuilding a reachable snapshot

The indices of a store are kept booking by booking.  Here they are compared with
the indices that building makes from the chapters alone.  Everything that is
counted or listed agrees without any assumption on the amounts, as soon as
building succeeds; building can fail only because a number grows too large, and it
does not when all amounts that were ever present fit the digits.
-/

/-- The snapshot that is built anew from the chapters, currencies and opened
accounts of a snapshot. -/
def rebuild (snapshot : Snapshot) : Outcome Snapshot :=
  build snapshot.chapters snapshot.registry snapshot.opened

/-- Whether two snapshots have the same chapters and opened accounts, the same
numbers of postings, the same ledgers of contacts row by row, and balances of the
same accounts in the same currencies. -/
structure AgreesWith (one other : Snapshot) : Prop where
  chapters : one.chapters = other.chapters
  registry : one.registry = other.registry
  opened : ∀ account, account ∈ one.opened ↔ account ∈ other.opened
  usage : ∀ key, one.usage.get? key = other.usage.get? key
  contacts : ∀ name, one.contacts.get? name = other.contacts.get? name
  accounts : ∀ account, one.balances.has account = other.balances.has account
  currencies : ∀ account currency, (one.balances.amount? account currency).isSome =
    (other.balances.amount? account currency).isSome

/-- What is built from an indexed snapshot agrees with it. -/
theorem Indexed.agreesWith {snapshot rebuilt : Snapshot} (indexed : snapshot.Indexed)
    (ok : snapshot.rebuild = .ok rebuilt) : rebuilt.AgreesWith snapshot := by
  rcases build_eq_ok ok with ⟨merged, registry, opened, -, -⟩
  have same : rebuilt.chapters = snapshot.chapters := by
    rw [merged, Chapter.merge_of_inShape indexed.shape]
  have again := indexed_of_build indexed.distinct ok
  have counts := again.counts
  have contacts := again.contacts
  rw [movements, same] at counts
  rw [same] at contacts
  exact {
    chapters := same
    registry := registry
    opened := fun account => by rw [opened, List.mem_eraseDups]
    usage := fun key => counts.get?_usage_eq indexed.counts key
    contacts := fun name => contacts.get?_eq indexed.contacts name
    accounts := fun account => counts.has_eq indexed.counts account
    currencies := fun account currency => counts.isSome_amount? indexed.counts account currency }

/-- Building from an indexed snapshot fails only on numbers that grow too large. -/
theorem Indexed.overflow_of_rebuild_error {snapshot : Snapshot} (indexed : snapshot.Indexed)
    {failure : Failure} (failed : snapshot.rebuild = .error failure) :
    failure = .arithmetic .overflow := by
  unfold rebuild build at failed
  rw [Chapter.merge_of_inShape indexed.shape] at failed
  rcases Outcome.bind_eq_error.mp failed with failed | ⟨⟨balances, usage⟩, -, failed⟩
  · exact Counts.nil.overflow_of_bookings_error failed
  · rcases indexed.contacts.exists_built with ⟨contacts, ok⟩
    rcases Outcome.bind_eq_error.mp failed with failed | ⟨_, -, failed⟩
    · rw [ok] at failed
      cases failed
    · cases failed

/-- Building from an indexed snapshot succeeds as soon as its postings can be
counted in. -/
theorem Indexed.rebuild_of_applied {snapshot : Snapshot} (indexed : snapshot.Indexed)
    {indices : Balances × Usage}
    (applied : applyBookings (Chapter.bookingsOf snapshot.chapters) ([], []) = .ok indices) :
    ∃ rebuilt, snapshot.rebuild = .ok rebuilt ∧ rebuilt.balances = indices.1 := by
  rcases indexed.contacts.exists_built with ⟨contacts, ok⟩
  refine ⟨⟨snapshot.chapters, snapshot.registry, snapshot.opened.eraseDups, indices.1, indices.2,
    contacts⟩, ?_, rfl⟩
  rw [Chapter.bookingsOf_eq] at applied
  unfold rebuild build
  rw [Chapter.merge_of_inShape indexed.shape]
  refine Outcome.bind_eq_ok.mpr ⟨indices, applied, ?_⟩
  exact Outcome.bind_eq_ok.mpr ⟨contacts, ok, rfl⟩

/-- If the movements fit as well, the balances that are built are exact. -/
theorem Indexed.exists_rebuild {snapshot : Snapshot} (indexed : snapshot.Indexed)
    (fits : AllFit snapshot.movements) :
    ∃ rebuilt, snapshot.rebuild = .ok rebuilt ∧ Exact rebuilt.balances snapshot.movements := by
  rw [← List.append_nil snapshot.movements] at fits
  rcases Exact.nil.exists_entering_bookings Counts.nil fits with ⟨indices, applied⟩
  have exact_ := Exact.nil.entering_bookings fits.addsExactly applied
  rw [List.append_nil] at exact_
  rcases indexed.rebuild_of_applied applied with ⟨rebuilt, ok, balances⟩
  exact ⟨rebuilt, ok, balances ▸ exact_⟩

end Snapshot

namespace Store

/-- In a reachable store, whatever calls led there, the snapshot that is built
anew has the same chapters, opened accounts, numbers of postings, contact rows,
and accounts with the same currencies.  Building fails on numbers that grow too
large only.  If, for each currency, all amounts ever present lie on the grid of a
unit that the digits can reach and their absolute values add up to less than the
digits hold, then building succeeds and every balance has the same value. -/
theorem Reachable.rebuild_agrees {store : Store} (reachable : store.Reachable) :
    (∀ rebuilt, store.snapshot.rebuild = .ok rebuilt → rebuilt.AgreesWith store.snapshot) ∧
      (∀ failure, store.snapshot.rebuild = .error failure → failure = .arithmetic .overflow) ∧
      (AllFit (Booking.movements store.present) →
        ∃ rebuilt, store.snapshot.rebuild = .ok rebuilt ∧ ∀ account currency,
          (rebuilt.balances.amount? account currency).map (·.amount.value) =
            (store.snapshot.balances.amount? account currency).map (·.amount.value)) := by
  have kept := reachable.sound store.snapshot List.mem_cons_self
  refine ⟨fun rebuilt ok => kept.indexed.agreesWith ok,
    fun failure failed => kept.indexed.overflow_of_rebuild_error failed, ?_⟩
  intro fits
  obtain ⟨rebuilt, ok, exact_⟩ := kept.indexed.exists_rebuild
    (fits.subperm (movements_subperm kept.indexed.distinct kept.within))
  refine ⟨rebuilt, ok, ?_⟩
  intro account currency
  have listed := (kept.indexed.agreesWith ok).currencies account currency
  have value : rebuilt.balances.valueOf account currency =
      store.snapshot.balances.valueOf account currency := by
    rw [exact_, kept.exact_ fits]
  unfold Balances.valueOf at value
  -- Both are there or neither is, so equal values make equal entries.
  cases one : rebuilt.balances.amount? account currency with
  | none =>
      rw [one, Option.isSome_none, eq_comm, Option.isSome_eq_false_iff, Option.isNone_iff_eq_none]
        at listed
      rw [listed]
  | some money =>
      rw [one, Option.isSome_some, eq_comm, Option.isSome_iff_exists] at listed
      rcases listed with ⟨known, other⟩
      rw [one, other] at value
      rw [other]
      exact congrArg some value

/-! ## Two runs -/

/-- A transfer of a number of units of ten to a power, from `b` to `a`. -/
def transfer (label : Char) (coefficient : Nat) (unit : Int) : Booking where
  description := "transfer".toList
  postings := [
    { account := ⟨"a".toList⟩, money := some ⟨"X".toList, ⟨false, coefficient, unit⟩⟩ },
    { account := ⟨"b".toList⟩, money := some ⟨"X".toList, ⟨true, coefficient, unit⟩⟩ }]
  label := [label]

/-- The store that starts from nothing. -/
def empty : Store := { snapshot := {} }

theorem reachable_empty : empty.Reachable :=
  @Reachable.start [] {} [] {} List.nodup_nil (by decide +kernel)

/-- Two transfers, the earlier one added last. -/
def afterTwo (unit : Int) : Store :=
  (empty.call (.add ⟨2024, 1, 2, by decide⟩ (transfer 'f' 5 unit))).call
    (.add ⟨2024, 1, 1, by decide⟩ (transfer 'g' 7 unit))

theorem reachable_afterTwo {unit : Int}
    (first : empty.Fresh (.add ⟨2024, 1, 2, by decide⟩ (transfer 'f' 5 unit)))
    (second : (empty.call (.add ⟨2024, 1, 2, by decide⟩ (transfer 'f' 5 unit))).Fresh
      (.add ⟨2024, 1, 1, by decide⟩ (transfer 'g' 7 unit))) : (afterTwo unit).Reachable :=
  (reachable_empty.step first).step second

theorem rebuild_agrees_after_removal :
    ∃ rebuilt, ((afterTwo (-2)).call (.remove ['f'])).snapshot.rebuild = .ok rebuilt ∧
      ∀ account currency, (rebuilt.balances.amount? account currency).map (·.amount.value) =
        (((afterTwo (-2)).call (.remove ['f'])).snapshot.balances.amount? account currency).map
          (·.amount.value) := by
  have reachable : ((afterTwo (-2)).call (.remove ['f'])).Reachable :=
    (reachable_afterTwo (by decide +kernel) (by decide +kernel)).step trivial
  apply reachable.rebuild_agrees.2.2
  intro currency
  refine ⟨-2, ⟨by decide, by decide⟩, FitsDigits.of_coefficients ?_ ?_⟩
  · decide +kernel
  · decide +kernel

/-- Below the smallest unit that the digits reach, amounts are rounded however few
digits they have: the two transfers have one grid and add up to very little, but
the order in which they came decides the balance. -/
theorem rebuild_differs_on_tiny_amounts :
    (afterTwo (-1000027)).Reachable ∧
      (∀ currency, ∃ unit,
        FitsDigits unit currency (Booking.movements (afterTwo (-1000027)).present)) ∧
      ∃ rebuilt, (afterTwo (-1000027)).snapshot.rebuild = .ok rebuilt ∧
        (rebuilt.balances.amount? ⟨"a".toList⟩ "X".toList).map (·.amount.value) ≠
          ((afterTwo (-1000027)).snapshot.balances.amount? ⟨"a".toList⟩ "X".toList).map
            (·.amount.value) := by
  have reachable : (afterTwo (-1000027)).Reachable :=
    reachable_afterTwo (by decide +kernel) (by decide +kernel)
  refine ⟨reachable, ?_, ?_⟩
  · intro currency
    refine ⟨-1000027, FitsDigits.of_coefficients ?_ ?_⟩
    · decide +kernel
    · decide +kernel
  · have kept : (afterTwo (-1000027)).snapshot.balances.amount? ⟨"a".toList⟩ "X".toList =
        some ⟨"X".toList, ⟨false, 1, -1000026⟩⟩ := by
      decide +kernel
    have counted : (Snapshot.applyBookings
        (Chapter.bookingsOf (afterTwo (-1000027)).snapshot.chapters) ([], [])).map
          (fun indices => indices.1.amount? ⟨"a".toList⟩ "X".toList) =
        .ok (some ⟨"X".toList, ⟨false, 2, -1000026⟩⟩) := by
      decide +kernel
    rcases Outcome.map_eq_ok.mp counted with ⟨indices, applied, amount⟩
    have indexed := (reachable.sound _ List.mem_cons_self).indexed
    rcases indexed.rebuild_of_applied applied with ⟨rebuilt, ok, balances⟩
    refine ⟨rebuilt, ok, ?_⟩
    rw [kept, balances, amount]
    simp [Decimal.value_signed]

end Store
end Daybook
