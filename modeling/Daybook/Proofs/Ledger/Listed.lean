import Daybook.Ledger.Load
import Daybook.Proofs.Ledger.Indexed
import Mathlib.Data.List.Forall2

namespace Daybook

/-!
# A snapshot has its own content

Two snapshots are compared by looking every key of a table of one up in a table of the
other.  So a snapshot compares equal to itself only if its tables list no key twice.
They do not, however the snapshot came about: a table is changed by giving a value to a
key and by erasing one, and neither lists a key again.
-/

namespace Table

variable {κ α : Type}

theorem nodup_keys_nil : (keys ([] : Table κ α)).Nodup := List.nodup_nil

variable [DecidableEq κ]

theorem agrees_self {related : α → α → Bool} {table : Table κ α} (distinct : table.keys.Nodup)
    (each : ∀ key value, table.get? key = some value → related value value = true) :
    table.agrees related table = true := by
  rw [agrees, Bool.and_eq_true, beq_self_eq_true, List.all_eq_true]
  refine ⟨rfl, ?_⟩
  intro entry member
  have found := (get?_eq_some_iff distinct entry.1 entry.2).mpr member
  rw [found]
  exact each entry.1 entry.2 found

end Table

theorem pairwiseSame_of_forall₂ {α : Type} {R : α → α → Prop} {same : α → α → Bool} {left right : List α}
    (related : List.Forall₂ R left right) (each : ∀ a ∈ left, ∀ b, R a b → same a b = true) :
    pairwiseSame same left right = true := by
  induction related with
  | nil => rfl
  | @cons a b _ _ here _ ih =>
      rw [pairwiseSame, each a List.mem_cons_self b here, Bool.true_and]
      exact ih fun other member => each other (List.mem_cons_of_mem a member)

theorem pairwiseSame_self {α : Type} {same : α → α → Bool} {values : List α}
    (each : ∀ value ∈ values, same value value = true) : pairwiseSame same values values = true :=
  pairwiseSame_of_forall₂ (List.forall₂_same.mpr fun value _ => Eq.refl value)
    fun value member _ equal => equal ▸ each value member

theorem Money.same_self (money : Money) : money.same money = true := by
  simp [Money.same, Decimal.same]

theorem Posting.same_self (posting : Posting) : posting.same posting = true := by
  rw [Posting.same, beq_self_eq_true, Bool.true_and]
  cases posting.money with
  | none => rfl
  | some money => exact money.same_self

theorem Booking.same_self (booking : Booking) : booking.same booking = true := by
  simp [Booking.same, pairwiseSame_self fun posting _ => Posting.same_self posting]

theorem Chapter.same_self (chapter : Chapter) : chapter.same chapter = true := by
  simp [Chapter.same, pairwiseSame_self fun booking _ => Booking.same_self booking]

theorem Row.same_self (row : Row) : row.same row = true := by
  simp [Row.same, Movement.same, Money.same_self, pairwiseSame_self fun money _ => Money.same_self money]

namespace Balances

/-- Whether balances list no account twice, and no currency twice under an account. -/
structure Listed (balances : Balances) : Prop where
  accounts : balances.keys.Nodup
  currencies : ∀ account amounts, balances.get? account = some amounts → amounts.keys.Nodup

variable {balances : Balances}

theorem listed_nil : Listed [] := ⟨List.nodup_nil, fun _ _ found => by cases found⟩

theorem Listed.amounts (listed : balances.Listed) (account : Account) :
    ((balances.get? account).getD []).keys.Nodup := by
  cases found : balances.get? account with
  | none => exact List.nodup_nil
  | some amounts => exact listed.currencies account amounts found

theorem Listed.put (listed : balances.Listed) (account : Account) {amounts : Table Text Money}
    (distinct : amounts.keys.Nodup) : Listed (Table.put balances account amounts) := by
  refine ⟨Table.nodup_keys_put listed.accounts account amounts, ?_⟩
  intro other found
  rw [Table.get?_put]
  split
  · intro same
    rw [← Option.some.inj same]
    exact distinct
  · exact listed.currencies other found

theorem Listed.erase (listed : balances.Listed) (account : Account) :
    Listed (Table.erase balances account) := by
  refine ⟨Table.nodup_keys_erase listed.accounts account, ?_⟩
  intro other found
  rw [Table.get?_erase]
  split
  · intro absent
    cases absent
  · exact listed.currencies other found

theorem Listed.withAmount (listed : balances.Listed) (account : Account) (money : Money)
    (currency : Text) : (balances.withAmount account money currency).Listed :=
  listed.put account (Table.nodup_keys_put (listed.amounts account) currency money)

theorem Listed.withoutAmount (listed : balances.Listed) (account : Account) (currency : Text) :
    (balances.withoutAmount account currency).Listed := by
  unfold Balances.withoutAmount
  dsimp only
  split
  · exact listed.erase account
  · exact listed.put account (Table.nodup_keys_erase (listed.amounts account) currency)

end Balances

namespace Snapshot

/-- Whether the tables of a snapshot list no key twice. -/
structure Listed (snapshot : Snapshot) : Prop where
  balances : snapshot.balances.Listed
  usage : snapshot.usage.keys.Nodup
  contacts : snapshot.contacts.keys.Nodup

/-- A snapshot whose tables list no key twice has the content of itself. -/
theorem Listed.same_self {snapshot : Snapshot} (listed : snapshot.Listed) :
    snapshot.same snapshot = true := by
  have chapters := pairwiseSame_self fun chapter (_ : chapter ∈ snapshot.chapters) => chapter.same_self
  have opened : sameElements snapshot.opened snapshot.opened = true := by
    simp [sameElements]
  have balances : Table.agrees (Table.agrees Money.same) snapshot.balances snapshot.balances = true :=
    Table.agrees_self listed.balances.accounts fun account amounts found =>
      Table.agrees_self (listed.balances.currencies account amounts found) fun _ money _ =>
        money.same_self
  have usage : snapshot.sameUsage snapshot = true :=
    Table.agrees_self listed.usage fun _ count _ => beq_self_eq_true count
  have contacts : Table.agrees sameLedger snapshot.contacts snapshot.contacts = true := by
    apply Table.agrees_self listed.contacts
    intro name ledger _
    rw [sameLedger, pairwiseSame_self fun row _ => Row.same_self row,
      pairwiseSame_self fun row _ => Row.same_self row]
    rfl
  rw [same, chapters, opened, balances, usage, contacts]
  rfl

/-! ## Changes -/

variable {balances after : Balances} {usage used : Usage} {direction : Direction}

theorem listed_applyPosting (listed : balances.Listed) (distinct : usage.keys.Nodup) {account : Account}
    {money : Money}
    (ok : applyPosting direction account money (balances, usage) = .ok (after, used)) :
    after.Listed ∧ used.keys.Nodup := by
  cases direction with
  | entering =>
      rw [applyPosting_entering, Outcome.map_eq_ok] at ok
      rcases ok with ⟨updated, -, equal⟩
      rcases Prod.mk.inj equal with ⟨rfl, rfl⟩
      exact ⟨listed.withAmount account updated money.currency, Table.nodup_keys_put distinct _ _⟩
  | leaving =>
      by_cases several : 1 < (usage.get? (account, money.currency)).getD 0
      · rw [applyPosting_leaving_some account money balances usage several, Outcome.map_eq_ok] at ok
        rcases ok with ⟨updated, -, equal⟩
        rcases Prod.mk.inj equal with ⟨rfl, rfl⟩
        exact ⟨listed.withAmount account updated money.currency, Table.nodup_keys_put distinct _ _⟩
      · rw [applyPosting_leaving_last account money balances usage (not_lt.mp several),
          Outcome.map_eq_ok] at ok
        rcases ok with ⟨-, -, equal⟩
        rcases Prod.mk.inj equal with ⟨rfl, rfl⟩
        exact ⟨listed.withoutAmount account money.currency, Table.nodup_keys_erase distinct _⟩

theorem listed_applyPostings (listed : balances.Listed) (distinct : usage.keys.Nodup)
    {postings : List Posting}
    (ok : applyPostings direction postings (balances, usage) = .ok (after, used)) :
    after.Listed ∧ used.keys.Nodup := by
  induction postings generalizing balances usage with
  | nil =>
      rcases Prod.mk.inj (Except.ok.inj ok) with ⟨rfl, rfl⟩
      exact ⟨listed, distinct⟩
  | cons posting rest ih =>
      rw [applyPostings] at ok
      cases found : posting.money with
      | none =>
          rw [found] at ok
          exact ih listed distinct ok
      | some money =>
          rw [found] at ok
          rcases Outcome.bind_eq_ok.mp ok with ⟨⟨balances', usage'⟩, step, ok⟩
          rcases listed_applyPosting listed distinct step with ⟨listed', distinct'⟩
          exact ih listed' distinct' ok

theorem listed_applyBookings (listed : balances.Listed) (distinct : usage.keys.Nodup)
    {bookings : List Booking} (ok : applyBookings bookings (balances, usage) = .ok (after, used)) :
    after.Listed ∧ used.keys.Nodup := by
  induction bookings generalizing balances usage with
  | nil =>
      rcases Prod.mk.inj (Except.ok.inj ok) with ⟨rfl, rfl⟩
      exact ⟨listed, distinct⟩
  | cons booking rest ih =>
      rcases Outcome.bind_eq_ok.mp ok with ⟨⟨balances', usage'⟩, step, ok⟩
      rcases listed_applyPostings listed distinct step with ⟨listed', distinct'⟩
      exact ih listed' distinct' ok

theorem nodup_keys_indexContacts {chapters : List Chapter} {names : List Text}
    {contacts renewed : Table Text ContactLedger} (distinct : contacts.keys.Nodup)
    (ok : indexContacts chapters names contacts = .ok renewed) : renewed.keys.Nodup := by
  induction names generalizing contacts with
  | nil =>
      rcases Except.ok.inj ok with rfl
      exact distinct
  | cons name rest ih =>
      rcases Outcome.bind_eq_ok.mp ok with ⟨ledger, -, ok⟩
      refine ih ?_ ok
      split
      · exact Table.nodup_keys_erase distinct name
      · exact Table.nodup_keys_put distinct name ledger

theorem listed_of_build {chapters : List Chapter} {registry : Registry} {opened : List Account}
    {built : Snapshot} (ok : build chapters registry opened = .ok built) : built.Listed := by
  rcases build_eq_ok ok with ⟨-, -, -, applied, indexed⟩
  rcases listed_applyBookings Balances.listed_nil Table.nodup_keys_nil applied with ⟨balances, usage⟩
  exact ⟨balances, usage, nodup_keys_indexContacts Table.nodup_keys_nil indexed⟩

theorem listed_of_load {text : Text} {today : Option Calendar.Date} {strict : Bool} {snapshot : Snapshot}
    (loaded : load text today strict = .ok snapshot) : snapshot.Listed := by
  rcases Outcome.bind_eq_ok.mp loaded with ⟨reading, -, loaded⟩
  rcases Outcome.bind_eq_ok.mp loaded with ⟨chapters, -, loaded⟩
  exact listed_of_build loaded

theorem Listed.commit {snapshot changed : Snapshot} (listed : snapshot.Listed) {chapters : List Chapter}
    {booking : Booking} (ok : snapshot.commit chapters booking direction = .ok changed) :
    changed.Listed := by
  rcases commit_eq_ok ok with ⟨balances, usage, contacts, applied, indexed, rfl⟩
  rcases listed_applyPostings listed.balances listed.usage applied with ⟨balances', usage'⟩
  exact ⟨balances', usage', nodup_keys_indexContacts listed.contacts indexed⟩

theorem Listed.add {snapshot changed : Snapshot} (listed : snapshot.Listed) {date : Calendar.Date}
    {booking : Booking} (ok : snapshot.add date booking = .ok changed) : changed.Listed := by
  rcases add_eq_ok ok with ⟨-, -, -, committed⟩
  exact listed.commit committed

theorem Listed.remove {snapshot changed : Snapshot} (listed : snapshot.Listed) {label : Text}
    {booking : Booking} (ok : snapshot.remove label = .ok (booking, changed)) : changed.Listed := by
  rcases remove_eq_ok ok with ⟨date, -, committed⟩
  exact listed.commit committed

theorem Listed.openAccount {snapshot : Snapshot} (listed : snapshot.Listed) (account : Account) :
    (snapshot.openAccount account).Listed := by
  rcases snapshot.openAccount_indices account with ⟨balances, usage, contacts⟩
  exact ⟨balances ▸ listed.balances, usage ▸ listed.usage, contacts ▸ listed.contacts⟩

end Snapshot
end Daybook
