import Daybook.Proofs.Ledger.Listed
import Daybook.Proofs.Ledger.Loaded
import Daybook.Proofs.Text.Spaced
import Mathlib.Data.List.Forall2

namespace Daybook

/-!
# Account paths have one form

An account is known by its path, and paths come about in two ways: they are read from a text that
may have blanks around and within its segments, and they are put together for the contacts of a
split.  If both did not lead to the same form, one account could become two when a ledger is
printed and read again.  A path that is read depends only on the words between its strokes, and
the result is read as it stands; what is put together for a contact is read as it stands as well.
The accounts of a loaded ledger come about in no other way: its indices list accounts of postings
only.
-/

namespace Account

variable {text other : Text} {line : Option Nat} {column : Nat} {account : Account}

/-- Whether the path of an account is read as this account wherever it is written. -/
def ReadsBack (account : Account) : Prop := ∀ line column, ofText account.name line column = .ok account

/-- Whether two paths differ only in the blanks around their segments and in the runs of blanks
within them. -/
def SamePath (text other : Text) : Prop :=
  List.Forall₂ Text.SameWords (Text.splitOn stroke text) (Text.splitOn stroke other)

/-- The segments of what is read are the pieces of the path with their blanks collapsed. -/
theorem collapses_segments (ok : ofText text line column = .ok account) :
    List.Forall₂ Text.Collapses (Text.splitOn stroke text) account.segments := by
  rcases segments_of_ofText ok with ⟨segments, collapsed, filled, each, name⟩
  rw [Account.segments, name, segments_join filled each, collapsed, List.forall₂_map_right_iff]
  exact List.forall₂_same.mpr fun raw _ => Text.collapses_collapse raw

instance (text other : Text) : Decidable (SamePath text other) :=
  inferInstanceAs (Decidable (List.Forall₂ _ _ _))

theorem SamePath.map_words (same : SamePath text other) :
    (Text.splitOn stroke text).map Text.words = (Text.splitOn stroke other).map Text.words := by
  unfold SamePath at same
  generalize Text.splitOn stroke text = pieces, Text.splitOn stroke other = others at same ⊢
  induction same with
  | nil => rfl
  | cons here _ ih => rw [List.map_cons, List.map_cons, Text.sameWords_iff.mp here, ih]

/-- What is read depends only on the words of the pieces. -/
theorem ofText_of_samePath (same : SamePath text other) (ok : ofText text line column = .ok account)
    (elsewhere : Option Nat) (place : Nat) : ofText other elsewhere place = .ok account := by
  have by_words (path : Text) (line : Option Nat) (column : Nat) :
      ofText path line column = .ok account ↔
        (∀ words ∈ (Text.splitOn stroke path).map Text.words, isSegment words = true) ∧
          account = ⟨Text.join [stroke]
            (((Text.splitOn stroke path).map Text.words).map (Text.join [' ']))⟩ := by
    rw [ofText_eq_ok_iff, List.forall_mem_map, List.map_map]
    rfl
  rw [by_words] at ok ⊢
  rwa [same.map_words] at ok

end Account

/-! ## Accounts of a ledger -/

namespace Row

theorem map_movement_list {movements : List Movement} {rows : List Row} (ok : list movements = .ok rows) :
    rows.map (·.movement) = movements := by
  have passes : Passes (fun _ _ => True) ([] ++ movements) := fun _ _ _ _ _ _ _ _ => trivial
  exact (passes.rows trivial ok).1

end Row

namespace Snapshot

/-- Whether an account occurs in a snapshot: in a posting, in an index or among the opened ones. -/
inductive Mentions (snapshot : Snapshot) : Account → Prop
  | posting {booking : Booking} {posting : Posting}
      (inside : booking ∈ Chapter.bookingsOf snapshot.chapters) (among : posting ∈ booking.postings) :
      Mentions snapshot posting.account
  | balance {account : Account} (listed : account ∈ snapshot.balances.keys) : Mentions snapshot account
  | usage {account : Account} {currency : Text} (listed : (account, currency) ∈ snapshot.usage.keys) :
      Mentions snapshot account
  | opened {account : Account} (listed : account ∈ snapshot.opened) : Mentions snapshot account
  | row {name : Text} {ledger : ContactLedger} {row : Row} (listed : (name, ledger) ∈ snapshot.contacts)
      (inside : row ∈ ledger.debts ∨ row ∈ ledger.everything) : Mentions snapshot row.movement.account

/-- Whether some posting of a snapshot is on an account. -/
def HasPosting (snapshot : Snapshot) (account : Account) : Prop :=
  ∃ booking ∈ Chapter.bookingsOf snapshot.chapters, ∃ posting ∈ booking.postings, posting.account = account

variable {snapshot : Snapshot} {account : Account}

theorem hasPosting_of_movement {movement : Account × Money} (member : movement ∈ snapshot.movements) :
    snapshot.HasPosting movement.1 := by
  rcases Booking.exists_posting_of_movement member with ⟨booking, inside, posting, among, same, -⟩
  exact ⟨booking, inside, posting, among, same⟩

/-- The rows of the ledger of a contact show movements of the chapters. -/
theorem movement_of_contactLedger {name : Text} {chapters : List Chapter} {ledger : ContactLedger}
    (ok : contactLedger name chapters = .ok ledger) {row : Row}
    (inside : row ∈ ledger.debts ∨ row ∈ ledger.everything) :
    row.movement ∈ Movement.ofChapters chapters := by
  rcases Outcome.bind_eq_ok.mp ok with ⟨debts, first, ok⟩
  rcases Outcome.bind_eq_ok.mp ok with ⟨everything, second, ok⟩
  rcases Except.ok.inj ok with rfl
  rcases inside with member | member
  · have shown := List.mem_map_of_mem (f := (·.movement)) member
    rw [Row.map_movement_list first] at shown
    exact (List.mem_filter.mp (List.mem_filter.mp shown).1).1
  · have shown := List.mem_map_of_mem (f := (·.movement)) member
    rw [Row.map_movement_list second] at shown
    exact (List.mem_filter.mp shown).1

/-- An account of an index is one of a posting, and so is every account if none was opened. -/
theorem Indexed.hasPosting (indexed : snapshot.Indexed) (listed : snapshot.Listed)
    (nothing : snapshot.opened = []) (mentioned : snapshot.Mentions account) :
    snapshot.HasPosting account := by
  -- A balance and a number of postings are there as long as some movement is.
  have counted {currency : Text} (some_movement : 0 < snapshot.movements.countP (isUnder account currency)) :
      snapshot.HasPosting account := by
    rcases List.countP_pos_iff.mp some_movement with ⟨movement, member, under⟩
    have same : movement.1 = account := by
      simp [isUnder] at under
      exact under.1
    exact same ▸ hasPosting_of_movement member
  cases mentioned with
  | posting inside among => exact ⟨_, inside, _, among, rfl⟩
  | balance known =>
      have present := (Table.has_iff_mem_keys _ _).mpr known
      rcases (indexed.counts.tidy.has_iff account).mp present with ⟨currency, present⟩
      exact counted ((indexed.counts.listed account currency).mp present)
  | @usage _ currency known =>
      have present := (Table.has_iff_mem_keys _ _).mpr known
      rw [Table.has, indexed.counts.used] at present
      split at present
      · rename_i several
        exact counted several
      · cases present
  | opened known =>
      rw [nothing] at known
      cases known
  | @row name ledger row known inside =>
      have found := (Table.get?_eq_some_iff listed.contacts name ledger).mpr known
      have named : name ≠ [] := by
        rintro rfl
        rw [indexed.contacts.nameless] at found
        cases found
      rcases indexed.contacts.named name named with ⟨right, read, same⟩
      rw [found] at same
      split at same
      · cases same
      · rcases Option.some.inj same with rfl
        exact hasPosting_of_movement
          (mem_movements_of_ofChapters (movement_of_contactLedger read inside))

theorem opened_of_load {text : Text} {today : Option Calendar.Date} {strict : Bool}
    (loaded : load text today strict = .ok snapshot) : snapshot.opened = [] := by
  rcases Outcome.bind_eq_ok.mp loaded with ⟨reading, -, loaded⟩
  rcases Outcome.bind_eq_ok.mp loaded with ⟨chapters, -, built⟩
  exact (build_eq_ok built).2.2.1

/-- Every account of a loaded ledger has a path in normal form. -/
theorem isNormal_of_load {text : Text} {today : Option Calendar.Date} {strict : Bool}
    (loaded : load text today strict = .ok snapshot) (mentioned : snapshot.Mentions account) :
    account.IsNormal := by
  rcases load_eq_ok loaded with ⟨settled, sound⟩
  rcases sound.indexed.hasPosting (listed_of_load loaded) (opened_of_load loaded) mentioned with
    ⟨booking, inside, posting, among, rfl⟩
  exact (settled.bookings booking inside).accounts posting among

end Snapshot

namespace Account

/-- Account paths have one form.  What is read from a path is read again from its own path; its
segments are the pieces of the path with their blanks collapsed, and a path that differs only in
such blanks is read as the same account.  The accounts that a split makes up for a contact are
read as they stand and name the contact.  So every account of a loaded ledger is read as it
stands. -/
theorem paths_have_one_form :
    (∀ text line column account, ofText text line column = .ok account →
      account.ReadsBack ∧
      List.Forall₂ Text.Collapses (Text.splitOn stroke text) account.segments ∧
      ∀ other, SamePath text other → ∀ elsewhere place, ofText other elsewhere place = .ok account) ∧
    (∀ argument directive, SplitDirective.ofText argument = .ok directive →
      ∀ contact ∈ directive.contacts,
        (∀ account ∈ contactAccounts contact, account.ReadsBack ∧ account.contact? = some contact) ∧
        ∀ share, (Booking.contactPosting contact share).account ∈ contactAccounts contact) ∧
    ∀ text today strict snapshot, Snapshot.load text today strict = .ok snapshot →
      ∀ account, snapshot.Mentions account → account.ReadsBack := by
  refine ⟨?_, ?_, ?_⟩
  · intro text line column account ok
    exact ⟨(isNormal_of_ofText ok).ofText_name, collapses_segments ok,
      fun other same => ofText_of_samePath same ok⟩
  · intro argument directive ok contact member
    have known := SplitDirective.isNormal_of_ofText ok contact member
    refine ⟨fun account made => ?_, Booking.mem_contactAccounts contact⟩
    rcases normal_of_mem_contactAccounts known made with ⟨normal, named⟩
    exact ⟨normal.ofText_name, named⟩
  · intro text today strict snapshot loaded account mentioned
    exact (Snapshot.isNormal_of_load loaded mentioned).ofText_name

/-- A path with more blanks than it needs, one of them a no-break space. -/
def looseText : Text := " asset /\tpetty\u00a0 cash ".toList

/-- A ledger with a split for a contact of two words. -/
def ferryText : Text :=
  "2024-01-05\nFerry #[split( @Bank\t of  Kent )]\n  asset/ petty  cash  $-9\n  expense\n".toList

theorem kent_has_one_form :
    let account : Account := ⟨"asset/petty cash".toList⟩
    let other := "asset/petty \tcash".toList
    let argument := " @Anna ,@Bank\t of  Kent ".toList
    let directive : SplitDirective := ⟨.even, ["Anna".toList, "Bank of Kent".toList]⟩
    let contact := "Bank of Kent".toList
    let snapshot := Snapshot.loadedFrom ferryText false
    let receivable : Account := ⟨"asset/@Bank of Kent/receivable".toList⟩
    (ofText looseText none 1 = .ok account ∧ account.ReadsBack ∧
      List.Forall₂ Text.Collapses (Text.splitOn stroke looseText) account.segments ∧
      SamePath looseText other ∧ ofText other (some 3) 5 = .ok account) ∧
    (SplitDirective.ofText argument = .ok directive ∧ contact ∈ directive.contacts ∧
      (∀ account ∈ contactAccounts contact, account.ReadsBack ∧ account.contact? = some contact) ∧
      ∀ share, (Booking.contactPosting contact share).account ∈ contactAccounts contact) ∧
    Snapshot.load ferryText none false = .ok snapshot ∧ snapshot.Mentions receivable ∧
      receivable.ReadsBack := by
  intro account other argument directive contact snapshot receivable
  have read : ofText looseText none 1 = .ok account := by decide +kernel
  have same : SamePath looseText other := by decide +kernel
  have said : SplitDirective.ofText argument = .ok directive := by decide +kernel
  have named : contact ∈ directive.contacts := by decide
  have loaded : Snapshot.load ferryText none false = .ok snapshot := by decide +kernel
  have mentioned : snapshot.Mentions receivable := .balance (by decide +kernel)
  rcases paths_have_one_form.1 looseText none 1 account read with ⟨again, collapsed, alike⟩
  have known := paths_have_one_form.2.1 argument directive said contact named
  exact ⟨⟨read, again, collapsed, same, alike other same (some 3) 5⟩, ⟨said, named, known⟩, loaded,
    mentioned, paths_have_one_form.2.2 ferryText none false snapshot loaded receivable mentioned⟩

end Account
end Daybook
