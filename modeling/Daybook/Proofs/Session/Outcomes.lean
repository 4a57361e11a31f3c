import Daybook.Proofs.Ledger.LoadFailure
import Daybook.Proofs.Session.Failure
import Daybook.Proofs.Session.Reloaded

namespace Daybook

/-!
# How command lines fail

A command line is answered, or refused as a command, or fails with the fault of the device that
it writes to.  It can also stop without any of these.  All sums of a loaded ledger can be formed,
but some have more digits than can be printed, and questions and saves print.  The split
calculator prints as well, and before that it computes with an amount that is only as good as it
was typed.  And a save that is refused looks for its entry in a history that may not have had
room for one.  Nothing else goes wrong: dates out of range are refused, and bookings that were
selected can be removed.
-/

/-! ## Printing -/

namespace ReportRow

variable {registry : Registry} {failure : Failure}

theorem formatAll_eq_error {moneys : List Money} (failed : formatAll registry moneys = .error failure) :
    ∃ money ∈ moneys, money.format registry = .error failure := by
  induction moneys with
  | nil => cases failed
  | cons money rest ih =>
      rcases Outcome.both_eq_error failed with here | later
      · exact ⟨money, List.mem_cons_self, here⟩
      · rcases ih later with ⟨other, member, refused⟩
        exact ⟨other, List.mem_cons_of_mem money member, refused⟩

theorem formatTotals_eq_error {moneys : List Money}
    (failed : formatTotals registry moneys = .error failure) :
    ∃ money ∈ moneys, money.format registry = .error failure := by
  rcases Outcome.bind_eq_error.mp failed with refused | ⟨parts, -, done⟩
  · exact formatAll_eq_error refused
  · cases done

theorem ofRows_eq_error {make : Text → Text → Text → Text → Text → ReportRow} {rows : List Row}
    (failed : ofRows make registry rows = .error failure) :
    ∃ row ∈ rows, ∃ money, (money = row.movement.amount ∨ money ∈ row.totals) ∧
      money.format registry = .error failure := by
  induction rows with
  | nil => cases failed
  | cons row rest ih =>
      rcases Outcome.bind_eq_error.mp failed with here | ⟨amount, -, failed⟩
      · exact ⟨row, List.mem_cons_self, _, Or.inl rfl, here⟩
      · rcases Outcome.both_eq_error failed with here | later
        · rcases formatTotals_eq_error here with ⟨money, member, refused⟩
          exact ⟨row, List.mem_cons_self, money, Or.inr member, refused⟩
        · rcases ih later with ⟨other, among, refused⟩
          exact ⟨other, List.mem_cons_of_mem row among, refused⟩

theorem ofAccounts_eq_error {snapshot : Snapshot} {accounts : List Account}
    (failed : ofAccounts snapshot accounts = .error failure) :
    ∃ account ∈ accounts, ∃ money ∈ snapshot.balance account,
      money.format snapshot.registry = .error failure := by
  induction accounts with
  | nil => cases failed
  | cons account rest ih =>
      rcases Outcome.both_eq_error failed with here | later
      · exact ⟨account, List.mem_cons_self, formatTotals_eq_error here⟩
      · rcases ih later with ⟨other, among, refused⟩
        exact ⟨other, List.mem_cons_of_mem account among, refused⟩

end ReportRow

section Printing

variable {registry : Registry} {column : Int} {failure : Failure}

theorem Booking.postingLines_eq_error {postings : List Posting}
    (failed : postingLines registry column postings = .error failure) :
    ∃ posting ∈ postings, ∃ money, posting.money = some money ∧
      money.format registry = .error failure := by
  induction postings with
  | nil => cases failed
  | cons posting rest ih =>
      rcases Outcome.both_eq_error failed with here | later
      · unfold Posting.toLine at here
        dsimp only at here
        split at here
        · cases here
        · rename_i money given
          exact ⟨posting, List.mem_cons_self, money, given, Outcome.map_eq_error.mp here⟩
      · rcases ih later with ⟨other, among, refused⟩
        exact ⟨other, List.mem_cons_of_mem posting among, refused⟩

theorem Chapter.bookingLines_eq_error {bookings : List Booking}
    (failed : bookingLines registry column bookings = .error failure) :
    ∃ booking ∈ bookings, ∃ posting ∈ booking.postings, ∃ money, posting.money = some money ∧
      money.format registry = .error failure := by
  induction bookings with
  | nil => cases failed
  | cons booking rest ih =>
      rcases Outcome.both_eq_error failed with here | later
      · exact ⟨booking, List.mem_cons_self, Booking.postingLines_eq_error (Outcome.map_eq_error.mp here)⟩
      · rcases ih later with ⟨other, among, refused⟩
        exact ⟨other, List.mem_cons_of_mem booking among, refused⟩

theorem Chapter.blocks_eq_error {chapters : List Chapter}
    (failed : blocks registry column chapters = .error failure) :
    ∃ booking ∈ bookingsOf chapters, ∃ posting ∈ booking.postings, ∃ money,
      posting.money = some money ∧ money.format registry = .error failure := by
  induction chapters with
  | nil => cases failed
  | cons chapter rest ih =>
      rw [bookingsOf_eq, List.flatMap_cons, ← bookingsOf_eq]
      rcases Outcome.both_eq_error failed with here | later
      · rcases bookingLines_eq_error (Outcome.map_eq_error.mp here) with ⟨booking, among, refused⟩
        exact ⟨booking, List.mem_append_left _ among, refused⟩
      · rcases ih later with ⟨booking, among, refused⟩
        exact ⟨booking, List.mem_append_right _ among, refused⟩

end Printing

namespace Session

/-! ## The split calculator -/

section Calculator

variable {registry : Registry} {request : SplitRequest} {failure : Failure}

/-- An amount that was read and checked is settled and fits the unit of its currency. -/
theorem settled_of_typed {text : Text} {money checked : Money} {known : Registry}
    (proper : registry.Proper) (read : Money.ofText text registry = (.ok money, known))
    (passed : money.checkPrecision known = .ok checked) :
    checked = money ∧ money.Settled known 28 ∧ money.FitsCurrency known := by
  rcases Money.ofText_eq_ok proper read with ⟨sound, listed, -⟩
  rcases Money.checkPrecision_eq_ok sound passed with ⟨grid, within⟩
  exact ⟨Money.eq_of_checkPrecision passed,
    ⟨listed, fun unit smallest => ⟨grid unit smallest, within⟩, within⟩,
    Money.fits_of_checkPrecision sound passed⟩

/-- What a calculated split consists of. -/
theorem calculate_eq_ok {booking : Booking} {known : Registry}
    (ok : calculate registry request = .ok (booking, known)) :
    ∃ money, Money.ofText request.money registry = (.ok money, known) := by
  unfold calculate at ok
  split at ok
  · cases ok
  · rename_i money left read
    rcases Outcome.bind_eq_ok.mp ok with ⟨checked, -, ok⟩
    rcases Outcome.bind_eq_ok.mp ok with ⟨funding, -, ok⟩
    rcases Outcome.bind_eq_ok.mp ok with ⟨resolved, -, ok⟩
    rcases Prod.mk.inj (Except.ok.inj ok) with ⟨-, rfl⟩
    exact ⟨money, read⟩

/-- Calculating a split fails without a fault only on the amount: it is too large for its minus,
it cannot be shown, or it cannot be divided. -/
theorem calculate_eq_error (proper : registry.Proper) (failed : calculate registry request = .error failure) :
    failure.IsFault ∨
      (Money.IsTooNegative request.money ∧ failure = .arithmetic .overflow) ∨
      ∃ money known, Money.ofText request.money registry = (.ok money, known) ∧
        ((money.IsUnshowable known ∧ failure = .arithmetic .invalidOperation) ∨
          (request.mode = .even ∧
            Money.Indivisible known money.currency (request.contacts.length + 1) ∧
            Money.IsOfDivision failure)) := by
  unfold calculate at failed
  split at failed
  · rename_i refusal known read
    rcases Except.error.inj failed with rfl
    exact (Money.ofText_eq_error read).imp_right Or.inl
  · rename_i money known read
    have sound := (Money.ofText_eq_ok proper read).1
    rcases Outcome.bind_eq_error.mp failed with refused | ⟨checked, passed, turned⟩
    · exact (Money.checkPrecision_eq_error sound refused).imp_right
        fun unshowable => Or.inr ⟨money, known, read, Or.inl unshowable⟩
    rcases settled_of_typed proper read passed with ⟨rfl, settled, fits⟩
    rcases Outcome.bind_eq_error.mp turned with refused | ⟨funding, negated, resolved⟩
    · rcases settled.exists_neg (by decide) (by decide) with ⟨opposite, negated, -⟩
      rw [negated] at refused
      cases refused
    · have funds : funding.Settled known 28 ∧ funding.FitsCurrency known :=
        ⟨settled.neg (by decide) (by decide) negated, fits.neg sound negated⟩
      have only : ∀ money ∈ [funding], money.Settled known 28 ∧ money.FitsCurrency known :=
        List.forall_mem_singleton.mpr funds
      rcases Outcome.bind_eq_error.mp resolved with refused | ⟨booking, -, done⟩
      · refine (Booking.isFault_or_isIndivisible_of_resolve sound ?_ ?_ refused).imp_right ?_
        · exact fun money member => (only money member).1
        · exact fun money member => (only money member).2
        rintro ⟨⟨directive, money, to_do, even, one_amount, indivisible⟩, division⟩
        rcases Option.some.inj to_do with rfl
        obtain rfl : funding = money := (List.cons.inj one_amount).1
        rcases Money.neg_eq_ok.mp negated with ⟨amount, -, rfl⟩
        exact Or.inr ⟨checked, known, read, Or.inr ⟨even, indivisible, division⟩⟩
      · cases done

end Calculator

/-! ## Commands that stop -/

/-- An entry that was just pushed is in any history that has room for one. -/
theorem mem_history_pushed {session : Session} (command : CommandName) (room : 0 < session.historyLimit) :
    session.entryFor command ∈ (session.push command).history := by
  rw [push]
  dsimp only
  rw [@keepLast_append _ _ session.history [session.entryFor command] room]
  exact List.mem_append_right _ List.mem_cons_self

variable {σ : Type} {session : Session} {device : Option (Device σ)} {state : σ} {command : Command}
  {failure : SessionFailure}

/-- What a command asks of the register, if it does: a text, or a date. -/
def question? (session : Session) : Command → Option (Option Text × Option Calendar.Date)
  | .register matcher => some (matcher, none)
  | .date argument => (session.dateOf? argument).map fun date => (none, some date)
  | _ => none

/-- The amounts that a command prints, with the currencies that it prints them by. -/
inductive Prints (session : Session) : Command → Registry → Money → Prop
  | movement {command : Command} {matcher : Option Text} {on : Option Calendar.Date} {rows : List Row}
      {row : Row} (asked : session.question? command = some (matcher, on))
      (listed : session.snapshot.register matcher on = .ok rows) (among : row ∈ rows) :
      Prints session command session.snapshot.registry row.movement.amount
  | total {command : Command} {matcher : Option Text} {on : Option Calendar.Date} {rows : List Row}
      {row : Row} {money : Money} (asked : session.question? command = some (matcher, on))
      (listed : session.snapshot.register matcher on = .ok rows) (among : row ∈ rows)
      (running : money ∈ row.totals) : Prints session command session.snapshot.registry money
  | balance {account : Account} {money : Money} (listed : account ∈ session.snapshot.accounts)
      (held : money ∈ session.snapshot.balance account) :
      Prints session .accounts session.snapshot.registry money
  | saved {booking : Booking} {posting : Posting} {money : Money}
      (booked : booking ∈ Chapter.bookingsOf session.snapshot.chapters)
      (posted : posting ∈ booking.postings) (given : posting.money = some money) :
      Prints session .save session.snapshot.registry money
  | share {request : SplitRequest} {booking : Booking} {known : Registry} {posting : Posting}
      {money : Money}
      (calculated : calculate session.snapshot.registry request = .ok (booking, known))
      (posted : posting ∈ booking.postings) (given : posting.money = some money) :
      Prints session (.split request) known money

/-- How a command stops without being refused and without a fault of the device.  It prints an
amount that cannot be shown in its currency, the amount of a split cannot be negated, shown or
divided, or the history has no room for the entry of a save that the device refuses. -/
inductive Stops (session : Session) (device : Option (Device σ)) (state : σ) :
    Command → SessionFailure → Prop
  | unshowable {command : Command} {registry : Registry} {money : Money}
      (printed : session.Prints command registry money) (large : money.IsUnshowable registry) :
      Stops session device state command (.ledger (.arithmetic .invalidOperation))
  | negation {request : SplitRequest} (large : Money.IsTooNegative request.money) :
      Stops session device state (.split request) (.ledger (.arithmetic .overflow))
  | typed {request : SplitRequest} {money : Money} {known : Registry}
      (read : Money.ofText request.money session.snapshot.registry = (.ok money, known))
      (large : money.IsUnshowable known) :
      Stops session device state (.split request) (.ledger (.arithmetic .invalidOperation))
  | division {request : SplitRequest} {money : Money} {known : Registry} {failure : Failure}
      (read : Money.ofText request.money session.snapshot.registry = (.ok money, known))
      (even : request.mode = .even)
      (indivisible : Money.Indivisible known money.currency (request.contacts.length + 1))
      (kind : Money.IsOfDivision failure) :
      Stops session device state (.split request) (.ledger failure)
  | lostEntry {fault : WriteFault} (refused : session.RefusedWith device state fault)
      (no_room : session.historyLimit = 0) : Stops session device state .save .lostEntry

/-- Whether a failure is a refusal of the command or a fault of the device. -/
def SessionFailure.IsDocumented (failure : SessionFailure) : Prop :=
  (∃ fault, failure = .command fault) ∨ ∃ fault, failure = .write fault

theorem isDocumented_of_refused {α : Type} {fault : CommandFault}
    (refused : (.error (.command fault) : Except SessionFailure α) = .error failure) :
    SessionFailure.IsDocumented failure :=
  Or.inl ⟨fault, (Except.error.inj refused).symm⟩

theorem ofOutcome_eq_error {α : Type} {result : Outcome α} (failed : ofOutcome result = .error failure) :
    ∃ cause, result = .error cause ∧ failure = .ledger cause := by
  cases result with
  | ok value => cases failed
  | error cause => exact ⟨cause, rfl, (Except.error.inj failed).symm⟩

theorem ofCalculation_eq_ok {α : Type} {result : Outcome α} {value : α}
    (ok : ofCalculation result = .ok value) : result = .ok value := by
  unfold ofCalculation at ok
  split at ok
  · exact congrArg Except.ok (Except.ok.inj ok)
  · cases ok
  · cases ok

/-- A command that fails to print an amount stops on it. -/
theorem stops_of_format_eq_error {registry : Registry} (proper : registry.Proper) {money : Money}
    (printed : session.Prints command registry money) {cause : Failure}
    (failed : money.format registry = .error cause) :
    Stops session device state command (.ledger cause) := by
  rcases Money.format_eq_error proper failed with ⟨large, rfl⟩
  exact .unshowable printed large

/-- A register that is asked for cannot fail but on the amounts that it prints. -/
theorem stops_of_register {matcher : Option Text} {on : Option Calendar.Date} {rows : List Row}
    (proper : session.snapshot.registry.Proper)
    (asked : session.question? command = some (matcher, on))
    (listed : session.snapshot.register matcher on = .ok rows) {cause : Failure}
    (failed : ReportRow.ofRegister session.snapshot.registry rows = .error cause) :
    Stops session device state command (.ledger cause) := by
  rcases ReportRow.ofRows_eq_error failed with ⟨row, among, money, rfl | running, refused⟩
  · exact stops_of_format_eq_error proper (.movement asked listed among) refused
  · exact stops_of_format_eq_error proper (.total asked listed among running) refused

theorem register_eq_error (settled : session.snapshot.Settled) (sound : session.snapshot.Sound)
    {matcher : Option Text} (failed : (session.register matcher).1 = .error failure) :
    Stops session device state (.register matcher) failure := by
  rcases exists_register sound matcher none with ⟨rows, listed⟩
  unfold register at failed
  rw [listed] at failed
  rcases ofOutcome_eq_error (Outcome.map_eq_error.mp failed) with ⟨cause, refused, rfl⟩
  exact stops_of_register settled.registry rfl listed refused

theorem date_eq_error (settled : session.snapshot.Settled) (sound : session.snapshot.Sound)
    {argument : Option (Text × Calendar.Reference)} (failed : (session.date argument).1 = .error failure) :
    SessionFailure.IsDocumented failure ∨ Stops session device state (.date argument) failure := by
  have shown : ∀ date, session.dateOf? argument = some date →
      (session.showDate date).1 = .error failure →
      Stops session device state (.date argument) failure := by
    intro date referred failed
    rcases exists_register sound none (some date) with ⟨rows, listed⟩
    unfold showDate at failed
    rw [listed] at failed
    rcases ofOutcome_eq_error (Outcome.map_eq_error.mp failed) with ⟨cause, refused, rfl⟩
    exact stops_of_register settled.registry (by rw [question?, referred]; rfl) listed refused
  rcases argument with _ | ⟨text, reference⟩
  · exact Or.inr (shown session.currentDate rfl failed)
  · rw [date] at failed
    cases resolved : reference.resolve? session.currentDate session.today with
    | none =>
        rw [resolved] at failed
        exact Or.inl (isDocumented_of_refused failed)
    | some date =>
        rw [resolved] at failed
        exact Or.inr (shown date resolved failed)

/-- A ledger that cannot be printed stops a save on one of its amounts. -/
theorem stops_of_snapshot_format (proper : session.snapshot.registry.Proper) {cause : Failure}
    (failed : session.snapshot.format session.amountColumn = .error cause) :
    Stops session device state .save (.ledger cause) := by
  rw [Snapshot.format_eq] at failed
  rcases Chapter.blocks_eq_error (Outcome.map_eq_error.mp failed) with
    ⟨booking, booked, posting, posted, money, given, refused⟩
  exact stops_of_format_eq_error proper (.saved booked posted given) refused

/-- A save that the device refuses loses its entry only in a history without room. -/
theorem save_refused_eq_error (listed : session.snapshot.Listed) {fault : WriteFault}
    (refused : session.RefusedWith device state fault)
    (failed : (session.save device state).1.1 = .error failure) :
    failure = .write fault ∨ failure = .lostEntry ∧ session.historyLimit = 0 := by
  rw [save_refused refused] at failed
  cases found : dropFirst? HistoryEntry.same (session.entryFor .save) (session.push .save).history with
  | some history =>
      rw [found] at failed
      exact Or.inl (Except.error.inj failed).symm
  | none =>
      rw [found] at failed
      refine Or.inr ⟨(Except.error.inj failed).symm, ?_⟩
      by_contra room
      have kept : session.entryFor .save ∈ (session.push .save).history :=
        mem_history_pushed .save (Nat.pos_of_ne_zero room)
      rcases exists_dropFirst? kept (HistoryEntry.same_self listed) with ⟨rest, other⟩
      rw [other] at found
      cases found

theorem save_eq_error (settled : session.snapshot.Settled) (listed : session.snapshot.Listed)
    (failed : (session.save device state).1.1 = .error failure) :
    SessionFailure.IsDocumented failure ∨ Stops session device state .save failure := by
  by_cases met : ∃ fault, session.RefusedWith device state fault
  · rcases met with ⟨fault, refused⟩
    rcases save_refused_eq_error listed refused failed with rfl | ⟨rfl, no_room⟩
    · exact Or.inl (Or.inr ⟨fault, rfl⟩)
    · exact Or.inr (.lostEntry refused no_room)
  · unfold save at failed
    cases device with
    | none => exact Or.inl (isDocumented_of_refused failed)
    | some place =>
        dsimp only at failed
        cases formatted : session.snapshot.format session.amountColumn with
        | error cause =>
            rw [formatted] at failed
            rcases Except.error.inj failed with rfl
            exact Or.inr (stops_of_snapshot_format settled.registry formatted)
        | ok text =>
            rw [formatted] at failed
            dsimp only at failed
            rcases written : place.write state text with ⟨⟨fault⟩ | ⟨⟨⟩⟩, attempted⟩
            · exact absurd ⟨fault, place, text, rfl, formatted, congrArg Prod.fst written⟩ met
            · rw [written] at failed
              cases failed

theorem split_eq_error (proper : session.snapshot.registry.Proper) {request : SplitRequest}
    (failed : session.split request = .error failure) :
    SessionFailure.IsDocumented failure ∨ Stops session device state (.split request) failure := by
  unfold split at failed
  rcases Outcome.bind_eq_error.mp failed with refused | ⟨⟨booking, known⟩, calculated, failed⟩
  · cases result : calculate session.snapshot.registry request with
    | ok _ =>
        rw [result] at refused
        cases refused
    | error cause =>
        rw [result] at refused
        rcases calculate_eq_error proper result with ⟨fault, rfl⟩ | ⟨large, rfl⟩ |
          ⟨money, known, read, ⟨large, rfl⟩ | ⟨even, indivisible, kind⟩⟩
        · exact Or.inl (isDocumented_of_refused refused)
        · rcases Except.error.inj refused with rfl
          exact Or.inr (.negation large)
        · rcases Except.error.inj refused with rfl
          exact Or.inr (.typed read large)
        · obtain rfl : failure = .ledger cause := by
            rcases kind with rfl | ⟨signal, rfl⟩ <;> exact (Except.error.inj refused).symm
          exact Or.inr (.division read even indivisible kind)
  · rcases Outcome.bind_eq_error.mp failed with refused | ⟨lines, -, done⟩
    · rcases ofOutcome_eq_error refused with ⟨cause, unprinted, rfl⟩
      have calculated := ofCalculation_eq_ok calculated
      rcases calculate_eq_ok calculated with ⟨money, read⟩
      rcases Booking.postingLines_eq_error (Outcome.map_eq_error.mp unprinted) with
        ⟨posting, posted, share, given, failed⟩
      exact Or.inr (stops_of_format_eq_error (Money.ofText_eq_ok proper read).1
        (.share calculated posted given) failed)
    · cases done

/-- Deleting fails only when it is refused: the booking that is selected can be removed. -/
theorem delete_eq_error (sound : session.snapshot.Sound) (failed : session.delete.1 = .error failure) :
    SessionFailure.IsDocumented failure := by
  unfold delete at failed
  split at failed
  · exact isDocumented_of_refused failed
  · dsimp only at failed
    split at failed
    · exact isDocumented_of_refused failed
    · rename_i label chosen _ date booking found
      rcases sound.indexed.exists_remove sound.bounded found with ⟨after, removed, -⟩
      rw [removed] at failed
      cases failed

theorem openAccount_ne_error (account : Account) : (session.openAccount account).1 ≠ .error failure := by
  intro failed
  unfold openAccount at failed
  dsimp only at failed
  split at failed
  · cases failed
  · cases failed

/-- A command that fails is refused, fails with a fault of the device, or stops in one of the
known ways. -/
theorem run_eq_error (settled : session.snapshot.Settled) (sound : session.snapshot.Sound)
    (listed : session.snapshot.Listed) (failed : (session.run device state command).1.1 = .error failure) :
    SessionFailure.IsDocumented failure ∨ Stops session device state command failure := by
  cases command with
  | split request => exact split_eq_error settled.registry failed
  | register matcher => exact Or.inr (register_eq_error settled sound failed)
  | date argument => exact date_eq_error settled sound failed
  | accounts =>
      rcases ofOutcome_eq_error (Outcome.map_eq_error.mp failed) with ⟨cause, refused, rfl⟩
      rcases ReportRow.ofAccounts_eq_error refused with ⟨account, among, money, held, unprinted⟩
      exact Or.inr (stops_of_format_eq_error settled.registry (.balance among held) unprinted)
  | openAccount account => exact absurd failed (openAccount_ne_error account)
  | save => exact save_eq_error settled listed failed
  | delete => exact Or.inl (delete_eq_error sound failed)
  | undo => cases failed
  | inspect => cases failed

/-! ## Lines of a run -/

/-- How a command line comes out, in any state that command lines lead to on a session over a
loaded ledger, whatever the device: it is answered, it is refused as a command, it fails with a
fault of the device, or it is a command that stops in one of the known ways. -/
theorem execute_outcomes {text : Text} {today : Option Calendar.Date} {strict : Bool}
    {snapshot : Snapshot} {day : Calendar.Date} {limit column : Int} {initial : Session} {start : σ}
    {run : Session × σ} (loaded : Snapshot.load text today strict = .ok snapshot)
    (started : Session.start snapshot day limit column = .ok initial)
    (reached : Reached device (initial, start) run) (line : Text) :
    (∃ reply, answer device run line = .ok reply) ∨
      (∃ fault, answer device run line = .error (.command fault)) ∨
        (∃ fault, answer device run line = .error (.write fault)) ∨
          ∃ command failure, Command.ofText line = .ok command ∧
            answer device run line = .error failure ∧ Stops run.1 device run.2 command failure := by
  have first : initial.Sound := sound_start (Snapshot.sound_of_load loaded) started
  have settled := Snapshot.settled_of_load loaded
  have part := reached.partOf settled (Snapshot.sound_of_load loaded) started
  have listed := (reached.throughout first
    (throughout_start (Snapshot.listed_of_load loaded) started)
    (fun _ account listed => listed.openAccount account)
    (fun _ _ _ _ listed removed => listed.remove removed)).now
  cases result : answer device run line with
  | ok reply => exact Or.inl ⟨reply, rfl⟩
  | error failure =>
      right
      cases asked : Command.ofText line with
      | error fault =>
          rw [answer, execute, asked] at result
          exact Or.inl ⟨fault, congrArg Except.error (Except.error.inj result).symm⟩
      | ok command =>
          rw [answer, execute, asked] at result
          rcases run_eq_error (part.settled settled) (reached.sound first).now listed result with
            (⟨fault, rfl⟩ | ⟨fault, rfl⟩) | stops
          · exact Or.inl ⟨fault, rfl⟩
          · exact Or.inr (Or.inl ⟨fault, rfl⟩)
          · exact Or.inr (Or.inr ⟨command, failure, rfl, rfl, stops⟩)

/-! ## A fortune -/

/-- A ledger of amounts that can be printed, with a running total that cannot. -/
def fortuneText : Text :=
  Text.ofLines ["2024-01-05".toList, "x".toList, "    a  $60000000000000000000000000".toList,
    "    b".toList, "y".toList, "    a  $60000000000000000000000000".toList, "    b".toList]

/-- A session over it. -/
def fortune : Session :=
  { small with snapshot := Snapshot.loadedFrom fortuneText false, issued := 2 }

theorem load_fortune :
    Snapshot.load fortuneText none false = .ok (Snapshot.loadedFrom fortuneText false) := by
  decide +kernel

theorem start_fortune :
    start (Snapshot.loadedFrom fortuneText false) ⟨2024, 1, 5, by decide⟩ 2 72 = .ok fortune := by
  decide +kernel

/-- The register of one account stops, and it does so on an amount that it prints. -/
theorem fortune_stops :
    answer (some keeping) (fortune, none) "reg a".toList =
        .error (.ledger (.arithmetic .invalidOperation)) ∧
      Stops fortune (some keeping) none (.register (some ['a']))
        (.ledger (.arithmetic .invalidOperation)) := by
  have failed : answer (some keeping) (fortune, none) "reg a".toList =
      .error (.ledger (.arithmetic .invalidOperation)) := by
    decide +kernel
  have asked : Command.ofText "reg a".toList = .ok (.register (some ['a'])) := by decide +kernel
  refine ⟨failed, ?_⟩
  rcases execute_outcomes load_fortune start_fortune Reached.start "reg a".toList with
    ⟨reply, other⟩ | ⟨fault, other⟩ | ⟨fault, other⟩ | ⟨command, failure, read, other, stops⟩
  · cases failed.symm.trans other
  · cases failed.symm.trans other
  · cases failed.symm.trans other
  · rcases Except.error.inj (failed.symm.trans other) with rfl
    rcases Except.ok.inj (asked.symm.trans read) with rfl
    exact stops

/-- Commands do stop: a register on the sum of two amounts, a split on an amount with a digit too
many, and a refused save on a history without room. -/
theorem commands_stop :
    Snapshot.load fortuneText none false = .ok (Snapshot.loadedFrom fortuneText false) ∧
      start (Snapshot.loadedFrom fortuneText false) ⟨2024, 1, 5, by decide⟩ 2 72 = .ok fortune ∧
      answer (some keeping) (fortune, none) "reg a".toList =
        .error (.ledger (.arithmetic .invalidOperation)) ∧
      answer (some keeping) (fortune, none)
          "split $10000000000000000000000000000 on a with @b".toList =
        .error (.ledger (.arithmetic .invalidOperation)) ∧
      start (Snapshot.loadedFrom fortuneText false) ⟨2024, 1, 5, by decide⟩ 0 72 =
        .ok { fortune with historyLimit := 0 } ∧
      answer (some refusing) ({ fortune with historyLimit := 0 }, none) "save".toList =
        .error .lostEntry := by
  refine ⟨load_fortune, start_fortune, ?_, ?_, ?_, ?_⟩
  · decide +kernel
  · decide +kernel
  · decide +kernel
  · decide +kernel

end Session
end Daybook
