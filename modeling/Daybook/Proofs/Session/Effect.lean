import Daybook.Proofs.Ledger.Bounded
import Daybook.Session.Execute

namespace Daybook

/-!
# What a command line does to a session

A command line has one of seven effects, and everything that is said about runs of
a session is said effect by effect.  Most lines only move the selection and the
current date.  Those that push an entry of the history succeed, apart from a save
whose writer fails: in particular a deletion that has pushed its entry goes
through, because the amounts of the ledger are bounded.
-/

open Calendar

namespace Session

/-- Whether the snapshot of a session and those in its history are sound, and the
history is no longer than it may be. -/
structure Sound (session : Session) : Prop where
  now : session.snapshot.Sound
  before : ∀ entry ∈ session.history, entry.snapshot.Sound
  short : session.history.length ≤ session.historyLimit

/-- What can happen to the history.  A command that changes the ledger and a save push their
entries.  If the writer of a save fails, an entry is taken out. -/
inductive Event where
  | quiet
  | changed (command : CommandName)
  | saved
  | refused
  | undone
  deriving DecidableEq

/-- What an answer tells about the history. -/
def eventOf : Except SessionFailure Reply → Event
  | .ok reply =>
    match reply.command with
    | .openAccount => .changed .openAccount
    | .delete => .changed .delete
    | .save => .saved
    | .undo => .undone
    | .split | .register | .date | .accounts | .inspect => .quiet
  | .error (.write _) | .error .lostEntry => .refused
  | .error (.command _) | .error (.ledger _) | .error .negativeLimit | .error .hugeLimit => .quiet

/-- Whether an answer is that of a successful command that may change the ledger. -/
def isChange (answer : Except SessionFailure Reply) : Bool :=
  match eventOf answer with
  | .changed _ | .saved => true
  | .quiet | .refused | .undone => false

variable {σ : Type}

/-- Whether a line saves to a device that refuses the text. -/
def WriterFails (session : Session) (device : Option (Device σ)) (state : σ) (line : Text) : Prop :=
  Command.ofText line = .ok .save ∧ ∃ place text fault, device = some place ∧
    session.snapshot.format session.amountColumn = .ok text ∧
    (place.write state text).1 = .error fault

/-- What a command line does: its answer, the session after it and the state of the device after
it.  Opening an account that is known only makes an entry.  When the device refuses the ledger, the
first entry like the one just made is taken out. -/
inductive Effect (session : Session) (device : Option (Device σ)) (state : σ) (line : Text) :
    Except SessionFailure Reply → Session → σ → Prop
  | quiet {answer : Except SessionFailure Reply} {selection : Selection} {currentDate : Date}
      (event : eventOf answer = .quiet) :
      Effect session device state line answer { session with selection, currentDate } state
  | opened {answer : Except SessionFailure Reply} {account : Account}
      (event : eventOf answer = .changed .openAccount) :
      Effect session device state line answer
        { session.push .openAccount with
          snapshot := session.snapshot.openAccount account, dirty := true } state
  | reopened {answer : Except SessionFailure Reply} (event : eventOf answer = .changed .openAccount) :
      Effect session device state line answer (session.push .openAccount) state
  | saved {answer : Except SessionFailure Reply} {place : Device σ} {text : Text} {written : σ}
      (event : eventOf answer = .saved) (at_hand : device = some place)
      (formatted : session.snapshot.format session.amountColumn = .ok text)
      (taken : place.write state text = (.ok (), written))
      (asked : Command.ofText line = .ok .save) :
      Effect session device state line answer { session.push .save with dirty := false } written
  | refused {answer : Except SessionFailure Reply} {attempted : σ} (event : eventOf answer = .refused)
      (failed : session.WriterFails device state line) :
      Effect session device state line answer
        { session.push .save with
          history := (dropFirst? HistoryEntry.same (session.entryFor .save)
            (session.push .save).history).getD (session.push .save).history } attempted
  | deleted {answer : Except SessionFailure Reply} {label : Text} {booking : Booking}
      {snapshot : Snapshot} {selection : Selection} (event : eventOf answer = .changed .delete)
      (removed : session.snapshot.remove label = .ok (booking, snapshot)) :
      Effect session device state line answer
        { session.push .delete with snapshot, selection, dirty := true } state
  | undone {answer : Except SessionFailure Reply} (event : eventOf answer = .undone)
      (asked : Command.ofText line = .ok .undo) :
      Effect session device state line answer session.undo.2 state

/-! ## The effects of the commands -/

theorem eventOf_ofOutcome {α : Type} (result : Daybook.Outcome α) (reply : α → Reply)
    (other : ∀ value, eventOf (.ok (reply value)) = .quiet) :
    eventOf ((ofOutcome result).map reply) = .quiet := by
  cases result with
  | ok value => exact other value
  | error failure => rfl

theorem eventOf_split (session : Session) (request : SplitRequest) :
    eventOf (session.split request) = .quiet := by
  unfold split
  cases calculate session.snapshot.registry request with
  | error failure => cases failure <;> rfl
  | ok calculated =>
      change eventOf ((ofOutcome (calculated.1.toLines calculated.2 session.amountColumn)).map _) = _
      exact eventOf_ofOutcome _ _ fun _ => rfl

theorem dropFirst?_sublist {α : Type} {related : α → α → Bool} {wanted : α} {entries rest : List α}
    (found : dropFirst? related wanted entries = some rest) : rest.Sublist entries := by
  induction entries generalizing rest with
  | nil => cases found
  | cons entry others ih =>
      rw [dropFirst?] at found
      split at found
      · rw [← Option.some.inj found]
        exact List.sublist_cons_self entry others
      · rcases Option.map_eq_some_iff.mp found with ⟨kept, later, rfl⟩
        exact (ih later).cons_cons entry

variable {session : Session} {device : Option (Device σ)} {state : σ} {line : Text}

theorem effect_register (matcher : Option Text) :
    Effect session device state line (session.register matcher).1 (session.register matcher).2
      state := by
  unfold register
  split
  · exact .quiet rfl
  · exact .quiet (eventOf_ofOutcome _ _ fun _ => rfl)

theorem effect_showDate (date : Date) :
    Effect session device state line (session.showDate date).1 (session.showDate date).2 state :=
  .quiet (eventOf_ofOutcome _ _ fun _ => rfl)

theorem effect_date (argument : Option (Text × Reference)) :
    Effect session device state line (session.date argument).1 (session.date argument).2 state := by
  unfold date
  split
  · exact effect_showDate _
  · split
    · exact effect_showDate _
    · exact .quiet rfl

theorem effect_openAccount (account : Account) :
    Effect session device state line (session.openAccount account).1 (session.openAccount account).2
      state := by
  unfold openAccount
  dsimp only
  split
  · exact .reopened rfl
  · exact .opened rfl

theorem effect_save (asked : Command.ofText line = .ok .save) :
    Effect session device state line (session.save device state).1.1 (session.save device state).1.2
      (session.save device state).2 := by
  unfold save
  cases device with
  | none => exact .quiet rfl
  | some place =>
      dsimp only
      cases formatted : session.snapshot.format session.amountColumn with
      | error failure => exact .quiet rfl
      | ok text =>
          dsimp only
          split
          · rename_i written taken
            exact .saved rfl rfl formatted taken asked
          · rename_i fault attempted taken
            have failed : session.WriterFails (some place) state line :=
              ⟨asked, place, text, fault, rfl, formatted, congrArg Prod.fst taken⟩
            have effect := fun answer event => @Effect.refused σ session (some place) state line answer
              attempted event failed
            cases found : dropFirst? HistoryEntry.same (session.entryFor .save)
                (session.push .save).history with
            | some history =>
                rw [found] at effect
                exact effect _ rfl
            | none =>
                rw [found] at effect
                exact effect _ rfl

/-- A deletion that gets as far as pushing its entry goes through. -/
theorem effect_delete (sound : session.snapshot.Sound) :
    Effect session device state line session.delete.1 session.delete.2 state := by
  unfold delete
  split
  · exact .quiet rfl
  · rename_i label chosen
    split
    · exact .quiet rfl
    · rename_i date booking found
      rcases sound.indexed.exists_remove sound.bounded found with ⟨after, removed, -⟩
      dsimp only
      rw [removed]
      exact .deleted rfl removed

theorem eventOf_undo (session : Session) : eventOf (.ok session.undo.1) = .undone := by
  unfold undo
  split <;> rfl

theorem effect_run (sound : session.snapshot.Sound) {command : Command}
    (asked : Command.ofText line = .ok command) :
    Effect session device state line (session.run device state command).1.1
      (session.run device state command).1.2 (session.run device state command).2 := by
  cases command with
  | split request => exact .quiet (eventOf_split session request)
  | register matcher => exact effect_register matcher
  | date argument => exact effect_date argument
  | accounts => exact .quiet (eventOf_ofOutcome _ _ fun _ => rfl)
  | openAccount account => exact effect_openAccount account
  | save => exact effect_save asked
  | delete => exact effect_delete sound
  | undo => exact .undone (eventOf_undo session) asked
  | inspect => exact .quiet rfl

/-- Every command line has one of the effects. -/
theorem effect_execute (sound : session.snapshot.Sound) :
    Effect session device state line (session.execute device state line).1.1
      (session.execute device state line).1.2 (session.execute device state line).2 := by
  unfold execute
  split
  · rename_i command asked
    exact effect_run sound asked
  · exact .quiet rfl

/-! ## Soundness along a run -/

theorem mem_keepLast {α : Type} {limit : Nat} {entries : List α} {entry : α}
    (member : entry ∈ keepLast limit entries) : entry ∈ entries :=
  List.mem_of_mem_drop member

theorem length_keepLast {α : Type} (limit : Nat) (entries : List α) :
    (keepLast limit entries).length = min limit entries.length := by
  rw [keepLast, List.length_drop]
  omega

theorem mem_history_push {command : CommandName} {entry : HistoryEntry}
    (member : entry ∈ (session.push command).history) :
    entry ∈ session.history ∨ entry = session.entryFor command := by
  rcases List.mem_append.mp (mem_keepLast member) with known | new
  · exact Or.inl known
  · exact Or.inr (List.mem_singleton.mp new)

theorem length_history_push (session : Session) (command : CommandName) :
    (session.push command).history.length ≤ session.historyLimit := by
  rw [push, length_keepLast]
  exact Nat.min_le_left _ _

/-- What is left of a history after a save was refused. -/
theorem refused_sublist (session : Session) :
    ((dropFirst? HistoryEntry.same (session.entryFor .save) (session.push .save).history).getD
      (session.push .save).history).Sublist (session.push .save).history := by
  cases found : dropFirst? HistoryEntry.same (session.entryFor .save) (session.push .save).history with
  | none => exact List.Sublist.refl _
  | some history => exact dropFirst?_sublist found

/-- Whether a property holds of the ledger of a session and of those in its history. -/
structure Throughout (property : Snapshot → Prop) (session : Session) : Prop where
  now : property session.snapshot
  before : ∀ entry ∈ session.history, property entry.snapshot

theorem Throughout.push {property : Snapshot → Prop} (holds : session.Throughout property)
    (command : CommandName) : (session.push command).Throughout property where
  now := holds.now
  before := by
    intro entry member
    rcases mem_history_push member with known | rfl
    · exact holds.before entry known
    · exact holds.now

/-- What opening an account and removing a booking keep, every line keeps. -/
theorem Throughout.effect {property : Snapshot → Prop} (holds : session.Throughout property)
    (opening : ∀ snapshot account, property snapshot → property (snapshot.openAccount account))
    (removing : ∀ snapshot label booking after, property snapshot →
      snapshot.remove label = .ok (booking, after) → property after)
    {answer : Except SessionFailure Reply} {after : Session} {state' : σ}
    (effect : Effect session device state line answer after state') : after.Throughout property := by
  cases effect with
  | quiet => exact ⟨holds.now, holds.before⟩
  | opened => exact ⟨opening _ _ holds.now, (holds.push .openAccount).before⟩
  | reopened => exact holds.push .openAccount
  | saved => exact ⟨holds.now, (holds.push .save).before⟩
  | refused =>
      exact ⟨holds.now, fun entry member =>
        (holds.push .save).before entry ((refused_sublist session).subset member)⟩
  | deleted _ removed => exact ⟨removing _ _ _ _ holds.now removed, (holds.push .delete).before⟩
  | undone =>
      unfold undo
      split
      · exact holds
      · rename_i entry last
        exact ⟨holds.before entry (List.mem_of_getLast? last),
          fun other member => holds.before other (List.mem_of_mem_dropLast member)⟩

/-- What lies behind an answer that tells of a save: only writing the ledger gives one. -/
theorem Effect.exists_of_saved {answer : Except SessionFailure Reply} {after : Session} {state' : σ}
    (effect : Effect session device state line answer after state') (saved : eventOf answer = .saved) :
    ∃ place text, device = some place ∧ session.snapshot.format session.amountColumn = .ok text ∧
      place.write state text = (.ok (), state') ∧ Command.ofText line = .ok .save ∧
        after = { session.push .save with dirty := false } := by
  cases effect with
  | @saved place text written event at_hand formatted taken asked =>
      exact ⟨place, text, at_hand, formatted, taken, asked, rfl⟩
  | quiet event | opened event | reopened event | refused event | deleted event | undone event =>
      rw [event] at saved
      cases saved

theorem Effect.length_history_le {answer : Except SessionFailure Reply} {after : Session} {state' : σ}
    (effect : Effect session device state line answer after state')
    (short : session.history.length ≤ session.historyLimit) :
    after.history.length ≤ after.historyLimit := by
  cases effect with
  | quiet => exact short
  | opened | reopened | saved | deleted => exact length_history_push session _
  | refused => exact (refused_sublist session).length_le.trans (length_history_push session _)
  | undone =>
      unfold undo
      split
      · exact short
      · exact (List.length_dropLast ▸ Nat.sub_le _ _).trans short

theorem Sound.effect (sound : session.Sound) {answer : Except SessionFailure Reply} {after : Session}
    {state' : σ} (effect : Effect session device state line answer after state') : after.Sound := by
  have everywhere : session.Throughout Snapshot.Sound := ⟨sound.now, sound.before⟩
  have after_all : after.Throughout Snapshot.Sound := by
    apply everywhere.effect _ _ effect
    · exact fun snapshot account sound =>
        ⟨sound.indexed.openAccount account, sound.bounded.openAccount account⟩
    · intro snapshot label booking after sound removed
      rcases Snapshot.remove_eq_ok removed with ⟨date, found, -⟩
      rcases sound.indexed.exists_remove sound.bounded found with ⟨again, same, bounded⟩
      rw [removed] at same
      rcases Prod.mk.inj (Except.ok.inj same) with ⟨-, rfl⟩
      exact ⟨sound.indexed.remove removed, bounded⟩
  exact ⟨after_all.now, after_all.before, effect.length_history_le sound.short⟩

/-! ## Runs -/

/-- The session and the state of the device after a command line. -/
def advance (device : Option (Device σ)) (run : Session × σ) (line : Text) : Session × σ :=
  ((run.1.execute device run.2 line).1.2, (run.1.execute device run.2 line).2)

def answer (device : Option (Device σ)) (run : Session × σ) (line : Text) :
    Except SessionFailure Reply :=
  (run.1.execute device run.2 line).1.1

def executeAll (device : Option (Device σ)) : Session × σ → List Text → Session × σ
  | run, [] => run
  | run, line :: rest => executeAll device (advance device run line) rest

/-- The sessions that command lines lead to, with the states of the device. -/
inductive Reached (device : Option (Device σ)) (start : Session × σ) : Session × σ → Prop
  | start : Reached device start start
  | step {run : Session × σ} (reached : Reached device start run) (line : Text) :
      Reached device start (advance device run line)

theorem executeAll_append (device : Option (Device σ)) (run : Session × σ) (before after : List Text) :
    executeAll device run (before ++ after) = executeAll device (executeAll device run before) after := by
  induction before generalizing run with
  | nil => rfl
  | cons line rest ih => exact ih _

theorem Reached.executeAll {device : Option (Device σ)} {start reached : Session × σ}
    (run : Reached device start reached) (lines : List Text) :
    Reached device start (executeAll device reached lines) := by
  induction lines generalizing reached with
  | nil => exact run
  | cons line rest ih => exact ih (run.step line)

/-- Every command line of a sound session has one of the effects. -/
theorem effect_advance {run : Session × σ} (sound : run.1.Sound) (line : Text) :
    Effect run.1 device run.2 line (answer device run line) (advance device run line).1
      (advance device run line).2 :=
  effect_execute sound.now

theorem start_eq_ok {snapshot : Snapshot} {today : Date} {historyLimit amountColumn : Int}
    {session : Session} (started : start snapshot today historyLimit amountColumn = .ok session) :
    session =
      { snapshot
        today
        currentDate := today
        historyLimit := historyLimit.toNat
        amountColumn
        issued := snapshot.entries.length } := by
  unfold start at started
  split at started
  · cases started
  · split at started
    · cases started
    · exact (Except.ok.inj started).symm

theorem sound_start {snapshot : Snapshot} (sound : snapshot.Sound) {today : Date}
    {historyLimit amountColumn : Int} {session : Session}
    (started : start snapshot today historyLimit amountColumn = .ok session) : session.Sound := by
  rw [start_eq_ok started]
  exact ⟨sound, by simp, Nat.zero_le _⟩

/-- At the beginning the only ledger is the one that the session was started on. -/
theorem throughout_start {property : Snapshot → Prop} {snapshot : Snapshot} (holds : property snapshot)
    {today : Date} {historyLimit amountColumn : Int} {session : Session}
    (started : start snapshot today historyLimit amountColumn = .ok session) :
    session.Throughout property := by
  rw [start_eq_ok started]
  exact ⟨holds, fun _ member => by cases member⟩

theorem Reached.sound {start reached : Session × σ} (run : Reached device start reached)
    (sound : start.1.Sound) : reached.1.Sound := by
  induction run with
  | start => exact sound
  | step _ line ih => exact ih.effect (effect_advance ih line)

/-- What opening an account and removing a booking keep holds of all ledgers that a run
meets. -/
theorem Reached.throughout {property : Snapshot → Prop} {start reached : Session × σ}
    (run : Reached device start reached) (sound : start.1.Sound)
    (holds : start.1.Throughout property)
    (opening : ∀ snapshot account, property snapshot → property (snapshot.openAccount account))
    (removing : ∀ snapshot label booking after, property snapshot →
      snapshot.remove label = .ok (booking, after) → property after) :
    reached.1.Throughout property := by
  induction run with
  | start => exact holds
  | step run line ih => exact ih.effect opening removing (effect_advance (run.sound sound) line)

end Session
end Daybook
