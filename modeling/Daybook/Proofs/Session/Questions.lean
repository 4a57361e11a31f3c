import Daybook.Proofs.Session.Failure

namespace Daybook

/-!
# What questions leave alone

Five commands only ask: a split is calculated, postings, the postings of a date and accounts are
listed, and the state of the session is shown.  Whatever comes of it, the ledger with its registry,
the mark for unsaved changes, the history and the device stay as they are.  The calculator is the
delicate one: it may come across a currency that the ledger does not know, and it binds it in a
registry of its own, from which it resolves and prints the booking.

What may move is what commands refer to: a listing selects bookings, and the listing of a date
makes it the current one.  That already happens when its rows cannot be shown.
-/

/-- Whether a command only asks. -/
def Command.isQuestion : Command → Bool
  | .split _ | .register _ | .date _ | .accounts | .inspect => true
  | .openAccount _ | .save | .delete | .undo => false

/-- Whether a question selects what it lists. -/
def Command.selects : Command → Bool
  | .register _ | .date _ => true
  | .split _ | .accounts | .openAccount _ | .save | .delete | .undo | .inspect => false

/-- Whether a question can be about another date than the current one. -/
def Command.changesDate : Command → Bool
  | .date _ => true
  | .split _ | .register _ | .accounts | .openAccount _ | .save | .delete | .undo | .inspect => false

namespace Session

variable {σ : Type} {session : Session} {device : Option (Device σ)} {state : σ} {run : Session × σ}
  {line : Text} {command : Command}

/-- Whether a session differs from an earlier one in what commands refer to at most. -/
def Refers (session after : Session) : Prop :=
  after = { session with selection := after.selection, currentDate := after.currentDate }

theorem Refers.refl (session : Session) : session.Refers session := rfl

theorem Refers.trans {between after : Session} (first : session.Refers between)
    (second : between.Refers after) : session.Refers after := by
  rw [Refers] at first second
  rw [Refers, second, first]

/-- Whether a session is as a command may leave it that only asks. -/
structure Asked (session after : Session) (command : Command) : Prop where
  refers : session.Refers after
  selection : command.selects = false → after.selection = session.selection
  currentDate : command.changesDate = false → after.currentDate = session.currentDate

/-- What a command leaves behind that changes nothing. -/
theorem Asked.unchanged (session : Session) (command : Command) : session.Asked session command :=
  ⟨Refers.refl session, fun _ => rfl, fun _ => rfl⟩

theorem asked_register (session : Session) (matcher : Option Text) :
    session.Asked (session.register matcher).2 (.register matcher) := by
  unfold register
  cases session.snapshot.register matcher none with
  | error failure => exact Asked.unchanged session _
  | ok rows => exact ⟨rfl, fun selects => (by cases selects), fun _ => rfl⟩

theorem asked_date (session : Session) (argument : Option (Text × Calendar.Reference)) :
    session.Asked (session.date argument).2 (.date argument) := by
  rw [date_session]
  cases session.dateOf? argument with
  | none => exact Asked.unchanged session _
  | some date => exact ⟨rfl, fun selects => (by cases selects), fun moves => by cases moves⟩

theorem asked_run (question : command.isQuestion = true) (session : Session) (device : Option (Device σ))
    (state : σ) :
    session.Asked (session.run device state command).1.2 command ∧
      (session.run device state command).2 = state := by
  cases command with
  | split request => exact ⟨Asked.unchanged session _, rfl⟩
  | register matcher => exact ⟨asked_register session matcher, rfl⟩
  | date argument => exact ⟨asked_date session argument, rfl⟩
  | accounts => exact ⟨Asked.unchanged session _, rfl⟩
  | inspect => exact ⟨Asked.unchanged session _, rfl⟩
  | openAccount | save | delete | undo => cases question

theorem asked_advance (read : Command.ofText line = .ok command) (question : command.isQuestion = true)
    (device : Option (Device σ)) (run : Session × σ) :
    run.1.Asked (advance device run line).1 command ∧ (advance device run line).2 = run.2 := by
  have carried : run.1.execute device run.2 line = run.1.run device run.2 command := by
    rw [execute, read]
  rw [advance, carried]
  exact asked_run question run.1 device run.2

/-- Questions change nothing but what commands refer to, however many are asked. -/
theorem executeAll_questions {lines : List Text}
    (questions : ∀ line ∈ lines, ∃ command, Command.ofText line = .ok command ∧ command.isQuestion = true)
    (device : Option (Device σ)) (run : Session × σ) :
    run.1.Refers (executeAll device run lines).1 ∧ (executeAll device run lines).2 = run.2 := by
  induction lines generalizing run with
  | nil => exact ⟨Refers.refl run.1, rfl⟩
  | cons line rest ih =>
      rcases questions line List.mem_cons_self with ⟨command, read, question⟩
      rcases asked_advance read question device run with ⟨asked, kept⟩
      rcases ih (fun other member => questions other (List.mem_cons_of_mem line member))
        (advance device run line) with ⟨later, still⟩
      exact ⟨asked.refers.trans later, still.trans kept⟩

/-- A question changes nothing but what commands refer to: not the ledger or its registry, not the
mark for unsaved changes, not the history, and not what the device holds.  Only a listing selects,
and only that of a date changes the current one.  This holds in every session and whether the
question is answered or fails. -/
theorem question_reads_only (read : Command.ofText line = .ok command)
    (question : command.isQuestion = true) (device : Option (Device σ)) (run : Session × σ) :
    let after := advance device run line
    after = ({ run.1 with selection := after.1.selection, currentDate := after.1.currentDate }, run.2) ∧
      (command.selects = false → after.1.selection = run.1.selection) ∧
      (command.changesDate = false → after.1.currentDate = run.1.currentDate) := by
  rcases asked_advance read question device run with ⟨asked, kept⟩
  exact ⟨Prod.ext asked.refers kept, asked.selection, asked.currentDate⟩

/-! ## A split in an unknown currency -/

/-- A question for a split in a currency that the ledger does not use. -/
def euroSplit : SplitRequest where
  money := "10€".toList
  payer := ⟨['a']⟩
  expense := ⟨"expense".toList⟩
  description := []
  mode := .even
  contacts := [['b']]

/-- The calculator binds the currency, and the session is as it was. -/
theorem euro_split_reads_only :
    Command.ofText "split 10€ on a with @b".toList = .ok (.split euroSplit) ∧
      (calculate small.snapshot.registry euroSplit).map (·.2.has ['€']) = .ok true ∧
      small.snapshot.registry.has ['€'] = false ∧
      advance (some keeping) (small, none) "split 10€ on a with @b".toList = (small, none) := by
  have read : Command.ofText "split 10€ on a with @b".toList = .ok (.split euroSplit) := by
    decide +kernel
  rcases question_reads_only read rfl (some keeping) (small, none) with ⟨refers, selection, date⟩
  refine ⟨read, ?_, ?_, ?_⟩
  · decide +kernel
  · decide +kernel
  · rw [refers, selection rfl, date rfl]

end Session
end Daybook
