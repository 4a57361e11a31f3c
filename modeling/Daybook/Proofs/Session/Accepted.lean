import Daybook.Proofs.Session.Effect

namespace Daybook

/-!
# The texts that a device takes

What a save has written is told by the device and not by the session, whose flag and history
could say anything.  A device can be made to keep a log of the texts that it takes.  The log
changes nothing about a run, so that the texts of a run are those in the log at its end, and a
line adds to them exactly what the device takes while the line is carried out.
-/

variable {σ : Type}

/-- A device that keeps the texts that it takes beside its state, the last one at the end. -/
def Device.logged (device : Device σ) : Device (σ × List Text) where
  target := device.target
  write state text :=
    match device.write state.1 text with
    | (.ok (), written) => (.ok (), (written, state.2 ++ [text]))
    | (.error fault, attempted) => (.error fault, (attempted, state.2))

namespace Session

/-- The texts that the device takes while a line is carried out. -/
def accepted (device : Option (Device σ)) (run : Session × σ) (line : Text) : List Text :=
  (advance (device.map Device.logged) (run.1, (run.2, [])) line).2.2

def acceptedAll (device : Option (Device σ)) : Session × σ → List Text → List Text
  | _, [] => []
  | run, line :: rest => accepted device run line ++ acceptedAll device (advance device run line) rest

variable {device : Option (Device σ)}

/-! ## One line -/

theorem save_logged (session : Session) (state : σ) (log : List Text) :
    session.save (device.map Device.logged) (state, log) =
      ((session.save device state).1, ((session.save device state).2,
        log ++ (session.save (device.map Device.logged) (state, [])).2.2)) := by
  cases device with
  | none => simp only [Option.map_none, save, List.append_nil]
  | some place =>
      rw [Option.map_some]
      unfold save
      dsimp only [Device.logged]
      cases session.snapshot.format session.amountColumn with
      | error failure => simp only [List.append_nil]
      | ok text =>
          dsimp only
          rcases place.write state text with ⟨⟨fault⟩ | ⟨⟨⟩⟩, after⟩
          · dsimp only
            split <;> simp only [List.append_nil]
          · rfl

/-- The log changes neither the answer nor the session nor the state of the device. -/
theorem execute_logged (session : Session) (state : σ) (log : List Text) (line : Text) :
    session.execute (device.map Device.logged) (state, log) line =
      ((session.execute device state line).1, ((session.execute device state line).2,
        log ++ accepted device (session, state) line)) := by
  unfold accepted advance execute
  dsimp only
  cases Command.ofText line with
  | error fault => rw [List.append_nil]
  | ok command =>
      cases command with
      | save => exact save_logged session state log
      | inspect =>
          have target : (device.map Device.logged).map (·.target) = device.map (·.target) := by
            cases device <;> rfl
          simp only [run, target, List.append_nil]
      | _ => simp only [run, List.append_nil]

/-- A line whose save goes through adds its text. -/
theorem accepted_of_taken {session : Session} {place : Device σ} {state written : σ} {text line : Text}
    (asked : Command.ofText line = .ok .save)
    (formatted : session.snapshot.format session.amountColumn = .ok text)
    (taken : place.write state text = (.ok (), written)) :
    accepted (some place) (session, state) line = [text] := by
  unfold accepted advance execute
  dsimp only
  rw [asked]
  dsimp only [run, Option.map_some]
  unfold save
  dsimp only [Device.logged]
  rw [formatted]
  dsimp only
  rw [taken]
  rfl

/-- Any other line adds nothing. -/
theorem accepted_eq_nil {session : Session} {state : σ} {line : Text}
    (other : eventOf (answer device (session, state) line) ≠ .saved) :
    accepted device (session, state) line = [] := by
  unfold answer execute at other
  unfold accepted advance execute
  cases asked : Command.ofText line with
  | error fault => rfl
  | ok command =>
      rw [asked] at other
      cases command with
      | save =>
          dsimp only [run] at other ⊢
          unfold save at other ⊢
          cases device with
          | none => rfl
          | some place =>
              dsimp only [Option.map_some, Device.logged] at other ⊢
              cases formatted : session.snapshot.format session.amountColumn with
              | error failure => rfl
              | ok text =>
                  rw [formatted] at other
                  dsimp only at other ⊢
                  rcases written : place.write state text with ⟨⟨fault⟩ | ⟨⟨⟩⟩, after⟩
                  · dsimp only
                    split <;> rfl
                  · rw [written] at other
                    exact absurd rfl other
      | _ => rfl

/-- A line adds the canonical text of the session if it is a save that goes through, and nothing
otherwise. -/
theorem accepted_cases {run : Session × σ} (sound : run.1.Sound) (line : Text) :
    (∃ text, run.1.snapshot.format run.1.amountColumn = .ok text ∧
        eventOf (answer device run line) = .saved ∧ accepted device run line = [text]) ∨
      eventOf (answer device run line) ≠ .saved ∧ accepted device run line = [] := by
  by_cases saved : eventOf (answer device run line) = .saved
  · rcases (effect_advance sound line).exists_of_saved saved with
      ⟨place, text, rfl, formatted, taken, asked, -⟩
    exact Or.inl ⟨text, formatted, saved, accepted_of_taken asked formatted taken⟩
  · exact Or.inr ⟨saved, accepted_eq_nil saved⟩

/-! ## Runs -/

theorem executeAll_logged (run : Session × σ) (log : List Text) (lines : List Text) :
    executeAll (device.map Device.logged) (run.1, (run.2, log)) lines =
      ((executeAll device run lines).1, ((executeAll device run lines).2,
        log ++ acceptedAll device run lines)) := by
  induction lines generalizing run log with
  | nil => simp only [executeAll, acceptedAll, List.append_nil]
  | cons line rest ih =>
      have first : advance (device.map Device.logged) (run.1, (run.2, log)) line =
          ((advance device run line).1, ((advance device run line).2, log ++ accepted device run line)) := by
        unfold advance
        rw [execute_logged]
      rw [executeAll, first, ih, executeAll, acceptedAll, List.append_assoc]

end Session
end Daybook
