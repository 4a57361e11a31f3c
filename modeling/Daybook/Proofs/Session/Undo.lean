import Daybook.Proofs.Ledger.Loaded
import Daybook.Proofs.Session.Effect

namespace Daybook
namespace Session

/-!
# Taking commands back

A run that takes nothing back and in which no writer fails pushes one entry for
every successful command that may change the ledger, and nothing else.  The first
of them holds the state that the run had right before.  As many commands to take
back as there are such entries therefore end in that state, and of the history
they leave what the entries have not pushed out.
-/

variable {σ : Type}

/-! ## The last entries of a history -/

theorem keepLast_of_length_le {α : Type} {limit : Nat} {entries : List α}
    (short : entries.length ≤ limit) : keepLast limit entries = entries := by
  rw [keepLast, Nat.sub_eq_zero_of_le short, List.drop_zero]

/-- Pushing out step by step and at once is the same. -/
theorem keepLast_keepLast_append {α : Type} (limit : Nat) (front back : List α) :
    keepLast limit (keepLast limit front ++ back) = keepLast limit (front ++ back) := by
  unfold keepLast
  rw [List.length_append, List.length_drop, List.drop_append, List.drop_append, List.drop_drop,
    List.length_drop, List.length_append]
  congr 2
  · omega
  · omega

/-- New entries that have room push out as many old ones. -/
theorem keepLast_append {α : Type} {limit : Nat} (front : List α) {back : List α}
    (room : back.length ≤ limit) :
    keepLast limit (front ++ back) = keepLast (limit - back.length) front ++ back := by
  unfold keepLast
  rw [List.length_append, List.drop_append_of_le_length (by omega)]
  congr 2
  omega

theorem keepLast_min {α : Type} (limit : Nat) (entries : List α) :
    keepLast (min entries.length limit) entries = keepLast limit entries := by
  unfold keepLast
  congr 1
  omega

/-! ## Runs that take nothing back -/

/-- How many lines are successful commands that may change the ledger. -/
def changes (device : Option (Device σ)) : Session × σ → List Text → Nat
  | _, [] => 0
  | run, line :: rest =>
    (if isChange (answer device run line) then 1 else 0) + changes device (advance device run line) rest

/-- The session right before the first successful command that may change the
ledger. -/
def beforeFirstChange? (device : Option (Device σ)) : Session × σ → List Text → Option Session
  | _, [] => none
  | run, line :: rest =>
    if isChange (answer device run line) then some run.1
    else beforeFirstChange? device (advance device run line) rest

/-- Whether no line takes a command back and no line is a save whose writer fails. -/
def Forward (device : Option (Device σ)) : Session × σ → List Text → Prop
  | _, [] => True
  | run, line :: rest =>
    Command.ofText line ≠ .ok .undo ∧ ¬ run.1.WriterFails device run.2 line ∧
      Forward device (advance device run line) rest

variable {session after : Session} {run : Session × σ} {device : Option (Device σ)} {state state' : σ}
  {line : Text}

/-- A line of such a run pushes one entry if it is a successful command that may
change the ledger, and otherwise moves the selection and the date only. -/
theorem Effect.forward {answer : Except SessionFailure Reply}
    (effect : Effect session device state line answer after state')
    (onward : Command.ofText line ≠ .ok .undo) (written : ¬ session.WriterFails device state line) :
    (isChange answer = false ∧ ∃ selection currentDate,
        after = { session with selection, currentDate }) ∨
      (isChange answer = true ∧ ∃ command snapshot dirty selection,
        after = { session.push command with snapshot, dirty, selection }) := by
  cases effect with
  | quiet event => exact Or.inl ⟨by rw [isChange, event], _, _, rfl⟩
  | opened event => exact Or.inr ⟨by rw [isChange, event], _, _, _, _, rfl⟩
  | reopened event => exact Or.inr ⟨by rw [isChange, event], _, _, _, _, rfl⟩
  | saved event => exact Or.inr ⟨by rw [isChange, event], _, _, _, _, rfl⟩
  | refused _ failed => exact absurd failed written
  | deleted event => exact Or.inr ⟨by rw [isChange, event], _, _, _, _, rfl⟩
  | undone _ asked => exact absurd asked onward

/-- A run that takes nothing back pushes an entry for every change. -/
theorem executeAll_forward {lines : List Text} (sound : run.1.Sound)
    (forward : Forward device run lines) :
    ∃ entries snapshot dirty selection currentDate,
      entries.length = changes device run lines ∧
      (executeAll device run lines).1 =
        { run.1 with
          snapshot, dirty, selection, currentDate
          history := keepLast run.1.historyLimit (run.1.history ++ entries) } := by
  induction lines generalizing run with
  | nil =>
      refine ⟨[], run.1.snapshot, run.1.dirty, run.1.selection, run.1.currentDate, rfl, ?_⟩
      rw [List.append_nil, keepLast_of_length_le sound.short]
      rfl
  | cons line rest ih =>
      rcases forward with ⟨onward, written, forward⟩
      have effect := @effect_advance σ device run sound line
      obtain ⟨entries, snapshot, dirty, selection, currentDate, count, final⟩ :=
        ih (sound.effect effect) forward
      rw [executeAll, changes]
      rcases effect.forward onward written with
        ⟨unchanging, selected, date, equal⟩ | ⟨changing, command, known, unsaved, selected, equal⟩
      · refine ⟨entries, snapshot, dirty, selection, currentDate, ?_, ?_⟩
        · rw [count, unchanging]
          simp
        · rw [final, equal]
      · refine ⟨run.1.entryFor command :: entries, snapshot, dirty, selection, currentDate, ?_, ?_⟩
        · rw [List.length_cons, count, changing, if_pos rfl, Nat.add_comm]
        · rw [final, equal, push, keepLast_keepLast_append, List.append_assoc, List.singleton_append]

/-- The first entry pushed holds the state right before the first change. -/
theorem executeAll_changed {lines : List Text} (sound : run.1.Sound)
    (forward : Forward device run lines) (changed : 1 ≤ changes device run lines) :
    ∃ point command entries snapshot dirty selection currentDate,
      beforeFirstChange? device run lines = some point ∧
      point.historyLimit = run.1.historyLimit ∧
      entries.length + 1 = changes device run lines ∧
      (executeAll device run lines).1 =
        { point with
          snapshot, dirty, selection, currentDate
          history := keepLast point.historyLimit
            (point.history ++ point.entryFor command :: entries) } := by
  induction lines generalizing run with
  | nil => cases changed
  | cons line rest ih =>
      rcases forward with ⟨onward, written, forward⟩
      have effect := @effect_advance σ device run sound line
      have later := sound.effect effect
      rw [changes] at changed ⊢
      rw [beforeFirstChange?, executeAll]
      rcases effect.forward onward written with
        ⟨unchanging, selected, date, equal⟩ | ⟨changing, command, known, unsaved, selected, equal⟩
      · rw [unchanging] at changed ⊢
        obtain ⟨point, command, entries, snapshot, dirty, selection, currentDate, found, limit,
          count, final⟩ := ih later forward (by simpa using changed)
        refine ⟨point, command, entries, snapshot, dirty, selection, currentDate, found, ?_, ?_, final⟩
        · rw [limit, equal]
        · simpa using count
      · obtain ⟨entries, snapshot, dirty, selection, currentDate, count, final⟩ :=
          executeAll_forward later forward
        refine ⟨run.1, command, entries, snapshot, dirty, selection, currentDate, ?_, rfl, ?_, ?_⟩
        · rw [changing, if_pos rfl]
        · rw [count, changing, if_pos rfl, Nat.add_comm]
        · rw [final, equal, push, keepLast_keepLast_append, List.append_assoc, List.singleton_append]

/-! ## Taking back -/

theorem advance_undo (asked : Command.ofText line = .ok .undo) :
    advance device run line = (run.1.undo.2, run.2) := by
  rw [advance, execute, asked]
  rfl

/-- Taking a command back restores the state of the entry that it leaves last. -/
theorem undo_of_history {front : List HistoryEntry} {entry : HistoryEntry}
    (history : session.history = front ++ [entry]) :
    session.undo.2 =
      { session with
        snapshot := entry.snapshot, dirty := entry.dirty, selection := entry.selection
        currentDate := entry.currentDate, history := front } := by
  unfold undo
  rw [history, List.getLast?_concat, List.dropLast_concat]

/-- Taking back as many commands as there are last entries restores the state of
the first of them. -/
theorem executeAll_undos {undos : List Text} {front entries : List HistoryEntry}
    {entry : HistoryEntry} (asked : ∀ line ∈ undos, Command.ofText line = .ok .undo)
    (history : run.1.history = front ++ entry :: entries)
    (as_many : undos.length = entries.length + 1) :
    executeAll device run undos =
      ({ run.1 with
        snapshot := entry.snapshot, dirty := entry.dirty, selection := entry.selection
        currentDate := entry.currentDate, history := front }, run.2) := by
  induction entries using List.reverseRecOn generalizing run undos with
  | nil =>
      rcases List.length_eq_one_iff.mp as_many with ⟨line, rfl⟩
      rw [executeAll, advance_undo (asked line List.mem_cons_self), undo_of_history history]
      rfl
  | append_singleton others last ih =>
      cases undos with
      | nil => cases as_many
      | cons line rest =>
          rw [← List.cons_append, ← List.append_assoc] at history
          rw [executeAll, advance_undo (asked line List.mem_cons_self), undo_of_history history]
          rw [List.length_append, List.length_singleton, List.length_cons] at as_many
          exact ih (fun other member => asked other (List.mem_cons_of_mem _ member)) rfl
            (Nat.succ.inj as_many)

theorem Effect.historyLimit_eq {answer : Except SessionFailure Reply}
    (effect : Effect session device state line answer after state') :
    after.historyLimit = session.historyLimit := by
  cases effect with
  | undone =>
      unfold undo
      split <;> rfl
  | _ => rfl

theorem Reached.historyLimit_eq {start reached : Session × σ} (run : Reached device start reached)
    (sound : start.1.Sound) : reached.1.historyLimit = start.1.historyLimit := by
  induction run with
  | start => rfl
  | step reached line ih => exact (effect_advance (reached.sound sound) line).historyLimit_eq.trans ih

theorem historyLimit_of_start {snapshot : Snapshot} {today : Calendar.Date}
    {historyLimit amountColumn : Int} {session : Session}
    (started : start snapshot today historyLimit amountColumn = .ok session) :
    session.historyLimit = historyLimit.toNat := by
  rw [start_eq_ok started]

/-- Undoing is exact.  On a session over a loaded ledger, in any state that
command lines lead to, let any lines follow none of which takes a command back and
none of which is a save whose writer fails.  If `m` of them are successful
commands to open, save or delete, at least one and no more than the history may
have entries, then taking back `m` commands gives the session that held right
before the first of them, with the last entries of its history, as many as there
was room for beside the `m`. -/
theorem undo_restores {text : Text} {today : Option Calendar.Date} {strict : Bool}
    {snapshot : Snapshot} {day : Calendar.Date} {limit column : Int} {initial : Session}
    {start : σ} {lines undos : List Text}
    (loaded : Snapshot.load text today strict = .ok snapshot)
    (started : Session.start snapshot day limit column = .ok initial)
    (reached : Reached device (initial, start) run)
    (forward : Forward device run lines)
    (changed : 1 ≤ changes device run lines)
    (room : (changes device run lines : Int) ≤ limit)
    (asked : ∀ line ∈ undos, Command.ofText line = .ok .undo)
    (as_many : undos.length = changes device run lines) :
    ∃ point, beforeFirstChange? device run lines = some point ∧
      (executeAll device (executeAll device run lines) undos).1 =
        { point with
          history := keepLast
            (min point.history.length (limit.toNat - changes device run lines)) point.history } := by
  have first : initial.Sound := sound_start (Snapshot.sound_of_load loaded) started
  have bound : run.1.historyLimit = limit.toNat :=
    (reached.historyLimit_eq first).trans (historyLimit_of_start started)
  obtain ⟨point, command, entries, snapshot, dirty, selection, currentDate, found, same, count,
    final⟩ := executeAll_changed (reached.sound first) forward changed
  have fits : (point.entryFor command :: entries).length ≤ point.historyLimit := by
    rw [List.length_cons, count, same, bound]
    omega
  refine ⟨point, found, ?_⟩
  rw [executeAll_undos asked (by rw [final, keepLast_append _ fits]) (as_many.trans count.symm), final,
    keepLast_min, List.length_cons, count, same, bound]
  rfl

/-! ## A short session -/

/-- A ledger with one booking. -/
def oneBooking : Text := "2024-01-05\nx\n    a  $1\n    b\n".toList

/-- A session over it, with room for two entries. -/
def small : Session where
  snapshot := Snapshot.loadedFrom oneBooking false
  today := ⟨2024, 1, 5, by decide⟩
  currentDate := ⟨2024, 1, 5, by decide⟩
  historyLimit := 2
  amountColumn := 72
  issued := 1

/-- A device that takes every text and keeps the last. -/
def keeping : Device (Option Text) := Device.answering [] (.ok ())

theorem load_oneBooking : Snapshot.load oneBooking none false = .ok (Snapshot.loadedFrom oneBooking false) := by
  decide +kernel

theorem start_small :
    start (Snapshot.loadedFrom oneBooking false) ⟨2024, 1, 5, by decide⟩ 2 72 = .ok small := by
  decide +kernel

theorem not_writerFails_keeping {state : Option Text} : ¬ session.WriterFails (some keeping) state line := by
  rintro ⟨-, place, text, fault, same, -, failed⟩
  rcases Option.some.inj same with rfl
  cases failed

/-- Lines that select the booking, delete it and save. -/
def deletion : List Text := ["reg".toList, "del".toList, "save".toList]

theorem changes_deletion : changes (some keeping) (small, none) deletion = 2 := by decide +kernel

theorem undo_restores_deletion :
    changes (some keeping) (small, none) deletion = 2 ∧
      ∃ point, beforeFirstChange? (some keeping) (small, none) deletion = some point ∧
        (executeAll (some keeping) (executeAll (some keeping) (small, none) deletion)
          ["undo".toList, "undo".toList]).1 =
          { point with
            history := keepLast
              (min point.history.length (2 - changes (some keeping) (small, none) deletion))
              point.history } := by
  have forward : Forward (some keeping) (small, none) deletion :=
    ⟨by decide +kernel, not_writerFails_keeping, by decide +kernel, not_writerFails_keeping,
      by decide +kernel, not_writerFails_keeping, trivial⟩
  refine ⟨changes_deletion, undo_restores load_oneBooking start_small Reached.start forward ?_ ?_ ?_ ?_⟩
  · rw [changes_deletion]
    decide
  · rw [changes_deletion]
    decide
  · decide +kernel
  · rw [changes_deletion]
    rfl

end Session
end Daybook
