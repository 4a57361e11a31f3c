import Daybook.Proofs.Session.Accepted
import Daybook.Proofs.Session.Undo

namespace Daybook
namespace Session

/-!
# What a clean session shows

A session without unsaved changes shows a text that was written, but not always the text that was
written last: an entry of the history keeps the flag of its time, and taking back a save goes back
to what had been written before it.  To say which text it is, a record is kept beside the session.
It holds the texts that the device has taken and that stand, and for every entry of the history
those that stood when the entry was made; taking a command back goes back to these.  A clean
session, and every clean entry of its history, shows the last text that stands.

A text stands as long as no save is taken back.  For the save that was made last this can be seen
from the run: an older entry comes to the top of the history only after the entry of the save has
been taken from it.  A refused save could upset this, since it may take out an entry of an earlier
save that looks like its own; but then its own entry stays, and stays above.
-/

variable {σ : Type}

/-- The canonical text of the ledger of a session, as it would be saved. -/
def canonical (session : Session) : Outcome Text :=
  session.snapshot.format session.amountColumn

/-- What is shown when these texts stand: the last of them, or else what was shown at first. -/
def shownBy (first : Outcome Text) (standing : List Text) : Outcome Text :=
  standing.getLast?.elim first .ok

/-- A session with the texts that the device has taken and that stand, in order, and the entries
of its history with the texts that stood when they were made. -/
structure Record (σ : Type) where
  run : Session × σ
  standing : List Text
  marked : List (HistoryEntry × List Text)

namespace Record

def start (run : Session × σ) : Record σ := { run, standing := [], marked := [] }

/-- The marked entries after a command has pushed its own. -/
def pushed (record : Record σ) (command : CommandName) : List (HistoryEntry × List Text) :=
  keepLast record.run.1.historyLimit
    (record.marked ++ [(record.run.1.entryFor command, record.standing)])

/-- The marked entries after a save was refused. -/
def unpushed (record : Record σ) : List (HistoryEntry × List Text) :=
  (dropFirst? (fun left right => left.1.same right.1) (record.run.1.entryFor .save, record.standing)
    (record.pushed .save)).getD (record.pushed .save)

/-- Only taking a command back makes texts stand no longer. -/
def standingAfter (record : Record σ) : Event → List Text
  | .undone => (record.marked.getLast?.map (·.2)).getD record.standing
  | .quiet | .changed _ | .saved | .refused => record.standing

def markedAfter (record : Record σ) : Event → List (HistoryEntry × List Text)
  | .quiet => record.marked
  | .changed command => record.pushed command
  | .saved => record.pushed .save
  | .refused => record.unpushed
  | .undone => record.marked.dropLast

/-- The record after a command line, with the texts that the device has taken meanwhile. -/
def next (device : Option (Device σ)) (record : Record σ) (line : Text) : Record σ :=
  let event := eventOf (answer device record.run line)
  { run := advance device record.run line
    standing := record.standingAfter event ++ accepted device record.run line
    marked := record.markedAfter event }

def nextAll (device : Option (Device σ)) (record : Record σ) (lines : List Text) : Record σ :=
  lines.foldl (next device) record

/-- Whether the session and every entry of its history, if clean, show the last text that stands
or stood. -/
structure Sound (first : Outcome Text) (record : Record σ) : Prop where
  session : record.run.1.Sound
  history : record.run.1.history = record.marked.map (·.1)
  now : record.run.1.dirty = false → record.run.1.canonical = shownBy first record.standing
  before : ∀ entry ∈ record.marked, entry.1.dirty = false →
    entry.1.snapshot.format record.run.1.amountColumn = shownBy first entry.2

/-! ## Marked histories -/

theorem keepLast_map {α β : Type} (change : α → β) (limit : Nat) (entries : List α) :
    (keepLast limit entries).map change = keepLast limit (entries.map change) := by
  rw [keepLast, keepLast, List.map_drop, List.length_map]

theorem dropFirst?_map {α β : Type} (change : α → β) (related : β → β → Bool) (wanted : α)
    (entries : List α) :
    (dropFirst? (fun left right => related (change left) (change right)) wanted entries).map
        (·.map change) = dropFirst? related (change wanted) (entries.map change) := by
  induction entries with
  | nil => rfl
  | cons entry rest ih =>
      rw [dropFirst?, List.map_cons, dropFirst?, ← ih]
      split
      · rfl
      · cases dropFirst? (fun left right => related (change left) (change right)) wanted rest <;> rfl

variable {record : Record σ} {first : Outcome Text} {device : Option (Device σ)} {line : Text}

theorem map_pushed (history : record.run.1.history = record.marked.map (·.1)) (command : CommandName) :
    (record.pushed command).map (·.1) = (record.run.1.push command).history := by
  rw [pushed, keepLast_map, List.map_append, ← history]
  rfl

/-- The entry that a command pushes shows the text known to the session. -/
theorem Sound.before_pushed (sound : record.Sound first) (command : CommandName) :
    ∀ entry ∈ record.pushed command, entry.1.dirty = false →
      entry.1.snapshot.format record.run.1.amountColumn = shownBy first entry.2 := by
  intro entry member clean
  rcases List.mem_append.mp (mem_keepLast member) with known | new
  · exact sound.before entry known clean
  · rw [List.mem_singleton.mp new] at clean ⊢
    exact sound.now clean

/-- The entries that are left when a save is refused: its own entry is taken out again. -/
theorem map_unpushed (history : record.run.1.history = record.marked.map (·.1)) :
    record.unpushed.map (·.1) =
      (dropFirst? HistoryEntry.same (record.run.1.entryFor .save) (record.run.1.push .save).history).getD
        (record.run.1.push .save).history := by
  have dropped := dropFirst?_map Prod.fst HistoryEntry.same
    (record.run.1.entryFor .save, record.standing) (record.pushed .save)
  rw [map_pushed history] at dropped
  rw [← dropped, ← map_pushed history, unpushed]
  cases dropFirst? (fun left right : HistoryEntry × List Text => left.1.same right.1)
    (record.run.1.entryFor .save, record.standing) (record.pushed .save) <;> rfl

theorem mem_pushed_of_unpushed {entry : HistoryEntry × List Text} (member : entry ∈ record.unpushed) :
    entry ∈ record.pushed .save := by
  unfold unpushed at member
  cases found : dropFirst? (fun left right : HistoryEntry × List Text => left.1.same right.1)
      (record.run.1.entryFor .save, record.standing) (record.pushed .save) with
  | none => rwa [found] at member
  | some rest =>
      rw [found] at member
      exact (dropFirst?_sublist found).subset member

/-- A command that is taken back gives the texts that stood at its entry. -/
theorem Sound.undone (sound : record.Sound first) {state : σ} (later : record.run.1.undo.2.Sound) :
    Sound first
      { run := (record.run.1.undo.2, state)
        standing := record.standingAfter .undone
        marked := record.marked.dropLast } := by
  have history := sound.history
  unfold standingAfter
  rcases List.eq_nil_or_concat record.marked with empty | ⟨front, entry, marked⟩
  · have same : record.run.1.undo.2 = record.run.1 := by
      rw [empty] at history
      unfold undo
      rw [history]
      rfl
    rw [same] at later ⊢
    rw [empty]
    exact ⟨later, history.trans (congrArg _ empty), sound.now, by simp⟩
  · have before := sound.before
    rw [List.concat_eq_append] at marked
    rw [marked] at history before ⊢
    rw [List.map_append, List.map_singleton] at history
    rw [undo_of_history history] at later ⊢
    rw [List.getLast?_concat, List.dropLast_concat]
    refine ⟨later, rfl, before entry (by simp), ?_⟩
    intro other member
    exact before other (List.mem_append_left _ member)

/-! ## The record along a run -/

theorem Sound.next (sound : record.Sound first) (line : Text) : (record.next device line).Sound first := by
  have effect := @effect_advance σ device record.run sound.session line
  have later := sound.session.effect effect
  have taken := @accepted_cases σ device record.run sound.session line
  unfold Record.next
  generalize accepted device record.run line = fresh at taken ⊢
  generalize answer device record.run line = answer at effect taken ⊢
  generalize advance device record.run line = run at effect later ⊢
  rcases run with ⟨session, state⟩
  dsimp only at effect later ⊢
  rcases taken with ⟨text, formatted, saved, rfl⟩ | ⟨unsaved, rfl⟩
  · rcases effect.exists_of_saved saved with ⟨-, -, -, -, -, -, rfl⟩
    rw [saved]
    refine ⟨later, (map_pushed sound.history _).symm, fun _ => ?_, sound.before_pushed _⟩
    rw [shownBy, List.getLast?_concat]
    exact formatted
  · rw [List.append_nil]
    cases effect with
    | quiet event =>
        rw [event]
        exact ⟨later, sound.history, sound.now, sound.before⟩
    | opened event | deleted event =>
        rw [event]
        exact ⟨later, (map_pushed sound.history _).symm, fun clean => (by cases clean),
          sound.before_pushed _⟩
    | reopened event =>
        rw [event]
        exact ⟨later, (map_pushed sound.history _).symm, sound.now, sound.before_pushed _⟩
    | saved event => exact absurd event unsaved
    | refused event =>
        rw [event]
        exact ⟨later, (map_unpushed sound.history).symm, sound.now, fun entry member =>
          sound.before_pushed .save entry (mem_pushed_of_unpushed member)⟩
    | undone event =>
        rw [event]
        exact sound.undone later

theorem Sound.nextAll (sound : record.Sound first) (lines : List Text) :
    (record.nextAll device lines).Sound first := by
  induction lines generalizing record with
  | nil => exact sound
  | cons line rest ih => exact ih (sound.next line)

/-- The record goes along with the run. -/
theorem run_nextAll (record : Record σ) (lines : List Text) :
    (record.nextAll device lines).run = executeAll device record.run lines := by
  induction lines generalizing record with
  | nil => rfl
  | cons line rest ih => exact ih (record.next device line)

theorem sound_start {run : Session × σ} (sound : run.1.Sound) (fresh : run.1.history = []) :
    (Record.start run).Sound run.1.canonical where
  session := sound
  history := fresh
  now := fun _ => rfl
  before := by simp [Record.start]

/-! ## Texts that stand were taken -/

/-- Whether the texts that stand, and those that stood when the entries of the history were made,
are in a log. -/
structure LoggedIn (log : List Text) (record : Record σ) : Prop where
  now : record.standing.Sublist log
  before : ∀ entry ∈ record.marked, entry.2.Sublist log

theorem LoggedIn.next {log : List Text} (logged : record.LoggedIn log) (line : Text) :
    (record.next device line).LoggedIn (log ++ accepted device record.run line) := by
  have pushed (command : CommandName) : ∀ entry ∈ record.pushed command, entry.2.Sublist log := by
    intro entry member
    rcases List.mem_append.mp (mem_keepLast member) with known | new
    · exact logged.before entry known
    · exact List.mem_singleton.mp new ▸ logged.now
  constructor
  · refine List.Sublist.append ?_ (List.Sublist.refl _)
    cases eventOf (answer device record.run line) with
    | undone =>
        cases last : record.marked.getLast? with
        | none =>
            rw [standingAfter, last]
            exact logged.now
        | some entry =>
            rw [standingAfter, last]
            exact logged.before entry (List.mem_of_getLast? last)
    | quiet | changed | saved | refused => exact logged.now
  · suffices known : ∀ entry ∈ (record.next device line).marked, entry.2.Sublist log from
      fun entry member => (known entry member).trans (List.sublist_append_left _ _)
    dsimp only [Record.next]
    cases eventOf (answer device record.run line) with
    | quiet => exact logged.before
    | changed command => exact pushed command
    | saved => exact pushed .save
    | refused => exact fun entry member => pushed .save entry (mem_pushed_of_unpushed member)
    | undone => exact fun entry member => logged.before entry (List.mem_of_mem_dropLast member)

theorem LoggedIn.nextAll {log : List Text} (logged : record.LoggedIn log) (lines : List Text) :
    (record.nextAll device lines).LoggedIn (log ++ acceptedAll device record.run lines) := by
  induction lines generalizing record log with
  | nil =>
      rw [acceptedAll, List.append_nil]
      exact logged
  | cons line rest ih =>
      rw [acceptedAll, ← List.append_assoc]
      exact ih (logged.next line)

theorem loggedIn_start (run : Session × σ) : (Record.start run).LoggedIn [] :=
  ⟨List.Sublist.refl _, by simp [Record.start]⟩

end Record

/-! ## The save that was made last -/

/-- Whether a line takes back a save. -/
def TakesBackSave (session : Session) (line : Text) : Prop :=
  Command.ofText line = .ok .undo ∧
    ∃ entry, session.history.getLast? = some entry ∧ entry.command = .save

/-- Whether lines neither save nor take back a save. -/
def KeepsSave (device : Option (Device σ)) : Session × σ → List Text → Prop
  | _, [] => True
  | run, line :: rest =>
    accepted device run line = [] ∧ ¬ run.1.TakesBackSave line ∧
      KeepsSave device (advance device run line) rest

namespace Record

variable {record : Record σ} {first : Outcome Text} {device : Option (Device σ)} {line : Text}
  {standing : List Text} {marked : List (HistoryEntry × List Text)}

/-- Whether the entries above the last one of a save stem from the time when these texts stood. -/
def Guarded (standing : List Text) (marked : List (HistoryEntry × List Text)) : Prop :=
  ∀ entry back, entry :: back <:+ marked → (∀ other ∈ entry :: back, other.1.command ≠ .save) →
    entry.2 = standing

theorem Guarded.suffix (guarded : Guarded standing marked) {back : List (HistoryEntry × List Text)}
    (ends : back <:+ marked) : Guarded standing back :=
  fun entry later inside => guarded entry later (inside.trans ends)

theorem Guarded.concat (guarded : Guarded standing marked) (entry : HistoryEntry) :
    Guarded standing (marked ++ [(entry, standing)]) := by
  intro other back ends no_save
  rcases List.suffix_concat_iff.mp ends with none_left | ⟨front, shape, inside⟩
  · cases none_left
  · cases front with
    | nil =>
        obtain rfl := (List.cons.inj shape).1
        rfl
    | cons earlier rest =>
        rcases List.cons.inj shape with ⟨rfl, rfl⟩
        exact guarded other rest inside fun entry among => no_save entry (List.mem_append_left _ among)

/-- Taking away an entry that is not the one of a save. -/
theorem Guarded.of_concat {entry : HistoryEntry × List Text} (guarded : Guarded standing (marked ++ [entry]))
    (no_save : entry.1.command ≠ .save) : entry.2 = standing ∧ Guarded standing marked := by
  refine ⟨guarded entry [] (List.suffix_append _ _) fun other among => List.mem_singleton.mp among ▸ no_save,
    fun other back ends none_saves => ?_⟩
  have longer : other :: (back ++ [entry]) <:+ marked ++ [entry] :=
    List.suffix_concat_iff.mpr (Or.inr ⟨other :: back, rfl, ends⟩)
  refine guarded other (back ++ [entry]) longer fun another among => ?_
  rw [← List.cons_append] at among
  rcases List.mem_append.mp among with before | last
  · exact none_saves another before
  · exact List.mem_singleton.mp last ▸ no_save

theorem guarded_of_save {entry : HistoryEntry × List Text} (save : entry.1.command = .save) :
    Guarded standing (marked ++ [entry]) := by
  intro other back ends no_save
  rcases List.suffix_concat_iff.mp ends with none_left | ⟨front, shape, -⟩
  · cases none_left
  · exact absurd save (no_save entry (shape ▸ List.mem_append_right front List.mem_cons_self))

theorem keepLast_suffix {α : Type} (limit : Nat) (entries : List α) : keepLast limit entries <:+ entries :=
  List.drop_suffix _ _

theorem exists_of_dropFirst? {α : Type} {related : α → α → Bool} {wanted : α} {entries rest : List α}
    (found : dropFirst? related wanted entries = some rest) :
    ∃ front entry back, entries = front ++ entry :: back ∧ rest = front ++ back := by
  induction entries generalizing rest with
  | nil => cases found
  | cons entry others ih =>
      rw [dropFirst?] at found
      split at found
      · exact ⟨[], entry, others, rfl, (Option.some.inj found).symm⟩
      · rcases Option.map_eq_some_iff.mp found with ⟨kept, later, rfl⟩
        rcases ih later with ⟨front, other, back, rfl, rfl⟩
        exact ⟨entry :: front, other, back, rfl, rfl⟩

/-- A refused save leaves its own entry on top, or the entries as they were. -/
theorem Guarded.unpushed (guarded : Guarded record.standing record.marked) :
    Guarded record.standing record.unpushed := by
  have ends := keepLast_suffix record.run.1.historyLimit
    (record.marked ++ [(record.run.1.entryFor .save, record.standing)])
  have whole : Guarded record.standing (record.pushed .save) := (guarded_of_save rfl).suffix ends
  unfold Record.unpushed
  cases found : dropFirst? (fun left right : HistoryEntry × List Text => left.1.same right.1)
      (record.run.1.entryFor .save, record.standing) (record.pushed .save) with
  | none => exact whole
  | some rest =>
      rcases exists_of_dropFirst? found with ⟨front, entry, back, shape, rfl⟩
      rw [Option.getD_some]
      rw [← pushed, shape] at ends
      rcases List.suffix_concat_iff.mp ends with none_left | ⟨kept, same, inside⟩
      · exact absurd none_left (by simp)
      rcases List.eq_nil_or_concat back with rfl | ⟨middle, last, rfl⟩
      · rw [List.append_nil, List.append_inj_left' same rfl]
        exact guarded.suffix inside
      · rw [List.concat_eq_append, ← List.cons_append, ← List.append_assoc] at same
        rw [List.concat_eq_append, ← List.append_assoc, List.append_inj_right' same rfl]
        exact guarded_of_save rfl

/-- A line that neither saves nor takes back a save keeps the texts that stand. -/
theorem Guarded.next (guarded : Guarded record.standing record.marked) (sound : record.Sound first)
    (unsaved : accepted device record.run line = []) (kept : ¬ record.run.1.TakesBackSave line) :
    (record.next device line).standing = record.standing ∧
      Guarded record.standing (record.next device line).marked := by
  have effect := @effect_advance σ device record.run sound.session line
  have taken := @accepted_cases σ device record.run sound.session line
  have pushed (command : CommandName) : Guarded record.standing (record.pushed command) :=
    (guarded.concat (record.run.1.entryFor command)).suffix (keepLast_suffix _ _)
  dsimp only [Record.next]
  rw [unsaved] at taken ⊢
  rw [List.append_nil]
  generalize answer device record.run line = answer at effect taken ⊢
  generalize (advance device record.run line).1 = after at effect
  generalize (advance device record.run line).2 = state at effect
  cases effect with
  | quiet event =>
      rw [event]
      exact ⟨rfl, guarded⟩
  | opened event | reopened event | deleted event =>
      rw [event]
      exact ⟨rfl, pushed _⟩
  | saved event =>
      rcases taken with ⟨text, -, -, none_taken⟩ | ⟨other, -⟩
      · cases none_taken
      · exact absurd event other
  | refused event =>
      rw [event]
      exact ⟨rfl, guarded.unpushed⟩
  | undone event asked =>
      rw [event]
      have history := sound.history
      unfold standingAfter markedAfter
      rcases List.eq_nil_or_concat record.marked with empty | ⟨front, entry, marked⟩
      · rw [empty] at guarded ⊢
        exact ⟨rfl, guarded⟩
      · rw [List.concat_eq_append] at marked
        rw [marked] at guarded history ⊢
        have no_save : entry.1.command ≠ .save := fun save =>
          kept ⟨asked, entry.1, by rw [history, List.map_append]; exact List.getLast?_concat, save⟩
        rw [List.getLast?_concat, List.dropLast_concat]
        exact guarded.of_concat no_save

theorem standing_nextAll {lines : List Text} (sound : record.Sound first)
    (guarded : Guarded record.standing record.marked) (kept : KeepsSave device record.run lines) :
    (record.nextAll device lines).standing = record.standing := by
  induction lines generalizing record with
  | nil => rfl
  | cons line rest ih =>
      rcases kept with ⟨unsaved, not_back, later⟩
      rcases guarded.next sound unsaved not_back with ⟨same, still⟩
      have whole := ih (sound.next line) (same ▸ still) later
      exact whole.trans same

/-- The text of a save stands as long as nothing is saved and no save is taken back. -/
theorem standing_of_save {lines : List Text} {text : Text} (sound : record.Sound first)
    (taken : accepted device record.run line = [text])
    (kept : KeepsSave device (advance device record.run line) lines) :
    (record.nextAll device (line :: lines)).standing.getLast? = some text := by
  have saved : eventOf (answer device record.run line) = .saved := by
    rcases @accepted_cases σ device record.run sound.session line with ⟨-, -, saved, -⟩ | ⟨-, nothing⟩
    · exact saved
    · rw [taken] at nothing
      cases nothing
  have guarded : Guarded (record.next device line).standing (record.next device line).marked := by
    dsimp only [Record.next]
    rw [saved]
    exact (guarded_of_save rfl).suffix (keepLast_suffix _ _)
  have same := standing_nextAll (sound.next line) guarded kept
  rw [nextAll, List.foldl_cons, ← nextAll, same]
  dsimp only [Record.next]
  rw [taken, List.getLast?_concat]

end Record

theorem history_of_start {snapshot : Snapshot} {today : Calendar.Date}
    {historyLimit amountColumn : Int} {session : Session}
    (started : start snapshot today historyLimit amountColumn = .ok session) :
    session.history = [] := by
  rw [start_eq_ok started]

/-- A clean session over a loaded ledger shows the text of the last save that has not been taken
back, as the device has taken it, or the canonical text of the ledger as it was loaded if there is
none.  This is the text saved last whenever no save has been taken back since.  The record and the
log of the device are those of this very run. -/
theorem clean_shows_standing {text : Text} {today : Option Calendar.Date} {strict : Bool}
    {snapshot : Snapshot} {day : Calendar.Date} {limit column : Int} {initial : Session}
    {device : Option (Device σ)} {state : σ} (lines : List Text)
    (loaded : Snapshot.load text today strict = .ok snapshot)
    (started : Session.start snapshot day limit column = .ok initial)
    (clean : (executeAll device (initial, state) lines).1.dirty = false) :
    let final := executeAll device (initial, state) lines
    let logged := executeAll (device.map Device.logged) (initial, (state, [])) lines
    let record := (Record.start (initial, state)).nextAll device lines
    logged.1 = final.1 ∧ logged.2.1 = final.2 ∧
      record.run = final ∧ record.marked.map (·.1) = final.1.history ∧
      record.standing.Sublist logged.2.2 ∧
      final.1.canonical = shownBy initial.canonical record.standing ∧
      ∀ before line after saved, lines = before ++ line :: after →
        accepted device (executeAll device (initial, state) before) line = [saved] →
          KeepsSave device (executeAll device (initial, state) (before ++ [line])) after →
            final.1.canonical = .ok saved := by
  have begun := @Record.sound_start σ (initial, state)
    (sound_start (Snapshot.sound_of_load loaded) started) (history_of_start started)
  have sound (lines : List Text) :
      ((Record.start (initial, state)).nextAll device lines).Sound (initial, state).1.canonical :=
    begun.nextAll lines
  have log := @executeAll_logged σ device (initial, state) [] lines
  have taken := @Record.LoggedIn.nextAll σ _ device [] (Record.loggedIn_start (initial, state)) lines
  have along := @Record.run_nextAll σ device (Record.start (initial, state)) lines
  have shown := (sound lines).now
  have history := (sound lines).history
  rw [along] at shown history
  replace shown := shown clean
  refine ⟨congrArg Prod.fst log, congrArg (·.2.1) log, along, history.symm, ?_, shown, ?_⟩
  · rw [log]
    exact taken.now
  · rintro before line after saved rfl accepted kept
    have run := @Record.run_nextAll σ device (Record.start (initial, state)) before
    rw [executeAll_append] at kept
    have last := Record.standing_of_save (sound before) (run ▸ accepted) (run ▸ kept)
    rw [Record.nextAll, Record.nextAll, ← List.foldl_append] at last
    refine shown.trans ?_
    rw [shownBy, Record.nextAll, last]
    rfl

/-- The deletion and the save, both taken back. -/
def takenBack : List Text := deletion ++ ["undo".toList, "undo".toList]

/-- After the deletion and the save the session is clean and shows the text that was saved.  After
both have been taken back it is clean again and shows the ledger as it was loaded. -/
theorem clean_shows_saved_and_loaded :
    (executeAll (some keeping) (small, none) deletion).1.dirty = false ∧
      (executeAll (some keeping) (small, none) deletion).1.canonical = .ok "currency\n    $\n".toList ∧
      (executeAll (some keeping) (small, none) takenBack).1.dirty = false ∧
      (executeAll (some keeping) (small, none) takenBack).1.canonical = small.canonical := by
  have saved : (executeAll (some keeping) (small, none) deletion).1.dirty = false := by decide +kernel
  have clean : (executeAll (some keeping) (small, none) takenBack).1.dirty = false := by decide +kernel
  have taken : accepted (some keeping)
      (executeAll (some keeping) (small, none) ["reg".toList, "del".toList]) "save".toList =
        ["currency\n    $\n".toList] := by decide +kernel
  have none_stands : ((Record.start (small, none)).nextAll (some keeping) takenBack).standing = [] := by
    decide +kernel
  refine ⟨saved, ?_, clean, ?_⟩
  · rcases clean_shows_standing deletion load_oneBooking start_small saved with ⟨-, -, -, -, -, -, last⟩
    exact last _ _ [] _ rfl taken trivial
  · rcases clean_shows_standing takenBack load_oneBooking start_small clean with ⟨-, -, -, -, -, shown, -⟩
    rw [shown, none_stands]
    rfl

/-- But the device holds the text without the booking. -/
theorem clean_hides_deletion :
    Snapshot.load oneBooking none false = .ok small.snapshot ∧
      start small.snapshot ⟨2024, 1, 5, by decide⟩ 2 72 = .ok small ∧
      (executeAll (some keeping) (small, none) takenBack).1.dirty = false ∧
      (executeAll (some keeping) (small, none) takenBack).2 = some "currency\n    $\n".toList ∧
      (executeAll (some keeping) (small, none) takenBack).1.canonical ≠
        .ok "currency\n    $\n".toList := by
  refine ⟨load_oneBooking, start_small, ?_, ?_, ?_⟩
  · decide +kernel
  · decide +kernel
  · decide +kernel

end Session
end Daybook
