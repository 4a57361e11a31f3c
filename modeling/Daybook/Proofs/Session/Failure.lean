import Daybook.Proofs.Ledger.Listed
import Daybook.Proofs.Session.Undo

namespace Daybook
namespace Session

/-!
# What a failed command leaves behind

A command that fails ought to change nothing, and the ledger and the mark for unsaved
changes it does leave alone.  Two things may change all the same.  A save pushes its
entry before it writes and takes an entry out again when the device refuses the text:
if the history was full, the oldest entry is gone by then, and if an earlier entry has
the same content, it is that one which is taken out.  A question makes its selection
before its rows are shown, and showing them can fail.  These are the only ways, and
for each there is an exact condition under which the command leaves no trace.
-/

/-! ## Taking an entry out again -/

section History

variable {α : Type} {related : α → α → Bool} {wanted : α}

/-- Whether elements like a given one stand in a row of copies of it at the end only. -/
def OnlyLast (related : α → α → Bool) (wanted : α) (entries : List α) : Prop :=
  ∃ front count, entries = front ++ List.replicate count wanted ∧
    ∀ entry ∈ front, related entry wanted = false

/-- A list is the same with its first element replaced at the end only if it is a row of
copies. -/
theorem append_singleton_eq_cons_iff (entry : α) (rest : List α) :
    rest ++ [wanted] = entry :: rest ↔ entry = wanted ∧ ∀ other ∈ rest, other = wanted := by
  induction rest generalizing entry with
  | nil => simp [eq_comm]
  | cons next rest ih =>
      rw [List.cons_append, List.cons.injEq, ih, List.forall_mem_cons]
      constructor
      · rintro ⟨rfl, copy, row⟩
        exact ⟨copy, copy, row⟩
      · rintro ⟨rfl, copy, row⟩
        exact ⟨copy, copy, row⟩

theorem onlyLast_cons_of_related {entry : α} {rest : List α} (like : related entry wanted = true) :
    OnlyLast related wanted (entry :: rest) ↔ entry = wanted ∧ ∀ other ∈ rest, other = wanted := by
  have all : (∀ other ∈ entry :: rest, other = wanted) ↔ entry = wanted ∧ ∀ other ∈ rest, other = wanted :=
    List.forall_mem_cons
  rw [← all]
  constructor
  · rintro ⟨front, count, equal, unlike⟩
    cases front with
    | nil =>
        intro other member
        rw [equal] at member
        exact List.eq_of_mem_replicate member
    | cons first front =>
        rcases List.cons.inj equal with ⟨rfl, -⟩
        rw [unlike entry List.mem_cons_self] at like
        cases like
  · intro row
    exact ⟨[], rest.length + 1, List.eq_replicate_iff.mpr ⟨rfl, row⟩, fun _ member => by cases member⟩

theorem onlyLast_cons_of_not_related (self : related wanted wanted = true) {entry : α} {rest : List α}
    (unlike : related entry wanted = false) :
    OnlyLast related wanted (entry :: rest) ↔ OnlyLast related wanted rest := by
  constructor
  · rintro ⟨front, count, equal, other⟩
    cases front with
    | nil =>
        have copy : entry ∈ List.replicate count wanted := by
          rw [← List.nil_append (List.replicate _ _), ← equal]
          exact List.mem_cons_self
        rw [List.eq_of_mem_replicate copy, self] at unlike
        cases unlike
    | cons first front =>
        rcases List.cons.inj equal with ⟨rfl, row⟩
        exact ⟨front, count, row, fun entry member => other entry (List.mem_cons_of_mem _ member)⟩
  · rintro ⟨front, count, rfl, other⟩
    refine ⟨entry :: front, count, rfl, ?_⟩
    intro known member
    rcases List.mem_cons.mp member with rfl | inside
    · exact unlike
    · exact other known inside

/-- Pushing an entry and taking the first one like it out again changes nothing exactly
when such entries stand at the end only. -/
theorem dropFirst?_append_eq_iff (self : related wanted wanted = true) (entries : List α) :
    dropFirst? related wanted (entries ++ [wanted]) = some entries ↔
      OnlyLast related wanted entries := by
  induction entries with
  | nil =>
      rw [List.nil_append, dropFirst?, if_pos self]
      exact iff_of_true rfl ⟨[], 0, rfl, fun _ member => by cases member⟩
  | cons entry rest ih =>
      rw [List.cons_append, dropFirst?]
      cases like : related entry wanted with
      | true =>
          rw [if_pos rfl, Option.some.injEq, append_singleton_eq_cons_iff, onlyLast_cons_of_related like]
      | false =>
          rw [if_neg Bool.false_ne_true, onlyLast_cons_of_not_related self like, ← ih,
            Option.map_eq_some_iff]
          simp

theorem length_of_dropFirst? {entries rest : List α} (found : dropFirst? related wanted entries = some rest) :
    rest.length + 1 = entries.length := by
  induction entries generalizing rest with
  | nil => cases found
  | cons entry others ih =>
      rw [dropFirst?] at found
      split at found
      · rw [← Option.some.inj found, List.length_cons]
      · rcases Option.map_eq_some_iff.mp found with ⟨kept, later, rfl⟩
        rw [List.length_cons, List.length_cons, ih later]

theorem exists_dropFirst? {entries : List α} {entry : α} (member : entry ∈ entries)
    (like : related entry wanted = true) : ∃ rest, dropFirst? related wanted entries = some rest := by
  induction entries with
  | nil => cases member
  | cons first rest ih =>
      rw [dropFirst?]
      split
      · exact ⟨rest, rfl⟩
      · rename_i unlike
        rcases List.mem_cons.mp member with rfl | inside
        · exact absurd like unlike
        · rcases ih inside with ⟨kept, found⟩
          exact ⟨first :: kept, by rw [found]; rfl⟩

end History

/-! ## Refused saves -/

variable {σ : Type} {session : Session} {device : Option (Device σ)} {state : σ} {line : Text}

/-- Whether saving meets a device that refuses the text with a fault. -/
def RefusedWith (session : Session) (device : Option (Device σ)) (state : σ) (fault : WriteFault) : Prop :=
  ∃ place text, device = some place ∧ session.snapshot.format session.amountColumn = .ok text ∧
    (place.write state text).1 = .error fault

/-- Whether a save can push its entry and take it out again: there is room for it, and
entries with its content stand at the end of the history only. -/
def TakesBack (session : Session) : Prop :=
  session.history.length < session.historyLimit ∧
    OnlyLast HistoryEntry.same (session.entryFor .save) session.history

theorem HistoryEntry.same_self {entry : HistoryEntry} (listed : entry.snapshot.Listed) :
    entry.same entry = true := by
  simp [HistoryEntry.same, listed.same_self]

/-- The answer of a refused save and the session after it. -/
theorem save_refused {fault : WriteFault} (refused : session.RefusedWith device state fault) :
    (session.save device state).1 =
      match dropFirst? HistoryEntry.same (session.entryFor .save) (session.push .save).history with
      | some history => (.error (.write fault), { session.push .save with history })
      | none => (.error .lostEntry, session.push .save) := by
  rcases refused with ⟨place, text, rfl, formatted, failed⟩
  unfold save
  dsimp only
  rw [formatted]
  dsimp only
  rcases written : place.write state text with ⟨result, attempted⟩
  rw [written] at failed
  obtain rfl : result = .error fault := failed
  dsimp only
  cases dropFirst? HistoryEntry.same (session.entryFor .save) (session.push .save).history with
  | some history => rfl
  | none => rfl

theorem withHistory_eq_iff (session : Session) (history : List HistoryEntry) :
    { session.push .save with history } = session ↔ history = session.history := by
  constructor
  · intro same
    exact congrArg Session.history same
  · rintro rfl
    rfl

/-- A refused save leaves no trace, and fails as the device did, exactly when it can take
its entry back. -/
theorem save_refused_iff (sound : session.Sound) (listed : session.snapshot.Listed) {fault : WriteFault}
    (refused : session.RefusedWith device state fault) :
    ((session.save device state).1.2 = session ∧
      (session.save device state).1.1 = .error (.write fault)) ↔ session.TakesBack := by
  have self : (session.entryFor .save).same (session.entryFor .save) = true :=
    HistoryEntry.same_self listed
  rw [save_refused refused, TakesBack]
  by_cases room : session.history.length < session.historyLimit
  · have pushed : (session.push .save).history = session.history ++ [session.entryFor .save] :=
      keepLast_of_length_le (by rw [List.length_append]; exact room)
    rw [pushed, ← dropFirst?_append_eq_iff self]
    rcases exists_dropFirst? (List.mem_append_right session.history List.mem_cons_self) self with
      ⟨history, found⟩
    rw [found, withHistory_eq_iff, Option.some.injEq]
    exact ⟨fun unchanged => ⟨room, unchanged.1⟩, fun unchanged => ⟨unchanged.2, rfl⟩⟩
  · -- The history is full; what is left of it is shorter, or the entry was never in it.
    refine iff_of_false ?_ fun takes => room takes.1
    rintro ⟨same, failure⟩
    cases found : dropFirst? HistoryEntry.same (session.entryFor .save) (session.push .save).history with
    | none =>
        rw [found] at failure
        cases failure
    | some history =>
        rw [found] at same
        have kept : history = session.history := (withHistory_eq_iff session history).mp same
        have length := length_history_push session .save
        have shorter := length_of_dropFirst? found
        have short := sound.short
        rw [kept] at shorter
        omega

/-! ## Questions whose rows cannot be shown -/

/-- The rows of a sound ledger can be listed; only showing them can fail. -/
theorem exists_register {snapshot : Snapshot} (sound : snapshot.Sound) (matcher : Option Text)
    (on : Option Calendar.Date) : ∃ rows, snapshot.register matcher on = .ok rows :=
  BoundedTotals.nil.listFrom fun movement member =>
    sound.bounded.amounts (movement.account, movement.amount)
      (Snapshot.mem_movements_of_ofChapters (List.mem_filter.mp member).1)

def matched (session : Session) (matcher : Option Text) : Selection :=
  { matcher, labels := session.snapshot.matching matcher none }

def onDate (session : Session) (date : Calendar.Date) : Selection :=
  { on := some date, labels := session.snapshot.matching none (some date) }

/-- The date that a question is about, if there is one. -/
def dateOf? (session : Session) : Option (Text × Calendar.Reference) → Option Calendar.Date
  | none => some session.currentDate
  | some (_, reference) => reference.resolve? session.currentDate session.today

theorem withSelection_eq_iff (session : Session) (selection : Selection) :
    { session with selection } = session ↔ session.selection = selection := by
  constructor
  · intro same
    exact (congrArg Session.selection same).symm
  · rintro rfl
    rfl

theorem withQuestion_eq_iff (session : Session) (selection : Selection) (currentDate : Calendar.Date) :
    { session with selection, currentDate } = session ↔
      session.currentDate = currentDate ∧ session.selection = selection := by
  constructor
  · intro same
    exact ⟨(congrArg Session.currentDate same).symm, (congrArg Session.selection same).symm⟩
  · rintro ⟨rfl, rfl⟩
    rfl

theorem register_session (sound : session.snapshot.Sound) (matcher : Option Text) :
    (session.register matcher).2 = { session with selection := session.matched matcher } := by
  rcases exists_register sound matcher none with ⟨rows, listed⟩
  unfold register
  rw [listed]
  rfl

theorem date_session (argument : Option (Text × Calendar.Reference)) :
    (session.date argument).2 =
      match session.dateOf? argument with
      | none => session
      | some date => { session with currentDate := date, selection := session.onDate date } := by
  rcases argument with _ | ⟨text, reference⟩
  · rfl
  · rw [date, dateOf?]
    cases reference.resolve? session.currentDate session.today with
    | none => rfl
    | some date => rfl

/-! ## All commands -/

/-- When a command that fails leaves no trace. -/
def LeavesNoTrace (session : Session) (device : Option (Device σ)) (state : σ) : Command → Prop
  | .save => ∀ fault, session.RefusedWith device state fault → session.TakesBack
  | .register matcher => session.selection = session.matched matcher
  | .date argument => ∀ date, session.dateOf? argument = some date →
      session.currentDate = date ∧ session.selection = session.onDate date
  | .split _ | .accounts | .openAccount _ | .delete | .undo | .inspect => True

/-- Whether a command that failed changed nothing, and failed as the device did if it was
the device that refused a text. -/
def IsClean (session after : Session) (device : Option (Device σ)) (state : σ) (command : Command)
    (failure : SessionFailure) : Prop :=
  after = session ∧
    ∀ fault, command = .save → session.RefusedWith device state fault → failure = .write fault

theorem isClean_iff {after : Session} {command : Command} {failure : SessionFailure}
    (other : command ≠ .save) :
    session.IsClean after device state command failure ↔ after = session :=
  ⟨fun clean => clean.1, fun same => ⟨same, fun _ save => absurd save other⟩⟩

theorem isClean_delete (sound : session.snapshot.Sound) {failure : SessionFailure}
    (failed : session.delete.1 = .error failure) : session.delete.2 = session := by
  unfold delete at failed ⊢
  split
  · rfl
  · rename_i label chosen
    rw [chosen] at failed
    dsimp only at failed ⊢
    split
    · rfl
    · rename_i date booking found
      rcases sound.indexed.exists_remove sound.bounded found with ⟨after, removed, -⟩
      rw [found] at failed
      dsimp only at failed
      rw [removed] at failed
      cases failed

theorem isClean_save_iff (sound : session.Sound) (listed : session.snapshot.Listed)
    {failure : SessionFailure} (failed : (session.save device state).1.1 = .error failure) :
    session.IsClean (session.save device state).1.2 device state .save failure ↔
      session.LeavesNoTrace device state .save := by
  by_cases met : ∃ fault, session.RefusedWith device state fault
  · rcases met with ⟨fault, refused⟩
    have only : ∀ other, session.RefusedWith device state other → other = fault := by
      rintro other ⟨place, text, at_hand, formatted, failed⟩
      rcases refused with ⟨place', text', at_hand', formatted', failed'⟩
      rcases Option.some.inj (at_hand.symm.trans at_hand') with rfl
      rcases Except.ok.inj (formatted.symm.trans formatted') with rfl
      exact Except.error.inj (failed.symm.trans failed')
    have clean := save_refused_iff sound listed refused
    rw [failed, Except.error.injEq] at clean
    constructor
    · intro kept other _
      exact clean.mp ⟨kept.1, kept.2 fault rfl refused⟩
    · intro takes
      rcases clean.mpr (takes fault refused) with ⟨same, known⟩
      exact ⟨same, fun other _ also => only other also ▸ known⟩
  · have nobody : ∀ fault, ¬ session.RefusedWith device state fault := fun fault refused =>
      met ⟨fault, refused⟩
    refine iff_of_true ⟨?_, fun fault _ refused => absurd refused (nobody fault)⟩
      fun fault refused => absurd refused (nobody fault)
    unfold save at failed ⊢
    cases device with
    | none => rfl
    | some place =>
        dsimp only at failed ⊢
        cases formatted : session.snapshot.format session.amountColumn with
        | error failure => rfl
        | ok text =>
            rw [formatted] at failed
            dsimp only at failed ⊢
            rcases written : place.write state text with ⟨⟨fault⟩ | ⟨⟨⟩⟩, attempted⟩
            · exact absurd ⟨place, text, rfl, formatted, congrArg Prod.fst written⟩ (nobody fault)
            · rw [written] at failed
              cases failed

/-- For each command there is an exact condition under which a failure leaves no trace. -/
theorem isClean_run_iff (sound : session.Sound) (listed : session.snapshot.Listed) {command : Command}
    {failure : SessionFailure}
    (failed : (session.run device state command).1.1 = .error failure) :
    session.IsClean (session.run device state command).1.2 device state command failure ↔
      session.LeavesNoTrace device state command := by
  cases command with
  | save => exact isClean_save_iff sound listed failed
  | register matcher =>
      rw [isClean_iff (by rintro ⟨⟩), run, register_session sound.now, withSelection_eq_iff,
        LeavesNoTrace]
  | date argument =>
      rw [isClean_iff (by rintro ⟨⟩), run, date_session, LeavesNoTrace]
      cases session.dateOf? argument with
      | none => exact iff_of_true rfl fun date found => by cases found
      | some date => simp only [withQuestion_eq_iff, Option.some.injEq, forall_eq']
  | delete => exact iff_of_true ((isClean_iff (by rintro ⟨⟩)).mpr (isClean_delete sound.now failed)) trivial
  | openAccount account =>
      exfalso
      rw [run, openAccount] at failed
      dsimp only at failed
      split at failed <;> cases failed
  | undo => cases failed
  | inspect => cases failed
  | split request => exact iff_of_true ((isClean_iff (by rintro ⟨⟩)).mpr rfl) trivial
  | accounts => exact iff_of_true ((isClean_iff (by rintro ⟨⟩)).mpr rfl) trivial

/-! ## Lines of a run -/

theorem event_of_writerFails (fails : session.WriterFails device state line) :
    eventOf (session.execute device state line).1.1 = .refused := by
  rcases fails with ⟨asked, place, text, fault, at_hand, formatted, failed⟩
  have refused : session.RefusedWith device state fault := ⟨place, text, at_hand, formatted, failed⟩
  unfold execute
  rw [asked]
  change eventOf (session.save device state).1.1 = .refused
  rw [save_refused refused]
  split <;> rfl

/-- A line that fails changes the history at most if the device refused the text, and the
selection and the current date at most otherwise. -/
theorem Effect.frame {answer : Except SessionFailure Reply} {after : Session} {state' : σ}
    (effect : Effect session device state line answer after state')
    (event : session.WriterFails device state line → eventOf answer = .refused)
    {failure : SessionFailure} (failed : answer = .error failure) :
    (session.WriterFails device state line → after = { session with history := after.history }) ∧
      (¬ session.WriterFails device state line →
        after = { session with selection := after.selection, currentDate := after.currentDate }) := by
  cases effect with
  | quiet quiet =>
      refine ⟨fun fails => ?_, fun _ => rfl⟩
      rw [event fails] at quiet
      cases quiet
  | refused _ fails => exact ⟨fun _ => rfl, fun passes => absurd fails passes⟩
  | opened other | reopened other | saved other | deleted other | undone other =>
      rw [failed] at other
      cases failure <;> cases other

/-- What a line that fails leaves behind, in any state that command lines lead to on a
session over a loaded ledger, whatever the device.  A line that is no command changes
nothing.  If the device refused a text, nothing but the history may change, otherwise
nothing but the selection and the current date; the ledger and the mark for unsaved
changes never do.  And a command changes nothing at all, and a refused save fails with
the fault of the device, exactly when the command leaves no trace. -/
theorem failure_leaves {text : Text} {today : Option Calendar.Date} {strict : Bool}
    {snapshot : Snapshot} {day : Calendar.Date} {limit column : Int} {initial : Session} {start : σ}
    {run : Session × σ} {failure : SessionFailure}
    (loaded : Snapshot.load text today strict = .ok snapshot)
    (started : Session.start snapshot day limit column = .ok initial)
    (reached : Reached device (initial, start) run)
    (failed : answer device run line = .error failure) :
    let after := (advance device run line).1
    (∀ fault, Command.ofText line = .error fault → after = run.1) ∧
      (run.1.WriterFails device run.2 line → after = { run.1 with history := after.history }) ∧
      (¬ run.1.WriterFails device run.2 line →
        after = { run.1 with selection := after.selection, currentDate := after.currentDate }) ∧
      ∀ command, Command.ofText line = .ok command →
        (run.1.IsClean after device run.2 command failure ↔
          run.1.LeavesNoTrace device run.2 command) := by
  have first : initial.Sound := sound_start (Snapshot.sound_of_load loaded) started
  have sound := reached.sound first
  have listed := (reached.throughout first
    (throughout_start (Snapshot.listed_of_load loaded) started)
    (fun _ account listed => listed.openAccount account)
    (fun _ _ _ _ listed removed => listed.remove removed)).now
  rcases (effect_advance sound line).frame event_of_writerFails failed with ⟨refused, passed⟩
  refine ⟨?_, refused, passed, ?_⟩
  · intro fault unread
    rw [advance, execute, unread]
  · intro command asked
    have carried : run.1.execute device run.2 line = run.1.run device run.2 command := by
      rw [execute, asked]
    rw [answer, carried] at failed
    rw [advance, carried]
    exact isClean_run_iff sound listed failed

/-! ## A device that refuses every text -/

def diskFull : WriteFault := ⟨"disk full".toList, some "ledger".toList⟩

def refusing : Device (Option Text) := Device.answering "ledger".toList (.error diskFull)

theorem takesBack_small : small.TakesBack := ⟨by decide, [], 0, rfl, fun _ member => by cases member⟩

/-- With room in the history a refused save leaves no trace. -/
theorem refused_save_leaves_nothing :
    answer (some refusing) (small, none) "save".toList = .error (.write diskFull) ∧
      (advance (some refusing) (small, none) "save".toList).1 = small := by
  have failed : answer (some refusing) (small, none) "save".toList = .error (.write diskFull) := by
    decide +kernel
  have asked : Command.ofText "save".toList = .ok .save := by decide +kernel
  have leaves := (failure_leaves load_oneBooking start_small Reached.start failed).2.2.2 .save asked
  exact ⟨failed, (leaves.mpr fun _ _ => takesBack_small).1⟩

/-- A session with room for one entry, after an account was opened in it. -/
def tight : Session × Option Text :=
  advance (some refusing) ({ small with historyLimit := 1 }, none) "open asset".toList

/-- With a full history a refused save loses the oldest entry for good. -/
theorem refused_save_loses_entry :
    start (Snapshot.loadedFrom oneBooking false) ⟨2024, 1, 5, by decide⟩ 1 72 =
        .ok { small with historyLimit := 1 } ∧
      tight.1.history.map (·.command) = [.openAccount] ∧
      answer (some refusing) tight "save".toList = .error (.write diskFull) ∧
      (advance (some refusing) tight "save".toList).1.history = [] := by
  refine ⟨?_, ?_, ?_, ?_⟩
  · decide +kernel
  · decide +kernel
  · decide +kernel
  · decide +kernel

end Session
end Daybook
