import Daybook.Proofs.Session.Failure

namespace Daybook

/-!
# What is selected exists

A question selects labels, and the bookings behind them are looked up only when one of
them is deleted.  In between, bookings may have been deleted and the ledger may have
been exchanged for an earlier one, and still every label that is selected has its
booking: a deletion takes its own label off the selection, and going back to a ledger
goes back to what was selected in it.  So it is not the selection alone but every entry
of the history with it that an invariant has to speak about.
-/

open Calendar

namespace Chapter

variable {chapters : List Chapter}

theorem label_of_find? {label : Text} {entry : Date × Booking}
    (found : find? label chapters = some entry) : entry.2.label = label :=
  beq_iff_eq.mp (List.find?_some (p := fun entry : Date × Booking => entry.2.label == label) found)

/-- With distinct labels, a booking is found under its label. -/
theorem find?_of_mem (distinct : (labelsOf chapters).Nodup) {entry : Date × Booking}
    (member : entry ∈ entries chapters) : find? entry.2.label chapters = some entry := by
  cases found : find? entry.2.label chapters with
  | none => exact absurd (beq_self_eq_true _) (List.find?_eq_none.mp found entry member)
  | some other =>
      exact congrArg some (List.inj_on_of_nodup_map distinct (List.mem_of_find?_eq_some found) member
        (label_of_find? found))

/-- With distinct labels, the bookings of some labels in order are some of the bookings in
order. -/
theorem filterMap_find?_sublist (distinct : (labelsOf chapters).Nodup) {labels : List Text}
    (part : labels.Sublist (labelsOf chapters)) :
    (labels.filterMap fun label => find? label chapters).Sublist (entries chapters) := by
  rcases List.sublist_map_iff.mp part with ⟨chosen, among, rfl⟩
  have all : (chosen.map (·.2.label)).filterMap (fun label => find? label chapters) = chosen := by
    rw [List.filterMap_map]
    refine (List.filterMap_congr fun entry member => ?_).trans List.filterMap_some
    exact find?_of_mem distinct (among.subset member)
  rwa [all]

end Chapter

namespace Snapshot

/-- Whether labels select bookings of a ledger: no booking twice, each of them present,
and in the order of the ledger, which is that of the dates. -/
structure Selects (snapshot : Snapshot) (labels : List Text) : Prop where
  distinct : labels.Nodup
  present : ∀ label ∈ labels, ∃ entry, Chapter.find? label snapshot.chapters = some entry
  in_order : labels.Sublist (Chapter.labelsOf snapshot.chapters)
  ascending : (labels.filterMap fun label => Chapter.find? label snapshot.chapters).Pairwise
    fun left right => left.1.key ≤ right.1.key

variable {snapshot : Snapshot} {labels : List Text}

/-- Among distinct labels, order is all there is to it. -/
theorem Indexed.selects (indexed : snapshot.Indexed)
    (in_order : labels.Sublist (Chapter.labelsOf snapshot.chapters)) : snapshot.Selects labels where
  distinct := indexed.distinct.sublist in_order
  present := by
    intro label member
    rcases List.mem_map.mp (in_order.subset member) with ⟨entry, inside, rfl⟩
    exact ⟨entry, Chapter.find?_of_mem indexed.distinct inside⟩
  in_order := in_order
  ascending := indexed.shape.entries_ascending.sublist
    (Chapter.filterMap_find?_sublist indexed.distinct in_order)

/-- What matches is selected. -/
theorem Indexed.selects_matching (indexed : snapshot.Indexed) (matcher : Option Text)
    (on : Option Date) : snapshot.Selects (snapshot.matching matcher on) := by
  apply indexed.selects
  rw [matching, eraseDups_of_nodup]
  · exact List.filter_sublist.map _
  · exact indexed.distinct.sublist (List.filter_sublist.map _)

theorem Selects.openAccount (selects : snapshot.Selects labels) (account : Account) :
    (snapshot.openAccount account).Selects labels := by
  have same := snapshot.openAccount_chapters account
  refine ⟨selects.distinct, ?_, ?_, ?_⟩
  · rw [same]
    exact selects.present
  · rw [same]
    exact selects.in_order
  · rw [same]
    exact selects.ascending

/-- Removing the booking that is selected last leaves the others selected. -/
theorem Indexed.selects_dropLast (indexed : snapshot.Indexed) {label : Text} {booking : Booking}
    {after : Snapshot} (selects : snapshot.Selects (labels ++ [label]))
    (removed : snapshot.remove label = .ok (booking, after)) : after.Selects labels := by
  apply (indexed.remove removed).selects
  rcases remove_eq_ok removed with ⟨date, found, committed⟩
  rcases commit_eq_ok committed with ⟨balances, usage, contacts, -, -, rfl⟩
  have others : ∀ other ∈ labels, (other != label) = true := by
    intro other member
    rw [bne_iff_ne]
    rintro rfl
    exact (List.nodup_append.mp selects.distinct).2.2 other member other (List.mem_singleton_self _) rfl
  have part := ((List.sublist_append_left labels [label]).trans selects.in_order).filter (· != label)
  rw [List.filter_eq_self.mpr others] at part
  change labels.Sublist (Chapter.labelsOf (Chapter.remove label snapshot.chapters))
  rw [Chapter.labelsOf, Chapter.entries_remove_eq_filter indexed.distinct]
  rwa [Chapter.labelsOf, List.filter_map] at part

end Snapshot

namespace Session

/-- Whether what is selected exists, now and in every entry of the history. -/
structure SelectsAll (session : Session) : Prop where
  now : session.snapshot.Selects session.selection.labels
  before : ∀ entry ∈ session.history, entry.snapshot.Selects entry.selection.labels

variable {σ : Type} {session : Session} {device : Option (Device σ)} {state : σ} {line : Text}

namespace SelectsAll

theorem push (selects : session.SelectsAll) (command : CommandName) :
    (session.push command).SelectsAll where
  now := selects.now
  before := by
    intro entry member
    rcases mem_history_push member with known | rfl
    · exact selects.before entry known
    · exact selects.now

theorem register (selects : session.SelectsAll) (sound : session.Sound) (matcher : Option Text) :
    (session.register matcher).2.SelectsAll := by
  rw [register_session sound.now]
  exact ⟨sound.now.indexed.selects_matching matcher none, selects.before⟩

theorem date (selects : session.SelectsAll) (sound : session.Sound)
    (argument : Option (Text × Reference)) : (session.date argument).2.SelectsAll := by
  rw [date_session]
  cases session.dateOf? argument with
  | none => exact selects
  | some date => exact ⟨sound.now.indexed.selects_matching none (some date), selects.before⟩

theorem openAccount (selects : session.SelectsAll) (account : Account) :
    (session.openAccount account).2.SelectsAll := by
  have pushed := selects.push .openAccount
  unfold Session.openAccount
  dsimp only
  split
  · exact pushed
  · exact ⟨pushed.now.openAccount account, pushed.before⟩

theorem save (selects : session.SelectsAll) : (session.save device state).1.2.SelectsAll := by
  have pushed := selects.push .save
  unfold Session.save
  cases device with
  | none => exact selects
  | some place =>
      dsimp only
      cases session.snapshot.format session.amountColumn with
      | error failure => exact selects
      | ok text =>
          dsimp only
          split
          · exact ⟨pushed.now, pushed.before⟩
          · split
            · rename_i history found
              exact ⟨pushed.now, fun entry member =>
                pushed.before entry ((dropFirst?_sublist found).subset member)⟩
            · exact pushed

theorem undo (selects : session.SelectsAll) : session.undo.2.SelectsAll := by
  unfold Session.undo
  split
  · exact selects
  · rename_i entry last
    exact ⟨selects.before entry (List.mem_of_getLast? last),
      fun other member => selects.before other (List.mem_of_mem_dropLast member)⟩

end SelectsAll

/-! ## Deletions -/

/-- What a deletion does to a session whose selection exists: nothing at all without a
selection, and otherwise it removes the booking selected last. -/
inductive Deletion (session : Session) : Answer → Prop where
  | nothing (empty : session.selection.labels = []) :
      Deletion session (.error (.command .noSelection), session)
  | last {labels : List Text} {label message : Text} {date : Date} {booking : Booking}
      {snapshot : Snapshot} (selected : session.selection.labels = labels ++ [label])
      (found : Chapter.find? label session.snapshot.chapters = some (date, booking))
      (removed : session.snapshot.remove label = .ok (booking, snapshot)) :
      Deletion session
        (.ok { command := .delete, message, booking := some booking },
          { session.push .delete with
            snapshot, selection := { session.selection with labels }, dirty := true })

theorem SelectsAll.deletion (selects : session.SelectsAll) (sound : session.Sound) :
    Deletion session session.delete := by
  unfold delete
  rcases List.eq_nil_or_concat session.selection.labels with empty | ⟨labels, label, selected⟩
  · rw [empty]
    exact .nothing empty
  · rw [List.concat_eq_append] at selected
    rcases selects.now.present label (selected ▸ List.mem_append_right labels List.mem_cons_self) with
      ⟨⟨date, booking⟩, found⟩
    rcases sound.now.indexed.exists_remove sound.now.bounded found with ⟨after, removed, -⟩
    rw [selected, List.getLast?_concat, List.dropLast_concat]
    dsimp only
    rw [found]
    dsimp only
    rw [removed]
    exact .last selected found removed

theorem SelectsAll.delete (selects : session.SelectsAll) (sound : session.Sound) :
    session.delete.2.SelectsAll := by
  cases deletion : session.delete with
  | mk answer after =>
      cases deletion ▸ selects.deletion sound with
      | nothing => exact selects
      | last selected found removed =>
          exact ⟨sound.now.indexed.selects_dropLast (selected ▸ selects.now) removed,
            (selects.push .delete).before⟩

/-! ## Runs -/

theorem SelectsAll.run (selects : session.SelectsAll) (sound : session.Sound) (command : Command) :
    (session.run device state command).1.2.SelectsAll := by
  cases command with
  | split request => exact selects
  | register matcher => exact selects.register sound matcher
  | date argument => exact selects.date sound argument
  | accounts => exact selects
  | openAccount account => exact selects.openAccount account
  | save => exact selects.save
  | delete => exact selects.delete sound
  | undo => exact selects.undo
  | inspect => exact selects

theorem SelectsAll.advance {run : Session × σ} (selects : run.1.SelectsAll) (sound : run.1.Sound)
    (line : Text) : (advance device run line).1.SelectsAll := by
  unfold Session.advance execute
  split
  · exact selects.run sound _
  · exact selects

theorem selectsAll_start {snapshot : Snapshot} (sound : snapshot.Sound) {today : Date}
    {historyLimit amountColumn : Int}
    (started : start snapshot today historyLimit amountColumn = .ok session) : session.SelectsAll := by
  rw [start_eq_ok started]
  exact ⟨sound.indexed.selects (List.nil_sublist _), fun _ member => by cases member⟩

theorem Reached.selectsAll {start reached : Session × σ} (run : Reached device start reached)
    (sound : start.1.Sound) (selects : start.1.SelectsAll) : reached.1.SelectsAll := by
  induction run with
  | start => exact selects
  | step run line ih => exact ih.advance (run.sound sound) line

/-- The selection always exists.  In any state that command lines lead to on a session over
a loaded ledger, whatever the device, the labels that are selected belong to bookings of
the ledger, none of them twice, in the order of the ledger, and the same holds of every
entry of the history.  So a deletion never misses its booking, and one that succeeds
removes the booking selected last and leaves all others where they are. -/
theorem selection_exists {text : Text} {today : Option Date} {strict : Bool} {snapshot : Snapshot}
    {day : Date} {limit column : Int} {initial : Session} {start : σ} {run : Session × σ}
    (loaded : Snapshot.load text today strict = .ok snapshot)
    (started : Session.start snapshot day limit column = .ok initial)
    (reached : Reached device (initial, start) run) :
    run.1.SelectsAll ∧
      ∀ line, Command.ofText line = .ok .delete →
        answer device run line ≠ .error (.command .lostSelection) ∧
        ∀ reply, answer device run line = .ok reply →
          ∃ labels label date booking front back,
            run.1.selection.labels = labels ++ [label] ∧ booking.label = label ∧
              reply.booking = some booking ∧
              run.1.snapshot.entries = front ++ (date, booking) :: back ∧
              (advance device run line).1.snapshot.entries = front ++ back ∧
              (advance device run line).1.selection.labels = labels := by
  have first : initial.Sound := sound_start (Snapshot.sound_of_load loaded) started
  have sound := reached.sound first
  have selects := reached.selectsAll first (selectsAll_start (Snapshot.sound_of_load loaded) started)
  refine ⟨selects, fun line asked => ?_⟩
  have carried : run.1.execute device run.2 line = (run.1.delete, run.2) := by
    rw [execute, asked]
    rfl
  rw [answer, advance, carried]
  cases deletion : run.1.delete with
  | mk answered after =>
      cases deletion ▸ selects.deletion sound with
      | nothing => exact ⟨by rintro ⟨⟩, fun _ answered => by cases answered⟩
      | @last labels label message date booking snapshot selected found removed =>
          refine ⟨by rintro ⟨⟩, fun reply answered => ?_⟩
          rcases Chapter.entries_remove sound.now.indexed.distinct found with
            ⟨front, back, with_it, without⟩
          rcases Snapshot.remove_eq_ok removed with ⟨-, -, committed⟩
          rcases Snapshot.commit_eq_ok committed with ⟨balances, usage, contacts, -, -, rfl⟩
          refine ⟨labels, label, date, booking, front, back, selected, Chapter.label_of_find? found,
            ?_, with_it, without, rfl⟩
          rw [← Except.ok.inj answered]

/-- A booking that a question selected is there to be deleted. -/
theorem selection_exists_deletion :
    let asked := advance (some keeping) (small, none) "reg".toList
    Command.ofText "del".toList = .ok .delete ∧ asked.1.selection.labels = ["b0".toList] ∧
      asked.1.SelectsAll ∧
      answer (some keeping) asked "del".toList ≠ .error (.command .lostSelection) := by
  have delete : Command.ofText "del".toList = .ok .delete := by decide +kernel
  have reached : Reached (some keeping) (small, none) (advance (some keeping) (small, none) "reg".toList) :=
    Reached.start.step _
  have selects := selection_exists load_oneBooking start_small reached
  exact ⟨delete, by decide +kernel, selects.1, (selects.2 "del".toList delete).1⟩

end Session
end Daybook
