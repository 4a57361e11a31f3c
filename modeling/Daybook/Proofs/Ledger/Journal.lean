import Daybook.Proofs.Ledger.Balanced
import Daybook.Proofs.Ledger.Store

namespace Daybook

/-!
# Stores without labels of their own

A store trusts that a booking brings a label that no other has.  If it does not, removing
takes all bookings of one date with the label out of the chapters, but only the first of
them out of the balances.  So the bookings that the balances count are kept beside the
chapters here: they are at least those of the chapters, and what is said of the balances is
said of them.  Along with them goes a record of everything that was ever counted, each
booking as often as it was counted at one time.
-/

open Calendar

/-- A snapshot with the bookings that its balances count: those that were entered and not
taken out again. -/
structure Page where
  snapshot : Snapshot
  counted : List Booking

/-- A store, the pages that it was on before, the latest first, and the bookings that were ever
counted, each as often as it was at one time. -/
structure Journal where
  now : Page
  held : List Page := []
  present : List Booking

namespace Journal

/-- A store on a first snapshot. -/
def start (snapshot : Snapshot) : Journal where
  now := ⟨snapshot, Chapter.bookingsOf snapshot.chapters⟩
  present := Chapter.bookingsOf snapshot.chapters

def turn (journal : Journal) (page : Page) : Journal where
  now := page
  held := journal.now :: journal.held
  present := journal.present ++ page.counted.diff journal.present

/-- Carries out a call; one that fails leaves the store as it is. -/
def call (journal : Journal) : Store.Call → Journal
  | .add date booking =>
    match journal.now.snapshot.add date booking with
    | .ok after => journal.turn ⟨after, booking :: journal.now.counted⟩
    | .error _ => journal
  | .remove label =>
    match journal.now.snapshot.remove label with
    | .ok (booking, after) => journal.turn ⟨after, journal.now.counted.erase booking⟩
    | .error _ => journal
  | .openAccount account =>
    journal.turn ⟨journal.now.snapshot.openAccount account, journal.now.counted⟩
  | .restore number =>
    match journal.held[number]? with
    | some earlier => journal.turn earlier
    | none => journal

/-- The stores that calls lead to from a loaded ledger or from an empty one. -/
inductive Grown : Journal → Prop
  | loaded {text : Text} {today : Option Date} {strict : Bool} {snapshot : Snapshot}
      (ok : Snapshot.load text today strict = .ok snapshot) : Grown (start snapshot)
  | empty (registry : Registry) : Grown (start { registry })
  | step {journal : Journal} (grown : Grown journal) (call : Store.Call) : Grown (journal.call call)

end Journal

/-! ## Bookings that close -/

namespace Booking

variable {booking : Booking} {present : List Booking}

theorem map_snd_movements (postings : List Posting) :
    (Posting.movements postings).map (·.2) = postings.filterMap (·.money) := by
  rw [Posting.movements, List.map_filterMap]
  refine List.filterMap_congr fun posting _ => ?_
  rw [Option.map_map]
  cases posting.money <;> rfl

/-- What adds up exactly does so in every booking. -/
theorem fits_of_mem (adds : AddsExactly (movements present)) (member : booking ∈ present)
    (currency : Text) :
    ∃ unit, Decimal.ledger.tiniest ≤ unit ∧
      (∀ money ∈ booking.moneys, money.currency = currency →
        Decimal.OnGrid unit money.amount.value) ∧
      booking.turnover currency ≤ 2 * 10 ^ (unit + Decimal.ledger.digits) := by
  have part : (Posting.movements booking.postings).Sublist (movements present) := by
    rcases List.append_of_mem member with ⟨front, back, rfl⟩
    rw [movements, List.flatMap_append, List.flatMap_cons]
    exact (List.sublist_append_left _ _).trans (List.sublist_append_right _ _)
  rcases adds.subperm part.subperm currency with ⟨unit, least, fits⟩
  have moneys : (Posting.movements booking.postings).map (·.2) = booking.moneys :=
    map_snd_movements booking.postings
  refine ⟨unit, least, ?_, ?_⟩
  · intro money inside same
    rw [← moneys] at inside
    rcases List.mem_map.mp inside with ⟨movement, among, rfl⟩
    exact fits.grid movement among same
  · have bounded := fits.turnover_lt
    rw [moneys] at bounded
    have positive : (0 : Rat) < 10 ^ (unit + Decimal.ledger.digits) := by positivity
    rw [turnover]
    linarith

/-- A booking that was accepted closes. -/
theorem closes_of_validate (adds : AddsExactly (movements present)) (member : booking ∈ present)
    (ok : booking.validate = .ok ()) (currency : Text) : booking.exactTotal currency = 0 := by
  rcases fits_of_mem adds member currency with ⟨unit, least, grid, bounded⟩
  exact exactTotal_of_validate least grid ok bounded

/-- A booking of a loaded ledger closes. -/
theorem closes_of_load (adds : AddsExactly (movements present)) (member : booking ∈ present)
    {text : Text} {today : Option Date} {strict : Bool} {snapshot : Snapshot}
    (loaded : Snapshot.load text today strict = .ok snapshot)
    (among : booking ∈ Chapter.bookingsOf snapshot.chapters) (currency : Text) :
    booking.exactTotal currency = 0 := by
  rcases fits_of_mem adds member currency with ⟨unit, least, grid, bounded⟩
  rcases Snapshot.exists_written loaded among with ⟨written, resolved, -, -, ok, same, -⟩
  rcases resolve_eq_ok ok with ⟨carried, -, inferred⟩
  rw [turnover, moneys, same] at bounded
  rw [moneys, same] at grid
  rw [exactTotal, moneys, same]
  exact exactTotal_of_infer least
    (fun money inside => grid money (mem_moneys_of_infer inferred inside)) inferred bounded

end Booking

/-! ## The invariant -/

/-- What is known of a page of a store. -/
structure Page.Sound (present : List Booking) (page : Page) : Prop where
  within : (Chapter.bookingsOf page.snapshot.chapters).Subperm page.counted
  covered : page.counted.Subperm present
  counts : Counts page.snapshot.balances page.snapshot.usage (Booking.movements page.counted)
  listed : page.snapshot.Listed
  summed : ∀ booking ∈ page.counted, ∃ totals, Booking.addTotals [] booking.moneys = .ok totals
  closed : AddsExactly (Booking.movements present) →
    ∀ booking ∈ page.counted, ∀ currency, booking.exactTotal currency = 0
  adds_up : AddsExactly (Booking.movements present) →
    Exact page.snapshot.balances (Booking.movements page.counted)

namespace Page.Sound

variable {present : List Booking} {page : Page}

/-- More may have been present. -/
theorem mono (sound : page.Sound present) {more : List Booking} (part : present.Subperm more) :
    page.Sound more where
  within := sound.within
  covered := sound.covered.trans part
  counts := sound.counts
  listed := sound.listed
  summed := sound.summed
  closed := fun adds => sound.closed (adds.subperm (Booking.movements_subperm part))
  adds_up := fun adds => sound.adds_up (adds.subperm (Booking.movements_subperm part))

theorem add (sound : page.Sound present) {more : List Booking} (part : present.Subperm more)
    {date : Date} {booking : Booking} {after : Snapshot} (covered : (booking :: page.counted).Subperm more)
    (ok : page.snapshot.add date booking = .ok after) :
    Page.Sound more ⟨after, booking :: page.counted⟩ := by
  have before := sound.mono part
  rcases Snapshot.add_eq_ok ok with ⟨-, -, valid, committed⟩
  rcases Snapshot.commit_eq_ok committed with ⟨balances, usage, contacts, applied, -, same⟩
  refine ⟨?_, covered, ?_, sound.listed.add ok, ?_, ?_, ?_⟩
  · rcases Chapter.entries_insert date booking page.snapshot.chapters with ⟨front, back, without, with_it⟩
    have arranged : (Chapter.bookingsOf after.chapters).Perm
        (booking :: Chapter.bookingsOf page.snapshot.chapters) := by
      rw [same]
      change (Chapter.bookingsOf (Chapter.insert date booking page.snapshot.chapters)).Perm _
      rw [Chapter.bookingsOf, Chapter.bookingsOf, with_it, without, List.map_append, List.map_append,
        List.map_cons]
      exact List.perm_middle
    exact arranged.subperm.trans ((List.subperm_cons booking).mpr sound.within)
  · rw [same]
    exact sound.counts.entering_postings applied
  · intro other member
    rcases List.mem_cons.mp member with rfl | known
    · rcases Outcome.bind_eq_ok.mp valid with ⟨totals, made, -⟩
      exact ⟨totals, Outcome.ofNumbers_eq_ok.mp made⟩
    · exact sound.summed other known
  · intro adds other member
    rcases List.mem_cons.mp member with rfl | known
    · exact Booking.closes_of_validate adds (covered.subset List.mem_cons_self) valid
    · exact before.closed adds other known
  · intro adds
    rw [same]
    exact (before.adds_up adds).entering_postings
      (adds.subperm (Booking.movements_subperm covered)) applied

theorem remove (sound : page.Sound present) {label : Text} {booking : Booking} {after : Snapshot}
    (ok : page.snapshot.remove label = .ok (booking, after)) :
    Page.Sound present ⟨after, page.counted.erase booking⟩ := by
  rcases Snapshot.remove_eq_ok ok with ⟨date, found, committed⟩
  rcases Snapshot.commit_eq_ok committed with ⟨balances, usage, contacts, applied, -, same⟩
  rcases Chapter.entries_remove_found found with ⟨front, back, with_it, without⟩
  have arranged : (Chapter.bookingsOf page.snapshot.chapters).Perm
      (booking :: (front ++ back).map (·.2)) := by
    rw [Chapter.bookingsOf, with_it, List.map_append, List.map_cons, List.map_append]
    exact List.perm_middle
  have member : booking ∈ page.counted :=
    sound.within.subset (arranged.mem_iff.mpr List.mem_cons_self)
  have apart := List.perm_cons_erase member
  have moved := Booking.movements_perm apart
  refine ⟨?_, (List.erase_sublist.subperm).trans sound.covered, ?_, sound.listed.remove ok, ?_, ?_, ?_⟩
  · have rest : ((front ++ back).map (·.2)).Subperm (page.counted.erase booking) := by
      have erased := sound.within.erase booking
      have first := arranged.erase booking
      rw [List.erase_cons_head] at first
      exact first.symm.subperm.trans erased
    rw [same]
    exact (without.map _).subperm.trans rest
  · rw [same]
    exact (sound.counts.perm moved).leaving_postings applied
  · exact fun other known => sound.summed other (List.mem_of_mem_erase known)
  · exact fun adds other known => sound.closed adds other (List.mem_of_mem_erase known)
  · intro adds
    rw [same]
    have part := adds.subperm (Booking.movements_subperm sound.covered)
    exact ((sound.adds_up adds).perm moved).leaving_postings (sound.counts.perm moved)
      (part.subperm moved.symm.subperm) applied

theorem openAccount (sound : page.Sound present) (account : Account) :
    Page.Sound present ⟨page.snapshot.openAccount account, page.counted⟩ := by
  have chapters := page.snapshot.openAccount_chapters account
  rcases page.snapshot.openAccount_indices account with ⟨balances, usage, -⟩
  refine ⟨chapters ▸ sound.within, sound.covered, ?_, sound.listed.openAccount account, sound.summed,
    sound.closed, balances ▸ sound.adds_up⟩
  rw [balances, usage]
  exact sound.counts

end Page.Sound

namespace Journal

/-- What is known of a store. -/
def Sound (journal : Journal) : Prop :=
  ∀ page ∈ journal.now :: journal.held, page.Sound journal.present

/-- What was present stays among what was ever present. -/
theorem present_subperm_turn (journal : Journal) (page : Page) :
    journal.present.Subperm (journal.turn page).present :=
  (List.sublist_append_left _ _).subperm

theorem counted_subperm_turn (journal : Journal) (page : Page) :
    page.counted.Subperm (journal.turn page).present := by
  rw [List.subperm_ext_iff]
  intro booking _
  rw [turn, List.count_append, List.count_diff]
  omega

theorem Sound.turn {journal : Journal} (sound : journal.Sound) {page : Page}
    (new : page.Sound (journal.turn page).present) : (journal.turn page).Sound := by
  intro other member
  rcases List.mem_cons.mp member with rfl | inside
  · exact new
  · exact (sound other inside).mono (journal.present_subperm_turn page)

theorem Sound.call {journal : Journal} (sound : journal.Sound) (call : Store.Call) :
    (journal.call call).Sound := by
  have now := sound journal.now List.mem_cons_self
  cases call with
  | add date booking =>
      rw [Journal.call]
      split
      · rename_i after ok
        have covered := journal.counted_subperm_turn ⟨after, booking :: journal.now.counted⟩
        exact sound.turn (now.add (journal.present_subperm_turn _) covered ok)
      · exact sound
  | remove label =>
      rw [Journal.call]
      split
      · rename_i booking after ok
        exact sound.turn ((now.remove ok).mono (journal.present_subperm_turn _))
      · exact sound
  | openAccount account =>
      exact sound.turn ((now.openAccount account).mono (journal.present_subperm_turn _))
  | restore number =>
      rw [Journal.call]
      split
      · rename_i earlier found
        have known := sound earlier (List.mem_cons_of_mem _ (List.mem_of_getElem? found))
        exact sound.turn (known.mono (journal.present_subperm_turn _))
      · exact sound

/-- A loaded ledger is a first page. -/
theorem sound_of_load {text : Text} {today : Option Date} {strict : Bool} {snapshot : Snapshot}
    (loaded : Snapshot.load text today strict = .ok snapshot) : (start snapshot).Sound := by
  intro page member
  rcases List.mem_singleton.mp member with rfl
  have settled := Snapshot.settled_of_load loaded
  exact {
    within := List.Subperm.refl _
    covered := List.Subperm.refl _
    counts := (Snapshot.sound_of_load loaded).indexed.counts
    listed := Snapshot.listed_of_load loaded
    summed := fun booking inside => Booking.exists_imbalance (settled.bookings booking inside).moneys
    closed := fun adds booking inside => Booking.closes_of_load adds inside loaded inside
    adds_up := fun adds => Snapshot.exact_of_load adds loaded }

theorem sound_of_empty (registry : Registry) : (start { registry }).Sound := by
  intro page member
  rcases List.mem_singleton.mp member with rfl
  exact {
    within := List.Subperm.refl _
    covered := List.Subperm.refl _
    counts := Counts.nil
    listed := ⟨Balances.listed_nil, List.nodup_nil, List.nodup_nil⟩
    summed := fun _ inside => by cases inside
    closed := fun _ _ inside => by cases inside
    adds_up := fun _ => Exact.nil }

theorem Grown.sound {journal : Journal} (grown : journal.Grown) : journal.Sound := by
  induction grown with
  | loaded ok => exact sound_of_load ok
  | empty registry => exact sound_of_empty registry
  | step _ call ih => exact ih.call call

end Journal
end Daybook
