import Daybook.Proofs.Ledger.Reader
import Daybook.Proofs.Ledger.Unplaced

namespace Daybook

/-!
# The final check

Reading ends with the open chapter closed and with every amount checked against the final
currencies.  The check looks at the amounts and at the numbers of decimals alone: not at the
lines of the postings, and not at any other attribute of a currency.  When it fails, it fails on
one posting, and for no other reason than that this one does not pass.
-/

namespace Money

variable {money checked : Money} {registry other : Registry}

/-- An amount passes whenever its currency has the number of decimals with which it passed. -/
theorem checkPrecision_congr
    (same : (other.currencyFor money.currency).precision = (registry.currencyFor money.currency).precision)
    (ok : money.checkPrecision registry = .ok checked) : money.checkPrecision other = .ok checked := by
  unfold checkPrecision at ok ⊢
  dsimp only at ok ⊢
  rw [same]
  rcases Outcome.bind_eq_ok.mp ok with ⟨unit, smallest, ok⟩
  rcases Outcome.bind_eq_ok.mp ok with ⟨shown, quantized, ok⟩
  refine Outcome.bind_eq_ok.mpr ⟨unit, smallest, Outcome.bind_eq_ok.mpr ⟨shown, quantized, ?_⟩⟩
  split at ok
  · rename_i exact_
    rw [if_pos exact_]
    exact ok
  · cases ok

end Money

namespace Chapter

variable {registry : Registry} {chapters others : List Chapter}

def postingsOf (chapters : List Chapter) : List Posting :=
  (chapters.flatMap (·.bookings)).flatMap (·.postings)

theorem postingsOf_append (front back : List Chapter) :
    postingsOf (front ++ back) = postingsOf front ++ postingsOf back := by
  rw [postingsOf, List.flatMap_append, List.flatMap_append, postingsOf, postingsOf]

theorem moneys_unplaced (chapters : List Chapter) :
    (postingsOf (chapters.map (·.unplaced))).map (·.money) = (postingsOf chapters).map (·.money) := by
  simp only [postingsOf, unplaced, Booking.unplaced, Posting.unplaced, List.flatMap_map, List.map_flatMap,
    List.flatMap_assoc, List.map_map, Function.comp_def]

/-- Whether the amounts of all postings pass the check. -/
def Checked (registry : Registry) (chapters : List Chapter) : Prop :=
  ∀ posting ∈ postingsOf chapters, ∀ money, posting.money = some money →
    money.checkPrecision registry = .ok money

/-- The check passes wherever the postings stand. -/
theorem Checked.alike (checked : Checked registry chapters)
    (same : others.map (·.unplaced) = chapters.map (·.unplaced)) : Checked registry others := by
  have moneys : (postingsOf others).map (·.money) = (postingsOf chapters).map (·.money) := by
    rw [← moneys_unplaced, same, moneys_unplaced]
  intro posting member money given
  have among : some money ∈ (postingsOf chapters).map (·.money) := by
    rw [← moneys, ← given]
    exact List.mem_map_of_mem member
  rcases List.mem_map.mp among with ⟨other, inside, also⟩
  exact checked other inside money also

theorem Checked.congr (checked : Checked registry chapters) {other : Registry}
    (same : ∀ designator, (other.currencyFor designator).precision =
      (registry.currencyFor designator).precision) : Checked other chapters :=
  fun posting member money given =>
    Money.checkPrecision_congr (same money.currency) (checked posting member money given)

end Chapter

namespace Reader

variable {reader closed : Reader} {failure : Failure}

theorem checkPostings_of_each {reader : Reader} {postings : List Posting}
    (each : ∀ posting ∈ postings, ∀ money, posting.money = some money →
      money.checkPrecision reader.registry = .ok money) : reader.checkPostings postings = .ok () := by
  induction postings with
  | nil => rfl
  | cons posting rest ih =>
      have here : reader.checkPosting posting = .ok () := by
        unfold checkPosting
        cases given : posting.money with
        | none => rfl
        | some money =>
            dsimp only
            rw [each posting List.mem_cons_self money given]
      rw [checkPostings, here]
      exact ih fun other member => each other (List.mem_cons_of_mem _ member)

/-- A posting fails the check because its amount does; the failure may say where. -/
theorem exists_refusal_of_checkPosting {posting : Posting}
    (failed : reader.checkPosting posting = .error failure) :
    ∃ money refusal, posting.money = some money ∧ money.checkPrecision reader.registry = .error refusal ∧
      (failure = refusal ∨ ∃ line column, posting.line = some line ∧ failure = refusal.placedAt line column) := by
  unfold checkPosting at failed
  split at failed
  · cases failed
  · rename_i money given
    split at failed
    · cases failed
    · rename_i refusal refused
      refine ⟨money, refusal, given, refused, ?_⟩
      split at failed
      · rename_i line placed
        exact Or.inr ⟨line, _, placed, (Except.error.inj failed).symm⟩
      · exact Or.inl (Except.error.inj failed).symm

theorem exists_posting_of_checkPostings {postings : List Posting}
    (failed : reader.checkPostings postings = .error failure) :
    ∃ posting ∈ postings, reader.checkPosting posting = .error failure := by
  induction postings with
  | nil => cases failed
  | cons posting rest ih =>
      rcases Outcome.bind_eq_error.mp failed with refused | ⟨⟨⟩, -, later⟩
      · exact ⟨posting, List.mem_cons_self, refused⟩
      · rcases ih later with ⟨other, inside, refused⟩
        exact ⟨other, List.mem_cons_of_mem posting inside, refused⟩

/-- The chapters of a reader, the open one last. -/
def chapters (reader : Reader) : List Chapter := reader.closedChapters ++ reader.chapter.toList

/-- At the end there is no more to do than to check the amounts. -/
theorem finish_of_closeBooking (ended : reader.closeBooking = .ok closed) :
    reader.finish = (closed.closeChapter.checkPostings (Chapter.postingsOf closed.chapters)).map
      fun _ => ⟨closed.registry, closed.chapters⟩ := by
  rw [finish, ended]
  rfl

theorem finish_eq_ok_iff {reading : Reading} :
    reader.finish = .ok reading ↔
      ∃ closed, reader.closeBooking = .ok closed ∧ reading = ⟨closed.registry, closed.chapters⟩ ∧
        Chapter.Checked closed.registry closed.chapters := by
  constructor
  · intro ok
    rcases Outcome.bind_eq_ok.mp ok with ⟨closed, ended, -⟩
    rw [finish_of_closeBooking ended] at ok
    rcases Outcome.map_eq_ok.mp ok with ⟨⟨⟩, checked, rfl⟩
    refine ⟨closed, ended, rfl, fun posting member money given => ?_⟩
    rcases checkPostings_eq_ok checked member given with ⟨same, passed⟩
    rwa [Money.eq_of_checkPrecision passed] at passed
  · rintro ⟨closed, ended, rfl, checked⟩
    rw [finish_of_closeBooking ended, @checkPostings_of_each closed.closeChapter _ checked]
    rfl

end Reader

namespace Reading

variable {text : Text} {today : Option Calendar.Date} {registry : Registry} {strict : Bool} {reading : Reading}

/-- What is read of a text stood in the state at the end of its lines, and passed the check. -/
theorem exists_finish_of_ofText (ok : ofText text today registry strict = .ok reading) :
    ∃ reader closed, Reader.steps
        { today, registry := if strict then registry.withClosed true else registry }
        (Line.classify (Text.lines text)) = .ok reader ∧
      reader.closeBooking = .ok closed ∧ reading = ⟨closed.registry, closed.chapters⟩ ∧
      Chapter.Checked reading.registry reading.chapters := by
  rcases Outcome.bind_eq_ok.mp ok with ⟨reader, run, finished⟩
  rcases Reader.finish_eq_ok_iff.mp finished with ⟨closed, ended, rfl, checked⟩
  exact ⟨reader, closed, run, ended, rfl, checked⟩

end Reading
end Daybook
