import Daybook.Ledger.Line

namespace Daybook

/-!
# Lines on both sides of a gap

What a line is shows from its text and from its neighbours, but a blank line keeps the
neighbours on its two sides apart: no header looks further back than to it, and a word for a
relative day does not look past it for a posting.  So the lines in front of a gap and those
behind it are classified as if they stood alone, and only their numbers tell where they are.
-/

open Unicode

namespace Line

/-- Looking for a posting ends at a blank line. -/
theorem postingFollows_append {gap : Text} (blank : Text.isBlankText gap = true) (front back : List Text) :
    postingFollows (front ++ gap :: back) = postingFollows front := by
  induction front with
  | nil =>
      have ended : postingFollows (gap :: back) = false := by rw [postingFollows, if_pos blank]
      exact ended
  | cons raw rest ih => rw [List.cons_append, postingFollows, postingFollows, ih]

/-- Of the lines that follow, only the posting counts. -/
theorem ofUnindented_congr {following others : List Text}
    (same : postingFollows following = postingFollows others) (afterGap : Bool) (text : Text) :
    ofUnindented afterGap text following = ofUnindented afterGap text others := by
  unfold ofUnindented
  rw [same]

/-- The lines on the two sides of a gap. -/
theorem classifyFrom_append {gap : Text} (blank : Text.isBlankText gap = true) (afterGap : Bool)
    (number : Nat) (front back : List Text) :
    classifyFrom afterGap number (front ++ gap :: back) =
      classifyFrom afterGap number front ++ ⟨number + front.length, .gap⟩ ::
        classifyFrom true (number + front.length + 1) back := by
  induction front generalizing afterGap number with
  | nil =>
      have here : classifyFrom afterGap number (gap :: back) =
          ⟨number, .gap⟩ :: classifyFrom true (number + 1) back := by
        rw [classifyFrom]
        dsimp only
        rw [if_pos blank]
      exact here
  | cons raw rest ih =>
      have next : number + (raw :: rest).length = number + 1 + rest.length := by
        rw [List.length_cons]
        omega
      rw [List.cons_append, classifyFrom, classifyFrom, next]
      dsimp only
      rw [ofUnindented_congr (postingFollows_append blank rest back)]
      split
      · rw [ih, List.cons_append]
      · split
        · rw [ih]
        · rw [ih, List.cons_append]

/-- Lines are the same wherever the count begins. -/
theorem map_line_classifyFrom (afterGap : Bool) (number other : Nat) (raws : List Text) :
    (classifyFrom afterGap number raws).map (·.line) = (classifyFrom afterGap other raws).map (·.line) := by
  induction raws generalizing afterGap number other with
  | nil => rfl
  | cons raw rest ih =>
      rw [classifyFrom, classifyFrom]
      dsimp only
      split
      · rw [List.map_cons, List.map_cons, ih true]
      · split
        · exact ih afterGap _ _
        · rw [List.map_cons, List.map_cons, ih false]

end Line
end Daybook
