namespace Daybook
namespace Unicode

/-!
# Ascending ranges of code points

A character class of the Unicode standard is data: an ascending list of closed
ranges of code points.  The tables are kept apart from the rules that use
them, so that a rule names the class and never a code point.  The ranges of a
table are disjoint and ascending, so a search may stop at the first range that
begins above the code point it looks for.
-/

/-- Closed ranges of code points, in ascending order. -/
abbrev Ranges := List (Nat × Nat)

/-- Whether a code point lies in one of the ranges; the search stops at the
first range that begins above it. -/
def Ranges.covers : Ranges → Nat → Bool
  | [], _ => false
  | (first, last) :: rest, code =>
    if code < first then false
    else if code ≤ last then true
    else Ranges.covers rest code

/-- The first code point of the range that holds a code point. -/
def Ranges.start? : Ranges → Nat → Option Nat
  | [], _ => none
  | (first, last) :: rest, code =>
    if code < first then none
    else if code ≤ last then some first
    else Ranges.start? rest code

/-- The second search finds a range exactly where the first one does. -/
theorem Ranges.start?_isSome (ranges : Ranges) (code : Nat) :
    (ranges.start? code).isSome = ranges.covers code := by
  induction ranges with
  | nil => rfl
  | cons range rest ih =>
    obtain ⟨first, last⟩ := range
    simp only [Ranges.start?, Ranges.covers]
    split
    · rfl
    · split
      · rfl
      · exact ih

/-- A code point is covered only by a range of the table. -/
theorem Ranges.exists_mem_of_covers {ranges : Ranges} {code : Nat} :
    ranges.covers code = true →
      ∃ range ∈ ranges, range.1 ≤ code ∧ code ≤ range.2 := by
  induction ranges with
  | nil => simp [Ranges.covers]
  | cons range rest ih =>
    obtain ⟨first, last⟩ := range
    intro covered
    by_cases below : code < first
    · simp [Ranges.covers, below] at covered
    · by_cases within : code ≤ last
      · exact ⟨(first, last), by simp, by simp; omega, within⟩
      · simp only [Ranges.covers, if_neg below, if_neg within] at covered
        obtain ⟨found, member, bounds⟩ := ih covered
        exact ⟨found, List.mem_cons_of_mem _ member, bounds⟩

end Unicode
end Daybook
