import Daybook.Proofs.Text.Words

namespace Daybook
namespace Text

/-!
# Lines of a text

A text that is written line by line, each with a line feed, is read as these lines
if none of them holds an end of a line.  Reading never gives a line that holds one.
All ends of lines are blank, so that a text in which no blank but the space occurs
is a line.
-/

open Unicode

/-- Whether a text holds no end of a line. -/
def IsLine (text : Text) : Prop := ∀ c ∈ text, isLineBreak c = false

instance (text : Text) : Decidable (IsLine text) :=
  decidable_of_iff (text.all fun c => !isLineBreak c) (by simp only [IsLine, List.all_eq_true, Bool.not_eq_true'])

theorem isBlank_of_isLineBreak {c : Char} (ends : isLineBreak c = true) : isBlank c = true := by
  simp only [isLineBreak, Bool.or_eq_true, beq_iff_eq] at ends
  rcases ends with ((((((((rfl | rfl) | rfl) | rfl) | rfl) | rfl) | rfl) | rfl) | rfl) | rfl <;> decide

theorem not_isLineBreak_of_not_isBlank {c : Char} (solid : isBlank c = false) :
    isLineBreak c = false := by
  by_contra ends
  rw [Bool.not_eq_false] at ends
  rw [isBlank_of_isLineBreak ends] at solid
  cases solid

theorem IsSolid.isLine {text : Text} (solid : IsSolid text) : IsLine text :=
  fun c member => not_isLineBreak_of_not_isBlank (solid c member)

theorem IsLine.append {front back : Text} (first : IsLine front) (second : IsLine back) :
    IsLine (front ++ back) := by
  intro c member
  rcases List.mem_append.mp member with inside | inside
  · exact first c inside
  · exact second c inside

theorem IsLine.cons {c : Char} {text : Text} (letter : isLineBreak c = false) (line : IsLine text) :
    IsLine (c :: text) := by
  intro d member
  rcases List.mem_cons.mp member with rfl | inside
  · exact letter
  · exact line d inside

theorem isLine_nil : IsLine [] := fun _ member => by cases member

theorem isLine_join {pieces : List Text} {separator : Text} (between : IsLine separator)
    (each : ∀ piece ∈ pieces, IsLine piece) : IsLine (join separator pieces) := by
  intro c member
  rcases mem_join member with inside | ⟨piece, among, inside⟩
  · exact between c inside
  · exact each piece among c inside

theorem isLine_collapse (text : Text) : IsLine (collapse text) := by
  intro c member
  rcases mem_collapse member with rfl | ⟨-, solid⟩
  · decide
  · exact not_isLineBreak_of_not_isBlank solid

theorem isLine_replicate (count : Nat) : IsLine (List.replicate count ' ') := by
  intro c member
  rw [(List.mem_replicate.mp member).2]
  decide

/-! ## Reading what was written -/

theorem linesFrom_append {line : Text} (one : IsLine line) (current rest : Text) :
    linesFrom current (line ++ '\n' :: rest) = (current.reverse ++ line) :: linesFrom [] rest := by
  induction line generalizing current with
  | nil =>
      rw [List.nil_append, List.append_nil, linesFrom]
      · rfl
      · rintro _ ⟨⟩
  | cons c others ih =>
      have letter := one c List.mem_cons_self
      have not_return : c ≠ '\r' := by
        rintro rfl
        revert letter
        decide
      rw [List.cons_append, linesFrom, letter, if_neg Bool.false_ne_true,
        ih fun d member => one d (List.mem_cons_of_mem _ member), List.reverse_cons,
        List.append_assoc, List.singleton_append]
      rintro _ same _
      exact not_return same

/-- The text of lines, each with its line feed. -/
def ofLines (lines : List Text) : Text := lines.flatMap fun line => line ++ ['\n']

theorem ofLines_cons (line : Text) (rest : List Text) :
    ofLines (line :: rest) = line ++ '\n' :: ofLines rest := by
  rw [ofLines, List.flatMap_cons, List.append_assoc]
  rfl

theorem lines_ofLines {lines : List Text} (each : ∀ line ∈ lines, IsLine line) :
    Text.lines (ofLines lines) = lines := by
  induction lines with
  | nil => rfl
  | cons line rest ih =>
      rw [ofLines_cons, Text.lines, linesFrom_append (each line List.mem_cons_self),
        List.reverse_nil, List.nil_append]
      exact congrArg _ (ih fun other member => each other (List.mem_cons_of_mem _ member))

/-- Lines that are joined by line feeds and closed by one. -/
theorem join_lines {lines : List Text} (some_line : lines ≠ []) :
    join ['\n'] lines ++ ['\n'] = ofLines lines := by
  induction lines with
  | nil => exact absurd rfl some_line
  | cons line rest ih =>
      cases rest with
      | nil => simp [join, ofLines]
      | cons second others =>
          rw [join_cons_cons, List.append_assoc, List.append_assoc, ih (List.cons_ne_nil _ _),
            ofLines_cons line, List.singleton_append]

/-! ## Lines that were read -/

theorem isLine_of_mem_linesFrom {current text line : Text} (before : IsLine current)
    (member : line ∈ linesFrom current text) : IsLine line := by
  have reversed : IsLine current.reverse := fun c inside => before c (List.mem_reverse.mp inside)
  fun_induction linesFrom current text with
  | case1 current empty => cases member
  | case2 current filled =>
      rw [List.mem_singleton.mp member]
      exact reversed
  | case3 current rest ih =>
      rcases List.mem_cons.mp member with rfl | later
      · exact reversed
      · exact ih isLine_nil later isLine_nil
  | case4 current c rest other ends ih =>
      rcases List.mem_cons.mp member with rfl | later
      · exact reversed
      · exact ih isLine_nil later isLine_nil
  | case5 current c rest other letter ih =>
      have next : IsLine (c :: current) := before.cons (by simpa using letter)
      exact ih next member fun d inside => next d (List.mem_reverse.mp inside)

theorem isLine_of_mem_lines {text line : Text} (member : line ∈ Text.lines text) : IsLine line :=
  isLine_of_mem_linesFrom isLine_nil member

/-! ## Lines of a joined text -/

/-- A line feed behind a text ends its last line, unless that has ended already: then it is a
blank line of its own, or a part of the carriage return before it. -/
theorem exists_linesFrom_append_feed (current front back : Text) :
    ∃ gap, (gap = [] ∨ gap = [[]]) ∧
      linesFrom current (front ++ '\n' :: back) = linesFrom current front ++ gap ++ linesFrom [] back := by
  have feed (current : Text) : linesFrom current ('\n' :: back) = current.reverse :: linesFrom [] back := by
    rw [linesFrom, if_pos (by decide)]
    rintro _ ⟨⟩
  fun_induction linesFrom current front with
  | case1 current empty =>
      obtain rfl : current = [] := by simpa using empty
      exact ⟨[[]], Or.inr rfl, feed []⟩
  | case2 current filled => exact ⟨[], Or.inl rfl, feed current⟩
  | case3 current rest ih =>
      rcases ih with ⟨gap, few, same⟩
      refine ⟨gap, few, ?_⟩
      rw [List.cons_append, List.cons_append, linesFrom, same]
      rfl
  | case4 current c rest other ends ih =>
      -- A carriage return at the very end takes the line feed with it.
      by_cases last : c = '\r' ∧ rest = []
      · rcases last with ⟨rfl, rfl⟩
        refine ⟨[], Or.inl rfl, ?_⟩
        rw [List.cons_append, List.nil_append, linesFrom]
        rfl
      · rcases ih with ⟨gap, few, same⟩
        refine ⟨gap, few, ?_⟩
        rw [List.cons_append, linesFrom, if_pos ends, same]
        · rfl
        · rintro tail rfl shape
          cases rest with
          | nil => exact last ⟨rfl, rfl⟩
          | cons d more =>
              rcases List.cons.inj shape with ⟨rfl, -⟩
              exact other more rfl rfl
  | case5 current c rest other letter ih =>
      rcases ih with ⟨gap, few, same⟩
      refine ⟨gap, few, ?_⟩
      rw [List.cons_append, linesFrom, if_neg letter, same]
      rintro tail rfl
      exact absurd (by decide) letter

/-- Two texts with two line feeds between them are made of the lines of the two with one or
two blank lines between them. -/
theorem exists_lines_append_feeds (front back : Text) :
    ∃ gap, (gap = [] ∨ gap = [[]]) ∧
      lines (front ++ ['\n', '\n'] ++ back) = lines front ++ gap ++ [] :: lines back := by
  rcases exists_linesFrom_append_feed [] front ('\n' :: back) with ⟨gap, few, same⟩
  refine ⟨gap, few, ?_⟩
  rw [List.append_assoc]
  exact same

end Text
end Daybook
