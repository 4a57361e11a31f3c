import Daybook.Proofs.Ledger.Outline
import Daybook.Proofs.Ledger.Renumbered

namespace Daybook

/-!
# Comments are invisible

Lines that hold nothing but a comment can be put anywhere into a text, and a comment can be put
behind every line that is not blank, and what is read from the text stays the same but for the
numbers of the lines.  Blank lines are left out because with a comment they would end nothing any
more, and currency entries because there the comment is the name of the currency.

Two things could go wrong.  A comment is cut off where a line is classified and once more where
the word for a relative day looks for a posting below; and a line of comments counts for neither
of them, so that it must not separate what belongs together.
-/

open Unicode Calendar

namespace Line

/-- Whether a line holds nothing but a comment. -/
def IsRemark (raw : Text) : Prop :=
  ∃ blank text, Text.isBlankText blank = true ∧ raw = blank ++ commentMark :: text

/-- A comment behind a line leaves its content alone. -/
theorem cutComment_append (raw text : Text) :
    (cutComment (raw ++ commentMark :: text)).1 = (cutComment raw).1 := by
  unfold cutComment
  by_cases marked : commentMark ∈ raw
  · rcases List.eq_append_cons_of_mem marked with ⟨front, back, rfl, absent⟩
    rw [List.append_assoc, List.cons_append, Text.cutAt_append absent, Text.cutAt_append absent]
  · rw [Text.cutAt_append marked, Text.cutAt_of_not_mem marked]

theorem isBlankText_append_comment (raw text : Text) :
    Text.isBlankText (raw ++ commentMark :: text) = false := by
  rw [Text.isBlankText, List.all_append, List.all_cons, show isBlank commentMark = false by decide,
    Bool.false_and, Bool.and_false]

namespace IsRemark

variable {raw : Text}

theorem not_blank (remark : IsRemark raw) : Text.isBlankText raw = false := by
  rcases remark with ⟨blank, text, -, rfl⟩
  exact isBlankText_append_comment blank text

/-- There is no content in front of the comment. -/
theorem no_content (remark : IsRemark raw) : Text.isBlankText (cutComment raw).1 = true := by
  rcases remark with ⟨blank, text, is_blank, rfl⟩
  rw [cutComment_append]
  rw [Text.isBlankText, List.all_eq_true] at is_blank ⊢
  exact fun c member => is_blank c ((isPrefix_cutComment blank).subset member)

/-- Lines of comments are passed over. -/
theorem classifyFrom_eq {remarks : List Text} (all : ∀ raw ∈ remarks, IsRemark raw) (afterGap : Bool)
    (number : Nat) (following : List Text) :
    classifyFrom afterGap number (remarks ++ following) =
      classifyFrom afterGap (number + remarks.length) following := by
  induction remarks generalizing number with
  | nil => rfl
  | cons raw rest ih =>
      have remark := all raw List.mem_cons_self
      rw [List.cons_append, classifyFrom]
      dsimp only
      rw [remark.not_blank, remark.no_content, if_neg Bool.false_ne_true, if_pos rfl,
        ih fun other member => all other (List.mem_cons_of_mem _ member), List.length_cons]
      congr 1
      omega

theorem postingFollows_eq {remarks : List Text} (all : ∀ raw ∈ remarks, IsRemark raw)
    (following : List Text) : postingFollows (remarks ++ following) = postingFollows following := by
  induction remarks with
  | nil => rfl
  | cons raw rest ih =>
      have remark := all raw List.mem_cons_self
      have blank := remark.no_content
      rw [List.cons_append, postingFollows, remark.not_blank, if_neg Bool.false_ne_true]
      split
      · exact ih fun other member => all other (List.mem_cons_of_mem _ member)
      · rename_i c more content
        rw [content] at blank
        rw [if_pos blank]
        exact ih fun other member => all other (List.mem_cons_of_mem _ member)

end IsRemark
end Line

/-- Comments to be put into a text: lines with nothing but a comment above the line of a number,
and a comment behind it. -/
structure Remarks where
  above : Nat → List Text
  behind : Nat → Option Text
  remarks : ∀ number, ∀ raw ∈ above number, Line.IsRemark raw

namespace Remarks

def extended (remarks : Remarks) (number : Nat) (raw : Text) : Text :=
  match remarks.behind number with
  | none => raw
  | some text => raw ++ commentMark :: text

/-- The lines with the comments, given how many lines precede them. -/
def intoFrom (remarks : Remarks) : Nat → List Text → List Text
  | count, [] => remarks.above (count + 1)
  | count, raw :: rest =>
    remarks.above (count + 1) ++ remarks.extended (count + 1) raw :: intoFrom remarks (count + 1) rest

def into (remarks : Remarks) (raws : List Text) : List Text := remarks.intoFrom 0 raws

/-- The number that a line has when the comments are put in. -/
def moved (remarks : Remarks) : Nat → Nat
  | 0 => 0
  | count + 1 => remarks.moved count + 1 + (remarks.above (count + 1)).length

/-- Whether comments may be put behind the lines for which there are some: none is put behind a
blank line or a currency entry. -/
structure Fits (remarks : Remarks) (raws : List Text) : Prop where
  filled : ∀ raw number, (raw, number) ∈ raws.zipIdx 1 → Text.isBlankText raw = true →
    remarks.behind number = none
  entries : ∀ entry ∈ Line.entries (Line.classify raws), remarks.behind entry.1 = none

variable {remarks : Remarks}

theorem strictMono_moved (remarks : Remarks) : StrictMono remarks.moved :=
  strictMono_nat_of_lt_succ fun count => by
    rw [moved]
    omega

/-- A comment behind a line that is not blank leaves everything but the comment alone. -/
theorem extended_eq {number : Nat} {raw : Text}
    (fits : Text.isBlankText raw = true → remarks.behind number = none) :
    Text.isBlankText (remarks.extended number raw) = Text.isBlankText raw ∧
      (Line.cutComment (remarks.extended number raw)).1 = (Line.cutComment raw).1 := by
  unfold extended
  cases behind : remarks.behind number with
  | none => exact ⟨rfl, rfl⟩
  | some text =>
      refine ⟨?_, Line.cutComment_append raw text⟩
      rw [Line.isBlankText_append_comment]
      cases blank : Text.isBlankText raw with
      | false => rfl
      | true =>
          rw [fits blank] at behind
          cases behind

/-- Comments hide no posting and show none. -/
theorem postingFollows_intoFrom {count : Nat} {raws : List Text}
    (fits : ∀ raw number, (raw, number) ∈ raws.zipIdx (count + 1) → Text.isBlankText raw = true →
      remarks.behind number = none) :
    Line.postingFollows (remarks.intoFrom count raws) = Line.postingFollows raws := by
  induction raws generalizing count with
  | nil =>
      have none_follow := Line.IsRemark.postingFollows_eq (remarks.remarks (count + 1)) []
      rwa [List.append_nil] at none_follow
  | cons raw rest ih =>
      rw [List.zipIdx_cons] at fits
      have here := extended_eq (fits raw (count + 1) List.mem_cons_self)
      have later := ih fun other number member => fits other number (List.mem_cons_of_mem _ member)
      rw [intoFrom, Line.IsRemark.postingFollows_eq (remarks.remarks (count + 1)), Line.postingFollows,
        Line.postingFollows, here.1, here.2, later]

/-- The lines of a text with comments are read like those without. -/
theorem renumbered_intoFrom {count : Nat} {raws : List Text} {afterGap inBlock : Bool}
    (filled : ∀ raw number, (raw, number) ∈ raws.zipIdx (count + 1) → Text.isBlankText raw = true →
      remarks.behind number = none)
    (entries : ∀ entry ∈ Line.collect Line.entryOf inBlock (Line.classifyFrom afterGap (count + 1) raws),
      remarks.behind entry.1 = none) :
    Line.Renumbered remarks.moved inBlock (Line.classifyFrom afterGap (count + 1) raws)
      (Line.classifyFrom afterGap (remarks.moved count + 1) (remarks.intoFrom count raws)) := by
  induction raws generalizing count afterGap inBlock with
  | nil =>
      have passed := Line.IsRemark.classifyFrom_eq (remarks.remarks (count + 1)) afterGap
        (remarks.moved count + 1) []
      rw [List.append_nil] at passed
      rw [intoFrom, passed]
      exact .nil
  | cons raw rest ih =>
      rw [List.zipIdx_cons] at filled
      have here := extended_eq (filled raw (count + 1) List.mem_cons_self)
      have later := fun other number member => filled other number (List.mem_cons_of_mem _ member)
      have follows := postingFollows_intoFrom later
      rw [intoFrom, Line.IsRemark.classifyFrom_eq (remarks.remarks (count + 1)), ← moved]
      rw [Line.classifyFrom] at entries ⊢
      rw [Line.classifyFrom]
      dsimp only at entries ⊢
      rw [here.1, here.2]
      split at entries
      · rename_i blank
        rw [if_pos blank, if_pos blank]
        exact .cons (.same _) (ih later entries)
      · rename_i filled
        rw [if_neg filled, if_neg filled]
        split at entries
        · rename_i nothing
          rw [if_pos nothing, if_pos nothing]
          exact ih later entries
        · rename_i content
          rw [if_neg content, if_neg content]
          have rest_entries := fun entry member => entries entry (List.mem_append_right _ member)
          split at entries
          · rename_i indented
            rw [if_pos indented] at rest_entries ⊢
            rw [if_pos indented]
            refine .cons ?_ (ih later rest_entries)
            cases inBlock with
            | false => exact .posting _ _ _ rfl
            | true =>
                have none_behind : remarks.behind (count + 1) = none := entries _ List.mem_cons_self
                have unchanged : remarks.extended (count + 1) raw = raw := by rw [extended, none_behind]
                rw [unchanged]
                exact .same _
          · rename_i unindented
            rw [if_neg unindented] at rest_entries ⊢
            rw [if_neg unindented, Line.ofUnindented_congr follows]
            exact .cons (.same _) (ih later rest_entries)

end Remarks

namespace Reading

variable {text other : Text}

/-- A text with comments is read like the text without them: what is read, or the fault that is
found, is the same, and only the lines have the numbers that they are moved to. -/
theorem ofText_remarks (remarks : Remarks) (fits : remarks.Fits (Text.lines text))
    (put_in : Text.lines other = remarks.into (Text.lines text)) (today : Option Date) (registry : Registry)
    (strict : Bool) :
    ofText other today registry strict =
      Outcome.renumber remarks.moved (·.renumber remarks.moved) (ofText text today registry strict) := by
  refine ofText_renumber remarks.strictMono_moved.injective ?_ today registry strict
  rw [put_in]
  exact Remarks.renumbered_intoFrom fits.filled fits.entries

/-- A booking that is called like a day. -/
def picnicText : Text :=
  Text.ofLines ["2024-01-05".toList, "today".toList, "    food  $2.50".toList, "    cash".toList]

/-- The booking with a comment behind its description and a line of comments below. -/
def remarkedPicnicText : Text :=
  Text.ofLines ["2024-01-05".toList, "today; no day".toList, "\t; paid in cash".toList,
    "    food  $2.50".toList, "    cash".toList]

def picnicRemarks : Remarks where
  above number := if number = 3 then ["\t; paid in cash".toList] else []
  behind number := if number = 2 then some " no day".toList else none
  remarks := by
    intro number raw member
    split at member
    · rw [List.mem_singleton.mp member]
      exact ⟨"\t".toList, " paid in cash".toList, by decide, by decide⟩
    · cases member

theorem picnic_remarked :
    Text.lines remarkedPicnicText = picnicRemarks.into (Text.lines picnicText) ∧
      ofText remarkedPicnicText none {} true =
        .error (.ledger { cause := .unknownCurrency ['$'], line := some 4, column := some 11 }) ∧
      ∀ strict, ofText remarkedPicnicText none {} strict =
        Outcome.renumber picnicRemarks.moved (·.renumber picnicRemarks.moved)
          (ofText picnicText none {} strict) := by
  have put_in : Text.lines remarkedPicnicText = picnicRemarks.into (Text.lines picnicText) := by
    decide +kernel
  have filled : ∀ line ∈ (Text.lines picnicText).zipIdx 1, Text.isBlankText line.1 = true →
      picnicRemarks.behind line.2 = none := by decide +kernel
  have fits : picnicRemarks.Fits (Text.lines picnicText) :=
    ⟨fun raw number member => filled (raw, number) member, by decide +kernel⟩
  exact ⟨put_in, by decide +kernel, fun strict => ofText_remarks picnicRemarks fits put_in none {} strict⟩

end Reading
end Daybook
