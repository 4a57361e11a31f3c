import Daybook.Proofs.Ledger.Source

namespace Daybook

/-!
# What the lines of a text show

Classifying passes over lines that hold nothing but a comment, so that the classified lines are
fewer than those of the text.  Each of them bears the number of the line it comes from and shows
what stands in that line in front of its comment; and no line with content is passed over.
-/

open Unicode Calendar

namespace Line

/-- Whether a line has content in front of its comment. -/
def HasContent (raw : Text) : Prop := Text.isBlankText (cutComment raw).1 = false

instance (raw : Text) : Decidable (HasContent raw) :=
  inferInstanceAs (Decidable (Text.isBlankText (cutComment raw).1 = false))

/-- Whether the content of a line begins with a blank. -/
def BeginsBlank (raw : Text) : Prop := ((cutComment raw).1.head?.map isBlank).getD false = true

instance (raw : Text) : Decidable (BeginsBlank raw) :=
  inferInstanceAs (Decidable (((cutComment raw).1.head?.map isBlank).getD false = true))

/-- What a line can be, given its text. -/
inductive Of (raw : Text) : Line → Prop
  | gap (blank : Text.isBlankText raw = true) : Of raw .gap
  | indented (content : HasContent raw) (indented : BeginsBlank raw) :
      Of raw (.indented (cutComment raw).1 (cutComment raw).2)
  | header (content : HasContent raw) (unindented : ¬ BeginsBlank raw)
      (words : isHeader (Text.words (Text.stripEnd (cutComment raw).1)) = true) :
      Of raw (.header ((Text.words (Text.stripEnd (cutComment raw).1)).length - 1))
  | date (content : HasContent raw) (unindented : ¬ BeginsBlank raw)
      (looks : (isDate (Text.stripEnd (cutComment raw).1) ||
        isDateLike (Text.stripEnd (cutComment raw).1)) = true) :
      Of raw (.date (Text.stripEnd (cutComment raw).1))
  | relative {day : RelativeDay} (content : HasContent raw) (unindented : ¬ BeginsBlank raw)
      (word : RelativeDay.ofWord? (Text.stripEnd (cutComment raw).1) = some day) : Of raw (.relative day)
  | description (content : HasContent raw) (unindented : ¬ BeginsBlank raw) :
      Of raw (.description (Text.stripEnd (cutComment raw).1))

theorem isPrefix_cutComment (raw : Text) : (cutComment raw).1 <+: raw := by
  rw [cutComment]
  by_cases marked : commentMark ∈ raw
  · rcases List.eq_append_cons_of_mem marked with ⟨front, back, rfl, absent⟩
    rw [Text.cutAt_append absent]
    exact List.prefix_append _ _
  · rw [Text.cutAt_of_not_mem marked]

/-- A line with content is not blank. -/
theorem HasContent.not_blank {raw : Text} (content : HasContent raw) : Text.isBlankText raw = false := by
  rw [HasContent, Text.isBlankText, List.all_eq_false] at content
  rcases content with ⟨c, member, solid⟩
  exact List.all_eq_false.mpr ⟨c, (isPrefix_cutComment raw).subset member, solid⟩

theorem of_ofUnindented {raw : Text} (content : HasContent raw) (unindented : ¬ BeginsBlank raw)
    (afterGap : Bool) (following : List Text) :
    Of raw (ofUnindented afterGap (Text.stripEnd (cutComment raw).1) following) := by
  unfold ofUnindented
  dsimp only
  split
  · rename_i header
    exact .header content unindented (Bool.and_eq_true_iff.mp header).2
  · split
    · rename_i looks
      exact .date content unindented looks
    · split
      · rename_i day word
        split
        · exact .description content unindented
        · exact .relative content unindented word
      · exact .description content unindented

/-- Classifying takes one line of the text after the other. -/
theorem classifyFrom_cons_cases (afterGap : Bool) (number : Nat) (raw : Text) (following : List Text) :
    (¬ HasContent raw ∧ ∃ gap,
        classifyFrom afterGap number (raw :: following) = classifyFrom gap (number + 1) following) ∨
      ∃ line gap, Of raw line ∧ (HasContent raw → line ≠ .gap) ∧
        classifyFrom afterGap number (raw :: following) =
          ⟨number, line⟩ :: classifyFrom gap (number + 1) following := by
  rw [classifyFrom]
  dsimp only
  split
  · rename_i blank
    refine Or.inr ⟨.gap, true, .gap blank, fun content => ?_, rfl⟩
    rw [content.not_blank] at blank
    cases blank
  · split
    · rename_i nothing
      exact Or.inl ⟨fun content => Bool.noConfusion (content.symm.trans nothing), _, rfl⟩
    · rename_i some_content
      have content : HasContent raw := Bool.eq_false_of_not_eq_true some_content
      split
      · rename_i indented
        exact Or.inr ⟨_, false, .indented content indented, fun _ same => (by cases same), rfl⟩
      · rename_i unindented
        have shows := of_ofUnindented content unindented afterGap following
        refine Or.inr ⟨_, false, shows, fun _ same => ?_, rfl⟩
        rw [same] at shows
        cases shows with
        | gap blank =>
            rw [content.not_blank] at blank
            cases blank

/-- Every line with content is classified under its number. -/
theorem exists_classified {raws : List Text} {raw : Text} {start number : Nat}
    (member : (raw, number) ∈ raws.zipIdx start) (content : HasContent raw) (afterGap : Bool) :
    ∃ line, ⟨number, line⟩ ∈ classifyFrom afterGap start raws ∧ Of raw line ∧ line ≠ .gap := by
  induction raws generalizing afterGap start with
  | nil => cases member
  | cons first following ih =>
      rw [List.zipIdx_cons] at member
      rcases classifyFrom_cons_cases afterGap start first following with
        ⟨nothing, gap, same⟩ | ⟨line, gap, shows, some_line, same⟩
      · rw [same]
        rcases List.mem_cons.mp member with here | later
        · rcases Prod.mk.inj here with ⟨rfl, rfl⟩
          exact absurd content nothing
        · exact ih later gap
      · rw [same]
        rcases List.mem_cons.mp member with here | later
        · rcases Prod.mk.inj here with ⟨rfl, rfl⟩
          exact ⟨line, List.mem_cons_self, shows, some_line content⟩
        · rcases ih later gap with ⟨other, inside, others⟩
          exact ⟨other, List.mem_cons_of_mem _ inside, others⟩

/-- Every classified line comes from the line of its number. -/
theorem exists_raw {raws : List Text} {afterGap : Bool} {start : Nat} {numbered : NumberedLine}
    (member : numbered ∈ classifyFrom afterGap start raws) :
    ∃ raw, (raw, numbered.number) ∈ raws.zipIdx start ∧ Of raw numbered.line := by
  induction raws generalizing afterGap start with
  | nil => cases member
  | cons first following ih =>
      rw [List.zipIdx_cons]
      rcases classifyFrom_cons_cases afterGap start first following with
        ⟨-, gap, same⟩ | ⟨line, gap, shows, -, same⟩
      · rw [same] at member
        rcases ih member with ⟨raw, inside, others⟩
        exact ⟨raw, List.mem_cons_of_mem _ inside, others⟩
      · rw [same] at member
        rcases List.mem_cons.mp member with rfl | later
        · exact ⟨first, List.mem_cons_self, shows⟩
        · rcases ih later with ⟨raw, inside, others⟩
          exact ⟨raw, List.mem_cons_of_mem _ inside, others⟩

/-- No two classified lines have one number. -/
theorem eq_of_number_eq {raws : List Text} {afterGap : Bool} {start : Nat} {one other : NumberedLine}
    (first : one ∈ classifyFrom afterGap start raws) (second : other ∈ classifyFrom afterGap start raws)
    (same : one.number = other.number) : one = other :=
  List.inj_on_of_nodup_map
    (List.pairwise_map.mpr ((numbers_of_classifyFrom afterGap start raws).2.imp Nat.ne_of_lt))
    first second same

end Line
end Daybook
