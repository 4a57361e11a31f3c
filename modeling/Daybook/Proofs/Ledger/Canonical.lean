import Daybook.Ledger.Printed
import Daybook.Ledger.Reader
import Daybook.Proofs.Ledger.Entry

namespace Daybook

/-!
# The lines of a canonical text

A canonical text is made of blocks of lines, with one empty line between neighbours.
What a line of it is taken for can mostly be told from the line alone.  Only the word
for a relative day needs the posting behind it to be a description, and nothing makes
a description of a line that looks like a date.
-/

open Unicode

def Registry.headerLine (registry : Registry) : Text :=
  if registry.closed then headerWord ++ ' ' :: closedWord else headerWord

theorem Registry.blockLines_of_empty {registry : Registry} (empty : registry.currencies.isEmpty = true) :
    registry.blockLines = [] := by
  rw [blockLines, empty, if_pos rfl]

theorem Registry.blockLines_of_filled {registry : Registry}
    (filled : registry.currencies.isEmpty = false) :
    registry.blockLines = registry.headerLine :: registry.toList.map (·.entryLine) := by
  rw [blockLines, filled, if_neg Bool.false_ne_true]
  rfl

namespace Snapshot

/-- The lines of blocks, with an empty line between neighbours. -/
def linesOf (blocks : List (List Text)) : List Text := [[]].intercalate blocks

theorem linesOf_cons (block : List Text) {rest : List (List Text)} (more : rest ≠ []) :
    linesOf (block :: rest) = block ++ [] :: linesOf rest := by
  rw [linesOf, List.intercalate_cons_of_ne_nil more, List.append_assoc]
  rfl

theorem linesOf_eq (block : List Text) (rest : List (List Text)) :
    linesOf (block :: rest) = block ++ rest.flatMap ([] :: ·) := by
  induction rest generalizing block with
  | nil => rw [linesOf, List.intercalate_singleton, List.flatMap_nil, List.append_nil]
  | cons second others ih => rw [linesOf_cons block (List.cons_ne_nil _ _), ih, List.flatMap_cons]; rfl

theorem mem_linesOf {blocks : List (List Text)} {line : Text} (member : line ∈ linesOf blocks) :
    line = [] ∨ ∃ block ∈ blocks, line ∈ block := by
  cases blocks with
  | nil => cases member
  | cons block rest =>
      rw [linesOf_eq, List.mem_append, List.mem_flatMap] at member
      rcases member with inside | ⟨other, among, inside⟩
      · exact Or.inr ⟨block, List.mem_cons_self, inside⟩
      · rcases List.mem_cons.mp inside with rfl | inside
        · exact Or.inl rfl
        · exact Or.inr ⟨other, List.mem_cons_of_mem _ among, inside⟩

theorem join_blocks {blocks : List (List Text)} (some_block : blocks ≠ [])
    (filled : ∀ block ∈ blocks, block ≠ []) :
    Text.join ['\n', '\n'] (blocks.map (Text.join ['\n'])) ++ ['\n'] = Text.ofLines (linesOf blocks) := by
  induction blocks with
  | nil => exact absurd rfl some_block
  | cons block rest ih =>
      have here := Text.join_lines (filled block List.mem_cons_self)
      cases rest with
      | nil =>
          rw [linesOf, List.intercalate_singleton]
          exact here
      | cons second others =>
          have later := ih (List.cons_ne_nil _ _) fun other member => filled other (List.mem_cons_of_mem _ member)
          rw [linesOf_cons block (List.cons_ne_nil _ _), Text.ofLines, List.flatMap_append, ← Text.ofLines,
            ← Text.ofLines, Text.ofLines_cons, ← later, ← here, List.map_cons,
            Text.join_cons_of_ne_nil _ _ (by simp)]
          simp

/-- The blocks of a ledger whose chapters are printed as the given ones. -/
def blocksOf (registry : Registry) (chapters : List (List Text)) : List (List Text) :=
  if registry.blockLines.isEmpty then chapters else registry.blockLines :: chapters

/-- The block of currencies, where there is one, comes first. -/
theorem linesOf_blocksOf {registry : Registry} (filled : registry.currencies.isEmpty = false)
    (chapters : List (List Text)) :
    linesOf (blocksOf registry chapters) = registry.blockLines ++ chapters.flatMap ([] :: ·) := by
  rw [blocksOf, if_neg, linesOf_eq]
  rw [Registry.blockLines_of_filled filled, List.isEmpty_cons]
  exact Bool.false_ne_true

theorem blocksOf_congr {registry other : Registry} (same : other.blockLines = registry.blockLines) :
    blocksOf other = blocksOf registry := by
  funext chapters
  rw [blocksOf, blocksOf, same]

theorem ne_nil_of_blocks {registry : Registry} {column : Int} {chapters : List Chapter}
    {blocks : List (List Text)} (ok : Chapter.blocks registry column chapters = .ok blocks) :
    ∀ block ∈ blocks, block ≠ [] := by
  induction chapters generalizing blocks with
  | nil =>
      rcases Except.ok.inj ok with rfl
      exact fun _ member => by cases member
  | cons chapter rest ih =>
      rcases Outcome.bind_eq_ok.mp ok with ⟨lines, printed, ok⟩
      rcases Outcome.bind_eq_ok.mp ok with ⟨others, later, ok⟩
      rcases Except.ok.inj ok with rfl
      rcases Outcome.map_eq_ok.mp printed with ⟨behind, -, rfl⟩
      intro block member
      rcases List.mem_cons.mp member with rfl | inside
      · exact List.cons_ne_nil _ _
      · exact ih later block inside

/-- A canonical text is made of the lines of its blocks. -/
theorem format_eq (snapshot : Snapshot) (column : Int) :
    snapshot.format column =
      (Chapter.blocks snapshot.registry column snapshot.chapters).map fun chapters =>
        Text.ofLines (linesOf (blocksOf snapshot.registry chapters)) := by
  unfold format
  cases printed : Chapter.blocks snapshot.registry column snapshot.chapters with
  | error failure => rfl
  | ok chapters =>
      change (if (blocksOf snapshot.registry chapters).isEmpty then Except.ok []
        else Except.ok (Text.join ['\n', '\n']
          ((blocksOf snapshot.registry chapters).map (Text.join ['\n'])) ++ ['\n'])) =
        Except.ok (Text.ofLines (linesOf (blocksOf snapshot.registry chapters)))
      split
      · rename_i nothing
        rw [List.isEmpty_iff.mp nothing]
        rfl
      · rename_i something
        rw [join_blocks (mt List.isEmpty_iff.mpr something)]
        intro block member
        unfold blocksOf at member
        split at member
        · exact ne_nil_of_blocks printed block member
        · rename_i listed
          rcases List.mem_cons.mp member with rfl | inside
          · exact mt List.isEmpty_iff.mpr listed
          · exact ne_nil_of_blocks printed block inside

end Snapshot

namespace Line

/-! ## Lines in general -/

/-- What a line is taken for does not depend on what precedes it, but for a break. -/
theorem exists_classifyFrom (afterGap : Bool) (number : Nat) (front back : List Text) :
    ∃ numbered break_, classifyFrom afterGap number (front ++ back) =
      numbered ++ classifyFrom break_ (number + front.length) back := by
  induction front generalizing afterGap number with
  | nil => exact ⟨[], afterGap, rfl⟩
  | cons raw rest ih =>
      have length : number + (raw :: rest).length = number + 1 + rest.length := by
        rw [List.length_cons]
        omega
      rw [List.cons_append, classifyFrom, length]
      dsimp only
      split
      · rcases ih true (number + 1) with ⟨numbered, break_, equal⟩
        exact ⟨_ :: numbered, break_, congrArg _ equal⟩
      · split
        · exact ih afterGap (number + 1)
        · rcases ih false (number + 1) with ⟨numbered, break_, equal⟩
          exact ⟨_ :: numbered, break_, congrArg _ equal⟩

theorem classifyFrom_nil_line (afterGap : Bool) (number : Nat) (following : List Text) :
    classifyFrom afterGap number ([] :: following) =
      ⟨number, .gap⟩ :: classifyFrom true (number + 1) following := rfl

/-- Whether a line is indented and has something before its comment. -/
structure IsIndented (raw content comment : Text) : Prop where
  cut : cutComment raw = (content, comment)
  indented : ∃ c rest, content = c :: rest ∧ isBlank c = true
  filled : Text.isBlankText content = false

theorem IsIndented.not_isBlankText {raw content comment : Text} (indented : IsIndented raw content comment) :
    Text.isBlankText raw = false := by
  rcases Text.mem_cutAt commentMark raw with ⟨-, part, -⟩
  have content_eq : (Text.cutAt commentMark raw).1 = content := congrArg Prod.fst indented.cut
  rw [content_eq] at part
  have filled := indented.filled
  rw [Text.isBlankText, List.all_eq_false] at filled ⊢
  rcases filled with ⟨c, member, solid⟩
  exact ⟨c, part c member, solid⟩

theorem classifyFrom_indented {raw content comment : Text} (indented : IsIndented raw content comment)
    (afterGap : Bool) (number : Nat) (following : List Text) :
    classifyFrom afterGap number (raw :: following) =
      ⟨number, .indented content comment⟩ :: classifyFrom false (number + 1) following := by
  rcases indented.indented with ⟨c, rest, rfl, blank⟩
  rw [classifyFrom, indented.cut]
  dsimp only
  rw [indented.not_isBlankText, indented.filled, List.head?_cons, Option.map_some, Option.getD_some, blank]
  rfl

theorem postingFollows_indented {raw content comment : Text} (indented : IsIndented raw content comment)
    (following : List Text) : postingFollows (raw :: following) = true := by
  rcases indented.indented with ⟨c, rest, rfl, blank⟩
  rw [postingFollows, indented.not_isBlankText, indented.cut]
  dsimp only
  rw [indented.filled, blank]
  rfl

theorem classifyFrom_unindented {raw : Text} (filled : raw ≠ []) (trim : Text.IsTrim raw)
    (no_comment : ';' ∉ raw) (afterGap : Bool) (number : Nat) (following : List Text) :
    classifyFrom afterGap number (raw :: following) =
      ⟨number, ofUnindented afterGap raw following⟩ :: classifyFrom false (number + 1) following := by
  rcases List.exists_cons_of_ne_nil filled with ⟨c, rest, rfl⟩
  have solid : isBlank c = false := trim.1 c rest rfl
  have cut : cutComment (c :: rest) = (c :: rest, []) := by
    rw [cutComment, commentMark, Text.cutAt_of_not_mem no_comment]
    rfl
  have not_blank : Text.isBlankText (c :: rest) = false := by
    rw [Text.isBlankText, List.all_cons, solid, Bool.false_and]
  rw [classifyFrom, cut]
  dsimp only
  rw [not_blank, List.head?_cons, Option.map_some, Option.getD_some, solid, trim.stripEnd_eq]
  rfl

/-! ## Unindented lines -/

/-- The first word of a text that begins with a letter begins with it. -/
theorem words_of_head {c : Char} (solid : isBlank c = false) (rest : Text) :
    ∃ more others, Text.words (c :: rest) = (c :: more) :: others := by
  rw [Text.words, Text.splitWhen, solid, if_neg Bool.false_ne_true]
  split
  · exact ⟨[], [], rfl⟩
  · exact ⟨_, _, rfl⟩

theorem isDecimal_of_isDigits {least most : Nat} {c : Char} {rest : Text}
    (digits : isDigits least most (c :: rest) = true) : isDecimal c = true := by
  rw [isDigits, Bool.and_eq_true] at digits
  exact List.all_eq_true.mp digits.2 c List.mem_cons_self

/-- A first piece made of digits begins with the first digit of the text. -/
theorem isDecimal_of_splitWhen {separates : Char → Bool} {text first : Text} {others : List Text}
    {least most : Nat} (split : Text.splitWhen separates text = first :: others)
    (digits : isDigits (least + 1) most first = true) :
    ∃ c rest, text = c :: rest ∧ isDecimal c = true := by
  have filled : first ≠ [] := by
    rintro rfl
    simp [isDigits] at digits
  cases text with
  | nil =>
      rw [Text.splitWhen] at split
      exact absurd (List.cons.inj split).1.symm filled
  | cons c rest =>
      refine ⟨c, rest, rfl, ?_⟩
      rw [Text.splitWhen] at split
      split at split
      · exact absurd (List.cons.inj split).1.symm filled
      · split at split
        · rw [← (List.cons.inj split).1] at digits
          exact isDecimal_of_isDigits digits
        · rw [← (List.cons.inj split).1] at digits
          exact isDecimal_of_isDigits digits

/-- A line that looks like a date begins with a digit. -/
theorem exists_head_of_date {text : Text} (looks : isDate text = true ∨ isDateLike text = true) :
    ∃ c rest, text = c :: rest ∧ isDecimal c = true := by
  rcases looks with date | similar
  · unfold isDate at date
    split at date
    · rename_i split
      rw [Bool.and_eq_true, Bool.and_eq_true] at date
      exact isDecimal_of_splitWhen split date.1.1
    · cases date
  · unfold isDateLike at similar
    split at similar
    · rename_i split
      rw [Bool.and_eq_true, Bool.and_eq_true] at similar
      exact isDecimal_of_splitWhen split similar.1.1
    · cases similar

/-- Such a line is taken for a date wherever it stands. -/
theorem ofUnindented_date {text : Text} (looks : isDate text = true ∨ isDateLike text = true)
    (afterGap : Bool) (following : List Text) : ofUnindented afterGap text following = .date text := by
  rcases exists_head_of_date looks with ⟨c, rest, rfl, decimal⟩
  rcases words_of_head (isBlank_of_isDecimal decimal) rest with ⟨more, others, words⟩
  have no_header : isHeader (Text.words (c :: rest)) = false := by
    rw [words, isHeader, Bool.and_eq_false_iff]
    left
    rw [beq_eq_false_iff_ne]
    intro same
    have letter : c = 'c' := (List.cons.inj same).1
    rw [letter] at decimal
    revert decimal
    decide
  unfold ofUnindented
  dsimp only
  rw [no_header, Bool.and_false, if_neg Bool.false_ne_true, if_pos (by simpa using looks)]

/-- Any other line that no break precedes is a description if a posting follows. -/
theorem ofUnindented_description {text : Text} (date : isDate text = false)
    (similar : isDateLike text = false) {following : List Text}
    (posting : postingFollows following = true) : ofUnindented false text following = .description text := by
  unfold ofUnindented
  dsimp only
  rw [Bool.false_and, if_neg Bool.false_ne_true, date, similar, Bool.false_or, if_neg Bool.false_ne_true]
  split
  · rw [if_pos posting]
  · rfl

end Line
end Daybook
