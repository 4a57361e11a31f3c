import Daybook.Proofs.Booking.TagPlaces
import Daybook.Proofs.Ledger.Classified
import Daybook.Proofs.Money.Accepted
import Daybook.Proofs.Text.Standing

namespace Daybook

/-!
# Where the faults of a line point

A fault that is found while a line is read is placed in that line, at a column in it or right
behind its end, or at no column.  If its cause is about a passage of the line, a segment of an
account, a word of a currency entry or an amount, the passage begins at the column.  The columns
are put together from the indentation and from offsets in what is left of the line, and it is
here that they are seen to add up.

There is one exception.  An alias that is taken is found to be so when the whole entry has been
read, and then every conflict is placed at the first word of the entry.  What begins at the column
is the symbol that is declared, and the alias is behind it.
-/

open Unicode

/-! ## What a cause is about -/

def Text.BeginsAt (raw : Text) (column : Option Nat) (passage : Text) : Prop :=
  ∃ offset, column = some (offset + 1) ∧ passage.StandsAt raw offset

/-- The amount that is written in the line of a posting. -/
def Line.amountOf? (raw : Text) : Option Text :=
  (PostingText.ofText (Text.strip (cutComment raw).1)).money

/-- Whether a column of a line is the one of the passage that a cause is about, if it is about
one.  A conflict is about the designator or about the alias of the new currency, whichever is
taken. -/
def Cause.ShownAt (raw : Text) (column : Option Nat) : Cause → Prop
  | .malformedSegment segment _ => Text.BeginsAt raw column segment
  | .unexpectedToken word | .malformedDesignator word => Text.BeginsAt raw column word
  | .redeclared designator | .designatorTaken designator _ =>
    ∃ word, normalDesignator word = designator ∧ Text.BeginsAt raw column word
  | .codeTaken code _ _ =>
    ∃ word, isCode word = true ∧ upper word = code ∧ Text.BeginsAt raw column word
  | .malformedMoney text | .repeatedSign text | .repeatedPoint text | .missingFraction text =>
    Line.amountOf? raw = some text ∧ Text.BeginsAt raw column text
  | .unknownCurrency token => ∃ text literal, Line.amountOf? raw = some text ∧
      Literal.ofText text = .ok literal ∧ literal.token = token ∧ Text.BeginsAt raw column text
  | .excessDecimals amount _ designator => ∃ text registry after, Line.amountOf? raw = some text ∧
      Money.ofText text registry = (.ok ⟨designator, amount⟩, after) ∧ Text.BeginsAt raw column text
  | _ => True

def Cause.isOfAlias : Cause → Bool
  | .codeTaken .. => true
  | _ => false

/-- Whether a symbol stands in a line at an offset and an alias for it further behind. -/
structure Line.NamesAlias (raw designator code : Text) (offset : Nat) : Prop where
  symbol : ∃ mark, designator = [mark] ∧ isSymbolChar mark = true
  stands : designator.StandsAt raw offset
  behind : ∃ word place, isCode word = true ∧ upper word = code ∧ word.StandsAt raw place ∧ offset < place

/-- Where a cause is found to be placed.  All conflicts are placed at the designator, also those
that are about the alias. -/
def Cause.FoundAt (raw : Text) (column : Option Nat) : Cause → Prop
  | .codeTaken code _ designator =>
    ∃ offset, column = some (offset + 1) ∧ Line.NamesAlias raw designator code offset
  | cause => cause.ShownAt raw column

/-- Whether a cause is about no passage of a line. -/
def Cause.IsPlain (cause : Cause) : Prop := ∀ raw column, cause.FoundAt raw column

/-- No code begins where a symbol stands, so a conflict about an alias is never placed at it. -/
theorem Line.NamesAlias.not_begins {raw designator code word : Text} {offset : Nat}
    (names : Line.NamesAlias raw designator code offset) (letters : isCode word = true) :
    ¬ Text.BeginsAt raw (some (offset + 1)) word := by
  rintro ⟨place, same, stands⟩
  obtain rfl : offset = place := Nat.succ.inj (Option.some.inj same)
  rcases names.symbol with ⟨mark, rfl, symbol⟩
  exact not_code_prefix symbol letters names.stands.begins stands.begins

/-- A cause is placed at what it is about unless it is about an alias. -/
theorem Cause.FoundAt.shownAt_iff {cause : Cause} {raw : Text} {column : Option Nat}
    (found : cause.FoundAt raw column) : cause.ShownAt raw column ↔ cause.isOfAlias = false := by
  cases cause
  case codeTaken code owner designator =>
    rcases found with ⟨offset, rfl, names⟩
    refine ⟨?_, fun other => by cases other⟩
    rintro ⟨word, letters, -, begins⟩
    exact absurd begins (names.not_begins letters)
  all_goals exact ⟨fun _ => rfl, fun _ => found⟩

/-- Whether a fault points into a line: it has the number of the line, and its column lies in the
line or right behind it. -/
structure LedgerFault.PointsAt (fault : LedgerFault) (number : Nat) (raw : Text) : Prop where
  line : fault.line = some number
  column : ∀ column, fault.column = some column → 1 ≤ column ∧ column ≤ raw.length + 1
  found : fault.cause.FoundAt raw fault.column

namespace LedgerFault

variable {cause : Cause} {number : Nat} {raw : Text}

/-- A fault with a column in a line. -/
theorem pointsAt_offset {offset : Nat} (inside : offset ≤ raw.length)
    (found : cause.FoundAt raw (some (offset + 1))) :
    PointsAt { cause, line := some number, column := some (offset + 1) } number raw where
  line := rfl
  column := by
    rintro _ ⟨⟩
    exact ⟨Nat.le_add_left 1 offset, Nat.succ_le_succ inside⟩
  found := found

/-- A fault at the beginning of a line. -/
theorem pointsAt_first (plain : cause.IsPlain) :
    PointsAt { cause, line := some number, column := some 1 } number raw :=
  pointsAt_offset (Nat.zero_le _) (plain _ _)

/-- A fault without a column. -/
theorem pointsAt_line (plain : cause.IsPlain) : PointsAt { cause, line := some number } number raw where
  line := rfl
  column := by rintro _ ⟨⟩
  found := plain _ _

/-- A fault about a passage that stands in the line. -/
theorem pointsAt_passage {offset : Nat} {passage : Text} (stands : passage.StandsAt raw offset)
    (found : Text.BeginsAt raw (some (offset + 1)) passage → cause.FoundAt raw (some (offset + 1))) :
    PointsAt { cause, line := some number, column := some (offset + 1) } number raw :=
  pointsAt_offset stands.inside (found ⟨offset, rfl, stands⟩)

end LedgerFault

/-! ## Descriptions -/

namespace SplitDirective

theorem isPlain_of_readParticipant {item : Text} {cause : Cause}
    (failed : readParticipant item = .error cause) : cause.IsPlain := by
  unfold readParticipant at failed
  dsimp only at failed
  split at failed
  · cases failed
  · cases failed
    exact fun _ _ => trivial

theorem isPlain_of_readParticipants {items : List Text} {cause : Cause}
    (failed : readParticipants items = .error cause) : cause.IsPlain := by
  induction items with
  | nil => cases failed
  | cons item rest ih =>
      rcases Outcome.bind_eq_error.mp failed with refused | ⟨name, -, failed⟩
      · exact isPlain_of_readParticipant refused
      · rcases Outcome.bind_eq_error.mp failed with refused | ⟨names, -, done⟩
        · exact ih refused
        · cases done

/-- What is wrong with a split is about no passage. -/
theorem isPlain_of_ofText {argument : Text} {cause : Cause} (failed : ofText argument = .error cause) :
    cause.IsPlain := by
  unfold ofText at failed
  dsimp only at failed
  split at failed
  · split at failed
    · exact isPlain_of_readParticipant (Outcome.map_eq_error.mp failed)
    · cases failed
      exact fun _ _ => trivial
  · split at failed
    · cases failed
      exact fun _ _ => trivial
    · rcases Outcome.bind_eq_error.mp failed with refused | ⟨contacts, -, failed⟩
      · exact isPlain_of_readParticipants refused
      · split at failed
        · cases failed
        · cases failed
          exact fun _ _ => trivial

end SplitDirective

namespace Annotated

variable {number : Nat} {raw : Text} {fault : LedgerFault}

theorem pointsAt_of_accept {offset : Nat} {progress : Progress} {tag : WrittenTag}
    (inside : offset ≤ raw.length)
    (failed : accept (some number) (offset + 1) progress tag = .error (.ledger fault)) :
    fault.PointsAt number raw := by
  unfold accept at failed
  split at failed
  · split at failed
    · cases failed
      exact LedgerFault.pointsAt_offset inside trivial
    · split at failed
      · cases failed
      · rename_i refused
        cases failed
        exact LedgerFault.pointsAt_line (SplitDirective.isPlain_of_ofText refused)
  · split at failed
    · split at failed
      · cases failed
        exact LedgerFault.pointsAt_offset inside trivial
      · split at failed
        · cases failed
          exact LedgerFault.pointsAt_offset inside trivial
        · split at failed
          · cases failed
          · cases failed
    · cases failed
      exact LedgerFault.pointsAt_offset inside trivial

/-- A fault of the tags of a description points into its line. -/
theorem pointsAt_of_ofText {text : Text} (inside : text.length ≤ raw.length)
    (failed : ofText text (some number) = .error (.ledger fault)) : fault.PointsAt number raw := by
  rcases scan_eq_error_at failed 0 with ⟨-, -, tag, -, progress, -, -, refused⟩
  refine pointsAt_of_accept (Nat.le_trans ?_ inside) refused
  cases place : Text.find? tag.source text with
  | none => exact Nat.zero_le _
  | some offset => exact (Text.standsAt_of_find? place).inside

end Annotated

/-! ## Accounts -/

namespace Account

variable {number : Nat} {raw : Text} {fault : LedgerFault}

/-- A malformed segment is one of the pieces, behind its leading blanks. -/
theorem exists_of_readSegments {path : Text} {line : Option Nat} {column : Nat} {pieces : List Text}
    (failed : readSegments path line column pieces = .error fault) :
    ∃ place piece, (place, piece) ∈ Text.placed column pieces ∧
      fault =
        { cause := .malformedSegment (Text.strip piece) (Text.strip path)
          line
          column := some (place + (piece.takeWhile isBlank).length) } := by
  induction pieces generalizing column with
  | nil => cases failed
  | cons piece rest ih =>
      rw [readSegments] at failed
      rw [Text.placed]
      split at failed
      · rcases ih (Outcome.map_eq_error.mp failed) with ⟨place, other, later, same⟩
        exact ⟨place, other, List.mem_cons_of_mem _ later, same⟩
      · exact ⟨column, piece, List.mem_cons_self, (Except.error.inj failed).symm⟩

/-- A fault of an account points at a segment of it. -/
theorem pointsAt_of_ofText {text : Text} {start : Nat} (stands : text.StandsAt raw start)
    (failed : ofText text (some number) (start + 1) = .error fault) : fault.PointsAt number raw := by
  rcases exists_of_readSegments (Outcome.map_eq_error.mp failed) with ⟨place, piece, member, rfl⟩
  rcases Text.standsAt_of_mem_placed member with ⟨offset, rfl, piece_stands⟩
  have segment := ((Text.standsAt_strip piece).trans piece_stands).trans stands
  have column : start + 1 + offset + (piece.takeWhile isBlank).length =
      start + (offset + (piece.takeWhile isBlank).length) + 1 := by omega
  rw [column]
  exact LedgerFault.pointsAt_passage segment id

end Account

/-! ## Currency entries -/

namespace Declaration

variable {number : Nat} {raw content : Text} {fault : LedgerFault}

theorem pointsAt_of_acceptWord {designator : Text} {draft : Draft} {place : Nat × Text}
    (stands : place.2.StandsAt raw place.1)
    (failed : acceptWord designator number draft place = .error (.ledger fault)) :
    fault.PointsAt number raw := by
  rcases place with ⟨offset, word⟩
  unfold acceptWord at failed
  dsimp only at failed
  split at failed
  · split at failed
    · cases failed
    · cases failed
  · split at failed
    · cases failed
    · split at failed
      · cases failed
      · cases failed
        exact LedgerFault.pointsAt_passage stands id

/-- A word of the content of a line stands in the line. -/
theorem word_stands (begins : content <+: raw) {place : Nat × Text} (member : place ∈ Text.wordsAt content) :
    place.2.StandsAt raw place.1 := by
  have stands := (Text.standsAt_of_mem_wordsAt member).trans (.ofPrefix begins)
  rwa [Nat.zero_add] at stands

/-- A fault of a currency entry points at one of its words. -/
theorem pointsAt_of_ofEntry {comment : Text} (begins : content <+: raw)
    (failed : ofEntry content comment number = .error (.ledger fault)) : fault.PointsAt number raw := by
  have stand : ∀ place ∈ Text.wordsAt content, place.2.StandsAt raw place.1 :=
    fun _ => word_stands begins
  unfold ofEntry at failed
  split at failed
  · cases failed
    exact LedgerFault.pointsAt_passage (.nil (Nat.zero_le _)) id
  · rename_i offset designator rest words
    rw [words] at stand
    dsimp only at failed
    split at failed
    · rcases Outcome.bind_eq_error.mp failed with refused | ⟨draft, -, done⟩
      · rcases exists_of_acceptWords refused with ⟨place, among, before, refused⟩
        exact pointsAt_of_acceptWord (stand place (List.mem_cons_of_mem _ among)) refused
      · cases done
    · cases failed
      exact LedgerFault.pointsAt_passage (stand _ List.mem_cons_self) id

/-- The column of an entry that is accepted is the one of its designator, and its alias stands
behind that. -/
theorem exists_of_ofEntry {comment : Text} {declaration : Declaration} {column : Nat}
    (begins : content <+: raw) (ok : ofEntry content comment number = .ok (declaration, column)) :
    ∃ offset, column = offset + 1 ∧ declaration.designator.StandsAt raw offset ∧
      ∀ code, declaration.code = some code →
        Line.NamesAlias raw (normalDesignator declaration.designator) (upper code) offset := by
  unfold ofEntry at ok
  split at ok
  · cases ok
  · rename_i offset designator rest words
    have solid : ∀ place ∈ (offset, designator) :: rest, Text.IsSolid place.2 :=
      fun place member => Text.isSolid_of_mem_wordsAt (words ▸ member)
    have stands := word_stands begins (words ▸ List.mem_cons_self)
    dsimp only at ok
    split at ok
    · rcases Outcome.bind_eq_ok.mp ok with ⟨draft, accepted, ok⟩
      cases ok
      refine ⟨offset, rfl, stands, fun code given => ?_⟩
      have proper := (Draft.proper_empty designator).acceptWords
        (fun place member => solid place (List.mem_cons_of_mem _ member)) accepted
      rcases proper.code code given with ⟨symbol, letters, -⟩
      rcases (isSymbol_iff (solid _ List.mem_cons_self)).mp symbol with ⟨mark, rfl, char⟩
      rcases code_of_acceptWords accepted given with nothing | ⟨place, among⟩
      · cases nothing
      · have kept : normalDesignator [mark] = [mark] := by
          rw [normalDesignator, not_isCode_of_symbol char, if_neg Bool.false_ne_true]
        rw [kept]
        exact ⟨⟨mark, rfl, char⟩, stands, code, place, letters, rfl,
          word_stands begins (words ▸ List.mem_cons_of_mem _ among), Text.lt_of_wordsAt words _ among⟩
    · cases ok

end Declaration

namespace Registry

/-- A declaration that is in conflict is so for its designator or for its alias. -/
theorem foundAt_of_declare {registry left : Registry} {declaration : Declaration} {cause : Cause}
    (failed : registry.declare declaration = (.error cause, left)) {raw : Text} {offset : Nat}
    (begins : Text.BeginsAt raw (some (offset + 1)) declaration.designator)
    (aliased : ∀ code, declaration.code = some code →
      Line.NamesAlias raw (normalDesignator declaration.designator) (upper code) offset) :
    cause.FoundAt raw (some (offset + 1)) := by
  have shown : ∃ word, normalDesignator word = declaration.currency.designator ∧
      Text.BeginsAt raw (some (offset + 1)) word := ⟨_, rfl, begins⟩
  unfold declare at failed
  dsimp only at failed
  split at failed
  · split at failed
    · cases failed
    · cases failed
      exact shown
  · split at failed
    · rename_i refused
      cases failed
      unfold conflict? at refused
      dsimp only at refused
      split at refused
      · cases refused
        exact shown
      · split at refused
        · cases refused
        · rename_i given
          rcases Option.map_eq_some_iff.mp refused with ⟨owner, -, rfl⟩
          rcases Option.map_eq_some_iff.mp given with ⟨code, declared, rfl⟩
          exact ⟨offset, rfl, aliased code declared⟩
    · cases failed

end Registry

/-! ## Amounts -/

namespace Line

/-- The amount of a posting stands in its line. -/
theorem amount_stands {content raw text : Text} (begins : content <+: raw)
    (written : (PostingText.ofText (Text.strip content)).money = some text) :
    text.StandsAt raw
      ((content.takeWhile isBlank).length + (PostingText.ofText (Text.strip content)).offset) := by
  have stands := ((PostingText.money_stands written).2.trans (Text.standsAt_strip content)).trans
    (.ofPrefix begins)
  rwa [Nat.zero_add] at stands

end Line

namespace Literal

variable {raw text : Text} {cause : Cause} {column : Option Nat}

/-- The form with the symbol first is only refused for two signs. -/
theorem repeatedSign_of_symbolFirst? (refused : symbolFirst? text = some (.error cause)) :
    cause = .repeatedSign text := by
  unfold symbolFirst? at refused
  dsimp only at refused
  split at refused
  · cases refused
  · split at refused
    · split at refused
      · exact (Except.error.inj (Option.some.inj refused)).symm
      · cases refused
    · cases refused

/-- A text of no form is the amount of its line. -/
theorem foundAt_of_form (refused : ofText text = .error cause) (written : Line.amountOf? raw = some text)
    (begins : Text.BeginsAt raw column text) : cause.FoundAt raw column := by
  unfold ofText at refused
  split at refused
  · rename_i result first
    rcases refused with rfl
    exact repeatedSign_of_symbolFirst? first ▸ ⟨written, begins⟩
  · split at refused
    · cases refused
    · split at refused
      · cases refused
      · cases refused
        exact ⟨written, begins⟩

/-- So is a text whose number is none. -/
theorem foundAt_of_value {literal : Literal} (refused : literal.value text = .error cause)
    (written : Line.amountOf? raw = some text) (begins : Text.BeginsAt raw column text) :
    cause.FoundAt raw column := by
  unfold value at refused
  split at refused
  · cases refused
    exact ⟨written, begins⟩
  · split at refused
    · cases refused
      exact ⟨written, begins⟩
    · split at refused
      · cases refused
      · cases refused
        exact ⟨written, begins⟩

end Literal

namespace Money

variable {raw text : Text}

/-- A text that is no amount, or one in an unknown currency, is the amount of its line. -/
theorem foundAt_of_ofText {registry left : Registry} {fault : LedgerFault}
    (failed : ofText text registry = (.error (.ledger fault), left))
    (written : Line.amountOf? raw = some text) {column : Option Nat}
    (begins : Text.BeginsAt raw column text) :
    fault.line = none ∧ fault.cause.FoundAt raw column := by
  have trim : Text.strip text = text := (PostingText.money_stands written).1.strip_eq
  have unread := unread_of_ofText failed
  rw [trim] at unread
  cases unread with
  | form refused => exact ⟨rfl, Literal.foundAt_of_form refused written begins⟩
  | number read refused => exact ⟨rfl, Literal.foundAt_of_value refused written begins⟩
  | @unknown literal read => exact ⟨rfl, text, literal, written, read, rfl, begins⟩

end Money
end Daybook
