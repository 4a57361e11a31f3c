import Daybook.Currency.Registry
import Daybook.Ledger.Line
import Daybook.Money.Literal

namespace Daybook

/-!
# Indented lines

An indented line is a currency entry or a posting.  An entry is a designator
with an alias, a number of decimals and the word for a symbol that stands after
the number, in any order; its comment is the name of the currency.  A posting is
an account, often followed by an amount; since accounts may hold spaces and
digits, the amount is recognised from the end of the line.
-/

open Unicode

/-- The word for a symbol that stands after the number. -/
def afterWord : Text := "suffix".toList

/-- The text of a posting taken apart into account and amount, as they were written, with the
offset of the amount, zero if there is none. -/
structure PostingText where
  account : Text
  money : Option Text
  offset : Nat
  deriving DecidableEq, Repr

namespace PostingText

/-- Whether a word is a number with at most a minus in front. -/
def isAmountWord (word : Text) : Bool :=
  Literal.isNumeric (Literal.takeMinus word).2

/-- Takes the text of a posting apart.  A number and a code in the last two of
at least three words are the amount; otherwise it is the last of at least two
words if it holds a digit. -/
def ofText (body : Text) : PostingText :=
  let whole : PostingText := ⟨body, none, 0⟩
  match (Text.wordsAt body).reverse with
  | (codeStart, code) :: (start, number) :: others =>
    if !others.isEmpty && isAmountWord number && isCode code then
      ⟨Text.stripEnd (body.take start), some (Text.strip (body.drop start)), start⟩
    else if code.any isDigit then
      ⟨Text.stripEnd (body.take codeStart), some code, codeStart⟩
    else whole
  | _ => whole

end PostingText

namespace Declaration

/-- What the words of an entry have said so far. -/
structure Draft where
  code : Option Text := none
  precision : Option Int := none
  style : Option Style := none
  deriving DecidableEq, Repr

/-- Takes in one word of an entry, which stands at an offset of a line. -/
def acceptWord (designator : Text) (number : Nat) (draft : Draft) (place : Nat × Text) :
    Outcome Draft :=
  let (offset, word) := place
  if word.all isDigit && !word.isEmpty && draft.precision.isNone then
    match Text.toInteger word with
    | .ok precision => .ok { draft with precision := some precision }
    | .error fault => .error (.integer fault)
  else if word = afterWord ∧ isSymbol designator ∧ draft.style.isNone then
    .ok { draft with style := some .after }
  else if isCode word ∧ isSymbol designator ∧ draft.code.isNone then
    .ok { draft with code := some word }
  else
    .error (.ledger
      { cause := .unexpectedToken word, line := some number, column := some (offset + 1) })

/-- Takes in the words of an entry, in order. -/
def acceptWords (designator : Text) (number : Nat) : Draft → List (Nat × Text) → Outcome Draft
  | draft, [] => .ok draft
  | draft, place :: rest => do
    acceptWords designator number (← acceptWord designator number draft place) rest

def nameOf (comment : Text) : Option Text :=
  let name := Text.strip comment
  if name.isEmpty then none else some name

/-- Reads a currency entry: the declaration and the column of its designator. -/
def ofEntry (content comment : Text) (number : Nat) : Outcome (Declaration × Nat) :=
  match Text.wordsAt content with
  | [] => .error (.ledger { cause := .malformedDesignator [], line := some number, column := some 1 })
  | (offset, designator) :: rest =>
    let column := offset + 1
    if isSymbol designator || isCode designator then do
      let draft ← acceptWords designator number {} rest
      return (
        { designator
          code := draft.code
          precision := draft.precision.getD Currency.defaultPrecision
          name := nameOf comment
          style := draft.style },
        column)
    else
      .error (.ledger
        { cause := .malformedDesignator designator, line := some number, column := some column })

end Declaration
end Daybook
