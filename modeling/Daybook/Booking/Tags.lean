import Daybook.Booking.Basic

namespace Daybook

/-!
# Tags on descriptions

A description may begin and end with tags: a name in brackets behind a number
sign, with an argument in parentheses.  One tag carries a split, one moves the
booking by days.  Tags are taken off one after the other, from the front as long
as one stands there and then from the end; a tag in the middle is part of the
text.
-/

open Unicode

/-- A tag as it was written: its name, what stands in the parentheses if there are any, and the
whole of it, brackets included. -/
structure WrittenTag where
  name : Text
  argument : Option Text
  source : Text
  deriving DecidableEq, Repr

/-- A description without its tags, and what they said. -/
structure Annotated where
  description : Text
  split : Option SplitDirective := none
  dateOffset : Int := 0
  deriving DecidableEq, Repr

namespace SplitDirective

def isParticipant : List Text → Bool
  | [] => false
  | first :: rest =>
    first.head? == some Account.contactMark && Account.isNameWord first.tail &&
      rest.all Account.isNameWord

/-- Reads one contact with its mark; inner blanks are made one space. -/
def readParticipant (item : Text) : Except Cause Text :=
  let words := Text.words item
  let name := Text.join [' '] words
  if isParticipant words then .ok name.tail else .error (.malformedParticipant name)

/-- Reads contacts, up to the first malformed one. -/
def readParticipants : List Text → Except Cause (List Text)
  | [] => .ok []
  | item :: rest => do
    let name ← readParticipant item
    return name :: (← readParticipants rest)

/-- The word that charges all of an amount to one contact. -/
def chargeWord : Text := "by".toList

/-- Reads the argument of a split: contacts with commas between them, or the
charging word with one contact. -/
def ofText (argument : Text) : Except Cause SplitDirective :=
  let inner := Text.strip argument
  let (head, rest) := Text.cutAt ' ' inner
  if head = chargeWord then
    match (Text.splitOn ',' (rest.getD [])).filter (!Text.isBlankText ·) with
    | [item] => (readParticipant item).map fun name => ⟨.charged, [name]⟩
    | _ => .error .oneContact
  else if inner.isEmpty then .error .noContacts
  else do
    let contacts ← readParticipants (Text.splitOn ',' inner)
    if contacts.eraseDups.length = contacts.length then .ok ⟨.even, contacts⟩
    else .error .repeatedContact

end SplitDirective

namespace WrittenTag

/-- Whether a character may stand in the argument of a tag. -/
def isArgumentChar (c : Char) : Bool := c != '(' && c != ')'

/-- The end of a tag: what follows the closing bracket. -/
def closed? (text : Text) : Option Text :=
  match Text.stripStart text with
  | ']' :: rest => some rest
  | _ => none

/-- The argument of a tag, its name having been read, and what follows the tag. -/
def argument? (text : Text) : Option (Option Text × Text) :=
  match Text.stripStart text with
  | '(' :: inner =>
    match inner.dropWhile isArgumentChar with
    | ')' :: tail => (closed? tail).map fun rest => (some (inner.takeWhile isArgumentChar), rest)
    | _ => none
  | other => (closed? other).map fun rest => (none, rest)

/-- The tag that a text begins with, and what follows it. -/
def take? (text : Text) : Option (WrittenTag × Text) :=
  match text with
  | '#' :: '[' :: body =>
    let inner := Text.stripStart body
    let name := inner.takeWhile isWord
    if name.isEmpty then none
    else
      (argument? (inner.dropWhile isWord)).map fun (argument, rest) =>
        ({ name, argument, source := text.take (text.length - rest.length) }, rest)
  | _ => none

/-- The first tag that only blanks follow, and what precedes it. -/
def takeLast? : Text → Option (WrittenTag × Text)
  | [] => none
  | c :: rest =>
    match (take? (c :: rest)).filter fun found => Text.isBlankText found.2 with
    | some (tag, _) => some (tag, [])
    | none => (takeLast? rest).map fun (tag, before) => (tag, c :: before)

/-- Takes a tag off a description: the one in front if there is one, otherwise
the one at the end. -/
def peel? (text : Text) : Option (WrittenTag × Text) :=
  (take? (Text.stripStart text)).orElse fun _ => takeLast? text

/-- Dropping from the front leaves no more than there was. -/
theorem length_stripStart_le (text : Text) : (Text.stripStart text).length ≤ text.length :=
  (List.dropWhile_sublist _).length_le

/-- The end of a tag takes at least its bracket. -/
theorem length_closed?_lt {text rest : Text} (found : closed? text = some rest) :
    rest.length < text.length := by
  unfold closed? at found
  split at found
  · rename_i tail shape
    obtain rfl : tail = rest := by simpa using found
    have := length_stripStart_le text
    rw [shape, List.length_cons] at this
    omega
  · simp at found

/-- What follows the argument is shorter than the argument with what follows. -/
theorem length_argument?_lt {text rest : Text} {argument : Option Text}
    (found : argument? text = some (argument, rest)) : rest.length < text.length := by
  have stripped := length_stripStart_le text
  unfold argument? at found
  split at found
  · rename_i inner shape
    rw [shape] at stripped
    split at found
    · rename_i tail dropped
      obtain ⟨after, ended, same⟩ := Option.map_eq_some_iff.1 found
      have := length_closed?_lt ended
      have shorter : (inner.dropWhile isArgumentChar).length ≤ inner.length :=
        (List.dropWhile_sublist _).length_le
      rw [dropped] at shorter
      obtain ⟨_, rfl⟩ := Prod.mk.inj same
      simp only [List.length_cons] at stripped shorter
      omega
    · simp at found
  · obtain ⟨after, ended, same⟩ := Option.map_eq_some_iff.1 found
    have := length_closed?_lt ended
    obtain ⟨_, rfl⟩ := Prod.mk.inj same
    omega

/-- What follows a tag is shorter than the text that began with it. -/
theorem length_take?_lt {text rest : Text} {tag : WrittenTag}
    (found : take? text = some (tag, rest)) : rest.length < text.length := by
  unfold take? at found
  split at found
  · rename_i body
    dsimp only at found
    split at found
    · simp at found
    · obtain ⟨⟨argument, after⟩, read, same⟩ := Option.map_eq_some_iff.1 found
      have shorter := length_argument?_lt read
      have dropped : ((Text.stripStart body).dropWhile isWord).length ≤ (Text.stripStart body).length :=
        (List.dropWhile_sublist _).length_le
      have stripped := length_stripStart_le body
      obtain ⟨_, rfl⟩ := Prod.mk.inj same
      simp only [List.length_cons]
      omega
  · simp at found

/-- What precedes the last tag is shorter than the text that ended with it. -/
theorem length_takeLast?_lt {text before : Text} {tag : WrittenTag}
    (found : takeLast? text = some (tag, before)) : before.length < text.length := by
  induction text generalizing before tag with
  | nil => simp [takeLast?] at found
  | cons c rest ih =>
    rw [takeLast?] at found
    split at found
    · simp only [Option.some.injEq, Prod.mk.injEq] at found
      simp [← found.2]
    · obtain ⟨⟨inner, ahead⟩, read, same⟩ := Option.map_eq_some_iff.1 found
      have := ih read
      simp only [Prod.mk.injEq] at same
      simp only [← same.2, List.length_cons]
      omega

/-- Taking a tag off makes a description shorter. -/
theorem length_peel?_lt {text rest : Text} {tag : WrittenTag}
    (found : peel? text = some (tag, rest)) : rest.length < text.length := by
  unfold peel? at found
  cases front : take? (Text.stripStart text) with
  | some pair =>
    rw [front] at found
    simp only [Option.orElse_some, Option.some.injEq] at found
    subst found
    have := length_take?_lt front
    have := length_stripStart_le text
    omega
  | none =>
    rw [front] at found
    exact length_takeLast?_lt (by simpa using found)

end WrittenTag

namespace Annotated

/-- What the tags read so far have said: the split and the number of days, each if its tag was
read. -/
structure Progress where
  split : Option SplitDirective := none
  offset : Option Int := none

def tagFault (cause : Cause) (line : Option Nat) (column : Nat) : Failure :=
  .ledger { cause, line, column := some column }

/-- Whether a text is a signed run of decimal digits. -/
def isOffset (text : Text) : Bool :=
  let (_, digits) := Text.takeSign text
  !digits.isEmpty && digits.all isDecimal

def accept (line : Option Nat) (column : Nat) (progress : Progress) (tag : WrittenTag) :
    Outcome Progress :=
  if tag.name = Tag.split.word then
    match progress.split with
    | some _ => .error (tagFault (.repeatedTag .split) line column)
    | none =>
      match SplitDirective.ofText (tag.argument.getD []) with
      | .ok directive => .ok { progress with split := some directive }
      | .error cause => .error (.ledger { cause, line })
  else if tag.name = Tag.date.word then
    match progress.offset with
    | some _ => .error (tagFault (.repeatedTag .date) line column)
    | none =>
      match (tag.argument.map Text.strip).filter isOffset with
      | none => .error (tagFault (.malformedOffset tag.argument) line column)
      | some digits =>
        match Text.toInteger digits with
        | .ok days => .ok { progress with offset := some days }
        | .error fault => .error (.integer fault)
  else .error (tagFault (.unknownTag tag.name) line column)

/-- Takes tags off what remains of a description. -/
def scan (whole : Text) (line : Option Nat) (progress : Progress) (remaining : Text) :
    Outcome Annotated :=
  match _found : WrittenTag.peel? remaining with
  | none =>
    .ok
      { description := Text.collapse remaining
        split := progress.split
        dateOffset := progress.offset.getD 0 }
  | some (tag, rest) =>
    let column := (Text.find? tag.source whole).getD 0 + 1
    match accept line column progress tag with
    | .ok next => scan whole line next rest
    | .error failure => .error failure
termination_by remaining.length
decreasing_by exact WrittenTag.length_peel?_lt _found

def ofText (text : Text) (line : Option Nat := none) : Outcome Annotated :=
  scan text line {} text

end Annotated
end Daybook
