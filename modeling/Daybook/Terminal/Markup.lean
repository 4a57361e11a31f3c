import Daybook.Terminal.Pictures

namespace Daybook
namespace Terminal

/-!
# Markup

Messages are written in a markup in which a tag in square brackets changes the
style of what follows.  A backslash in front of a tag makes it part of the text,
and two of them stand for one.  Escaping a text puts backslashes in front of its
tags; a terminal without styles shows the text and leaves the tags out.
-/

def tagStart : Char := '['

def tagEnd : Char := ']'

/-- The character that makes a tag part of the text. -/
def escapeSign : Char := '\x5c'

def opensTag (c : Char) : Bool :=
  ('a' ≤ c && c ≤ 'z') || c == '#' || c == '/' || c == '@'

/-- The tag at the beginning of what follows an opening bracket, and the rest. -/
def takeTag? (segment : Text) : Option (Text × Text) :=
  if segment.head?.any opensTag then
    match Text.cutAt tagEnd segment with
    | (body, some rest) => some (body, rest)
    | (_, none) => none
  else none

def trailingSigns (text : Text) : Nat :=
  (text.reverse.takeWhile (· == escapeSign)).length

/-- A text with its tags escaped, from what was read since the last tag and from
the segments that follow one opening bracket each. -/
def escapeTags : Text → List Text → Text
  | before, [] => before
  | before, segment :: rest =>
    match takeTag? segment with
    | some (body, after) =>
      before ++ List.replicate (trailingSigns before + 1) escapeSign ++
        (tagStart :: body ++ tagEnd :: escapeTags after rest)
    | none => escapeTags (before ++ tagStart :: segment) rest

/-- The pieces of a text that stand before, between and after its opening
brackets, the first one apart. -/
def segments (text : Text) : Text × List Text :=
  match Text.splitOn tagStart text with
  | [] => ([], [])
  | first :: rest => (first, rest)

/-- A text as markup that shows it.  A single backslash at the end is doubled, so
that it does not escape what is put behind it. -/
def escape (text : Text) : Text :=
  let (first, rest) := segments text
  let escaped := escapeTags first rest
  if trailingSigns escaped = 1 then escaped ++ [escapeSign] else escaped

/-- A backslash in front of a bracket that begins no tag is left out. -/
def dropSigns : Text → Text
  | [] => []
  | [c] => [c]
  | c :: d :: rest =>
    if c == escapeSign && d == tagStart then d :: dropSigns rest else c :: dropSigns (d :: rest)

/-- A piece of text between tags as it is shown. -/
def shownPiece (text : Text) : Text :=
  withPictures (dropSigns text)

/-- What markup shows, from what was read since the last tag and from the segments
that follow one opening bracket each. -/
def shownTags : Text → List Text → Text
  | before, [] => shownPiece before
  | before, segment :: rest =>
    match takeTag? segment with
    | some (body, after) =>
      let signs := trailingSigns before
      let shown := shownPiece (before.take (before.length - signs))
      let literal := if signs % 2 = 1 then shownPiece (tagStart :: body ++ [tagEnd]) else []
      shown ++ List.replicate (signs / 2) escapeSign ++ literal ++ shownTags after rest
    | none => shownTags (before ++ tagStart :: segment) rest

/-- What markup shows on a terminal without styles. -/
def shown (markup : Text) : Text :=
  let (first, rest) := segments markup
  shownTags first rest

end Terminal
end Daybook
