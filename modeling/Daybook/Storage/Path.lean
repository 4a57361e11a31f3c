import Daybook.Text.Basic

namespace Daybook

/-!
# Paths

A path is a list of names below a starting point.  Reading drops empty names
and the name of the folder itself, so two spellings that differ only in those
give one path; the name of the folder above stays, because what it leads to
depends on the folders.
-/

/-- A path: the strokes in front, none for a path below the present folder, and the names,
outermost first. -/
structure Path where
  root : Text
  parts : List Text
  deriving DecidableEq, Repr

namespace Path

def stroke : Char := '/'

def here : Text := ['.']

def above : Text := ['.', '.']

def homeMark : Char := '~'

/-- The strokes in front of a text, as they count: exactly two are kept and any
other number of them is one. -/
def rootOf (text : Text) : Text :=
  match (text.takeWhile (· == stroke)).length with
  | 0 => []
  | 2 => [stroke, stroke]
  | _ => [stroke]

/-- Whether a name says where to go. -/
def isStep (name : Text) : Bool := !name.isEmpty && name != here

def ofText (text : Text) : Path where
  root := rootOf text
  parts := (Text.splitOn stroke text).filter isStep

def toText (path : Path) : Text :=
  if path.root.isEmpty && path.parts.isEmpty then here
  else path.root ++ Text.join [stroke] path.parts

def below (path : Path) (names : List Text) : Path :=
  { path with parts := path.parts ++ names }

/-- The home folder as a text that was given for it; none is given by a text
that stands for a home folder itself. -/
def home? (given : Text) : Option Path :=
  let trimmed := (given.reverse.dropWhile (· == stroke)).reverse
  let text := if trimmed.isEmpty then [stroke] else trimmed
  if text.head? == some homeMark then none else some (ofText text)

/-- The path with the home folder in place of the mark for it.  A mark that is
followed by a name stands for a home folder that is not known here. -/
def expandHome? (path : Path) (home : Text) : Option Path :=
  if !path.root.isEmpty then some path
  else
    match path.parts with
    | first :: rest =>
      if first == [homeMark] then (home? home).map (·.below rest)
      else if first.head? == some homeMark then none
      else some path
    | [] => some path

end Path
end Daybook
