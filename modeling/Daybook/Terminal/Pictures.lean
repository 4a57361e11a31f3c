import Daybook.Terminal.PictureTable
import Daybook.Unicode.Case

namespace Daybook
namespace Terminal

/-!
# Pictures in a text

A name between colons stands for a picture, in any letter case.  A name holds no
blank and no colon, so a text is cut at its colons, and what lies between two of
them is a name if it holds no blank; the second colon then ends the name and
begins no other one.  A name that is not known stands for itself.
-/

open Unicode

/-- Ends of a name that ask for a plain or for a colourful picture, and the
character that does so. -/
def pictureVariants : List (Text × Char) :=
  [("-text".toList, '\ufe0e'), ("-emoji".toList, '\ufe0f')]

/-- A name without the end that asks for a kind of picture, and the characters
that the end stands for. -/
def splitVariant (name : Text) : Text × Text :=
  match pictureVariants.find? fun entry => entry.1.isSuffixOf name with
  | some (ending, mark) => (name.take (name.length - ending.length), [mark])
  | none => (name, [])

def shownName (between : Text) : Text :=
  let (name, mark) := splitVariant between
  match pictures.find? fun entry => entry.1 == lower name with
  | some (_, picture) => picture ++ mark
  | none => ':' :: between ++ [':']

/-- The rest of a text that was cut at its colons; a colon stands in front of
every piece. -/
def showAfterColon : List Text → Text
  | [] => []
  | [last] => ':' :: last
  | name :: next :: rest =>
    if name.any isBlank then ':' :: name ++ showAfterColon (next :: rest)
    else shownName name ++ next ++ showAfterColon rest

/-- The text with pictures in place of their names. -/
def withPictures (text : Text) : Text :=
  match Text.splitOn ':' text with
  | [] => []
  | first :: rest => first ++ showAfterColon rest

end Terminal
end Daybook
