import Daybook.Terminal.Markup
import Daybook.Unicode.Cells

namespace Daybook
namespace Terminal

/-!
# Lines on a terminal

A terminal gets no characters that ring, move back or feed, and spaces in place of
tabs.  Texts are shown with pictures for their names, markup without its tags.
-/

open Unicode

/-- Whether a character would ring, move back, feed or return. -/
def isControl (c : Char) : Bool :=
  c == '\x07' || c == '\x08' || c == '\x0b' || c == '\x0c' || c == '\r'

def dropControls (text : Text) : Text :=
  text.filter (!isControl ·)

/-- The cells between the places that tabs reach to. -/
def tabSize : Nat := 8

/-- A piece of a line with spaces in place of the tab behind it: one in any case,
and as many more as lead to the next place, measured from the place before the
piece.  A joiner at the end of the piece takes in the first of them. -/
def reachTab (piece : Text) : Text :=
  let spaced := piece ++ [' ']
  let beyond := cells spaced % tabSize
  if beyond = 0 then spaced else spaced ++ List.replicate (tabSize - beyond) ' '

/-- The pieces of a line one after the other, with spaces in place of the tabs
between them.  Behind a tab a line stands at a place that tabs reach to, so every
piece is measured by itself. -/
def expandPieces : List Text → Text
  | [] => []
  | [last] => last
  | piece :: rest => reachTab piece ++ expandPieces rest

def expandTabs (line : Text) : Text :=
  expandPieces (Text.splitOn '\t' line)

/-- What a terminal gets of a text. -/
def printed (text : Text) : Text :=
  Text.join ['\n'] ((Text.splitOn '\n' (dropControls text)).map expandTabs)

/-- A text as it is shown: with pictures, without interpreting markup. -/
def printedPlain (text : Text) : Text :=
  printed (withPictures text)

def printedMarkup (markup : Text) : Text :=
  printed (shown markup)

/-- A piece of text as it is shown as part of markup. -/
def printedEscaped (text : Text) : Text :=
  printedMarkup (escape text)

def line (markup : Text) : Text :=
  printedMarkup markup ++ ['\n']

def errorLine (message : Text) : Text :=
  line ("[red]Error:[/red] ".toList ++ escape message)

/-- The line for an error in a ledger, with the path, the line and the column where
it shows. -/
def ledgerErrorLine (path : Text) (line? column? : Option Text) (message : Text) : Text :=
  let place :=
    match line?, column? with
    | none, _ => []
    | some line, none => ':' :: line
    | some line, some column => ':' :: line ++ ':' :: column
  line ("[red]Error:[/red] ".toList ++ escape path ++ place ++ ": ".toList ++ escape message)

def successLine (message : Text) : Text :=
  line ("[green]✓[/green] ".toList ++ escape message)

def warningLine (message : Text) : Text :=
  line ("[yellow]Warning:[/yellow] ".toList ++ escape message)

def infoLine (message : Text) : Text :=
  line ("[blue]i[/blue] ".toList ++ escape message)

/-- The line for a report without rows. -/
def emptyLine : Text :=
  line "[dim]Nothing to show[/dim]".toList

/-- Whether a character may stand between the beginning and the end of a command
to the terminal. -/
def isCommandBody (c : Char) : Bool :=
  c == ';' || c == '?' || ('0' ≤ c && c ≤ '9')

/-- Whether a character ends a command to the terminal. -/
def isCommandEnd (c : Char) : Bool :=
  ('a' ≤ c && c ≤ 'z') || ('A' ≤ c && c ≤ 'Z')

/-- How many characters of a command to the terminal follow its first one, zero
when none begins there. -/
def commandLength : Text → Nat
  | '[' :: rest =>
    let body := rest.takeWhile isCommandBody
    if (rest.drop body.length).head?.any isCommandEnd then body.length + 2 else 0
  | _ => 0

/-- The text without commands to the terminal, of which the given number of
characters is still to be left out. -/
def dropCommandsFrom : Nat → Text → Text
  | _, [] => []
  | skipped + 1, _ :: rest => dropCommandsFrom skipped rest
  | 0, c :: rest =>
    if c == '\x1b' && commandLength rest != 0 then dropCommandsFrom (commandLength rest) rest
    else c :: dropCommandsFrom 0 rest

/-- The text without commands to the terminal. -/
def dropCommands (text : Text) : Text :=
  dropCommandsFrom 0 text

end Terminal
end Daybook
