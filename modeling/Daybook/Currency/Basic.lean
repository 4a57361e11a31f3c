import Daybook.Text.Basic
import Daybook.Unicode.Case
import Daybook.Unicode.Word

namespace Daybook

/-!
# Currencies

A currency is known by its designator, a symbol or an alphabetic code.  A symbol
may have a code as its alias.  The style says where the designator stands next
to a number; unless one is declared, symbols stand before and everything else
stands behind as a code.
-/

/-- Where the designator stands next to a number: directly before it, directly after it, or after
it and a space. -/
inductive Style where
  | before
  | after
  | code
  deriving DecidableEq, Repr

/-- A currency.  It is known by its designator, a symbol or a code; a symbol may have a code as its
alias.  The precision is the number of decimals shown, and the name is for people. -/
structure Currency where
  designator : Text
  code : Option Text
  precision : Int
  name : Option Text
  style : Style
  deriving DecidableEq, Repr

open Unicode

/-- The characters that can be a currency symbol: neither part of a word nor
blank, and none of the marks that amounts and comments are written with. -/
def isSymbolChar (c : Char) : Bool :=
  !isWord c && !isBlank c && c != '.' && c != ';' && c != '-'

def isSymbol (text : Text) : Bool :=
  Text.endsLoosely
    (fun
      | [c] => isSymbolChar c
      | _ => false)
    text

def isCode (text : Text) : Bool :=
  Text.endsLoosely (fun letters => !letters.isEmpty && letters.all isCodeLetter) text

/-- A designator in the form under which it is kept: codes in upper case. -/
def normalDesignator (token : Text) : Text :=
  if isCode token then upper token else token

namespace Currency

/-- The number of decimals of a currency that declares none. -/
def defaultPrecision : Int := 2

/-- The style of a currency that declares none. -/
def defaultStyle (designator : Text) : Style :=
  if Daybook.isSymbol designator then .before else .code

/-- A currency of which only the designator is known. -/
def plain (designator : Text) : Currency :=
  ⟨designator, none, defaultPrecision, none, defaultStyle designator⟩

def isSymbol (currency : Currency) : Bool :=
  Daybook.isSymbol currency.designator

/-- Whether two declarations of one designator agree. -/
def agrees (left right : Currency) : Bool :=
  left.code == right.code && left.precision == right.precision && left.name == right.name &&
    left.style == right.style

end Currency
end Daybook
