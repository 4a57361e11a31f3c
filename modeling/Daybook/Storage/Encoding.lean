import Daybook.Text.Quoted

namespace Daybook

/-!
# Texts as bytes

A text is stored as bytes, one to four for a character.  A first byte says how
many bytes follow it and in which range the second one lies; all others lie
between 128 and 191.  Reading stops at the first defect and says where it is and
how many bytes it spans.
-/

/-- The content of a file. -/
abbrev Bytes := List UInt8

namespace Encoding

/-- Why bytes are no text: no character begins with the byte, a byte does not continue the
character before it, or the bytes end within a character. -/
inductive DefectKind where
  | badStart
  | badContinuation
  | cutShort
  deriving DecidableEq, Repr

/-- A defect of bytes that should be a text: its kind, the first byte that it spans, where that is
from zero, and how many bytes it spans. -/
structure Defect where
  kind : DefectKind
  first : UInt8
  position : Nat
  length : Nat
  deriving DecidableEq, Repr

def DefectKind.message : DefectKind → Text
  | .badStart => "invalid start byte".toList
  | .badContinuation => "invalid continuation byte".toList
  | .cutShort => "unexpected end of data".toList

def Defect.message (defect : Defect) : Text :=
  let place :=
    if defect.length = 1 then
      "byte 0x".toList ++ Text.hexadecimal 2 defect.first.toNat ++ " in position ".toList ++
        Nat.toDigits 10 defect.position
    else
      "bytes in position ".toList ++ Nat.toDigits 10 defect.position ++
        '-' :: Nat.toDigits 10 (defect.position + defect.length - 1)
  "'utf-8' codec can't decode ".toList ++ place ++ ": ".toList ++ defect.kind.message

/-- A character of which some bytes are still to come: its first byte, the number of bytes so far
with the number that they spell, and the bytes to come.  The next one lies between `low` and
`high`. -/
structure Unfinished where
  first : UInt8
  length : Nat
  value : Nat
  missing : Nat
  low : Nat
  high : Nat
  deriving Repr

/-- The character that a byte begins, if it begins one of several bytes. -/
def begin? (byte : UInt8) : Option Unfinished :=
  let code := byte.toNat
  let made (value missing low high : Nat) : Unfinished := ⟨byte, 1, value, missing, low, high⟩
  if 194 ≤ code ∧ code ≤ 223 then some (made (code - 192) 1 128 191)
  else if code = 224 then some (made 0 2 160 191)
  else if code = 237 then some (made 13 2 128 159)
  else if 225 ≤ code ∧ code ≤ 239 then some (made (code - 224) 2 128 191)
  else if code = 240 then some (made 0 3 144 191)
  else if 241 ≤ code ∧ code ≤ 243 then some (made (code - 240) 3 128 191)
  else if code = 244 then some (made 4 3 128 143)
  else none

/-- Reads bytes of which the first has the given position, after the bytes of an
unfinished character. -/
def decodeFrom : Nat → Option Unfinished → Bytes → Except Defect Text
  | _, none, [] => .ok []
  | position, some char, [] => .error ⟨.cutShort, char.first, position - char.length, char.length⟩
  | position, none, byte :: rest =>
    if byte.toNat < 128 then
      (decodeFrom (position + 1) none rest).map (Char.ofNat byte.toNat :: ·)
    else
      match begin? byte with
      | some char => decodeFrom (position + 1) (some char) rest
      | none => .error ⟨.badStart, byte, position, 1⟩
  | position, some char, byte :: rest =>
    let code := byte.toNat
    if char.low ≤ code ∧ code ≤ char.high then
      let value := 64 * char.value + (code - 128)
      if char.missing = 1 then
        (decodeFrom (position + 1) none rest).map (Char.ofNat value :: ·)
      else
        let next : Unfinished := ⟨char.first, char.length + 1, value, char.missing - 1, 128, 191⟩
        decodeFrom (position + 1) (some next) rest
    else .error ⟨.badContinuation, char.first, position - char.length, char.length⟩

def decode (bytes : Bytes) : Except Defect Text :=
  decodeFrom 0 none bytes

/-- The text that bytes spell, with line feeds at the ends of lines. -/
def readText (bytes : Bytes) : Except Defect Text :=
  (decode bytes).map Text.unifyLineEnds

def encode (text : Text) : Bytes :=
  text.flatMap String.utf8EncodeChar

end Encoding
end Daybook
