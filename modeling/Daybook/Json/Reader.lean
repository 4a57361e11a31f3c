import Daybook.Json.Basic
import Daybook.Json.Token

namespace Daybook
namespace Json

/-!
# Reading JSON

A JSON text is read token by token.  What has been begun and not ended is kept as
frames, innermost first; what may come next depends on them.  A comma demands an
item or a member after it.
-/

/-- Why a text is no JSON value: it is not written like one, or a whole number has too many
digits. -/
inductive ReadFault where
  | malformed
  | tooLong (digits : Nat)
  deriving DecidableEq, Repr

/-- A list or an object that has been begun, with what it has so far, last one first.  An object
waits for the value of a name. -/
inductive Frame where
  | list (items : List Json)
  | object (members : List (Text × Json)) (name : Text)

/-- What may come next.  `firstItem` and `firstName` may also be the end of the list or of the
object; `afterValue` is what follows a value within its frame. -/
inductive Expected where
  | value
  | firstItem
  | firstName
  | name (members : List (Text × Json))
  | colon (members : List (Text × Json)) (name : Text)
  | afterValue (value : Json)

def ofNumeral (numeral : Numeral) : Except ReadFault Json :=
  match numeral.fraction, numeral.exponent with
  | none, none =>
    if numeral.whole.length > Text.digitLimit then .error (.tooLong numeral.whole.length)
    else
      let size : Int := (Text.digits? numeral.whole).getD 0
      .ok (.integer (if numeral.negative then -size else size))
  | fraction, exponent =>
    let behind := fraction.getD []
    let shift : Int :=
      match exponent with
      | none => 0
      | some (negative, digits) =>
        let size : Int := (Text.digits? digits).getD 0
        if negative then -size else size
    .ok (.binary (.ofDecimal numeral.negative (numeral.whole ++ behind) (shift - behind.length)))

def ofWord : Word → Json
  | .null => .null
  | .true => .bool true
  | .false => .bool false
  | .nan => .binary .nan
  | .infinity => .binary (.infinite false)
  | .negativeInfinity => .binary (.infinite true)

def readFrom : List Frame → Expected → List Token → Except ReadFault Json
  | [], .afterValue value, [] => .ok value
  | _, _, [] => .error .malformed
  | frames, expected, token :: rest =>
    match expected, token with
    | .value, .openList | .firstItem, .openList => readFrom (.list [] :: frames) .firstItem rest
    | .value, .openObject | .firstItem, .openObject => readFrom frames .firstName rest
    | .value, .word word | .firstItem, .word word =>
      readFrom frames (.afterValue (ofWord word)) rest
    | .value, .text content | .firstItem, .text content =>
      readFrom frames (.afterValue (.text content)) rest
    | .value, .numeral numeral | .firstItem, .numeral numeral =>
      match ofNumeral numeral with
      | .ok value => readFrom frames (.afterValue value) rest
      | .error fault => .error fault
    | .firstItem, .closeList =>
      match frames with
      | .list items :: outer => readFrom outer (.afterValue (.list items.reverse)) rest
      | _ => .error .malformed
    | .firstName, .closeObject => readFrom frames (.afterValue (.object [])) rest
    | .firstName, .text name => readFrom frames (.colon [] name) rest
    | .name members, .text name => readFrom frames (.colon members name) rest
    | .colon members name, .colon => readFrom (.object members name :: frames) .value rest
    | .afterValue value, .comma =>
      match frames with
      | .list items :: outer => readFrom (.list (value :: items) :: outer) .value rest
      | .object members name :: outer => readFrom outer (.name ((name, value) :: members)) rest
      | [] => .error .malformed
    | .afterValue value, .closeList =>
      match frames with
      | .list items :: outer => readFrom outer (.afterValue (.list (value :: items).reverse)) rest
      | _ => .error .malformed
    | .afterValue value, .closeObject =>
      match frames with
      | .object members name :: outer =>
        readFrom outer (.afterValue (.object ((name, value) :: members).reverse)) rest
      | _ => .error .malformed
    | _, _ => .error .malformed
termination_by structural _ _ tokens => tokens

def ofText (text : Text) : Except ReadFault Json :=
  readFrom [] .value (tokens text)

end Json
end Daybook
