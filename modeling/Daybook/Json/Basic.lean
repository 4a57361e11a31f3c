import Daybook.Json.Number

namespace Daybook

/-!
# JSON values

The values of the JSON data format.  A number that is written without fraction
and exponent is a whole number of any size; an object keeps its members in order,
and of two members of one name the later one counts.
-/

/-- A JSON value.  Numbers with a fraction or an exponent are binary ones. -/
inductive Json where
  | null
  | bool (value : Bool)
  | integer (value : Int)
  | binary (value : Json.Binary)
  | text (value : Text)
  | list (items : List Json)
  | object (members : List (Text × Json))

namespace Json

/-- The value of the last member with a name. -/
def member? (members : List (Text × Json)) (name : Text) : Option Json :=
  (members.reverse.find? fun entry => entry.1 == name).map (·.2)

/-- Whether a value counts as true: all do but null, the false one, zeros and what
is empty. -/
def isTrue : Json → Bool
  | .null => false
  | .bool value => value
  | .integer value => value != 0
  | .binary value => !value.isZero
  | .text value => !value.isEmpty
  | .list items => !items.isEmpty
  | .object members => !members.isEmpty

end Json
end Daybook
