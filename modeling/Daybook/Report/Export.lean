import Daybook.Report.Row
import Daybook.Terminal.Line

namespace Daybook
namespace ReportRow

/-!
# Reports for other programs

A report is written as a JSON list with an object for each row, or as records
with commas between the fields.  A field of a record is put between quotation
marks only if it would otherwise be read as something else, and a quotation mark
in it is written twice.  An empty report is an empty list, or no record at all.
-/

/-- The quotation mark of both formats. -/
def quotationMark : Char := '\x22'

def jsonChar (c : Char) : Text :=
  if c == quotationMark || c == '\x5c' then ['\x5c', c]
  else if c == '\n' then ['\x5c', 'n']
  else if c == '\r' then ['\x5c', 'r']
  else if c == '\t' then ['\x5c', 't']
  else if c == '\x08' then ['\x5c', 'b']
  else if c == '\x0c' then ['\x5c', 'f']
  else if c.toNat < 32 then '\x5c' :: 'u' :: Text.hexadecimal 4 c.toNat
  else [c]

def jsonText (text : Text) : Text :=
  quotationMark :: text.flatMap jsonChar ++ [quotationMark]

def indentation (depth : Nat) : Text := List.replicate (2 * depth) ' '

def jsonField (field : Text × Text) : Text :=
  indentation 2 ++ jsonText field.1 ++ ": ".toList ++ jsonText field.2

def jsonRow (row : ReportRow) : Text :=
  indentation 1 ++ '\x7b' :: '\n' :: Text.join ",\n".toList (row.fields.map jsonField) ++
    '\n' :: indentation 1 ++ ['\x7d']

def toJson (rows : List ReportRow) : Text :=
  if rows.isEmpty then "[]".toList
  else '[' :: '\n' :: Text.join ",\n".toList (rows.map jsonRow) ++ ['\n', ']']

/-- Whether a character of a field makes quotation marks necessary. -/
def needsQuotation (c : Char) : Bool :=
  c == ',' || c == quotationMark || c == '\n' || c == '\r'

def recordField (field : Text) : Text :=
  if field.any needsQuotation then
    quotationMark ::
      field.flatMap (fun c => if c == quotationMark then [c, c] else [c]) ++ [quotationMark]
  else field

def toRecord (fields : List Text) : Text :=
  Text.join [','] (fields.map recordField) ++ ['\n']

def fieldNames (rows : List ReportRow) : List Text :=
  match rows with
  | [] => []
  | first :: _ => first.fields.map (·.1)

/-- A report as records, the first of which holds the names of the fields. -/
def toRecords (rows : List ReportRow) : Text :=
  if rows.isEmpty then []
  else
    toRecord (fieldNames rows) ++
      rows.flatMap fun row => toRecord (row.fields.map (·.2))

end ReportRow
end Daybook
