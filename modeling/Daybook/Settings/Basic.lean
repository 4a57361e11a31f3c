import Daybook.Ledger.Printed
import Daybook.Storage.Folder

namespace Daybook

/-!
# Settings

The settings name the ledger, say whether undeclared currencies are refused, how
long the history of a session is, and where amounts end.  They are given by
variables of the environment or by the members of a JSON object; what is not
given has its default.
-/

/-- The settings.  `ledger` is used when none is named on the command line, and a strict ledger has
amounts in declared currencies only. -/
structure Settings where
  ledger : Option Path := none
  strict : Bool := false
  historyLimit : Int := 100
  amountColumn : Int := defaultAmountColumn
  deriving DecidableEq, Repr

/-- Why there are no settings: no variable is set, the file of settings is missing or holds no
text, no JSON value or no object, a member of it has the wrong value, or a home folder is not
known. -/
inductive SettingsFault where
  | noVariables
  | integer (fault : IntegerFault)
  | noFile (path : Path)
  | unreadable (path : Path) (fault : AccessFault)
  | undecodable (defect : Encoding.Defect)
  | malformed
  | notObject
  | wrongKind (name : Text)
  | infinite
  | notNumber
  | noHome
  deriving DecidableEq, Repr

def SettingsFault.message : SettingsFault → Text
  | .noVariables => "No COINJAR_* environment variables set".toList
  | .integer fault => fault.message
  | .noFile path => "Config file not found: ".toList ++ path.toText
  | .unreadable path fault => fault.message path
  | .undecodable defect => defect.message
  | .malformed => "Config file is not valid JSON".toList
  | .notObject => "Config file is not a JSON object".toList
  | .wrongKind name => "Config value has the wrong type: ".toList ++ name
  | .infinite => "cannot convert float infinity to integer".toList
  | .notNumber => "cannot convert float NaN to integer".toList
  | .noHome => "Could not determine home directory.".toList

end Daybook
