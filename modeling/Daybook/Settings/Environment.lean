import Daybook.Settings.Basic
import Daybook.Unicode.Case

namespace Daybook

/-!
# Settings in the environment

A variable that is set to nothing counts as not set.  Variables give settings
only if at least one of the four is set, and a number that cannot be read leaves
none of them.
-/

open Unicode

/-- The variables of the environment with their values. -/
abbrev Environment := Table Text Text

namespace Environment

/-- The value of a variable that is set and not empty. -/
def filled? (environment : Environment) (name : String) : Option Text :=
  match environment.get? name.toList with
  | some [] | none => none
  | some value => some value

/-- The home folder when no variable names it. -/
def defaultHome : Text := "/root".toList

def home (environment : Environment) : Text :=
  (environment.get? "HOME".toList).getD defaultHome

end Environment

namespace Settings

/-- The words that switch a setting on, in small letters. -/
def trueWords : List Text := ["1".toList, "true".toList, "yes".toList, "on".toList]

/-- The number that a variable gives, or the default. -/
def numberOf (default : Int) : Option Text → Except SettingsFault Int
  | none => .ok default
  | some text =>
    match Text.toInteger text with
    | .ok value => .ok value
    | .error fault => .error (.integer fault)

/-- The settings that the variables of the environment give. -/
def ofEnvironment (environment : Environment) : Except SettingsFault Settings :=
  let ledger := environment.filled? "COINJAR_LEDGER"
  let strict := environment.filled? "COINJAR_STRICT_CURRENCIES"
  let history := environment.filled? "COINJAR_HISTORY_LIMIT"
  let column := environment.filled? "COINJAR_AMOUNT_COLUMN"
  if ledger.isNone && strict.isNone && history.isNone && column.isNone then .error .noVariables
  else do
    let defaults : Settings := {}
    let historyLimit ← numberOf defaults.historyLimit history
    let amountColumn ← numberOf defaults.amountColumn column
    return {
      ledger := ledger.map Path.ofText
      strict := strict.any fun text => trueWords.contains (lower text)
      historyLimit
      amountColumn }

end Settings
end Daybook
