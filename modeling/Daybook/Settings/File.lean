import Daybook.Json.Reader
import Daybook.Settings.Environment

namespace Daybook

/-!
# Settings in a file

The file of settings holds a JSON object.  It lies in a folder that a variable
names, or else in the home folder, and counts only if the environment gives no
settings.
-/

namespace Settings

/-- The path that a member gives, if its value counts as true. -/
def pathOf (home : Text) (name : Text) : Option Json → Except SettingsFault (Option Path)
  | none => .ok none
  | some value =>
    if !value.isTrue then .ok none
    else
      match value with
      | .text text =>
        match (Path.ofText text).expandHome? home with
        | some path => .ok (some path)
        | none => .error .noHome
      | _ => .error (.wrongKind name)

/-- The whole number that a member gives, or the default.  A number loses its
fraction, and the truth values count as one and zero. -/
def wholeOf (default : Int) (name : Text) : Option Json → Except SettingsFault Int
  | none => .ok default
  | some (.integer value) => .ok value
  | some (.bool value) => .ok (if value then 1 else 0)
  | some (.binary (.finite negative significand exponent)) =>
    .ok (Json.Binary.truncated negative significand exponent)
  | some (.binary (.infinite _)) => .error .infinite
  | some (.binary .nan) => .error .notNumber
  | some (.text text) =>
    match Text.toInteger text with
    | .ok value => .ok value
    | .error fault => .error (.integer fault)
  | some .null | some (.list _) | some (.object _) => .error (.wrongKind name)

def ledgerName : Text := "ledger_path".toList

/-- The name of the member that refuses undeclared currencies. -/
def strictName : Text := "strict_currencies".toList

def historyName : Text := "history_limit".toList

def columnName : Text := "amount_column".toList

def ofJson (home : Text) : Json → Except SettingsFault Settings
  | .object members => do
    let defaults : Settings := {}
    let ledger ← pathOf home ledgerName (Json.member? members ledgerName)
    let historyLimit ←
      wholeOf defaults.historyLimit historyName (Json.member? members historyName)
    let amountColumn ← wholeOf defaults.amountColumn columnName (Json.member? members columnName)
    return {
      ledger
      strict := (Json.member? members strictName).any (·.isTrue)
      historyLimit
      amountColumn }
  | _ => .error .notObject

def ofBytes (home : Text) (bytes : Bytes) : Except SettingsFault Settings :=
  match Encoding.readText bytes with
  | .error defect => .error (.undecodable defect)
  | .ok text =>
    match Json.ofText text with
    | .ok value => ofJson home value
    | .error .malformed => .error .malformed
    | .error (.tooLong digits) => .error (.integer (.tooLong digits))

/-- The settings of a file that was read, or was found to be unreadable.  A file
that is not there and one below what is no folder are missing alike. -/
def ofFile (home : Text) (path : Path) : Except AccessFault Bytes → Except SettingsFault Settings
  | .ok bytes => ofBytes home bytes
  | .error .missing | .error .notFolder => .error (.noFile path)
  | .error fault => .error (.unreadable path fault)

def fileNames : List Text := ["coinjar".toList, "config.json".toList]

def filePath (environment : Environment) : Except SettingsFault Path :=
  match environment.filled? "XDG_CONFIG_HOME" with
  | some folder => .ok ((Path.ofText folder).below fileNames)
  | none =>
    match Path.home? environment.home with
    | some home => .ok (home.below (".config".toList :: fileNames))
    | none => .error .noHome

/-- The settings of the file in its usual place; `read` gives its content. -/
def ofUsualFile (environment : Environment) (read : Path → Except AccessFault Bytes) :
    Except SettingsFault Settings := do
  let path ← filePath environment
  ofFile environment.home path (read path)

/-- The settings: those of the environment if it gives any without a fault, or
else those of the file, or else the defaults. -/
def load (environment : Environment) (read : Path → Except AccessFault Bytes) :
    Except SettingsFault Settings :=
  match ofEnvironment environment with
  | .ok settings => .ok settings
  | .error _ =>
    match ofUsualFile environment read with
    | .error (.noFile _) => .ok {}
    | found => found

end Settings
end Daybook
