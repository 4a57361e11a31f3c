import Daybook.Program.Run
import Std.Time.Zoned

namespace Daybook
namespace Main

/-!
# The program

The program in the surroundings of the machine that it runs on: its files, its
clock, its environment and its standard streams.  All that is decided is decided
elsewhere.
-/

/-- The variables of the environment that count. -/
def variableNames : List String :=
  ["HOME", "XDG_CONFIG_HOME", "COINJAR_LEDGER", "COINJAR_STRICT_CURRENCIES",
    "COINJAR_HISTORY_LIMIT", "COINJAR_AMOUNT_COLUMN"]

def environment : IO Environment :=
  variableNames.filterMapM fun name => do
    return (← IO.getEnv name).map fun value => (name.toList, value.toList)

def today : IO Calendar.Date := do
  let day ← Std.Time.PlainDate.now
  match
    Calendar.Date.ofParts day.year.toInt.toNat day.month.val.toNat day.day.val.toNat
  with
  | .ok date => return date
  | .error fault => throw (IO.userError (String.ofList fault.message))

/-- The number of the system's fault for a file in place of a folder. -/
def notFolderCode : UInt32 := 20

/-- The number of the system's fault for a folder in place of a file. -/
def isFolderCode : UInt32 := 21

/-- Whether the system gives a fault a number, with either sign. -/
def hasNumber (code number : UInt32) : Bool :=
  code == number || code == 0 - number

/-- What a fault of the system says about a file. -/
def accessFault : IO.Error → AccessFault
  | .permissionDenied .. => .denied
  | .inappropriateType _ code _ =>
    if hasNumber code isFolderCode then .isFolder
    else if hasNumber code notFolderCode then .notFolder
    else .missing
  | _ => .missing

def readFile (path : Path) : IO (Except AccessFault Bytes) := do
  try
    return .ok (← IO.FS.readBinFile (String.ofList path.toText)).toList
  catch fault => return .error (accessFault fault)

/-- Puts a file in the place of another one, in at most so many attempts. -/
def replaceFile (source target : String) : Nat → IO Unit
  | 0 | 1 => IO.FS.rename source target
  | attempts + 1 => do
    try IO.FS.rename source target
    catch fault =>
      match accessFault fault with
      | .denied =>
        IO.sleep 50
        replaceFile source target attempts
      | _ => throw fault

/-- How often putting a file in place is tried. -/
def attemptLimit : Nat := 3

/-- Puts a file in place, or removes it when that fails. -/
def putInPlace (own target : String) : IO Unit := do
  try replaceFile own target attemptLimit
  catch fault =>
    IO.FS.removeFile own
    throw fault

/-- The path of a file of its own in the folder of another one. -/
def ownPath (path : Path) (stamp : Nat) : Path :=
  let name := '.' :: path.parts.getLastD [] ++ '.' :: Text.ofNat stamp ++ ".tmp".toList
  { path with parts := path.parts.dropLast ++ [name] }

/-- Saves a text through a file of its own in the same folder. -/
def saveFile (path : Path) (text : Text) : IO (Except WriteFault Unit) := do
  let own := String.ofList (ownPath path (← IO.monoNanosNow)).toText
  try
    IO.FS.writeBinFile own (ByteArray.mk (Encoding.encode text).toArray)
    putInPlace own (String.ofList path.toText)
    return .ok ()
  catch fault => return .error (.ofReason path.toText ((accessFault fault).message path))

def write (stream : IO.FS.Stream) (text : Text) : IO Unit := do
  stream.putStr (String.ofList text)
  stream.flush

def host : Host IO where
  environment := environment
  today := today
  read := readFile
  save := saveFile
  out text := do write (← IO.getStdout) text
  err text := do write (← IO.getStderr) text

def readLine : IO (Option Text) := do
  let line ← (← IO.getStdin).getLine
  if line.isEmpty then return none
  else return some (line.toList.filter fun c => c != '\n' && c != '\r')

/-- Holds a conversation with the lines of the input. -/
partial def converse (talk : Conversation) : Task IO Conversation := do
  host.out Conversation.prompt
  match ← (readLine : IO (Option Text)) with
  | none => return talk
  | some line =>
    match ← talk.answer host line with
    | none => return talk
    | some next => converse next

end Main
end Daybook

def main (words : List String) : IO UInt32 := do
  let host := Daybook.Main.host
  match ← Daybook.Program.run host Daybook.Main.converse (words.map String.toList) with
  | .status code => return code.toUInt32
  | .escaped cause =>
    host.err (cause.message ++ ['\n'])
    return Daybook.faultStatus.toUInt32
