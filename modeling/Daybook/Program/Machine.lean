import Daybook.Program.Run
import Daybook.Storage.Disk

namespace Daybook

/-!
# A machine that is a value

The program can run in surroundings that are a value: a folder, the variables of
an environment, the lines of the input, a present day, and what was written so far.
-/

open Calendar

/-- Surroundings of the program: the folder that paths begin in, the variables of the environment,
the present day, and what was written so far. -/
structure Machine where
  folder : Folder := {}
  environment : Environment := []
  today : Date
  output : Text := []
  errors : Text := []

namespace Machine

def host : Host (StateM Machine) where
  environment := return (← get).environment
  today := return (← get).today
  read path := return (← get).folder.read path
  save path text := do
    let machine ← get
    let (result, disk) := Disk.save { folder := machine.folder } path text
    set { machine with folder := disk.folder }
    return result
  out text := modify fun machine => { machine with output := machine.output ++ text }
  err text := modify fun machine => { machine with errors := machine.errors ++ text }

/-- The lines of an input; the last one needs no end. -/
def inputLines (input : Text) : List Text :=
  let pieces := Text.splitOn '\n' (Text.unifyLineEnds input)
  if pieces.getLast? == some [] then pieces.dropLast else pieces

/-- Runs the program with the words of a command line and an input. -/
def run (machine : Machine) (words : List Text) (input : Text) : Ending × Machine :=
  let talk : Program.Talk (StateM Machine) := fun conversation =>
    conversation.answerAll host (inputLines input)
  (Program.run host talk words).run machine

end Machine
end Daybook
