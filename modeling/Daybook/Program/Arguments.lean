import Daybook.Text.Basic

namespace Daybook

/-!
# Words of a command line

A word that begins with a hyphen gives options.  A long option is a word of its
own, and its value follows an equals sign or is the next word; letters stand
together behind one hyphen, and the value of a letter is the rest of the word or,
if nothing is left, the next word.  Two hyphens end the options.
-/

/-- An option that a command knows: what it means, the long word with its hyphens, the letter, and
whether it has a value. -/
structure KnownOption (α : Type) where
  meaning : α
  long : Text
  letter : Option Char := none
  takesValue : Bool := false

/-- Why a command line is refused.  `badValue` is about a value that the option does not take. -/
inductive UsageFault where
  | unknownOption (word : Text)
  | missingValue
  | unexpectedValue (word : Text)
  | badValue (value : Text)
  | missingCommand
  | unknownCommand (word : Text)
  | missingOperand
  | extraOperands
  deriving DecidableEq, Repr

/-- The options that were given, in order and with their values, and the operands.  An option
without a value has the empty text. -/
structure Arguments (α : Type) where
  options : List (α × Text) := []
  operands : List Text := []

namespace Arguments

variable {α : Type}

/-- The options of a word, and the option whose value is the next word. -/
abbrev WordOptions (α : Type) := List (α × Text) × Option α

/-- The options of letters that stand together. -/
def ofLetters (known : List (KnownOption α)) : Text → Except UsageFault (WordOptions α)
  | [] => .ok ([], none)
  | letter :: rest =>
    match known.find? fun option => option.letter == some letter with
    | none => .error (.unknownOption ['-', letter])
    | some option =>
      if option.takesValue then
        if rest.isEmpty then .ok ([], some option.meaning)
        else .ok ([(option.meaning, rest)], none)
      else
        (ofLetters known rest).map fun (options, waiting) =>
          ((option.meaning, []) :: options, waiting)

def ofWord (known : List (KnownOption α)) (word : Text) : Except UsageFault (WordOptions α) :=
  let (name, value) := Text.cutAt '=' word
  match known.find? fun option => option.long == name with
  | some option =>
    match option.takesValue, value with
    | true, some text => .ok ([(option.meaning, text)], none)
    | true, none => .ok ([], some option.meaning)
    | false, some _ => .error (.unexpectedValue word)
    | false, none => .ok ([(option.meaning, [])], none)
  | none =>
    if ['-', '-'].isPrefixOf word then .error (.unknownOption name)
    else ofLetters known word.tail

def givesOptions (word : Text) : Bool :=
  word.head? == some '-' && word.length != 1

def withOptions (options : List (α × Text)) (arguments : Arguments α) : Arguments α :=
  { arguments with options := options ++ arguments.options }

def withOperand (word : Text) (arguments : Arguments α) : Arguments α :=
  { arguments with operands := word :: arguments.operands }

/-- Reads the words of a command line.  With `mixed` options may follow operands;
otherwise the first operand ends them. -/
def ofWords (known : List (KnownOption α)) (mixed : Bool) :
    List Text → Except UsageFault (Arguments α)
  | [] => .ok {}
  | word :: rest =>
    if word == ['-', '-'] then .ok { operands := rest }
    else if givesOptions word then
      match ofWord known word with
      | .error fault => .error fault
      | .ok (options, none) => (ofWords known mixed rest).map (withOptions options)
      | .ok (options, some waiting) =>
        match rest with
        | [] => .error .missingValue
        | value :: others =>
          (ofWords known mixed others).map (withOptions (options ++ [(waiting, value)]))
    else if mixed then (ofWords known mixed rest).map (withOperand word)
    else .ok { operands := word :: rest }

def has [BEq α] (arguments : Arguments α) (meaning : α) : Bool :=
  arguments.options.any fun entry => entry.1 == meaning

/-- The value that an option was given last. -/
def value? [BEq α] (arguments : Arguments α) (meaning : α) : Option Text :=
  (arguments.options.reverse.find? fun entry => entry.1 == meaning).map (·.2)

end Arguments
end Daybook
