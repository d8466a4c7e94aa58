import Chip8.Decimal.Reading
import Chip8.Text.Numeral

/-! The command line: the path of a program and how to run it.

        [--hz F] [--max-cycles N] [--beep] [--key-hold N] [-h] PATH

    Arguments are read from left to right. An option takes its value after `=` or as the next
    argument, which then must not look like an option. Each option and the path may be given once.
    After `--` every argument is a path. A request for help ends the reading, but does not excuse a
    mistake before it. -/

namespace Chip8.Command

/-- What the command line asks for. -/
structure Options where
  /-- The path of the program. -/
  path : String
  /-- Cycles a second. -/
  hz : Float
  /-- Stop after this many cycles. -/
  maxCycles : Option Nat
  /-- Sound the speaker. -/
  beep : Bool
  /-- Updates that a press of a key lasts. -/
  keyHold : Nat

/-- What is wrong with a command line. -/
inductive UsageError
  | unknownOption (argument : String)
  | missingValue (option : String)
  | unexpectedValue (option : String)
  | invalidValue (option value : String)
  | repeated (option : String)
  | unexpectedArgument (argument : String)
  | emptyPath
  | missingPath
  deriving DecidableEq, Repr

/-- The sentence that tells a person what is wrong. -/
def UsageError.message : UsageError → String
  | unknownOption argument => "unexpected argument '" ++ argument ++ "'"
  | missingValue option => "a value is required for '--" ++ option ++ "'"
  | unexpectedValue option => "no value is allowed for '--" ++ option ++ "'"
  | invalidValue option value => "invalid value '" ++ value ++ "' for '--" ++ option ++ "'"
  | repeated option => "the argument '--" ++ option ++ "' cannot be used multiple times"
  | unexpectedArgument argument => "unexpected argument '" ++ argument ++ "'"
  | emptyPath => "a value is required for the path"
  | missingPath => "the path of a program was not provided"

/-- What a command line asks for: help, or a run. -/
inductive Invocation
  | help
  | run (options : Options)

/-- How the command is used. -/
def usage : String :=
  "Usage: chip8 [OPTIONS] PATH\n\n"
    ++ "Run the CHIP-8 program in the file PATH in the terminal.\n\n"
    ++ "  --hz F          run F cycles a second (60)\n"
    ++ "  --max-cycles N  stop after N cycles\n"
    ++ "  --beep          sound the bell when a tone begins\n"
    ++ "  --key-hold N    let a press of a key last for N frames (6)\n"
    ++ "  -h, --help      show this text"

/-- What was read of a command line so far. -/
structure Given where
  path : Option String := none
  hz : Option Float := none
  maxCycles : Option Nat := none
  beep : Bool := false
  keyHold : Option Nat := none

namespace Given

/-- Take an option that may be given once. -/
def once {α : Type} (option value : String) (old : Option α) (parsed : Option α)
    (update : Option α → Given) : Except UsageError Given :=
  match parsed, old with
  | none, _ => .error (.invalidValue option value)
  | some _, some _ => .error (.repeated option)
  | some a, none => .ok (update (some a))

/-- The largest number of cycles that can be asked for: 64 bits. -/
def maxCount : Nat := 0xffffffffffffffff

/-- The largest number of updates that a press can last: 32 bits. -/
def maxHold : Int := 0xffffffff

/-- The options that take a value. -/
def valued : List String := ["hz", "max-cycles", "key-hold"]

/-- Take the value of an option. -/
def setOption (g : Given) (option value : String) : Except UsageError Given :=
  match option with
  | "hz" => once option value g.hz (Decimal.double? value) fun v => { g with hz := v }
  | "max-cycles" =>
    once option value g.maxCycles (Decimal.natural? maxCount value)
      fun v => { g with maxCycles := v }
  | "key-hold" =>
    let number := (Decimal.integer? value).filter fun n => 0 ≤ n ∧ n ≤ maxHold
    once option value g.keyHold (number.map Int.toNat) fun v => { g with keyHold := v }
  | _ => .error (.unknownOption option)

/-- Take a path. -/
def setPath (g : Given) (path : String) : Except UsageError Given :=
  match g.path with
  | some _ => .error (.unexpectedArgument path)
  | none => if path.isEmpty then .error .emptyPath else .ok { g with path := some path }

/-- Take several paths, of which only one can be right. -/
def setPaths (g : Given) : List String → Except UsageError Given
  | [] => .ok g
  | path :: rest => do (← g.setPath path).setPaths rest

/-- What was given, with the usual values where nothing was. -/
def toOptions (g : Given) : Except UsageError Options :=
  match g.path with
  | none => .error .missingPath
  | some path => .ok ⟨path, g.hz.getD 60, g.maxCycles, g.beep, g.keyHold.getD 6⟩

end Given

/-- An argument by its form. -/
inductive Argument
  /-- The mark after which every argument is a path. -/
  | endOfOptions
  /-- An option by its long name, with the value after `=` if there is one. -/
  | long (name : String) (value : Option String)
  /-- One letter options, the first of them told apart. -/
  | short (letter : Char)
  | plain
  deriving DecidableEq, Repr

/-- The form of an argument. A lone dash is no option. -/
def Argument.ofString (argument : String) : Argument :=
  match argument.toList with
  | ['-', '-'] => endOfOptions
  | '-' :: '-' :: rest =>
    let name := String.ofList (rest.takeWhile (· ≠ '='))
    match rest.dropWhile (· ≠ '=') with
    | [] => long name none
    | _ :: value => long name (some (String.ofList value))
  | '-' :: letter :: _ => short letter
  | _ => plain

/-- Read arguments from left to right. -/
def read (g : Given) : List String → Except UsageError Invocation
  | [] => g.toOptions.map .run
  | argument :: rest =>
    match Argument.ofString argument with
    | .plain => do read (← g.setPath argument) rest
    | .endOfOptions => do
      let g ← g.setPaths rest
      return .run (← g.toOptions)
    | .short 'h' => .ok .help
    | .short _ => .error (.unknownOption argument)
    | .long "help" none => .ok .help
    | .long "help" (some _) => .error (.unexpectedValue "help")
    | .long "beep" none =>
      if g.beep then .error (.repeated "beep") else read { g with beep := true } rest
    | .long "beep" (some _) => .error (.unexpectedValue "beep")
    | .long name (some value) => do read (← g.setOption name value) rest
    | .long name none =>
      if name ∈ Given.valued then
        match rest with
        | value :: rest =>
          if Argument.ofString value = .plain then do read (← g.setOption name value) rest
          else .error (.missingValue name)
        | [] => .error (.missingValue name)
      else .error (.unknownOption argument)

/-- What a command line asks for. -/
def Invocation.ofArguments (arguments : List String) : Except UsageError Invocation :=
  read {} arguments

end Chip8.Command
