import Chip8.Text.Structure

/-! The conditions that stop a machine, each with what caused it, and their texts. -/

namespace Chip8

/-- Why a machine stops. -/
inductive Fault
  /-- The word at `pc` is no instruction. -/
  | unknownInstruction (word pc : UInt16)
  /-- A call at `pc` found the stack full. -/
  | stackOverflow (pc : UInt16)
  /-- A return at `pc` found the stack empty. -/
  | stackUnderflow (pc : UInt16)
  /-- The `len` bytes from `addr` on do not lie in memory. -/
  | addressOutOfRange (addr len : Nat)
  deriving DecidableEq, Repr

namespace Fault

/-- The sentence that tells a person what happened. -/
def message : Fault → String
  | unknownInstruction word pc =>
    "unknown instruction 0x" ++ Text.hex 4 word.toNat ++ " at pc 0x" ++ Text.hex 3 pc.toNat
  | stackOverflow pc =>
    "stack overflow: CALL at pc 0x" ++ Text.hex 3 pc.toNat
      ++ " with 16 return addresses already pushed"
  | stackUnderflow pc =>
    "stack underflow: RET at pc 0x" ++ Text.hex 3 pc.toNat ++ " with an empty stack"
  | addressOutOfRange addr len =>
    "memory access of " ++ Text.decimal len ++ " byte(s) at 0x" ++ Text.hex 4 addr
      ++ " is outside the 4K address space"

/-- The name of the kind of fault. -/
def kind : Fault → String
  | unknownInstruction .. => "UnknownInstruction"
  | stackOverflow .. => "StackOverflow"
  | stackUnderflow .. => "StackUnderflow"
  | addressOutOfRange .. => "AddressOutOfRange"

/-- The labelled payload of a fault. -/
def fields : Fault → List (String × Nat)
  | unknownInstruction word pc => [("word", word.toNat), ("pc", pc.toNat)]
  | stackOverflow pc => [("pc", pc.toNat)]
  | stackUnderflow pc => [("pc", pc.toNat)]
  | addressOutOfRange addr len => [("addr", addr), ("len", len)]

/-- The structural text, such as a kind followed by its labelled payload. -/
def inspect (f : Fault) : String :=
  Text.labelled f.kind (f.fields.map fun (label, value) => (label, Text.decimal value))

end Fault

/-- Why bytes could not be read from outside. -/
inductive ReadError
  /-- The operating system refused, with its number, the kind it belongs to and its own words. -/
  | system (code : Nat) (kind description : String)
  /-- The source gave up for a reason of its own. -/
  | other (reason : String)
  deriving DecidableEq, Repr

namespace ReadError

/-- The sentence that tells a person what happened. -/
def message : ReadError → String
  | system code _ description => description ++ " (os error " ++ Text.decimal code ++ ")"
  | other reason => reason

/-- The structural text. -/
def inspect : ReadError → String
  | system code kind description =>
    Text.labelled "Os"
      [("code", Text.decimal code), ("kind", kind), ("message", "\"" ++ description ++ "\"")]
  | other reason => Text.labelled "Custom" [("kind", "Other"), ("error", "\"" ++ reason ++ "\"")]

/-- The path names nothing. -/
def notFound : ReadError := system 2 "NotFound" "No such file or directory"

/-- The path names a directory, which has no bytes to read. -/
def isADirectory : ReadError := system 21 "IsADirectory" "Is a directory"

end ReadError

/-- Why a program could not be loaded from a source of bytes. -/
inductive LoadError
  /-- The source failed. -/
  | read (error : ReadError)
  /-- The machine refused the program. -/
  | fault (fault : Fault)
  deriving DecidableEq, Repr

namespace LoadError

/-- The sentence of the cause, unchanged. -/
def message : LoadError → String
  | read e => e.message
  | fault f => f.message

/-- The name of the kind of error; a fault keeps its own. -/
def kind : LoadError → String
  | read _ => "Io"
  | fault f => f.kind

/-- The structural text: the cause inside the name of where it arose. -/
def inspect : LoadError → String
  | read e => Text.applied "Io" [e.inspect]
  | fault f => Text.applied "Fault" [f.inspect]

end LoadError

end Chip8
