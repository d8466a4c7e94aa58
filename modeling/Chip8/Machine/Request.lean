import Chip8.Machine.Cycle
import Chip8.Machine.Load

/-! Everything that can be asked of a machine, as a value, so that a history is a list. -/

namespace Chip8.Machine

/-- Something asked of a machine. -/
inductive Request
  | load (program : List UInt8)
  | loadFrom (source : ByteSource)
  | reset
  | fetch
  | execute (instruction : Instruction)
  /-- Decode a word and execute its instruction. -/
  | executeWord (word : Word)
  | cycle
  /-- Run up to `count` cycles, stopping after the first that fails. -/
  | run (count : Nat)
  | keys (edit : Keypad.Edit)
  deriving DecidableEq, Repr

/-- What a machine answers. -/
inductive Reply
  | done
  | word (w : Word)
  | count (n : Nat)
  /-- The word to execute is no instruction. -/
  | unknown
  deriving DecidableEq, Repr

/-- An outcome in the form all requests share. -/
def reply {α : Type} (answer : α → Reply) (o : Outcome Fault α) : Outcome LoadError Reply :=
  ⟨(o.result.map answer).mapError .fault, o.machine, o.log⟩

/-- Carry out a request. -/
def handle (m : Machine) : Request → Outcome LoadError Reply
  | .load program => reply (fun _ => .done) (m.load program)
  | .loadFrom source =>
    let o := m.loadFrom source
    ⟨o.result.map .count, o.machine, o.log⟩
  | .reset => reply (fun _ => .done) m.reset
  | .fetch => reply .word m.fetch
  | .execute i => reply (fun _ => .done) (m.execute i)
  | .executeWord w =>
    match m.executeWord w with
    | none => m.succeed .unknown
    | some o => reply (fun _ => .done) o
  | .cycle => reply (fun _ => .done) m.cycle
  | .run n => reply (fun _ => .done) (m.run n)
  | .keys e => { m with keypad := m.keypad.edit e }.succeed .done

/-- The machine after a history of requests, whatever they answered. -/
def after (m : Machine) (history : List Request) : Machine :=
  history.foldl (fun m r => (m.handle r).machine) m

end Chip8.Machine
