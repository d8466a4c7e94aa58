import Chip8.Machine.History

/-! The TRACE of a run: what the log says line by line, and what it has to say, which can be told
    from the machine before each cycle. -/

namespace Chip8.Machine

/-- A line of a log, with its level. -/
abbrev Line := Level × String

/-- The line of an event. -/
def Event.line (e : Event) : Line := (e.level, e.text)

/-- So many cycles, whether or not they fail. -/
def cycling (n : Nat) : List Request := List.replicate n .cycle

/-- The lines that a history leaves in the log, in order. -/
def lines (m : Machine) (history : List Request) : List Line :=
  (m.outcomes history).flatMap fun o => o.log.map Event.line

/-- Whether a line tells of an instruction. -/
def Line.traces (line : Line) : Bool := line.1 == .trace

/-- The line for the instruction at the program counter: the address, the word that memory holds
there and its disassembly. There is none if the word is not in memory or unknown. -/
def traceLine? (m : Machine) : Option Line :=
  if m.pc.toNat ≤ 4094 then
    (Instruction.decode m.nextWord).map fun i =>
      (.trace, Text.hex 3 m.pc.toNat ++ ": " ++ Text.hex 4 m.nextWord.toNat ++ "  " ++ i.mnemonic)
  else none

/-- The line for the fault that the next cycle ends in, if it does. -/
def haltLine? (m : Machine) : Option Line :=
  match m.cycle.result with
  | .ok _ => none
  | .error f => some (.error, haltLine f)

/-- The lines that the next cycle has to leave: none if the machine has stopped. -/
def cycleLines (m : Machine) : List Line :=
  if m.fault = none then m.traceLine?.toList ++ m.haltLine?.toList else []

/-- Whether a machine was stopped by the execution of an instruction: by the stack, or by an access
to memory other than that to the word at the program counter. -/
def stoppedExecuting (m : Machine) : Bool :=
  match m.fault with
  | some (.stackOverflow _) => true
  | some (.stackUnderflow _) => true
  | some (.addressOutOfRange addr len) => (addr, len) != (m.pc.toNat, 2)
  | some (.unknownInstruction ..) => false
  | none => false

end Chip8.Machine
