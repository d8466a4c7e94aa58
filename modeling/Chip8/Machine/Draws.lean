import Chip8.Machine.Request

/-! The DRAWS of a history: each execution of an instruction that draws a random byte, in order, as
    a list that says nothing of where the bytes come from.

    A request executes instructions one after the other, each of which leaves a machine; one that
    fails is not counted, and neither is what a machine that has stopped is asked to do. -/

namespace Chip8

/-- Whether an instruction draws a random byte. -/
def Instruction.draws : Instruction → Bool
  | random _ _ => true
  | _ => false

namespace Machine

/-- An instruction that was executed, and the machine that it left. -/
structure Execution where
  instruction : Instruction
  machine : Machine

/-- The execution of an instruction that had an outcome, if it succeeded. -/
def executed (i : Instruction) (o : Outcome Fault Unit) : List Execution :=
  if o.succeeded then [⟨i, o.machine⟩] else []

/-- What a cycle executes: the instruction of the word at the program counter. -/
def executedByCycle (m : Machine) : List Execution :=
  match Instruction.decode m.nextWord with
  | none => []
  | some i => executed i m.cycle

/-- What up to `n` cycles execute, of which the last is the first that fails. -/
def executedByRun (m : Machine) : Nat → List Execution
  | 0 => []
  | n + 1 =>
    m.executedByCycle ++ if m.cycle.succeeded then m.cycle.machine.executedByRun n else []

/-- What a request executes, in order. -/
def executions (m : Machine) : Request → List Execution
  | .execute i => executed i (m.execute i)
  | .executeWord w =>
    match Instruction.decode w with
    | none => []
    | some i => executed i (m.execute i)
  | .cycle => m.executedByCycle
  | .run n => m.executedByRun n
  | .load _ | .loadFrom _ | .reset | .fetch | .keys _ => []

/-- The executions of a request that draw a random byte. -/
def drawsBy (m : Machine) (r : Request) : List Execution :=
  (m.executions r).filter (·.instruction.draws)

/-- The executions of a history that draw a random byte, in order. -/
def draws (m : Machine) : List Request → List Execution
  | [] => []
  | r :: rest => m.drawsBy r ++ (m.handle r).machine.draws rest

end Machine

end Chip8
