import Chip8.Machine.Execute

/-! One cycle: fetch a word, decode it, execute it, tick the timers.

    A fault stops the machine. The program counter goes back to the instruction at fault, the fault
    is kept, and every later cycle answers with it and does nothing, until a reset. -/

namespace Chip8.Machine

/-- Read the word at the program counter and move past it. -/
def fetch (m : Machine) : Outcome Fault Word :=
  match m.memory.word m.pc with
  | .error f => m.fail f
  | .ok w => { m with pc := m.pc + 2 }.succeed w

/-- The word at the program counter. -/
def nextWord (m : Machine) : Word := m.memory.wordAt m.pc.toNat

/-- Count both timers down by one, not below zero. -/
def tick (m : Machine) : Machine :=
  { m with
    delayTimer := if m.delayTimer > 0 then m.delayTimer - 1 else m.delayTimer
    soundTimer := if m.soundTimer > 0 then m.soundTimer - 1 else m.soundTimer }

/-- Report that an instruction is about to be executed. -/
def announce (m : Machine) (pc : UInt16) (w : Word) (i : Instruction) : Outcome Fault Unit :=
  ⟨.ok (), m, [.executing pc w i]⟩

/-- Execute the word that was fetched from `pc`, then tick. -/
def perform (m : Machine) (pc : UInt16) (w : Word) : Outcome Fault Unit :=
  match Instruction.decode w with
  | none => m.fail (.unknownInstruction w pc)
  | some i =>
    (m.announce pc w i).andThen fun _ m =>
      (m.execute i).andThen fun _ m => m.tick.succeed ()

/-- Fetch, decode, execute, tick; a fault may leave the program counter moved. -/
def step (m : Machine) : Outcome Fault Unit :=
  m.fetch.andThen fun w m' => m'.perform m.pc w

/-- Stop at a fault: keep it, report it, and leave the program counter at `pc`. -/
def halt (o : Outcome Fault Unit) (pc : UInt16) (f : Fault) : Outcome Fault Unit :=
  ⟨.error f, { o.machine with pc := pc, fault := some f }, o.log ++ [.halted f]⟩

/-- Run one cycle, unless the machine has stopped. -/
def cycle (m : Machine) : Outcome Fault Unit :=
  match m.fault with
  | some f => m.fail f
  | none =>
    let o := m.step
    match o.result with
    | .ok _ => o
    | .error f => halt o m.pc f

/-- The outcomes of up to `n` cycles in order, the last of them the first that failed. -/
def cycles (m : Machine) : Nat → List (Outcome Fault Unit)
  | 0 => []
  | n + 1 =>
    let o := m.cycle
    if o.succeeded then o :: o.machine.cycles n else [o]

/-- Run up to `n` cycles, stopping after the first that fails. -/
def run (m : Machine) : Nat → Outcome Fault Unit
  | 0 => m.succeed ()
  | n + 1 => m.cycle.andThen fun _ m => m.run n

/-! ### A machine that has stopped -/

theorem cycle_of_fault {m : Machine} {f : Fault} (h : m.fault = some f) : m.cycle = m.fail f := by
  simp [cycle, h]

end Chip8.Machine
