import Chip8.Machine.Footprint
import Chip8.Machine.History

/-! Where the cycles of a history STORED.

    Two kinds of words store to memory, `FX33` three digits and `FX55` registers, both from the index
    on, and nothing holds the index to a part of memory. A store counts also if it leaves the byte
    that was there, but not if its cycle fails; and a reset, which sets memory up anew, makes an
    end of those before it. Instructions that are executed one after the other and store elsewhere
    SPARE a part of memory. -/

namespace Chip8.Machine

open Pattern (fits)

/-- The addresses to which the next cycle stores. -/
def cycleStores (m : Machine) : List Nat :=
  if m.cycle.succeeded then
    if fits "FX33" m.nextWord then List.range' m.index.toNat 3
    else if fits "FX55" m.nextWord then List.range' m.index.toNat (m.nextWord.x.toNat + 1)
    else []
  else []

/-- The addresses to which up to `n` cycles store, of which the last is the first that fails. -/
def runStores (m : Machine) : Nat → List Nat
  | 0 => []
  | n + 1 => m.cycleStores ++ if m.cycle.succeeded then m.cycle.machine.runStores n else []

/-- The addresses to which the cycles of a request store. -/
def requestStores (m : Machine) : Request → List Nat
  | .cycle => m.cycleStores
  | .run n => m.runStores n
  | _ => []

/-- The addresses to which the cycles of a history stored since its last reset, or, if there was
none, with those to which was stored before. -/
def storedSince (m : Machine) (before : List Nat) : List Request → List Nat
  | [] => before
  | r :: rest =>
    (m.handle r).machine.storedSince (if r = .reset then [] else before ++ m.requestStores r) rest

/-- The next cycle draws some rows at the place that its word names, and the flag says whether they
met a cell that was lit. -/
def DrawsRows (m : Machine) (w : Word) (rows : List UInt8) : Prop :=
  let drawn := m.grid.draw rows (m.reg w.x) (m.reg w.y)
  m.cycle.result = .ok () ∧ m.cycle.machine.grid = drawn.1 ∧
    m.cycle.machine.reg 0xf = if drawn.2 then 1 else 0

/-- What a running machine draws for a digit is the glyph of the digit. -/
structure DrawsGlyph (m : Machine) (digit : UInt8) : Prop where
  /-- Five rows are drawn with the index at the glyph, wherever it was that the index was set. -/
  drawn : ∀ w : Word, m.fault = none → m.memory.word m.pc = .ok w → fits "DXYN" w = true →
    w.n = 5 → m.index = Memory.glyphAddr digit → m.DrawsRows w (Memory.glyph digit)
  /-- `FX29` with the digit in `VX` comes next, and right after it five rows are drawn. -/
  pointed : ∀ w w' : Word, m.fault = none → m.memory.word m.pc = .ok w →
    fits "FX29" w = true → m.reg w.x = digit → m.memory.word (m.pc + 2) = .ok w' →
    fits "DXYN" w' = true → w'.n = 5 →
    m.cycle.result = .ok () ∧ m.cycle.machine.grid = m.grid ∧
      m.cycle.machine.index = Memory.glyphAddr digit ∧
      m.cycle.machine.DrawsRows w' (Memory.glyph digit)

/-! ### Sparing -/

/-- The addresses to which an instruction stores. -/
def targets (m : Machine) : Instruction → List Nat
  | .storeBcd _ => List.range' m.index.toNat 3
  | .dumpRegisters x => List.range' m.index.toNat (x.toNat + 1)
  | _ => []

/-- Each of some instructions succeeds where the ones before it have taken the machine, and none of
them stores to the `len` bytes from `addr` on. -/
def Spares (m : Machine) (addr len : Nat) : List Instruction → Prop
  | [] => True
  | i :: rest =>
    (m.execute i).succeeded ∧ (∀ a ∈ m.targets i, a < addr ∨ addr + len ≤ a) ∧
      Spares (m.execute i).machine addr len rest

instance decidableSpares (m : Machine) (addr len : Nat) :
    (later : List Instruction) → Decidable (m.Spares addr len later)
  | [] => .isTrue trivial
  | i :: rest =>
    have := decidableSpares (m.execute i).machine addr len rest
    inferInstanceAs (Decidable (_ ∧ _ ∧ _))

end Chip8.Machine
