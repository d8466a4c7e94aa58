import Mathlib.Tactic
import Chip8.Machine.Layout
import Chip8.Proofs.Cells
import Chip8.Proofs.Effects
import Chip8.Proofs.Memory
import Chip8.Proofs.Nesting
import Chip8.Proofs.Reset

/-! A machine KEEPS ITS SHAPE in a host.

    Each operation on the layout of a machine answers as the machine does and leaves the layout of
    the machine that it leaves, without the host being stopped (`execute?_layout`, `cycle?_layout`,
    `load?_layout`, `reset?_layout`, and `handle?_layout` for every request). So all that a history
    leaves is the layout of a machine, and of such a one the bytes and the cells are as many as they
    should be and every cell is lit or dark. That the program fits and the stack is not too deep is
    what a history keeps of the machine itself. -/

namespace Chip8

namespace Layout

open Machine (Request Reply)

variable {m m' : Machine} {i : Instruction}

/-- What an operation answers and leaves, in a host. -/
def ofOutcome {ε α : Type} (o : Outcome ε α) : Answer ε α := (o.result, o.machine.layout)

@[simp] theorem bytes_layout (m : Machine) : m.layout.bytes = m.memory.bytes.toList := rfl

@[simp] theorem cells_layout (m : Machine) : m.layout.cells = m.grid.words := rfl

@[simp] theorem index_layout (m : Machine) : m.layout.index = m.index := rfl

@[simp] theorem pc_layout (m : Machine) : m.layout.pc = m.pc := rfl

@[simp] theorem program_layout (m : Machine) : m.layout.program = m.program := rfl

@[simp] theorem fault_layout (m : Machine) : m.layout.fault = m.fault := rfl

theorem machine_layout (m : Machine) : m.layout.machine = m := by
  simp only [machine, Machine.layout, Bytes.ofBytes_toList, Cells.ofFn_words]

/-- The layout of another machine with the same memory and grid. -/
theorem adopt_layout (hmemory : m'.memory = m.memory) (hgrid : m'.grid = m.grid) :
    m.layout.adopt m' = m'.layout := by
  simp only [adopt, Machine.layout, hmemory, hgrid]

/-! ### Instructions -/

theorem storeAtIndex?_layout (m : Machine) (data : List UInt8) :
    m.layout.storeAtIndex? data.length data = some (ofOutcome (m.storeAtIndex data)) := by
  rw [storeAtIndex?, bytes_layout, index_layout, Bytes.write?_memory,
    if_pos (Host.holds_unlimited _), Machine.storeAtIndex]
  cases m.memory.write m.index data <;> rfl

theorem drawRows?_layout (m : Machine) (x y rows : UInt8) :
    m.layout.drawRows? x y rows = some (ofOutcome (m.drawRows x y rows)) := by
  rw [drawRows?, bytes_layout, index_layout, Bytes.read?_memory, if_pos (Host.holds_unlimited _),
    Machine.drawRows]
  cases m.memory.read m.index rows.toNat with
  | error f => rfl
  | ok sprite =>
    have hdraw := Cells.draw?_words m.grid sprite (m.reg x) (m.reg y)
    simp only [Option.bind_eq_bind, Option.bind_some, machine_layout, cells_layout, hdraw]
    rfl

theorem loadRegisters?_layout (m : Machine) (x : UInt8) :
    m.layout.loadRegisters? x = some (ofOutcome (m.execute (.loadRegisters x))) := by
  rw [loadRegisters?, bytes_layout, index_layout, Bytes.read?_memory,
    if_pos (Host.holds_unlimited _), Machine.execute]
  cases m.memory.read m.index (x.toNat + 1) with
  | error f => rfl
  | ok values =>
    simp only [Option.bind_eq_bind, Option.bind_some, machine_layout]
    rfl

/-- An instruction that neither stores nor draws leaves the bytes and the cells alone. -/
theorem adopt_execute (hstores : m.stores i = []) (hgrid : m.gridAfter i = m.grid) :
    m.layout.adopt (m.execute i).machine = (m.execute i).machine.layout := by
  rcases Machine.execute_cases m i with ⟨f, he⟩ | ⟨-, he⟩ <;> rw [he]
  · exact adopt_layout rfl rfl
  · refine adopt_layout ?_ ((congrArg Machine.grid (Machine.effect_eq m i)).trans hgrid)
    exact (Machine.memory_effect m i).trans (by rw [hstores]; rfl)

theorem execute?_of_aside (hstores : m.stores i = []) (hgrid : m.gridAfter i = m.grid) :
    some ((m.layout.machine.execute i).result,
      m.layout.adopt (m.layout.machine.execute i).machine) = some (ofOutcome (m.execute i)) := by
  rw [machine_layout, adopt_execute hstores hgrid, ofOutcome]

theorem execute?_layout (m : Machine) (i : Instruction) :
    m.layout.execute? i = some (ofOutcome (m.execute i)) := by
  cases i
  case clearScreen =>
    show some (_, { m.layout with cells := Cells.clear m.grid.words }) = _
    rw [Cells.clear_words]
    rfl
  case draw x y n => exact drawRows?_layout m x y n
  case storeBcd x =>
    rw [execute?, machine_layout]
    exact storeAtIndex?_layout m (Machine.decimalDigits (m.reg x))
  case dumpRegisters x =>
    have hstore := storeAtIndex?_layout m (m.firstRegisters x)
    rw [Machine.length_firstRegisters] at hstore
    rw [execute?, machine_layout]
    exact hstore
  case loadRegisters x => exact loadRegisters?_layout m x
  -- the others touch neither memory nor the screen
  all_goals exact execute?_of_aside rfl rfl

/-! ### Cycles -/

theorem fetch?_layout (m : Machine) : m.layout.fetch? = some (ofOutcome m.fetch) := by
  rw [fetch?, bytes_layout, pc_layout, Bytes.word?_memory, Machine.fetch]
  cases m.memory.word m.pc <;> rfl

theorem perform?_layout (m : Machine) (pc : UInt16) (w : Word) :
    m.layout.perform? pc w = some (ofOutcome (m.perform pc w)) := by
  rw [perform?, Machine.perform]
  cases hd : Instruction.decode w with
  | none => rfl
  | some i =>
    simp only [execute?_layout, Option.bind_eq_bind, Option.bind_some, ofOutcome,
      Machine.announce, Outcome.andThen]
    cases (m.execute i).result with
    | error f => rfl
    | ok a =>
      have hadopt : (m.execute i).machine.layout.adopt (m.execute i).machine.tick =
          (m.execute i).machine.tick.layout := adopt_layout rfl rfl
      simp only [machine_layout, hadopt]
      rfl

theorem step?_layout (m : Machine) : m.layout.step? = some (ofOutcome m.step) := by
  rw [step?, fetch?_layout, Machine.step]
  simp only [Option.bind_eq_bind, Option.bind_some, ofOutcome, Outcome.andThen]
  cases m.fetch.result with
  | error f => rfl
  | ok w => exact perform?_layout m.fetch.machine m.pc w

theorem cycle?_layout (m : Machine) : m.layout.cycle? = some (ofOutcome m.cycle) := by
  rw [cycle?, Machine.cycle, fault_layout]
  cases m.fault with
  | some f => rfl
  | none =>
    simp only [step?_layout, Option.bind_eq_bind, Option.bind_some, ofOutcome]
    cases hr : m.step.result with
    | error f => rfl
    | ok a => simp [hr]

theorem run?_layout (m : Machine) (n : Nat) : m.layout.run? n = some (ofOutcome (m.run n)) := by
  induction n generalizing m with
  | zero => rfl
  | succ n ih =>
    rw [run?, cycle?_layout, Machine.run]
    simp only [Option.bind_eq_bind, Option.bind_some, ofOutcome, Outcome.andThen]
    cases m.cycle.result with
    | error f => rfl
    | ok a => exact ih m.cycle.machine

/-! ### Programs -/

/-- A program is copied to the bytes of a memory as it is loaded into the memory. -/
theorem place?_memory (m : Memory) (program : List UInt8) :
    place? m.bytes.toList program = some (Bytes.ofChange m (m.loadProgram program)) := by
  rw [place?, Bytes.write?_memory, if_pos (Host.holds_unlimited _), Memory.loadProgram]

theorem load?_layout (m : Machine) (program : List UInt8) :
    m.layout.load? program = some (ofOutcome (m.load program)) := by
  rw [load?, bytes_layout, place?_memory, Machine.load]
  cases m.memory.loadProgram program <;> rfl

theorem loadFrom?_layout (m : Machine) (source : ByteSource) :
    m.layout.loadFrom? source = some (ofOutcome (m.loadFrom source)) := by
  rw [loadFrom?, Machine.loadFrom]
  cases source.contents with
  | error e => rfl
  | ok program =>
    simp only [load?_layout, Option.bind_eq_bind, Option.bind_some, ofOutcome]
    cases (m.load program).result <;> rfl

theorem reset?_layout (m : Machine) : m.layout.reset? = some (ofOutcome m.reset) := by
  rw [reset?, bytes_layout, Bytes.clear?_memory, Option.bind_eq_bind, Option.bind_some,
    program_layout, place?_memory, Machine.reset, cells_layout, Cells.clear_words]
  cases Memory.powerOn.loadProgram m.program with
  | error f => simp [Bytes.ofChange, ofOutcome, Machine.layout, Machine.fail]
  | ok memory => simp [Bytes.ofChange, ofOutcome, Machine.layout]

/-! ### Requests -/

theorem reply_ofOutcome {α : Type} (answer : α → Reply) (o : Outcome Fault α) :
    reply answer (ofOutcome o) = ofOutcome (Machine.reply answer o) := rfl

/-- The layout of a machine answers every request as the machine does, and becomes the layout of
the machine that the request leaves. -/
theorem handle?_layout (m : Machine) (r : Request) :
    m.layout.handle? r = some (ofOutcome (m.handle r)) := by
  cases r with
  | load program => rw [handle?, load?_layout, Option.map_some, reply_ofOutcome, Machine.handle]
  | loadFrom source => rw [handle?, loadFrom?_layout]; rfl
  | reset => rw [handle?, reset?_layout, Option.map_some, reply_ofOutcome, Machine.handle]
  | fetch => rw [handle?, fetch?_layout, Option.map_some, reply_ofOutcome, Machine.handle]
  | execute i => rw [handle?, execute?_layout, Option.map_some, reply_ofOutcome, Machine.handle]
  | executeWord w =>
    rw [handle?, Machine.handle, Machine.executeWord]
    cases Instruction.decode w with
    | none => rfl
    | some i => simp only [execute?_layout, Option.map_some, reply_ofOutcome]
  | cycle => rw [handle?, cycle?_layout, Option.map_some, reply_ofOutcome, Machine.handle]
  | run n => rw [handle?, run?_layout, Option.map_some, reply_ofOutcome, Machine.handle]
  | keys e => rfl

theorem handleAll?_layout (m : Machine) (history : List Request) :
    m.layout.handleAll? history =
      some ((m.outcomes history).map (·.result), (m.after history).layout) := by
  induction history generalizing m with
  | nil => rfl
  | cons r rest ih =>
    rw [handleAll?, handle?_layout]
    simp only [Option.bind_eq_bind, Option.bind_some, ofOutcome, ih]
    rfl

theorem powerOn?_eq (random : Random) : powerOn? random = some (Machine.powerOn random).layout := by
  rw [powerOn?, Bytes.powerOn?_eq, ← Cells.words_dark]
  rfl

/-! ### The shape -/

/-- A layout of a machine has the shape of one, if its program fits and its stack is not too deep. -/
theorem invariant_layout (hprogram : m.program.length ≤ 3584) (hstack : m.stack.length ≤ 16) :
    Invariant m.layout where
  length_bytes := Vector.length_toList
  length_program := hprogram
  length_stack := hstack
  length_cells := Cells.length_words m.grid
  on_or_off := Cells.on_or_off_words m.grid

/-- Cells that are lit or dark are counted by the two together. -/
theorem Invariant.count_eq {l : Layout} (h : Invariant l) :
    l.cells.count Cells.on + l.cells.count Cells.off = 2048 := by
  have hoff : l.cells.count Cells.off = l.cells.countP fun word => ¬ (word == Cells.on) := by
    refine List.countP_congr fun word hword => ?_
    rcases h.on_or_off word hword with rfl | rfl <;> decide
  rw [hoff, ← h.length_cells]
  exact (List.length_eq_countP_add_countP (· == Cells.on)).symm

/-- KEEPS ITS SHAPE: whatever history of requests a host puts to a machine, from power-on and with
any failures among them, it is never stopped, answers as the machine does and is left with the
layout of the machine. Of that the bytes and the cells are as many as ever, the retained program
fits and the stack is not too deep; and every cell is lit or dark, so that a cell which is not seen
to be lit is dark, and the lit cells and the dark ones are all there are. -/
theorem shape_after (random : Random) (history : List Request) :
    let m := (Machine.powerOn random).after history
    ∃ l, ((powerOn? random).bind fun new => new.handleAll? history) =
        some (((Machine.powerOn random).outcomes history).map (·.result), l) ∧
      l = m.layout ∧ Invariant l ∧
      (∀ x y, ∃ word, l.cells[Cells.offset x y]? = some word ∧
        Cells.isLit? l.cells x y = some (m.grid.isLit x y) ∧
        (m.grid.isLit x y = false → word = Cells.off) ∧
        (m.grid.isLit x y = true → word = Cells.on)) ∧
      l.cells.count Cells.on + l.cells.count Cells.off = 2048 := by
  intro m
  have hprogram : m.program.length ≤ 3584 := Machine.length_program_after random history
  have hstack : m.stack.length ≤ 16 := Machine.depth_after (Nat.zero_le _) history
  have hshape := invariant_layout hprogram hstack
  refine ⟨m.layout, ?_, rfl, hshape, fun x y => ?_, hshape.count_eq⟩
  · rw [powerOn?_eq]
    exact handleAll?_layout (Machine.powerOn random) history
  · have hword := Cells.getElem?_words m.grid (Grid.cellAt x y)
    refine ⟨_, hword, Cells.isLit?_words m.grid x y, fun hdark => ?_, fun hlit => ?_⟩
    · exact congrArg Cells.word hdark
    · exact congrArg Cells.word hlit

end Layout

end Chip8
