import Chip8.Machine

/-! Giving a machine its program, and taking it back to power-on state.

    A program comes as bytes or from a source that delivers them in pieces and may fail. Nothing
    about a program is checked but that it fits, and a program that cannot be loaded changes
    nothing. A reset loads the last program again and does not rewind the random source. -/

namespace Chip8

/-- One answer of a source of bytes. That the source was interrupted is no answer, as it is then
asked again. -/
inductive Piece
  /-- Some bytes; none of them means that the source has ended. -/
  | bytes (data : List UInt8)
  | failure (error : ReadError)
  deriving DecidableEq, Repr

/-- A source of bytes, as the answers it will give; after the last of them it has ended. -/
abbrev ByteSource := List Piece

namespace ByteSource

/-- All bytes up to the end of the source, or its first failure. -/
def contents : ByteSource → Except ReadError (List UInt8)
  | [] => .ok []
  | .failure e :: _ => .error e
  | .bytes [] :: _ => .ok []
  | .bytes data :: rest => (contents rest).map (data ++ ·)

/-- The first pieces of `size` bytes of the data, at most `count` of them. -/
def cut (size : Nat) : Nat → List UInt8 → ByteSource
  | 0, _ => []
  | count + 1, data =>
    if data.isEmpty then [] else .bytes (data.take size) :: cut size count (data.drop size)

/-- A source that delivers the data in pieces of `size` bytes. -/
def pieces (size : Nat) (data : List UInt8) : ByteSource := cut size data.length data

theorem contents_cut {size count : Nat} {data : List UInt8} (h : 0 < size)
    (hc : data.length ≤ count) : contents (cut size count data) = .ok data := by
  induction count generalizing data with
  | zero =>
    obtain rfl : data = [] := List.length_eq_zero_iff.mp (by omega)
    rfl
  | succ count ih =>
    cases data with
    | nil => rfl
    | cons b rest =>
      obtain ⟨size, rfl⟩ : ∃ k, size = k + 1 := ⟨size - 1, by omega⟩
      have hr : contents (cut (size + 1) count (rest.drop size)) = .ok (rest.drop size) :=
        ih (by simp only [List.length_cons] at hc; simp; omega)
      simp [cut, contents, hr, Except.map]

/-- However small the pieces, a source delivers its data. -/
theorem contents_pieces {size : Nat} (h : 0 < size) (data : List UInt8) :
    contents (pieces size data) = .ok data :=
  contents_cut h (Nat.le_refl _)

end ByteSource

namespace Machine

/-- Load a program. -/
def load (m : Machine) (program : List UInt8) : Outcome Fault Unit :=
  match m.memory.loadProgram program with
  | .error f => m.fail f
  | .ok memory => ⟨.ok (), { m with memory, program }, [.loaded program.length]⟩

/-- Load a program from a source, and say how many bytes it has. -/
def loadFrom (m : Machine) (source : ByteSource) : Outcome LoadError Nat :=
  match source.contents with
  | .error e => m.fail (.read e)
  | .ok program =>
    let o := m.load program
    match o.result with
    | .error f => ⟨.error (.fault f), o.machine, o.log⟩
    | .ok _ => ⟨.ok program.length, o.machine, o.log⟩

/-- Go back to power-on state with the last program loaded again: clear memory, load the program, and
set back all the rest but the program and the random source. -/
def reset (m : Machine) : Outcome Fault Unit :=
  match Memory.powerOn.loadProgram m.program with
  | .error f => { m with memory := Memory.powerOn }.fail f
  | .ok memory =>
    ⟨.ok (), { m with
      memory
      registers := Vector.replicate 16 0
      index := 0
      pc := Memory.programStart
      stack := []
      delayTimer := 0
      soundTimer := 0
      grid := Grid.dark
      keypad := Keypad.released
      fault := none }, [.reset]⟩

/-- After a reset nothing is left of the machine but its program and its random source. -/
theorem reset_eq (m : Machine) : m.reset =
    match Memory.powerOn.loadProgram m.program with
    | .error f => { m with memory := Memory.powerOn }.fail f
    | .ok memory => ⟨.ok (), { powerOn m.random with memory, program := m.program }, [.reset]⟩ := by
  rw [reset]
  cases Memory.powerOn.loadProgram m.program with
  | error f => rfl
  | ok memory => simp only [powerOn]

end Machine

end Chip8
