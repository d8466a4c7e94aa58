import Chip8.Machine.History

/-! What a source DELIVERS before it ends or fails, and what a load may leave.

    A source answers piece by piece, and to a program the pieces are nothing: what counts is all that
    was delivered and whether the source came to its end. A load leaves the program in memory and
    retains it, or leaves the machine alone; it never does the one without the other, which only a
    later reset would show. -/

namespace Chip8

namespace ByteSource

/-- The data that a source delivers, piece by piece, before it ends or fails. -/
def delivered : ByteSource → List (List UInt8)
  | [] => []
  | .failure _ :: _ => []
  | .bytes [] :: _ => []
  | .bytes (b :: data) :: rest => (b :: data) :: delivered rest

/-- The failure of a source, if it does not come to its end. -/
def failure? : ByteSource → Option ReadError
  | [] => none
  | .failure e :: _ => some e
  | .bytes [] :: _ => none
  | .bytes (_ :: _) :: rest => failure? rest

end ByteSource

namespace Machine

/-- What a load of a program leaves of a machine: the program lies verbatim where programs begin and
is retained, and everything else is as it was. -/
structure Loaded (m : Machine) (program : List UInt8) (m' : Machine) : Prop where
  verbatim : ∀ k < program.length, program[k]? = some (m'.memory.byteAt (0x200 + k))
  beside : ∀ a, a < 0x200 ∨ 0x200 + program.length ≤ a →
    m'.memory.byteAt a = m.memory.byteAt a
  retained : m'.program = program
  others : m' = { m with memory := m'.memory, program := m'.program }

/-- A load of a program is all or nothing. -/
structure AllOrNothing {ε α : Type} (m : Machine) (program : List UInt8) (o : Outcome ε α) :
    Prop where
  all : o.succeeded = true → program.length ≤ 3584 ∧ Loaded m program o.machine
  nothing : o.succeeded = false → o.machine = m ∧ o.log = []
  /-- After a load that failed a reset brings back the program from before it, also after more
  requests, of which no load succeeds. -/
  restored : o.succeeded = false → m.program.length ≤ 3584 → ∀ later : List Request,
    o.machine.lastLoaded later = none →
    let reset := (o.machine.after later).reset
    reset.result = .ok () ∧
      Loaded (powerOn (o.machine.after later).random) m.program reset.machine

end Machine

end Chip8
