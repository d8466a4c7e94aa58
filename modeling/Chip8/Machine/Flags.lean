import Chip8.Machine

/-! Arithmetic with a FLAG: the operations of which a carry, a borrow or a bit shifted out goes into
    the flag register.

    What such an operation comes to is said in whole numbers, by one equation between the operands,
    the byte and the flag. The byte and the flag are the only ones that fulfil it (`exact_unique`),
    so the equation leaves nothing open. -/

namespace Chip8

/-- An operation that has a flag besides its result. -/
inductive Flagged
  | add
  | subtract
  | subtractFrom
  | halve
  | double
  deriving DecidableEq, Repr

namespace Flagged

/-- The instruction that carries out an operation on `VX` and `VY`. The last two take `VX` alone. -/
def instruction : Flagged → UInt8 → UInt8 → Instruction
  | add, x, y => .addReg x y
  | subtract, x, y => .subReg x y
  | subtractFrom, x, y => .subRegReverse x y
  | halve, x, _ => .shiftRight x
  | double, x, _ => .shiftLeft x

/-- The byte `r` with the flag `f` is exactly what an operation makes of `a` and `b`. -/
def Exact : Flagged → Nat → Nat → Nat → Nat → Prop
  | add, a, b, r, f => r + 256 * f = a + b
  | subtract, a, b, r, f => r + b = a + 256 * (1 - f)
  | subtractFrom, a, b, r, f => r + a = b + 256 * (1 - f)
  | halve, a, _, r, f => 2 * r + f = a
  | double, a, _, r, f => r + 256 * f = 2 * a

/-- There is one exact result only. -/
theorem exact_unique {op : Flagged} {a b r f r' f' : Nat} (hr : r < 256) (hf : f ≤ 1)
    (hr' : r' < 256) (hf' : f' ≤ 1) (h : op.Exact a b r f) (h' : op.Exact a b r' f') :
    r = r' ∧ f = f' := by
  cases op <;> simp only [Exact] at h h' <;> omega

end Flagged

/-- The arithmetic that sets `VX` and has no flag. -/
def Instruction.unflagged (x y nn : UInt8) : List Instruction :=
  [addImm x nn, copy x y, or x y, and x y, xor x y]

namespace Machine

/-- What arithmetic on `VX` leaves: the flag in the flag register, also where that is `VX`, and the
byte in `VX`, where it is not. -/
structure Flags (m : Machine) (x r f : UInt8) (m' : Machine) : Prop where
  flag : m'.reg 0xf = f
  byte : x ≠ 0xf → m'.reg x = r
  others : ∀ z, z.toNat < 16 → z ≠ x → z ≠ 0xf → m'.reg z = m.reg z
  rest : m' = { m with registers := m'.registers }

end Machine

end Chip8
