/-! The numbers of a host.

    A host stops the whole program, which is written `none`, at a number that it cannot hold: at a
    sum or a product that has too many bits, and at a difference below zero. How many bits a length
    has is a matter of the host and is a parameter; a byte and a number of sixteen bits are the same
    on all hosts. -/

namespace Chip8

/-- A host, by the lengths and offsets that it tells apart; thirty-two bits of them are the least. -/
structure Host where
  /-- How many lengths and offsets there are, if there is a limit. -/
  limit : Option Nat
  large : ∀ n ∈ limit, 4294967296 ≤ n

namespace Host

/-! ### Lengths -/

/-- A host that can hold every length. -/
def unlimited : Host := ⟨none, nofun⟩

/-- A host of thirty-two bits, and no host has fewer. -/
def least : Host := ⟨some 4294967296, by simp⟩

/-- A host of sixty-four bits. -/
def wide : Host := ⟨some 18446744073709551616, by simp⟩

/-- Whether the host can hold a length. -/
def holds (host : Host) (n : Nat) : Bool := host.limit.all (n < ·)

/-- A length or an offset, if the host can hold it. -/
def size? (host : Host) (n : Nat) : Option Nat := if host.holds n then some n else none

variable {host : Host} {n : Nat}

theorem holds_of_lt (h : n < 4294967296) : host.holds n = true := by
  rw [holds]
  cases hlimit : host.limit with
  | none => rfl
  | some limit => exact decide_eq_true (Nat.lt_of_lt_of_le h (host.large limit hlimit))

theorem holds_unlimited (n : Nat) : unlimited.holds n = true := rfl

theorem size?_of_holds (h : host.holds n = true) : host.size? n = some n := if_pos h

theorem size?_of_lt (h : n < 4294967296) : host.size? n = some n := size?_of_holds (holds_of_lt h)

/-! ### Bytes, and numbers of sixteen bits -/

/-- The sum of two numbers of sixteen bits, if it is one. -/
def sum? (a b : UInt16) : Option UInt16 :=
  if a.toNat + b.toNat < 65536 then some (a + b) else none

/-- The difference of two numbers of sixteen bits, if it is one. -/
def difference? (a b : UInt16) : Option UInt16 :=
  if b.toNat ≤ a.toNat then some (a - b) else none

/-- The product of two numbers of sixteen bits, if it is one. -/
def product? (a b : UInt16) : Option UInt16 :=
  if a.toNat * b.toNat < 65536 then some (a * b) else none

/-- The byte before a byte, if there is one. -/
def before? (b : UInt8) : Option UInt8 := if 0 < b.toNat then some (b - 1) else none

/-- A byte less one, but not below zero. -/
def countDown? (b : UInt8) : Option UInt8 := if b > 0 then before? b else some b

end Host

end Chip8
