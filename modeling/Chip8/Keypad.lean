import Chip8.Bank

/-! The sixteen keys `0x0` to `0xF`, each up or down.

    Whoever handles input writes it and the machine only reads it. A key is named by the low four
    bits of a byte. -/

namespace Chip8

/-- Which keys are down. -/
structure Keypad where
  down : Bank Bool
  deriving DecidableEq

namespace Keypad

/-- The keypad with every key up. -/
def released : Keypad := ⟨Vector.replicate 16 false⟩

/-- Whether a key is down. -/
def isDown (k : Keypad) (key : UInt8) : Bool := k.down.entry key

/-- Put a key down or up. -/
def set (k : Keypad) (key : UInt8) (down : Bool) : Keypad := ⟨k.down.setEntry key down⟩

/-- Put a key down. -/
def press (k : Keypad) (key : UInt8) : Keypad := k.set key true

/-- Let a key go. -/
def release (k : Keypad) (key : UInt8) : Keypad := k.set key false

/-- The keypad with exactly the given keys down. -/
def ofKeys (keys : List UInt8) : Keypad := keys.foldl press released

/-- The keys that a wait for a key looks at; the last key is not among them. -/
def scanned : List UInt8 :=
  [0x0, 0x1, 0x2, 0x3, 0x4, 0x5, 0x6, 0x7, 0x8, 0x9, 0xa, 0xb, 0xc, 0xd, 0xe]

/-- The lowest of the scanned keys that is down. -/
def firstDown (k : Keypad) : Option UInt8 := scanned.find? k.isDown

/-- Of the keys that a wait looks at, this is the lowest that is down. -/
structure Lowest (k : Keypad) (key : UInt8) : Prop where
  scanned : key.toNat < 15
  isDown : k.isDown key = true
  least : ∀ other : UInt8, other.toNat < key.toNat → k.isDown other = false

/-- A request to change the keypad. -/
inductive Edit
  | press (key : UInt8)
  | release (key : UInt8)
  | set (key : UInt8) (down : Bool)
  | releaseAll
  deriving DecidableEq, Repr

/-- Carry out an edit. -/
def edit (k : Keypad) : Edit → Keypad
  | .press key => k.press key
  | .release key => k.release key
  | .set key down => k.set key down
  | .releaseAll => released

/-! ### The view through `isDown` -/

@[simp] theorem isDown_released (key : UInt8) : released.isDown key = false := by
  simp [isDown, released]

/-- Setting a key changes the key that it names and no other. -/
theorem isDown_set (k : Keypad) (key other : UInt8) (down : Bool) :
    (k.set key down).isDown other = if nibble key = nibble other then down else k.isDown other :=
  Bank.entry_setEntry k.down key other down

end Keypad

end Chip8
