/-! Sixteen entries, named by the low four bits of a byte: the registers of a machine and the keys
    of a keypad. `entry_setEntry` says that setting an entry changes that entry and no other. -/

namespace Chip8

/-- Sixteen entries. -/
abbrev Bank (α : Type) := Vector α 16

/-- The low four bits of a byte. -/
def nibble (b : UInt8) : Fin 16 := ⟨b.toNat % 16, by omega⟩

namespace Bank

variable {α : Type}

/-- The entry that a byte names. -/
def entry (bank : Bank α) (b : UInt8) : α := bank[nibble b]

/-- The bank with the entry that a byte names changed. -/
def setEntry (bank : Bank α) (b : UInt8) (value : α) : Bank α := bank.set (nibble b) value

theorem entry_setEntry (bank : Bank α) (b c : UInt8) (value : α) :
    (bank.setEntry b value).entry c = if nibble b = nibble c then value else bank.entry c := by
  by_cases h : nibble b = nibble c
  · simp [entry, setEntry, h]
  · have : (nibble b : Nat) ≠ nibble c := fun e => h (Fin.ext e)
    simp [entry, setEntry, h, Vector.getElem_set_ne _ _ this]

@[simp] theorem entry_replicate (value : α) (b : UInt8) :
    entry (Vector.replicate 16 value) b = value := by
  simp [entry]

end Bank

end Chip8
