import Chip8.Memory

/-! Memory over a history of edits.

    An edit that fails leaves memory as it is. Beside the memory that a history leaves stands what
    the history says of an address by itself: the byte of the latest edit that succeeded and covers
    the address, or its power-on byte if there was none since memory was last cleared. -/

namespace Chip8.Memory

/-- Where an edit writes, and what it writes there; to clear memory is not to write. -/
def Edit.target? : Edit → Option (UInt16 × List UInt8)
  | .write addr data => some (addr, data)
  | .loadProgram program => some (programStart, program)
  | .setByte addr value => some (addr, [value])
  | .fill addr len value => some (addr, List.replicate len value)
  | .clear => none

/-- What an edit is answered, whatever memory holds. -/
def Edit.answer (e : Edit) : Except Fault Unit :=
  match e.target? with
  | none => .ok ()
  | some (addr, data) =>
    if addr.toNat + data.length ≤ 4096 then .ok ()
    else .error (.addressOutOfRange addr.toNat data.length)

/-- Memory after an edit, which may have failed. -/
def edited (m : Memory) (e : Edit) : Memory :=
  match m.edit e with
  | .ok m' => m'
  | .error _ => m

/-- Memory after a history of edits, whatever they were answered. -/
def after (m : Memory) (history : List Edit) : Memory := history.foldl edited m

/-- The byte of an address at power-on. -/
def powerOnByte (a : Nat) : UInt8 :=
  if 0x50 ≤ a ∧ a ≤ 0x9f then font[a - 0x50]?.getD 0 else 0

/-- The byte that a history leaves at an address; the history is given the latest edit first. -/
def latest (a : Nat) : List Edit → UInt8
  | [] => powerOnByte a
  | e :: earlier =>
    match e.target? with
    | none => powerOnByte a
    | some (addr, data) =>
      if addr.toNat + data.length ≤ 4096 ∧ addr.toNat ≤ a ∧ a < addr.toNat + data.length then
        data[a - addr.toNat]?.getD 0
      else latest a earlier

/-- Memory holds the given bytes: each of the three ways to read gives them where all of what it
asks for lies in memory, and is refused elsewhere. -/
structure Holds (m : Memory) (held : Nat → UInt8) : Prop where
  read : ∀ addr len, m.read addr len =
    if addr.toNat + len ≤ 4096 then .ok ((List.range len).map fun k => held (addr.toNat + k))
    else .error (.addressOutOfRange addr.toNat len)
  byte : ∀ addr, m.byte addr =
    if addr.toNat + 1 ≤ 4096 then .ok (held addr.toNat)
    else .error (.addressOutOfRange addr.toNat 1)
  word : ∀ addr, m.word addr =
    if addr.toNat + 2 ≤ 4096 then
      .ok (.ofNat (256 * (held addr.toNat).toNat + (held (addr.toNat + 1)).toNat))
    else .error (.addressOutOfRange addr.toNat 2)

end Chip8.Memory
