import Chip8.Memory.Edits

/-! Memory as it lies in a host: bytes in a row, as many as there are.

    An access is held to the size of memory and then made to the bytes, of which nothing says that
    there are so many. The host stops the whole program, which is written `none`, where it cannot
    hold the end of a range, where a range does not lie in the bytes, and where data is copied over a
    range of another length. An access that fails answers with its fault and hands the bytes on as
    they are by that time. -/

namespace Chip8

namespace Memory

/-- Whether a host can hold where the range of an edit ends. -/
def Edit.held (host : Host) (e : Edit) : Bool :=
  e.target?.all fun (addr, data) => host.holds (addr.toNat + data.length)

/-- The memory of which the bytes are the first; those that are missing are zero. -/
def ofBytes (bytes : List UInt8) : Memory := ⟨Vector.ofFn fun k => bytes[k.val]?.getD 0⟩

end Memory

/-- Bytes in a row. -/
abbrev Bytes := List UInt8

namespace Bytes

/-- The `len` bytes from `start` on, if there are so many. -/
def part? (bytes : Bytes) (start len : Nat) : Option Bytes :=
  if start + len ≤ bytes.length then some ((bytes.drop start).take len) else none

/-- The bytes with the data copied over the `len` bytes from `start` on, if there are as many of
both. -/
def copy? (bytes : Bytes) (start len : Nat) (data : Bytes) : Option Bytes :=
  if start + len ≤ bytes.length ∧ data.length = len then
    some (bytes.take start ++ data ++ bytes.drop (start + len))
  else none

variable (host : Host)

/-- Read `len` bytes. -/
def read? (bytes : Bytes) (addr : UInt16) (len : Nat) : Option (Except Fault Bytes) := do
  if ← Memory.inRange? host addr len then return .ok (← part? bytes addr.toNat len)
  else return .error (Memory.outOfRange addr len)

/-- Read one byte. -/
def byte? (bytes : Bytes) (addr : UInt16) : Option (Except Fault UInt8) := do
  match ← read? host bytes addr 1 with
  | .error f => return .error f
  | .ok found => return .ok (← found[0]?)

/-- Read two bytes as a word, high byte first. -/
def word? (bytes : Bytes) (addr : UInt16) : Option (Except Fault UInt16) := do
  match ← read? host bytes addr 2 with
  | .error f => return .error f
  | .ok found => return .ok ((← found[0]?).toUInt16 <<< 8 ||| (← found[1]?).toUInt16)

/-- Copy data over `len` bytes; the data is looked at only when it has a place. -/
def write? (bytes : Bytes) (addr : UInt16) (len : Nat) (data? : Unit → Option Bytes) :
    Option (Except Fault Unit × Bytes) := do
  if ← Memory.inRange? host addr len then
    return (.ok (), ← copy? bytes addr.toNat len (← data? ()))
  else return (.error (Memory.outOfRange addr len), bytes)

/-- Copy the font to its place. -/
def withFont? (bytes : Bytes) : Option Bytes :=
  copy? bytes Memory.fontStart.toNat Memory.font.length Memory.font

/-- The bytes of memory at power-on. -/
def powerOn? : Option Bytes := withFont? (List.replicate Memory.size 0)

/-- Go back to power-on contents. -/
def clear? (bytes : Bytes) : Option Bytes := withFont? (List.replicate bytes.length 0)

/-- Carry out an edit: its answer, and the bytes after it. -/
def edit? (bytes : Bytes) : Memory.Edit → Option (Except Fault Unit × Bytes)
  | .write addr data => write? host bytes addr data.length fun _ => some data
  | .loadProgram program =>
    write? host bytes Memory.programStart program.length fun _ => some program
  | .setByte addr value => write? host bytes addr 1 fun _ => some [value]
  | .fill addr len value => write? host bytes addr len fun _ => some (List.replicate len value)
  | .clear => (clear? bytes).map fun bytes => (.ok (), bytes)

/-- Carry out a history of edits: their answers in order, and the bytes after the last. -/
def editAll? (bytes : Bytes) : List Memory.Edit → Option (List (Except Fault Unit) × Bytes)
  | [] => some ([], bytes)
  | e :: rest => do
    let (answer, bytes) ← edit? host bytes e
    let (answers, bytes) ← editAll? bytes rest
    return (answer :: answers, bytes)

/-- Bytes serve for a memory: whatever is asked of the host is answered as memory answers, and the
host is stopped by nothing but a range whose end it cannot hold. -/
structure Serve (bytes : Bytes) (m : Memory) : Prop where
  read : ∀ addr len, read? host bytes addr len =
    if host.holds (addr.toNat + len) then some (m.read addr len) else none
  byte : ∀ addr, byte? host bytes addr = some (m.byte addr)
  word : ∀ addr, word? host bytes addr = some (m.word addr)
  edit : ∀ e, edit? host bytes e =
    if e.held host then some (e.answer, (m.edited e).bytes.toList) else none

end Bytes

end Chip8
