import Chip8.Fault
import Chip8.Host

/-! The 4096 bytes a program can address, with the font in place from power-on.

        0x050 - 0x09f   the glyphs of the 16 hexadecimal digits, 5 rows each
        0x200 - 0xfff   the program and whatever it writes

    An access that does not lie in memory is a fault and writes nothing; an access of no bytes is
    held to the same rule. Where an access ends is added up exactly in `inRange`, and `inRange?` is
    the same check on a host, which may not be able to hold the sum. `byteAt` is the view that the
    laws are about: `byteAt_store` says what a run of stored bytes does to it. -/

namespace Chip8

/-- The addressable bytes. -/
structure Memory where
  bytes : Vector UInt8 4096
  deriving DecidableEq

namespace Memory

/-- How many bytes there are. -/
abbrev size : Nat := 4096

/-- Where a program is loaded. -/
def programStart : UInt16 := 0x200

/-- Where the glyphs begin. -/
def fontStart : UInt16 := 0x50

/-- How many rows a glyph has, one byte each. -/
def glyphRows : UInt16 := 5

/-- The glyphs of the digits `0` to `F`. -/
def font : List UInt8 :=
  [0xF0, 0x90, 0x90, 0x90, 0xF0,
   0x20, 0x60, 0x20, 0x20, 0x70,
   0xF0, 0x10, 0xF0, 0x80, 0xF0,
   0xF0, 0x10, 0xF0, 0x10, 0xF0,
   0x90, 0x90, 0xF0, 0x10, 0x10,
   0xF0, 0x80, 0xF0, 0x10, 0xF0,
   0xF0, 0x80, 0xF0, 0x90, 0xF0,
   0xF0, 0x10, 0x20, 0x40, 0x40,
   0xF0, 0x90, 0xF0, 0x90, 0xF0,
   0xF0, 0x90, 0xF0, 0x10, 0xF0,
   0xF0, 0x90, 0xF0, 0x90, 0x90,
   0xE0, 0x90, 0xE0, 0x90, 0xE0,
   0xF0, 0x80, 0x80, 0x80, 0xF0,
   0xE0, 0x90, 0x90, 0x90, 0xE0,
   0xF0, 0x80, 0xF0, 0x80, 0xF0,
   0xF0, 0x80, 0xF0, 0x80, 0x80]

/-- The rows of the glyph of `digit`, for the digits below 16. -/
def glyph (digit : UInt8) : List UInt8 := (font.drop (5 * digit.toNat)).take 5

/-- The address of the glyph of `digit`; only the digits below 16 have one in the font. -/
def glyphAddr (digit : UInt8) : UInt16 := fontStart + digit.toUInt16 * glyphRows

/-! ### The bytes -/

/-- The byte at an address, and zero outside memory. -/
def byteAt (m : Memory) (addr : Nat) : UInt8 := m.bytes[addr]?.getD 0

/-- Store bytes one after the other from an address on; what falls outside is dropped. -/
def store (m : Memory) (addr : Nat) : List UInt8 → Memory
  | [] => m
  | b :: rest => store ⟨m.bytes.setIfInBounds addr b⟩ (addr + 1) rest

/-- The `len` bytes from an address on. -/
def slice (m : Memory) (addr len : Nat) : List UInt8 := (List.range' addr len).map m.byteAt

/-- The word at an address, high byte first. -/
def wordAt (m : Memory) (addr : Nat) : UInt16 :=
  .ofNat (256 * (m.byteAt addr).toNat + (m.byteAt (addr + 1)).toNat)

/-- Power-on memory: zero but for the font. -/
def powerOn : Memory := store ⟨Vector.replicate size 0⟩ fontStart.toNat font

/-! ### Checked access -/

/-- Whether `len` bytes from `addr` on lie in memory. -/
def inRange (addr : UInt16) (len : Nat) : Bool := addr.toNat + len ≤ size

/-- The same check on a host, which stops if it cannot hold where the bytes end. -/
def inRange? (host : Host) (addr : UInt16) (len : Nat) : Option Bool :=
  (host.size? (addr.toNat + len)).map fun _ => inRange addr len

/-- The fault of an access that does not lie in memory. -/
def outOfRange (addr : UInt16) (len : Nat) : Fault := .addressOutOfRange addr.toNat len

/-- Read `len` bytes. -/
def read (m : Memory) (addr : UInt16) (len : Nat) : Except Fault (List UInt8) :=
  if inRange addr len then .ok (m.slice addr.toNat len) else .error (outOfRange addr len)

/-- Read one byte. -/
def byte (m : Memory) (addr : UInt16) : Except Fault UInt8 :=
  if inRange addr 1 then .ok (m.byteAt addr.toNat) else .error (outOfRange addr 1)

/-- Read two bytes as a word, high byte first. -/
def word (m : Memory) (addr : UInt16) : Except Fault UInt16 :=
  if inRange addr 2 then
    .ok ((m.byteAt addr.toNat).toUInt16 <<< 8 ||| (m.byteAt (addr.toNat + 1)).toUInt16)
  else .error (outOfRange addr 2)

/-- Write bytes, all of them or none. -/
def write (m : Memory) (addr : UInt16) (data : List UInt8) : Except Fault Memory :=
  if inRange addr data.length then .ok (m.store addr.toNat data)
  else .error (outOfRange addr data.length)

/-- Write one byte. -/
def setByte (m : Memory) (addr : UInt16) (value : UInt8) : Except Fault Memory :=
  m.write addr [value]

/-- Write the same byte `len` times. -/
def fill (m : Memory) (addr : UInt16) (len : Nat) (value : UInt8) : Except Fault Memory :=
  if inRange addr len then .ok (m.store addr.toNat (List.replicate len value))
  else .error (outOfRange addr len)

/-- Write a program where programs go, verbatim. -/
def loadProgram (m : Memory) (program : List UInt8) : Except Fault Memory :=
  m.write programStart program

/-- A request to change memory. -/
inductive Edit
  | write (addr : UInt16) (data : List UInt8)
  | loadProgram (program : List UInt8)
  | setByte (addr : UInt16) (value : UInt8)
  | fill (addr : UInt16) (len : Nat) (value : UInt8)
  /-- Go back to power-on contents. -/
  | clear
  deriving DecidableEq, Repr

/-- Carry out an edit, or say why it cannot be. -/
def edit (m : Memory) : Edit → Except Fault Memory
  | .write addr data => m.write addr data
  | .loadProgram program => m.loadProgram program
  | .setByte addr value => m.setByte addr value
  | .fill addr len value => m.fill addr len value
  | .clear => .ok powerOn

/-! ### What storing does to the view -/

theorem byteAt_of_size_le (m : Memory) {addr : Nat} (h : size ≤ addr) : m.byteAt addr = 0 := by
  simp [byteAt, Vector.getElem?_eq_none h]

/-- Stored bytes are read back where they lie, and every other byte is kept. -/
theorem byteAt_store (m : Memory) (addr : Nat) (data : List UInt8)
    (h : addr + data.length ≤ size) (a : Nat) :
    (m.store addr data).byteAt a
      = if addr ≤ a then data[a - addr]?.getD (m.byteAt a) else m.byteAt a := by
  induction data generalizing m addr with
  | nil => simp [store]
  | cons b rest ih =>
    simp only [List.length_cons] at h
    rw [store, ih _ _ (by omega)]
    have hb : Memory.byteAt ⟨m.bytes.setIfInBounds addr b⟩ a
        = if a = addr then b else m.byteAt a := by
      by_cases e : a = addr
      · subst e
        have : a < 4096 := by simp only [size] at h; omega
        simp [byteAt, this]
      · simp [byteAt, e, Vector.getElem?_setIfInBounds_ne (Ne.symm e)]
    rcases Nat.lt_trichotomy a addr with lt | rfl | gt
    · rw [if_neg (by omega), if_neg (by omega), hb, if_neg (by omega)]
    · rw [if_neg (by omega), hb]
      simp
    · obtain ⟨k, rfl⟩ : ∃ k, a = addr + 1 + k := ⟨a - (addr + 1), by omega⟩
      rw [if_pos (by omega), if_pos (by omega), hb, if_neg (by omega)]
      simp [show addr + 1 + k - addr = k + 1 by omega]

theorem inRange?_of_holds {host : Host} {addr : UInt16} {len : Nat}
    (h : host.holds (addr.toNat + len) = true) :
    inRange? host addr len = some (inRange addr len) := by
  rw [inRange?, Host.size?_of_holds h]
  rfl

theorem inRange?_of_not_holds {host : Host} {addr : UInt16} {len : Nat}
    (h : host.holds (addr.toNat + len) = false) : inRange? host addr len = none := by
  rw [inRange?, Host.size?, h]
  rfl

@[simp] theorem length_slice (m : Memory) (addr len : Nat) : (m.slice addr len).length = len := by
  simp [slice]

theorem getElem?_slice (m : Memory) (addr len k : Nat) :
    (m.slice addr len)[k]? = if k < len then some (m.byteAt (addr + k)) else none := by
  by_cases h : k < len
  · simp [slice, h]
  · simp [h]

/-- A word is its two bytes, high byte first. -/
theorem toNat_word {m : Memory} {addr : UInt16} {w : UInt16} (h : m.word addr = .ok w) :
    w.toNat = 256 * (m.byteAt addr.toNat).toNat + (m.byteAt (addr.toNat + 1)).toNat := by
  simp only [word] at h
  split at h
  · cases h
    have := (m.byteAt addr.toNat).toNat_lt
    have := (m.byteAt (addr.toNat + 1)).toNat_lt
    simp only [UInt16.toNat_or, UInt16.toNat_shiftLeft, UInt8.toNat_toUInt16]
    rw [show (8 : UInt16).toNat % 16 = 8 from rfl, Nat.shiftLeft_eq,
      Nat.mod_eq_of_lt (by omega), Nat.mul_comm,
      show 2 ^ 8 * (m.byteAt addr.toNat).toNat = (m.byteAt addr.toNat).toNat <<< 8 by
        rw [Nat.shiftLeft_eq, Nat.mul_comm],
      ← Nat.shiftLeft_add_eq_or_of_lt (by omega), Nat.shiftLeft_eq, Nat.mul_comm]
  · cases h

theorem word_of_le {m : Memory} {addr : UInt16} (h : addr.toNat ≤ 4094) :
    m.word addr = .ok (m.wordAt addr.toNat) := by
  have hr : inRange addr 2 = true := by simp only [inRange, size, decide_eq_true_eq]; omega
  obtain ⟨w, hw⟩ : ∃ w, m.word addr = .ok w := ⟨_, by rw [word, if_pos hr]⟩
  have hhi := (m.byteAt addr.toNat).toNat_lt
  have hlo := (m.byteAt (addr.toNat + 1)).toNat_lt
  have hat : w = m.wordAt addr.toNat := by
    rw [← UInt16.toNat_inj, toNat_word hw, wordAt, UInt16.toNat_ofNat_of_lt']
    simp only [UInt16.size]
    omega
  rw [hw, hat]

theorem word_of_gt {m : Memory} {addr : UInt16} (h : 4094 < addr.toNat) :
    m.word addr = .error (outOfRange addr 2) := by
  have hr : inRange addr 2 = false := by
    simp only [inRange, size, decide_eq_false_iff_not]
    omega
  simp [word, hr]

end Memory

end Chip8
