import Chip8.Instruction.Operands
import Chip8.Instruction.Parts
import Chip8.Instruction.Pattern

/-! How a word SPELLS an instruction.

    The letters of a pattern mark the fields of a word, and the digits at the places of one letter
    are read as one number. So `0xc42a`, read by `CXNN`, has a 4 at `X` and a 0x2a at `N`. The
    operands of an instruction stand in the fields in order. A field past the last operand is free,
    which is so of the `Y` of `8XY6` and of `8XYE`. -/

namespace Chip8

namespace Pattern

/-- The letters of a pattern, each once. -/
def letters (pattern : String) : List Char :=
  (pattern.toList.filter fun c => (value? c).isNone).eraseDups

/-- The number that the digits of a word make at the places of a letter. -/
def numberAt (pattern : String) (w : Word) (letter : Char) : Nat :=
  (pattern.toList.zip (digits w)).foldl
    (fun n (place, digit) => if place = letter then 16 * n + digit else n) 0

/-- The numbers in the fields of a word, the highest field first. -/
def numbers (pattern : String) (w : Word) : List Nat := (letters pattern).map (numberAt pattern w)

/-- The number of a pattern with every field zero. -/
def base (pattern : String) : Nat := (places pattern).foldl (fun n place => 16 * n + place.getD 0) 0

/-- What one more in the field of a letter adds to a word. -/
def unit : Char → Nat
  | 'X' => 256
  | 'Y' => 16
  | _ => 1

end Pattern

/-- Two words for one shift of the same register: they may differ in the digit that it leaves
free. -/
structure Word.SameShift (v w : Word) : Prop where
  fits : Pattern.fits "8XY6" v ∧ Pattern.fits "8XY6" w ∨
    Pattern.fits "8XYE" v ∧ Pattern.fits "8XYE" w
  x : v.x = w.x

namespace Instruction

/-- A word has the digits that the pattern of an instruction asks for and its operands in the
fields. -/
structure SpelledBy (i : Instruction) (w : Word) : Prop where
  fits : Pattern.fits i.pattern w = true
  operands : i.operands <+: Pattern.numbers i.pattern w
  /-- Of the words that fit `0NNN`, `00E0` and `00EE` are not meant. -/
  other : i.pattern = "0NNN" → w ≠ 0x00e0 ∧ w ≠ 0x00ee

instance (i : Instruction) (w : Word) : Decidable (i.SpelledBy w) :=
  decidable_of_iff
    (Pattern.fits i.pattern w = true ∧ i.operands <+: Pattern.numbers i.pattern w ∧
      (i.pattern = "0NNN" → w ≠ 0x00e0 ∧ w ≠ 0x00ee))
    ⟨fun ⟨hfits, hoperands, hother⟩ => ⟨hfits, hoperands, hother⟩,
      fun h => ⟨h.fits, h.operands, h.other⟩⟩

/-- The operand that counts the rows of a sprite. -/
def rows? : Instruction → Option UInt8
  | draw _ _ n => some n
  | _ => none

/-- Whether the operands of an instruction fit the fields of its pattern, and the words that they
would make are not those of another instruction. -/
structure Encodable (i : Instruction) : Prop where
  narrow : i.Narrow
  rows_lt : ∀ n ∈ i.rows?, n.toNat < 16
  other : i ≠ sys 0x0e0 ∧ i ≠ sys 0x0ee

/-- The word with the operands of an instruction in its fields, and zero in a field that is free. -/
def encode (i : Instruction) : Word :=
  let fields := (Pattern.letters i.pattern).zip i.operands
  .ofNat (fields.foldl (fun n (letter, operand) => n + Pattern.unit letter * operand)
    (Pattern.base i.pattern))

end Instruction

end Chip8
