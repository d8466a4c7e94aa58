import Chip8.Decimal.Shortest

/-! Doubles as text: the fewest digits that read back, never an exponent, and no point after a whole
    number. -/

namespace Chip8.Decimal

/-- The sign bit of a double. -/
def isNegative (x : Float) : Bool := x.toBits >>> 63 == 1

/-- The eleven exponent bits of a double. -/
def exponentBits (x : Float) : Nat := ((x.toBits >>> 52) &&& 0x7ff).toNat

/-- The 52 fraction bits of a double. -/
def fractionBits (x : Float) : Nat := (x.toBits &&& 0xfffffffffffff).toNat

/-- The bit that stands above the fraction bits of all but the smallest doubles. -/
def hiddenBit : Nat := 0x10000000000000

/-- The text of the magnitude of a double. -/
def magnitude (x : Float) : String :=
  let fraction := fractionBits x
  match exponentBits x with
  | 0x7ff => if fraction = 0 then "inf" else "NaN"
  | 0 =>
    if fraction = 0 then "0"
    else
      let (k, e) := shortest fraction (-1074) false
      positional k e
  | biased =>
    let (k, e) := shortest (hiddenBit + fraction) (biased - 1075) (fraction == 0)
    positional k e

/-- The text of a double; what is not a number has no sign. -/
def ofDouble (x : Float) : String :=
  if isNegative x && !x.isNaN then "-" ++ magnitude x else magnitude x

end Chip8.Decimal
