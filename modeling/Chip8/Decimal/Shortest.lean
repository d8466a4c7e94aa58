/-! The shortest decimal that reads back as a given binary fraction.

    A reader rounds every real in an interval around the value to that value. Among the multiples of
    a power of ten, the neighbours of the value are the only candidates to lie in the interval, so
    the search goes through the powers from the largest down and takes the first that has a
    candidate inside, and of two candidates the nearer, of two equally near ones the larger.
    `Interval.contains_of_search` says that the result does read back. -/

namespace Chip8.Decimal

/-- The reals that are rounded to one value: `low` to `high` in units of `2 ^ scale`, the value
itself being `mid`, and whether the ends belong to them. -/
structure Interval where
  low : Nat
  mid : Nat
  high : Nat
  scale : Int
  closed : Bool

/-- The interval of `mantissa * 2 ^ exponent`. It ends half way to the neighbours, of which the
lower is only half as far away at a power of two, and has its ends if the mantissa is even. -/
def Interval.ofBinary (mantissa : Nat) (exponent : Int) (powerOfTwo : Bool) : Interval where
  low := 4 * mantissa - if powerOfTwo then 1 else 2
  mid := 4 * mantissa
  high := 4 * mantissa + 2
  scale := exponent - 2
  closed := mantissa % 2 == 0

/-- The numerator and the denominator of a power. -/
def fraction (base : Nat) (e : Int) : Nat × Nat :=
  if 0 ≤ e then (base.pow e.toNat, 1) else (1, base.pow (-e).toNat)

/-- The unit of the interval and the power `10 ^ e`, both as multiples of the same number. -/
def Interval.unitAndStep (i : Interval) (e : Int) : Nat × Nat :=
  let (binaryNum, binaryDen) := fraction 2 i.scale
  let (decimalNum, decimalDen) := fraction 10 e
  (binaryNum * decimalDen, binaryDen * decimalNum)

/-- Whether `k * 10 ^ e` lies in the interval. -/
def Interval.contains (i : Interval) (e : Int) (k : Nat) : Bool :=
  let (unit, step) := i.unitAndStep e
  if i.closed then i.low * unit ≤ k * step && k * step ≤ i.high * unit
  else i.low * unit < k * step && k * step < i.high * unit

/-- The multiple of `10 ^ e` that stands for the interval, if there is one: `some k` for
`k * 10 ^ e`. -/
def Interval.multiple? (i : Interval) (e : Int) : Option Nat :=
  let (unit, step) := i.unitAndStep e
  let k := i.mid * unit / step
  if i.contains e k then
    if i.contains e (k + 1) then
      if i.mid * unit - k * step < (k + 1) * step - i.mid * unit then some k else some (k + 1)
    else some k
  else if i.contains e (k + 1) then some (k + 1)
  else none

/-- Try the powers of ten from `10 ^ e` down, `fuel` of them. -/
def Interval.search (i : Interval) : Nat → Int → Option (Nat × Int)
  | 0, _ => none
  | fuel + 1, e =>
    match i.multiple? e with
    | some k => some (k, e)
    | none => i.search fuel (e - 1)

/-- What stands for an interval lies in it. -/
theorem Interval.contains_of_multiple? {i : Interval} {e : Int} {k : Nat}
    (h : i.multiple? e = some k) : i.contains e k = true := by
  simp only [multiple?] at h
  split at h
  · split at h
    · split at h <;> cases h <;> assumption
    · cases h; assumption
  · split at h
    · cases h; assumption
    · cases h

/-- What the search finds lies in the interval. -/
theorem Interval.contains_of_search {i : Interval} {fuel : Nat} {e e' : Int} {k : Nat}
    (h : i.search fuel e = some (k, e')) : i.contains e' k = true := by
  induction fuel generalizing e with
  | zero => cases h
  | succ fuel ih =>
    simp only [search] at h
    split at h
    · next hk =>
      cases h
      exact contains_of_multiple? hk
    · exact ih h

/-- The digits `k` and the exponent `e` of the shortest decimal `k * 10 ^ e` for a double. -/
def shortest (mantissa : Nat) (exponent : Int) (powerOfTwo : Bool) : Nat × Int :=
  ((Interval.ofBinary mantissa exponent powerOfTwo).search 700 310).getD (mantissa, 0)

/-- The number `k * 10 ^ e` written out in full, without an exponent. -/
def positional (k : Nat) (e : Int) : String :=
  let digits := Nat.toDigits 10 k
  if 0 ≤ e then String.ofList (digits ++ List.replicate e.toNat '0')
  else
    let places := (-e).toNat
    let padded := digits.leftpad (places + 1) '0'
    let whole := padded.length - places
    String.ofList (padded.take whole ++ '.' :: padded.drop whole)

end Chip8.Decimal
