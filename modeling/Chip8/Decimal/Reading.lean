/-! Reading numbers from text, all of it or not at all.

    Whole numbers are digits, with a plus sign allowed in front and a minus sign where negative
    numbers make sense. Doubles also take a point, an exponent, and the words for the values that
    digits cannot write. -/

namespace Chip8.Decimal

/-- The value of a non-empty list of decimal digits. -/
def digits? (s : List Char) : Option Nat :=
  if s.isEmpty || !s.all Char.isDigit then none else some (Nat.ofDigitChars 10 s 0)

/-- A text without its sign, and whether that was a minus. -/
def splitSign : List Char → Bool × List Char
  | '-' :: rest => (true, rest)
  | '+' :: rest => (false, rest)
  | rest => (false, rest)

/-- A whole number without a minus sign, at most `limit`. -/
def natural? (limit : Nat) (s : String) : Option Nat :=
  let unsigned := match s.toList with
    | '+' :: rest => rest
    | rest => rest
  (digits? unsigned).filter (· ≤ limit)

/-- A whole number with either sign. -/
def integer? (s : String) : Option Int :=
  let (negative, unsigned) := splitSign s.toList
  (digits? unsigned).map fun n => if negative then -(n : Int) else n

/-- The exponent that ends the text of a double: nothing, or a letter and a whole number. -/
def exponent? : List Char → Option Int
  | [] => some 0
  | c :: rest => if c = 'e' ∨ c = 'E' then integer? (String.ofList rest) else none

/-- The double `n * 10 ^ e`. Exponents so large or so small that all numbers with the digits of `n`
are infinite or zero count as the last of them. -/
def scientific (n : Nat) (e : Int) : Float :=
  let e := max (-(400 + n.log2 : Int)) (min e 400)
  if e < 0 then Float.ofScientific n true (-e).toNat else Float.ofScientific n false e.toNat

/-- The magnitude of a double: digits around an optional point, then an optional exponent. -/
def magnitude? (s : List Char) : Option Float :=
  let whole := s.takeWhile Char.isDigit
  let rest := s.dropWhile Char.isDigit
  let (places, rest) := match rest with
    | '.' :: rest => (rest.takeWhile Char.isDigit, rest.dropWhile Char.isDigit)
    | rest => ([], rest)
  match digits? (whole ++ places), exponent? rest with
  | some n, some e => some (scientific n (e - places.length))
  | _, _ => none

/-- A double, or one of the words for infinity and for what is not a number, in any case. -/
def double? (s : String) : Option Float :=
  let (negative, unsigned) := splitSign s.toList
  let word := String.ofList (unsigned.map Char.toLower)
  let value :=
    if word = "inf" ∨ word = "infinity" then some (1 / 0)
    else if word = "nan" then some (0 / 0)
    else magnitude? unsigned
  value.map fun x => if negative then -x else x

end Chip8.Decimal
