/-! Whole numbers as text.

    Addresses and words are written in lower-case hexadecimal with zeros in front up to a width and
    wider when the number needs it, register numbers in upper-case hexadecimal without padding, and
    everything else in decimal. Read back as numbers, capital and small letters stand for the same
    digits, and zeros in front for nothing, so a numeral has one value however it was written. -/

namespace Chip8.Text

/-- The decimal digits of `n`, at least one. -/
def decimal (n : Nat) : String := String.ofList (Nat.toDigits 10 n)

/-- The lower-case hexadecimal digits of `n`, with zeros in front up to `width` characters. -/
def hexDigits (width n : Nat) : List Char := (Nat.toDigits 16 n).leftpad width '0'

/-- The number `n` in lower-case hexadecimal, at least `width` digits long. -/
def hex (width n : Nat) : String := String.ofList (hexDigits width n)

/-- The number `n` in upper-case hexadecimal, without padding. -/
def upperHex (n : Nat) : String := String.ofList ((Nat.toDigits 16 n).map Char.toUpper)

/-! ### What the digits are -/

@[simp] theorem toList_decimal (n : Nat) : (decimal n).toList = Nat.toDigits 10 n :=
  String.toList_ofList

@[simp] theorem toList_hex (width n : Nat) : (hex width n).toList = hexDigits width n :=
  String.toList_ofList

@[simp] theorem toList_upperHex (n : Nat) :
    (upperHex n).toList = (Nat.toDigits 16 n).map Char.toUpper :=
  String.toList_ofList

/-- What is so of every digit below the base is so of the digits of a numeral. -/
theorem forall_mem_toDigits {b : Nat} {p : Char → Prop} (hb : 1 < b) (hp : ∀ d < b, p d.digitChar)
    (n : Nat) : ∀ c ∈ Nat.toDigits b n, p c := by
  induction n using Nat.strongRecOn with
  | ind n ih =>
    intro c hc
    rw [Nat.toDigits_eq_if hb] at hc
    split at hc
    · rename_i hn
      rw [List.mem_singleton.mp hc]
      exact hp n hn
    · rename_i hn
      rcases List.mem_append.mp hc with hc | hc
      · exact ih (n / b) (Nat.div_lt_self (by omega) hb) c hc
      · rw [List.mem_singleton.mp hc]
        exact hp (n % b) (Nat.mod_lt n (by omega))

/-- Padding is with a digit, so what is so of every digit is so of a padded numeral as well. -/
theorem forall_mem_hexDigits {p : Char → Prop} (hp : ∀ d < 16, p d.digitChar) (width n : Nat) :
    ∀ c ∈ hexDigits width n, p c := by
  intro c hc
  rcases List.mem_append.mp hc with hc | hc
  · rw [List.eq_of_mem_replicate hc]
    exact hp 0 (by decide)
  · exact forall_mem_toDigits (by decide) hp n c hc

/-- A decimal numeral reads back as its number. -/
theorem ofDigitChars_decimal (n : Nat) : Nat.ofDigitChars 10 (decimal n).toList 0 = n := by
  simp

@[simp] theorem decimal_inj {m n : Nat} : decimal m = decimal n ↔ m = n := by
  refine ⟨fun h => ?_, congrArg decimal⟩
  rw [← ofDigitChars_decimal m, h, ofDigitChars_decimal]

/-- Padding never cuts: a numeral has `width` digits or as many as the number needs. -/
theorem length_hexDigits (width n : Nat) :
    (hexDigits width n).length = max width (Nat.toDigits 16 n).length := by
  simp [hexDigits, List.leftpad]; omega

/-! ### What numerals stand for -/

/-- The value of a hexadecimal digit, in either case. -/
def digitValue (c : Char) : Nat :=
  if c.isDigit then c.toNat - '0'.toNat else c.toUpper.toNat - 'A'.toNat + 10

/-- The number that hexadecimal digits stand for. -/
def hexValue (digits : List Char) : Nat := digits.foldl (fun n c => 16 * n + digitValue c) 0

theorem digitValue_digitChar : ∀ d < 16, digitValue d.digitChar = d := by decide

theorem digitValue_toUpper_digitChar : ∀ d < 16, digitValue d.digitChar.toUpper = d := by decide

/-- Digits that are written with some value each have the value of the number. -/
theorem foldl_toDigits {value : Char → Nat} (h : ∀ d < 16, value d.digitChar = d) (n : Nat) :
    (Nat.toDigits 16 n).foldl (fun n c => 16 * n + value c) 0 = n := by
  induction n using Nat.strongRecOn with
  | ind n ih =>
    rw [Nat.toDigits_eq_if (by decide)]
    split
    · rename_i hn
      simp [h n hn]
    · rename_i hn
      have hlast := h (n % 16) (Nat.mod_lt n (by decide))
      rw [List.foldl_append, ih (n / 16) (by omega), List.foldl_cons, List.foldl_nil, hlast]
      omega

theorem hexValue_hexDigits (width n : Nat) : hexValue (hexDigits width n) = n := by
  have hzeros (k : Nat) : (List.replicate k '0').foldl (fun n c => 16 * n + digitValue c) 0 = 0 := by
    induction k with
    | zero => rfl
    | succ k ih => rw [List.replicate_succ, List.foldl_cons]; exact ih
  rw [hexValue, hexDigits, List.leftpad, List.foldl_append, hzeros]
  exact foldl_toDigits digitValue_digitChar n

/-- Numerals of one width are told apart by their numbers, also when these need more digits. -/
@[simp] theorem hex_inj {width m n : Nat} : hex width m = hex width n ↔ m = n := by
  refine ⟨fun h => ?_, congrArg (hex width)⟩
  rw [← hexValue_hexDigits width m, ← toList_hex, h, toList_hex, hexValue_hexDigits]

theorem hexValue_upperDigits (n : Nat) : hexValue ((Nat.toDigits 16 n).map Char.toUpper) = n := by
  rw [hexValue, List.foldl_map]
  exact foldl_toDigits digitValue_toUpper_digitChar n

end Chip8.Text
