import Mathlib.Tactic
import Chip8.Instruction.Assembly
import Chip8.Proofs.Spelling

/-! Disassembly is LOSSLESS: the text of an instruction is read back.

    There are three things to undo. Numerals are read back whatever their width, and an operand is
    told from the others by its first characters or its length (`ofText?_text`). No operand and no
    name has a blank or a comma, so the words of a text are those it was made of (`mapM_words`,
    `toList_mnemonic`). And no two instructions share a line (`ofLine?_line`). -/

namespace Chip8

namespace Instruction

variable {o : Operand}

namespace Operand

/-! ### Operands -/

/-- Whether a character may stand in an operand or a name. -/
def plain (c : Char) : Bool := c != ' ' && c != ','

theorem plain_hexDigits (width n : Nat) : ∀ c ∈ Text.hexDigits width n, plain c = true :=
  Text.forall_mem_hexDigits (by decide) width n

theorem plain_text (o : Operand) : ∀ c ∈ o.text.toList, plain c = true := by
  cases o with
  | register x =>
    have hdigits : ∀ c ∈ Nat.toDigits 16 x.toNat, plain c.toUpper = true :=
      Text.forall_mem_toDigits (by decide) (by decide) x.toNat
    simpa [text, Instruction.register] using ⟨by decide, hdigits⟩
  | byte nn => simpa [text, immediate] using ⟨by decide, by decide, plain_hexDigits 2 nn.toNat⟩
  | addr a => simpa [text, address] using ⟨by decide, by decide, plain_hexDigits 3 a.toNat⟩
  | rows n =>
    rw [text, Text.toList_decimal]
    exact Text.forall_mem_toDigits (by decide) (by decide) n.toNat
  | _ => exact List.all_eq_true.mp (by decide)

/-- The numeral of a byte is shorter than that of any address. -/
theorem length_hexDigits_byte (nn : UInt8) : (Text.hexDigits 2 nn.toNat).length < 3 := by
  have hlength : (Nat.toDigits 16 nn.toNat).length ≤ 2 :=
    (Nat.length_toDigits_le_iff (by decide) (by decide)).mpr nn.toNat_lt
  rw [Text.length_hexDigits]
  omega

theorem length_hexDigits_addr (a : UInt16) : ¬ (Text.hexDigits 3 a.toNat).length < 3 := by
  rw [Text.length_hexDigits]
  omega

/-- A text with a character that is no digit is no number. -/
theorem digits?_eq_none {s : List Char} {c : Char} (h : c ∈ s) (hc : c.isDigit = false) :
    Decimal.digits? s = none := by
  have hall : s.all Char.isDigit = false := List.all_eq_false.mpr ⟨c, h, by simp [hc]⟩
  simp [Decimal.digits?, hall]

theorem digits?_toDigits (n : Nat) : Decimal.digits? (Nat.toDigits 10 n) = some n := by
  have hall : (Nat.toDigits 10 n).all Char.isDigit = true :=
    List.all_eq_true.mpr (Text.forall_mem_toDigits (by decide) (by decide) n)
  simp [Decimal.digits?, hall, Nat.toDigits_ne_nil]

/-- An operand is told by its text. -/
theorem ofText?_text (o : Operand) : ofText? o.text.toList = some o := by
  cases o with
  | register x =>
    have hnone : Decimal.digits? (Operand.register x).text.toList = none :=
      digits?_eq_none (c := 'V') (by simp [text, Instruction.register]) (by decide)
    rw [ofText?, hnone]
    simp [text, Instruction.register, named?, Text.hexValue_upperDigits]
  | byte nn =>
    have hnone : Decimal.digits? (byte nn).text.toList = none :=
      digits?_eq_none (c := 'x') (by simp [text, immediate]) (by decide)
    rw [ofText?, hnone]
    simp [text, immediate, named?, Text.hexValue_hexDigits, length_hexDigits_byte]
  | addr a =>
    have hnone : Decimal.digits? (addr a).text.toList = none :=
      digits?_eq_none (c := 'x') (by simp [text, address]) (by decide)
    rw [ofText?, hnone]
    simp [text, address, named?, Text.hexValue_hexDigits, length_hexDigits_addr]
  | rows n =>
    rw [ofText?, text, Text.toList_decimal, digits?_toDigits]
    simp
  | _ => rfl

end Operand

open Operand

/-! ### Words -/

theorem ofWord?_text (o : Operand) : ofWord? o.text.toList = some o := by
  have hkept : o.text.toList.filter (· != ',') = o.text.toList := by
    refine List.filter_eq_self.mpr fun c hc => ?_
    have hplain := plain_text o c hc
    exact (Bool.and_eq_true_iff.mp hplain).2
  rw [ofWord?, hkept, ofText?_text]

/-- The comma after an operand goes unread. -/
theorem ofWord?_comma (word : List Char) : ofWord? (word ++ [',']) = ofWord? word := by
  simp [ofWord?]

/-- The words that operands are written as are read back. -/
theorem mapM_words (operands : List Operand) : (words operands).mapM ofWord? = some operands := by
  induction operands with
  | nil => rfl
  | cons o rest ih =>
    cases rest with
    | nil => simp [words, ofWord?_text]
    | cons next rest => simp [words, ofWord?_comma, ofWord?_text, ih]

/-- No word has a blank. -/
theorem blank_not_mem_words (operands : List Operand) : ∀ word ∈ words operands, ' ' ∉ word := by
  have htext (o : Operand) : ' ' ∉ o.text.toList := fun h => by
    have := plain_text o ' ' h
    cases this
  induction operands with
  | nil => simp [words]
  | cons o rest ih =>
    cases rest with
    | nil => simpa [words] using htext o
    | cons next rest =>
      intro word hword
      rcases List.mem_cons.mp hword with rfl | hword
      · simp [htext o]
      · exact ih word hword

theorem toList_mnemonic (i : Instruction) :
    i.mnemonic.toList = [' '].intercalate (i.line.1.toList :: words i.line.2) := by
  have hzero : Instruction.register 0 = "V0" := by decide
  cases i <;> simp [mnemonic, line, words, text, List.intercalate, hzero]

/-! ### Lines -/

theorem blank_not_mem_name (i : Instruction) : ' ' ∉ i.line.1.toList := by
  cases i <;> simp [line]

theorem ofLine?_line (i : Instruction) : ofLine? i.line.1 i.line.2 = some i := by
  cases i <;> rfl

/-- The text of an instruction is read back. -/
theorem ofMnemonic?_mnemonic (i : Instruction) : ofMnemonic? i.mnemonic = some i := by
  have hblank : ∀ word ∈ i.line.1.toList :: words i.line.2, ' ' ∉ word :=
    List.forall_mem_cons.mpr ⟨blank_not_mem_name i, blank_not_mem_words i.line.2⟩
  rw [ofMnemonic?, toList_mnemonic, List.splitOn_intercalate ' ' hblank (List.cons_ne_nil _ _)]
  simp [mapM_words, ofLine?_line]

theorem eq_of_mnemonic {i j : Instruction} (h : i.mnemonic = j.mnemonic) : i = j := by
  have hread : some i = some j := by rw [← ofMnemonic?_mnemonic i, h, ofMnemonic?_mnemonic]
  exact Option.some.inj hread

/-- LOSSLESS: no two instructions have the same text, whatever their operands, and of two different
words both have the same text exactly if they are the same shift of the same register. -/
theorem disassembly_lossless :
    Function.Injective mnemonic ∧
    ∀ v w : Word,
      (v ≠ w ∧ ∃ text, (decode v).map mnemonic = some text ∧ (decode w).map mnemonic = some text) ↔
        v ≠ w ∧ v.SameShift w := by
  refine ⟨fun _ _ => eq_of_mnemonic, fun v w => ?_⟩
  constructor
  · rintro ⟨hne, text, hv, hw⟩
    obtain ⟨i, hdv, rfl⟩ := Option.map_eq_some_iff.mp hv
    obtain ⟨j, hdw, htext⟩ := Option.map_eq_some_iff.mp hw
    obtain rfl : j = i := eq_of_mnemonic htext
    exact ⟨hne, (Pattern.eq_or_sameShift hdv hdw).resolve_left hne⟩
  · rintro ⟨hne, hshift⟩
    obtain ⟨i, hdv, hdw⟩ := Pattern.decode_of_sameShift hshift
    exact ⟨hne, i.mnemonic, by rw [hdv]; rfl, by rw [hdw]; rfl⟩

end Instruction

end Chip8
