import Mathlib.Tactic
import Chip8.Fault

/-! The message of a fault is UNAMBIGUOUS: it tells the kind of the fault and all of its payload.

    A message is words with a blank between one and the next (`message_eq`). There is no blank in a
    numeral, however long it is, nor in any other word, so a message cut at its blanks gives these
    words again (`splitOn_message`). And the words tell the fault: those of two kinds differ in one
    that is no numeral, and the numerals are those of the payload (`eq_of_words`). -/

namespace Chip8

namespace Text

theorem blank_not_mem_hexDigits (width n : Nat) : ' ' ∉ hexDigits width n := by
  have hdigits : ∀ c ∈ hexDigits width n, c ≠ ' ' := forall_mem_hexDigits (by decide) width n
  exact fun h => hdigits ' ' h rfl

theorem blank_not_mem_toDigits (n : Nat) : ' ' ∉ Nat.toDigits 10 n := by
  have hdigits : ∀ c ∈ Nat.toDigits 10 n, c ≠ ' ' :=
    forall_mem_toDigits (by decide) (by decide) n
  exact fun h => hdigits ' ' h rfl

end Text

namespace Fault

variable {f g : Fault}

/-- The words of a message. -/
def words : Fault → List String
  | unknownInstruction word pc =>
    ["unknown", "instruction", "0x" ++ Text.hex 4 word.toNat, "at", "pc",
      "0x" ++ Text.hex 3 pc.toNat]
  | stackOverflow pc =>
    ["stack", "overflow:", "CALL", "at", "pc", "0x" ++ Text.hex 3 pc.toNat, "with", "16", "return",
      "addresses", "already", "pushed"]
  | stackUnderflow pc =>
    ["stack", "underflow:", "RET", "at", "pc", "0x" ++ Text.hex 3 pc.toNat, "with", "an", "empty",
      "stack"]
  | addressOutOfRange addr len =>
    ["memory", "access", "of", Text.decimal len, "byte(s)", "at", "0x" ++ Text.hex 4 addr, "is",
      "outside", "the", "4K", "address", "space"]

theorem message_eq (f : Fault) : f.message = " ".intercalate f.words := by
  -- Unfolded before the cases, as equations for the single kinds would be slow to make.
  unfold message
  cases f <;> simp [words, ← String.toList_inj]

theorem words_ne_nil (f : Fault) : f.words ≠ [] := by
  cases f <;> simp [words]

/-- No word has a blank. -/
theorem blank_not_mem_words (f : Fault) : ∀ word ∈ f.words, ' ' ∉ word.toList := by
  cases f <;> simp [words, Text.blank_not_mem_hexDigits, Text.blank_not_mem_toDigits]

/-- A message is cut into its words at the blanks. -/
theorem splitOn_message (f : Fault) :
    f.message.toList.splitOn ' ' = f.words.map String.toList := by
  have hblank : ∀ word ∈ f.words.map String.toList, ' ' ∉ word :=
    List.forall_mem_map.mpr (blank_not_mem_words f)
  have hne : f.words.map String.toList ≠ [] := mt List.map_eq_nil_iff.mp (words_ne_nil f)
  rw [message_eq, String.toList_intercalate]
  exact List.splitOn_intercalate ' ' hblank hne

theorem words_of_message (h : f.message = g.message) : f.words = g.words := by
  have hwords : f.words.map String.toList = g.words.map String.toList := by
    rw [← splitOn_message, h, splitOn_message]
  exact List.map_injective_iff.mpr (fun _ _ => String.toList_injective) hwords

theorem eq_of_words (h : f.words = g.words) : f = g := by
  -- Two kinds differ in a word that is no numeral, so `h` is left to be used for one kind only.
  cases f <;> cases g <;> simp [words, UInt16.toNat_inj] at h
  all_goals simp [h]

/-- UNAMBIGUOUS: no two faults have the same message, whatever their payload, and a load that fails
by a fault tells it by that message. -/
theorem message_unambiguous :
    Function.Injective message ∧ ∀ f : Fault, (LoadError.fault f).message = f.message :=
  ⟨fun _ _ h => eq_of_words (words_of_message h), fun _ => rfl⟩

/-- So it is where the numeral of one address begins with that of the other. -/
example : (addressOutOfRange 0x1000 16).message ≠ (addressOutOfRange 0x10000 16).message := by
  decide

end Fault

end Chip8
