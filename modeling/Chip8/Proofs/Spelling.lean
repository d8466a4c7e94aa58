import Mathlib.Tactic
import Chip8.Instruction.Spelling
import Chip8.Proofs.Decoding

/-! Decoding INVERTS spelling.

    The form of each row of the table takes the operands from the fields of the row's pattern
    (`operands_of_mem_table`), and an instruction with its operands in these fields is that form of
    the word (`form_of_spelledBy`). So a word is decoded to the instruction that it spells and to no
    other. The instructions that are spelled are those whose operands fit, as `encode` shows. A word
    is told by its pattern and the numbers in its fields (`eq_of_numbers`), and these are the
    operands but for the one that a shift leaves free; so no two words spell the same instruction,
    but for shifts (`eq_or_sameShift`). -/

namespace Chip8

namespace Word

/-- The last two digits make the byte. -/
theorem toNat_nn_eq (w : Word) : w.nn.toNat = 16 * w.y.toNat + w.n.toNat := by
  rw [toNat_nn, toNat_y, toNat_n]
  omega

/-- The last three digits make the address. -/
theorem toNat_nnn_eq (w : Word) : w.nnn.toNat = 16 * (16 * w.x.toNat + w.y.toNat) + w.n.toNat := by
  rw [toNat_nnn, toNat_x, toNat_y, toNat_n]
  omega

end Word

namespace Pattern

variable {v w : Word} {i : Instruction}

/-! ### The fields of a word -/

/-- The digits of a word, the last three by the names of their fields. -/
theorem digits_eq (w : Word) :
    digits w = [w.toNat / 4096, w.x.toNat, w.y.toNat, w.n.toNat] := by
  rw [digits, Word.toNat_x, Word.toNat_y, Word.toNat_n]

/-- The operands of a decoded instruction are what the fields of its word hold. -/
theorem operands_of_mem_table {entry : String × (Word → Instruction)} (h : entry ∈ table)
    (w : Word) : (entry.2 w).operands <+: numbers entry.1 w := by
  fin_cases h <;>
    simp [Instruction.operands, numbers, letters, List.eraseDups_cons, numberAt, digits_eq,
      value?_eq, Word.toNat_nn_eq, Word.toNat_nnn_eq]

/-- An instruction with its operands in the fields of a word is the one that its row of the table
makes of the word. -/
theorem form_of_spelledBy (h : i.SpelledBy w) :
    ∃ form, table.lookup i.pattern = some form ∧ i = form w := by
  have hfields := h.operands
  cases i <;>
    simp [Instruction.pattern, Instruction.operands, numbers, letters, List.eraseDups_cons,
      numberAt, digits_eq, value?_eq, ← Word.toNat_nn_eq, ← Word.toNat_nnn_eq, UInt8.toNat_inj,
      UInt16.toNat_inj] at hfields
  all_goals
    refine ⟨_, rfl, ?_⟩
    simp [hfields]

theorem mem_table_of_lookup {pattern : String} {form : Word → Instruction}
    (h : table.lookup pattern = some form) : (pattern, form) ∈ table := by
  obtain ⟨before, rest, htable, -⟩ := List.lookup_eq_some_iff.mp h
  rw [htable]
  exact List.mem_append_right _ (List.mem_cons_self ..)

/-! ### Decoding -/

theorem fits_00E0_iff : fits "00E0" w = true ↔ w = 0x00e0 := by
  simp [fits, places, value?_eq, digits, eq_iff_digits]

theorem fits_00EE_iff : fits "00EE" w = true ↔ w = 0x00ee := by
  simp [fits, places, value?_eq, digits, eq_iff_digits]

/-- A word that fits `0NNN` and is not an instruction of its own stands for a call of native code. -/
theorem decode_of_fits_0NNN (h : fits "0NNN" w = true) (h0 : w ≠ 0x00e0) (hE : w ≠ 0x00ee) :
    Instruction.decode w = some (.sys w.nnn) := by
  rw [decode_eq_lookup, table, lookup, if_neg (mt fits_00E0_iff.mp h0), lookup,
    if_neg (mt fits_00EE_iff.mp hE), lookup, if_pos h]

/-- A decoded word spells its instruction. -/
theorem spelledBy_of_decode (h : Instruction.decode w = some i) : i.SpelledBy w := by
  obtain ⟨entry, hmem, hfit, hform⟩ := mem_table_of_decode h
  have hpattern : i.pattern = entry.1 := hform ▸ pattern_of_mem_table hmem w
  refine ⟨hpattern ▸ hfit, ?_, fun h0 => ?_⟩
  · rw [hpattern, hform]
    exact operands_of_mem_table hmem w
  · constructor
    · exact fun hw => pattern_of_fits h (.inl (fits_00E0_iff.mpr hw)) h0
    · exact fun hw => pattern_of_fits h (.inr (fits_00EE_iff.mpr hw)) h0

/-- A word is decoded to the instruction that it spells. -/
theorem decode_of_spelledBy (h : i.SpelledBy w) : Instruction.decode w = some i := by
  obtain ⟨form, hlookup, rfl⟩ := form_of_spelledBy h
  have hfits := h.fits
  have hother := h.other
  generalize (form w).pattern = pattern at *
  by_cases h0 : pattern = "0NNN"
  · subst h0
    obtain ⟨h00, hEE⟩ := hother rfl
    obtain rfl : (fun w => .sys w.nnn) = form := Option.some.inj hlookup
    exact decode_of_fits_0NNN hfits h00 hEE
  · exact decode_of_fits (mem_table_of_lookup hlookup) h0 hfits

theorem decode_eq_some_iff : Instruction.decode w = some i ↔ i.SpelledBy w :=
  ⟨spelledBy_of_decode, decode_of_spelledBy⟩

/-! ### Which instructions are spelled -/

/-- The fields of an encoded instruction hold its operands. -/
theorem fields_encode (h : i.Encodable) :
    fits i.pattern i.encode = true ∧ i.operands <+: numbers i.pattern i.encode := by
  have hregister := h.narrow.register_lt
  cases i
  case' sys a | jump a | call a | setIndex a | jumpOffset a =>
    have ha : a.toNat < 4096 := h.narrow.address_lt a rfl
  case' skipEqImm x nn | skipNeImm x nn | loadImm x nn | addImm x nn | random x nn =>
    have hnn : nn.toNat < 256 := nn.toNat_lt
  case' draw x y n =>
    have hn : n.toNat < 16 := h.rows_lt n rfl
  all_goals
    simp [Instruction.registers] at hregister
    simp [Instruction.encode, Instruction.pattern, Instruction.operands, base, places, letters,
      List.eraseDups_cons, digits, value?_eq, unit, fits, numbers, numberAt, -Nat.div_eq_zero_iff]
      <;> omega

theorem spelledBy_encode (h : i.Encodable) : i.SpelledBy i.encode := by
  obtain ⟨hfits, hoperands⟩ := fields_encode h
  refine ⟨hfits, hoperands, fun h0 => ?_⟩
  obtain ⟨a, rfl⟩ : ∃ a, i = .sys a := by
    cases i <;> simp [Instruction.pattern] at h0
    exact ⟨_, rfl⟩
  have ha : a.toNat < 4096 := h.narrow.address_lt a rfl
  obtain ⟨h00, hEE⟩ := h.other
  have hword : (Instruction.sys a).encode = a := by
    simp [Instruction.encode, Instruction.pattern, Instruction.operands, base, places, letters,
      List.eraseDups_cons, value?_eq, unit]
  rw [hword]
  exact ⟨fun he => h00 (he ▸ rfl), fun he => hEE (he ▸ rfl)⟩

/-- A call of native code is its address. -/
theorem word_of_decode_sys {a : UInt16} (h : Instruction.decode w = some (.sys a)) : w = a := by
  obtain rfl : a = w.nnn := address_of_decode h rfl
  have hgroup : w.toNat / 4096 = 0 := by
    simpa [fits, places, value?_eq, digits, Instruction.pattern] using (spelledBy_of_decode h).fits
  rw [← UInt16.toNat_inj, Word.toNat_nnn]
  omega

/-- The fields of a word hold operands that fit them. -/
theorem encodable_of_decode (h : Instruction.decode w = some i) : i.Encodable := by
  refine ⟨narrow_of_decode h, ?_, ?_⟩
  · obtain ⟨entry, hmem, -, rfl⟩ := mem_table_of_decode h
    have hn : w.n.toNat < 16 := by rw [Word.toNat_n]; omega
    fin_cases hmem <;> simp [Instruction.rows?, hn]
  · have hother := (spelledBy_of_decode h).other
    constructor
    · rintro rfl
      exact (hother rfl).1 (word_of_decode_sys h)
    · rintro rfl
      exact (hother rfl).2 (word_of_decode_sys h)

/-- The instructions that are decoded from a word are those that can be encoded. -/
theorem exists_decode_iff : (∃ w, Instruction.decode w = some i) ↔ i.Encodable :=
  ⟨fun ⟨_, h⟩ => encodable_of_decode h, fun h => ⟨_, decode_of_spelledBy (spelledBy_encode h)⟩⟩

/-! ### Words for one instruction -/

/-- Numbers that are read from digits at the same places are equal only if the digits there are. -/
theorem digits_of_foldl {letter : Char} {cs : List Char} {ds es : List Nat} {n m : Nat}
    (hds : ds.length = cs.length) (hes : es.length = cs.length) (hd : ∀ d ∈ ds, d < 16)
    (he : ∀ e ∈ es, e < 16)
    (h : (cs.zip ds).foldl (fun n (c, d) => if c = letter then 16 * n + d else n) n =
      (cs.zip es).foldl (fun n (c, d) => if c = letter then 16 * n + d else n) m) :
    n = m ∧ ∀ k : Nat, cs[k]? = some letter → ds[k]? = es[k]? := by
  induction cs generalizing ds es n m with
  | nil => simpa using h
  | cons c cs ih =>
    obtain ⟨d, ds, rfl⟩ := List.exists_cons_of_length_eq_add_one hds
    obtain ⟨e, es, rfl⟩ := List.exists_cons_of_length_eq_add_one hes
    obtain ⟨hd, hds'⟩ := List.forall_mem_cons.mp hd
    obtain ⟨he, hes'⟩ := List.forall_mem_cons.mp he
    obtain ⟨hstart, hrest⟩ := ih (Nat.succ.inj hds) (Nat.succ.inj hes) hds' hes' h
    by_cases hc : c = letter
    · simp only [if_pos hc] at hstart
      obtain ⟨rfl, rfl⟩ : n = m ∧ d = e := by omega
      refine ⟨rfl, fun k hk => ?_⟩
      cases k with
      | zero => rfl
      | succ k => exact hrest k hk
    · simp only [if_neg hc] at hstart
      refine ⟨hstart, fun k hk => ?_⟩
      cases k with
      | zero => exact absurd (Option.some.inj hk) hc
      | succ k => exact hrest k hk

theorem digit_lt (w : Word) : ∀ d ∈ digits w, d < 16 := by
  have hw := w.toNat_lt
  simp only [digits, List.forall_mem_cons, List.not_mem_nil, false_implies, implies_true, and_true]
  omega

/-- A place that asks for a digit has it in a word that fits. -/
theorem digit_of_fits {pattern : String} {c : Char} {k a : Nat} (h : fits pattern w = true)
    (hk : k < 4) (hc : pattern.toList[k]? = some c) (ha : value? c = some a) :
    (digits w)[k]? = some a := by
  obtain ⟨d, hd⟩ : ∃ d, (digits w)[k]? = some d := ⟨_, List.getElem?_eq_getElem hk⟩
  have hmem : (some a).all (d == ·) ∈
      List.zipWith (fun place d => place.all (d == ·)) (places pattern) (digits w) := by
    refine List.mem_of_getElem? (i := k) ?_
    simp [List.getElem?_zipWith, places, hc, ha, hd]
  have hda : d = a := by simpa using List.all_eq_true.mp h _ hmem
  rw [hd, hda]

/-- A word that fits a pattern is told from others by the numbers in its fields. -/
theorem eq_of_numbers {pattern : String} (hlen : pattern.toList.length = 4)
    (hv : fits pattern v = true) (hw : fits pattern w = true)
    (h : numbers pattern v = numbers pattern w) : v = w := by
  have hlength (w : Word) : (digits w).length = pattern.toList.length := hlen.symm
  have hdigits : digits v = digits w := by
    refine List.ext_getElem? fun k => ?_
    by_cases hk : k < 4
    · obtain ⟨c, hc⟩ : ∃ c, pattern.toList[k]? = some c :=
        ⟨_, List.getElem?_eq_getElem (hlen.symm ▸ hk)⟩
      cases ha : value? c with
      | some a => rw [digit_of_fits hv hk hc ha, digit_of_fits hw hk hc ha]
      | none =>
        have hletter : c ∈ letters pattern := by
          simp [letters, List.mem_of_getElem? hc, ha]
        have hnumber := List.map_inj_left.mp h c hletter
        exact (digits_of_foldl (hlength v) (hlength w) (digit_lt v) (digit_lt w) hnumber).2 k hc
    · have hnone (w : Word) : (digits w)[k]? = none := List.getElem?_eq_none (Nat.not_lt.mp hk)
      rw [hnone, hnone]
  simpa [digits, eq_iff_digits] using hdigits

theorem length_pattern (i : Instruction) : i.pattern.toList.length = 4 := by
  cases i <;> simp [Instruction.pattern]

theorem length_operands (h6 : i.pattern ≠ "8XY6") (hE : i.pattern ≠ "8XYE") (w : Word) :
    i.operands.length = (numbers i.pattern w).length := by
  cases i
  case shiftRight => exact absurd rfl h6
  case shiftLeft => exact absurd rfl hE
  all_goals
    simp [Instruction.operands, Instruction.pattern, numbers, letters, value?_eq,
      List.eraseDups_cons]

theorem decode_of_fits_8XY6 (h : fits "8XY6" w = true) :
    Instruction.decode w = some (.shiftRight w.x) := by
  have hmem : ("8XY6", fun w => .shiftRight w.x) ∈ table := by simp [table]
  exact decode_of_fits hmem (by decide) h

theorem decode_of_fits_8XYE (h : fits "8XYE" w = true) :
    Instruction.decode w = some (.shiftLeft w.x) := by
  have hmem : ("8XYE", fun w => .shiftLeft w.x) ∈ table := by simp [table]
  exact decode_of_fits hmem (by decide) h

/-- Two words that stand for the same instruction are equal or the same shift. -/
theorem eq_or_sameShift (hv : Instruction.decode v = some i) (hw : Instruction.decode w = some i) :
    v = w ∨ v.SameShift w := by
  have hspelledv := spelledBy_of_decode hv
  have hspelledw := spelledBy_of_decode hw
  have hfitv := hspelledv.fits
  have hfitw := hspelledw.fits
  by_cases h6 : i.pattern = "8XY6"
  · rw [h6] at hfitv hfitw
    rw [decode_of_fits_8XY6 hfitv] at hv
    rw [decode_of_fits_8XY6 hfitw, ← hv] at hw
    exact .inr ⟨.inl ⟨hfitv, hfitw⟩, (Instruction.shiftRight.inj (Option.some.inj hw)).symm⟩
  by_cases hE : i.pattern = "8XYE"
  · rw [hE] at hfitv hfitw
    rw [decode_of_fits_8XYE hfitv] at hv
    rw [decode_of_fits_8XYE hfitw, ← hv] at hw
    exact .inr ⟨.inr ⟨hfitv, hfitw⟩, (Instruction.shiftLeft.inj (Option.some.inj hw)).symm⟩
  have hnumbers {w : Word} (h : i.SpelledBy w) : i.operands = numbers i.pattern w :=
    h.operands.eq_of_length (length_operands h6 hE w)
  refine .inl (eq_of_numbers (length_pattern i) hfitv hfitw ?_)
  rw [← hnumbers hspelledv, hnumbers hspelledw]

/-- Both words for one shift of a register are known, and stand for it. -/
theorem decode_of_sameShift (h : v.SameShift w) :
    ∃ i, Instruction.decode v = some i ∧ Instruction.decode w = some i := by
  obtain ⟨⟨hv, hw⟩ | ⟨hv, hw⟩, hx⟩ := h
  · exact ⟨_, decode_of_fits_8XY6 hv, hx ▸ decode_of_fits_8XY6 hw⟩
  · exact ⟨_, decode_of_fits_8XYE hv, hx ▸ decode_of_fits_8XYE hw⟩

/-- EXACT: a word is decoded to an instruction exactly if it spells it. The instructions that are
decoded from some word are those with operands that fit their fields, but for the two calls of native
code whose words are other instructions. And of two different words both stand for the same
instruction exactly if they are the same shift of the same register. -/
theorem decode_exact :
    (∀ w i, Instruction.decode w = some i ↔ i.SpelledBy w) ∧
    (∀ i : Instruction, (∃ w, Instruction.decode w = some i) ↔ i.Encodable) ∧
    ∀ v w : Word, (v ≠ w ∧ ∃ i, Instruction.decode v = some i ∧ Instruction.decode w = some i) ↔
      v ≠ w ∧ v.SameShift w := by
  refine ⟨fun w i => decode_eq_some_iff, fun i => exists_decode_iff, fun v w => ?_⟩
  constructor
  · rintro ⟨hne, i, hv, hw⟩
    exact ⟨hne, (eq_or_sameShift hv hw).resolve_left hne⟩
  · rintro ⟨hne, hshift⟩
    exact ⟨hne, decode_of_sameShift hshift⟩

/-- A draw of no rows is spelled, a shift with any digit at `Y`, and nothing names a register 16. -/
example : (Instruction.draw 7 11 0).SpelledBy 0xd7b0 ∧ (Instruction.shiftLeft 14).SpelledBy 0x8e5e ∧
    ¬ (Instruction.shiftLeft 16).SpelledBy 0x80ee := by
  decide

end Pattern

end Chip8
