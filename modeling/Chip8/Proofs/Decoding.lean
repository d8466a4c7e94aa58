import Mathlib.Tactic
import Chip8.Instruction.Operands
import Chip8.Instruction.Pattern

/-! Decoding reads the table of patterns.

    `decode` picks an instruction class by class, the table pattern by pattern; `decode_eq_lookup`
    says that they agree on every word. So a word is unknown exactly if it fits no pattern, and the
    operands of a known one are as wide as the places they come from. -/

namespace Chip8

namespace Pattern

/-! ### Fields and digits -/

theorem n_eq_iff {w : Word} {b : UInt8} : w.n = b ↔ w.toNat % 16 = b.toNat := by
  rw [← UInt8.toNat_inj, Word.toNat_n]

/-- The last two digits are the last byte. -/
theorem digits_iff_nn {w : Word} {a b : Nat} (ha : a < 16) (hb : b < 16) :
    w.toNat / 16 % 16 = a ∧ w.toNat % 16 = b ↔ w.nn = UInt8.ofNat (16 * a + b) := by
  rw [← UInt8.toNat_inj, Word.toNat_nn, UInt8.toNat_ofNat']
  omega

/-- A word is its four digits. -/
theorem eq_iff_digits {v w : Word} :
    w = v ↔ w.toNat / 4096 = v.toNat / 4096 ∧ w.toNat / 256 % 16 = v.toNat / 256 % 16 ∧
      w.toNat / 16 % 16 = v.toNat / 16 % 16 ∧ w.toNat % 16 = v.toNat % 16 := by
  rw [← UInt16.toNat_inj]
  omega

/-! ### The table -/

/-- What each character of the patterns asks for. The equation that `value?` has for the letters must
tell them from every digit first, these need not. -/
theorem value?_eq :
    (value? '0' = some 0 ∧ value? '1' = some 1 ∧ value? '2' = some 2 ∧ value? '3' = some 3 ∧
      value? '4' = some 4 ∧ value? '5' = some 5 ∧ value? '6' = some 6 ∧ value? '7' = some 7 ∧
      value? '8' = some 8 ∧ value? '9' = some 9 ∧ value? 'A' = some 10 ∧ value? 'B' = some 11 ∧
      value? 'C' = some 12 ∧ value? 'D' = some 13 ∧ value? 'E' = some 14 ∧ value? 'F' = some 15) ∧
      value? 'X' = none ∧ value? 'Y' = none ∧ value? 'N' = none := by
  decide

theorem decode_eq_lookup (w : Word) : Instruction.decode w = lookup table w := by
  have hg := w.toNat_group
  simp [lookup, table, fits, digits, places, value?_eq, ← hg]
  rw [Instruction.decode]
  -- the classes 0, 8, E and F are told apart further; in the others the first digit decides
  split
  case h_1 h =>
    have h0 : w.toNat / 4096 = 0 := by rw [← hg, h]; rfl
    simp [h, eq_iff_digits, h0]
  case h_9 h =>
    simp [h]
    rw [Instruction.decodeArithmetic]
    split <;> simp_all [n_eq_iff]
  case h_15 h =>
    simp [h, digits_iff_nn]
    rw [Instruction.decodeKey]
    split <;> simp_all
  case h_16 =>
    have hF : w.group = 15 := by
      have := w.toNat_lt
      simp only [← UInt8.toNat_inj, UInt8.reduceToNat, imp_false] at *
      omega
    simp [hF, digits_iff_nn]
    rw [Instruction.decodeMisc]
    split <;> simp_all
  all_goals
    rename_i h
    simp [h, n_eq_iff]

theorem lookup_eq_none_iff (entries : List (String × (Word → Instruction))) (w : Word) :
    lookup entries w = none ↔ (entries.any fun entry => fits entry.1 w) = false := by
  induction entries with
  | nil => simp [lookup]
  | cons entry rest ih =>
    rw [lookup, List.any_cons]
    by_cases h : fits entry.1 w = true
    · simp [h]
    · simp [h, ih]

/-- A word is unknown exactly if it fits no pattern. -/
theorem decode_eq_none_iff (w : Word) : Instruction.decode w = none ↔ documented w = false := by
  rw [decode_eq_lookup, lookup_eq_none_iff, documented]

theorem mem_of_lookup {entries : List (String × (Word → Instruction))} {w : Word}
    {i : Instruction} (h : lookup entries w = some i) :
    ∃ entry ∈ entries, fits entry.1 w = true ∧ i = entry.2 w := by
  induction entries with
  | nil => simp [lookup] at h
  | cons entry rest ih =>
    rw [lookup] at h
    by_cases hf : fits entry.1 w = true
    · rw [if_pos hf, Option.some.injEq] at h
      exact ⟨entry, List.mem_cons_self .., hf, h.symm⟩
    · rw [if_neg hf] at h
      obtain ⟨e, he, hfit, rfl⟩ := ih h
      exact ⟨e, List.mem_cons_of_mem _ he, hfit, rfl⟩

/-- A known word fits the pattern beside its instruction. -/
theorem mem_table_of_decode {w : Word} {i : Instruction} (h : Instruction.decode w = some i) :
    ∃ entry ∈ table, fits entry.1 w = true ∧ i = entry.2 w :=
  mem_of_lookup ((decode_eq_lookup w).symm.trans h)

/-- The fields of a word make narrow operands. -/
theorem narrow_of_mem_table {entry : String × (Word → Instruction)} (h : entry ∈ table)
    (w : Word) : (entry.2 w).Narrow := by
  have hx : w.x.toNat < 16 := by rw [Word.toNat_x]; omega
  have hy : w.y.toNat < 16 := by rw [Word.toNat_y]; omega
  have ha : w.nnn.toNat < 4096 := by rw [Word.toNat_nnn]; omega
  fin_cases h <;> constructor <;> simp [Instruction.registers, Instruction.address?, hx, hy, ha]

/-- A decoded instruction has narrow operands. -/
theorem narrow_of_decode {w : Word} {i : Instruction} (h : Instruction.decode w = some i) :
    i.Narrow := by
  obtain ⟨entry, hmem, -, rfl⟩ := mem_table_of_decode h
  exact narrow_of_mem_table hmem w

/-- The address of a decoded instruction is the last three digits of its word. -/
theorem address_of_decode {w : Word} {i : Instruction} {addr : UInt16}
    (h : Instruction.decode w = some i) (ha : i.address? = some addr) : addr = w.nnn := by
  obtain ⟨entry, hmem, -, rfl⟩ := mem_table_of_decode h
  fin_cases hmem <;> simp_all [Instruction.address?]

/-! ### One pattern for a word -/

variable {w : Word} {i : Instruction}

/-- Of two patterns that clash at a place that a word has, the word fits at most one. -/
theorem not_fits_of_clash {pattern other : String} (hlen : (places pattern).length ≤ 4)
    (hc : clash pattern other = true) (hf : fits pattern w = true) : fits other w = false := by
  have hlists (ps qs : List (Option Nat)) (ds : List Nat) (hlen : ps.length ≤ ds.length)
      (hc : (List.zipWith (fun p q => p.any fun a => q.any (· != a)) ps qs).any id = true)
      (hf : (List.zipWith (fun place d => place.all (d == ·)) ps ds).all id = true) :
      (List.zipWith (fun place d => place.all (d == ·)) qs ds).all id = false := by
    induction ps generalizing qs ds with
    | nil => simp at hc
    | cons p ps ih =>
      cases qs with
      | nil => simp at hc
      | cons q qs =>
        cases ds with
        | nil => simp at hlen
        | cons d ds =>
          simp only [List.zipWith_cons_cons, List.any_cons, List.all_cons, Bool.or_eq_true,
            Bool.and_eq_true, Bool.and_eq_false_iff, id] at hc hf ⊢
          rcases hc with hc | hc
          · left
            cases p <;> cases q <;> simp_all
            exact Ne.symm hc
          · exact .inr (ih qs ds (by simpa using hlen) hc hf.2)
  exact hlists _ _ (digits w) hlen hc hf

/-- Patterns of the table clash, but for the two that are cases of `0NNN`. -/
theorem clash_of_ne : ∀ entry ∈ table, ∀ other ∈ table, other.1 ≠ "0NNN" → entry.1 ≠ other.1 →
    (places entry.1).length ≤ 4 ∧
      (clash entry.1 other.1 = true ∨
        entry.1 = "0NNN" ∧ (other.1 = "00E0" ∨ other.1 = "00EE")) := by
  decide

theorem pattern_of_mem_table {entry : String × (Word → Instruction)} (h : entry ∈ table)
    (w : Word) : (entry.2 w).pattern = entry.1 := by
  fin_cases h <;> rfl

/-- The words of `00E0` and `00EE` are instructions of their own. -/
theorem pattern_of_fits (h : Instruction.decode w = some i)
    (hf : fits "00E0" w = true ∨ fits "00EE" w = true) : i.pattern ≠ "0NNN" := by
  rw [decode_eq_lookup, table, lookup, lookup] at h
  by_cases h0 : fits "00E0" w = true
  · rw [if_pos h0] at h
    obtain rfl := Option.some.inj h
    decide
  · rw [if_neg h0, if_pos (hf.resolve_left h0)] at h
    obtain rfl := Option.some.inj h
    decide

/-- A known word fits the pattern of its instruction and no other, except that `0NNN` asks for less
than the patterns that are its cases. -/
theorem fits_of_decode (h : Instruction.decode w = some i) {pattern : String}
    (hp : pattern ∈ strict) : fits pattern w = (i.pattern == pattern) := by
  obtain ⟨hmap, h0⟩ := List.mem_filter.mp hp
  obtain ⟨entry, he, rfl⟩ := List.mem_map.mp hmap
  obtain ⟨own, hmem, hfit, rfl⟩ := mem_table_of_decode h
  rw [pattern_of_mem_table hmem]
  by_cases heq : own.1 = entry.1
  · rw [← heq, hfit, beq_self_eq_true]
  · rw [beq_eq_false_iff_ne.mpr heq]
    obtain ⟨hlen, hclash | ⟨hown, hcase⟩⟩ := clash_of_ne own hmem entry he (by simpa using h0) heq
    · exact not_fits_of_clash hlen hclash hfit
    · by_contra hne
      refine pattern_of_fits h ?_ ((pattern_of_mem_table hmem w).trans hown)
      rw [Bool.not_eq_false] at hne
      rcases hcase with hcase | hcase <;> rw [hcase] at hne
      · exact .inl hne
      · exact .inr hne

theorem among_of_decode (h : Instruction.decode w = some i) {patterns : List String}
    (hp : ∀ pattern ∈ patterns, pattern ∈ strict) :
    among patterns w = patterns.contains i.pattern := by
  induction patterns with
  | nil => rfl
  | cons pattern rest ih =>
    obtain ⟨hpattern, hrest⟩ := List.forall_mem_cons.mp hp
    rw [among, List.any_cons, fits_of_decode h hpattern, List.contains_cons]
    exact congrArg _ (ih hrest)

/-- A word that fits a pattern other than `0NNN` stands for the instruction beside it. -/
theorem decode_of_fits {entry : String × (Word → Instruction)} (hmem : entry ∈ table)
    (hne : entry.1 ≠ "0NNN") (hf : fits entry.1 w = true) :
    Instruction.decode w = some (entry.2 w) := by
  cases hd : Instruction.decode w with
  | none =>
    have hunknown := (decode_eq_none_iff w).mp hd
    rw [documented, List.any_eq_false] at hunknown
    exact absurd hf (hunknown entry hmem)
  | some i =>
    have hstrict : entry.1 ∈ strict :=
      List.mem_filter.mpr ⟨List.mem_map_of_mem hmem, by simpa using hne⟩
    obtain ⟨own, hown, -, rfl⟩ := mem_table_of_decode hd
    rw [fits_of_decode hd hstrict, pattern_of_mem_table hown, beq_iff_eq] at hf
    have hnodup : (table.map (·.1)).Nodup := by decide
    rw [List.inj_on_of_nodup_map hnodup hown hmem hf]

end Pattern

end Chip8
