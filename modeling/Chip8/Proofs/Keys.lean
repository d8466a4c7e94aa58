import Mathlib.Tactic
import Chip8.Console.Plain
import Chip8.Proofs.Alike
import Chip8.Proofs.Footprint
import Chip8.Proofs.Loop

/-! A machine goes by the KEYS that it reads, and by no others.

    `keysRead` says of which keys the next cycle asks whether they are down. Two machines that differ
    only in their keypads, and there only in keys that are not read, go through the cycle alike
    (`cycle_keyed`), and then differ only in their keypads again; so they stay alike for as long as
    their keypads agree on what is read. -/

namespace Chip8

theorem nibble_and (b : UInt8) : nibble (b &&& 0xf) = nibble b := by
  have h : b.toNat &&& 15 = b.toNat % 16 := Nat.and_two_pow_sub_one_eq_mod b.toNat 4
  rw [Fin.ext_iff]
  simp [nibble, h]

namespace Keypad

/-- A key is named by the low four bits of a byte. -/
theorem isDown_and (k : Keypad) (key : UInt8) : k.isDown (key &&& 0xf) = k.isDown key := by
  simp only [isDown, Bank.entry, nibble_and]

theorem firstDown_congr {k k' : Keypad} (h : ∀ key ∈ scanned, k'.isDown key = k.isDown key) :
    k'.firstDown = k.firstDown :=
  List.find?_congr h

end Keypad

namespace Machine

open Pattern (among fits table)

variable {m m' : Machine} {i : Instruction} {w : Word} {keypad : Keypad} {plan plan' : Plan}

/-! ### One cycle -/

/-- The machine with another keypad. -/
def keyed (keypad : Keypad) (m : Machine) : Machine := { m with keypad }

theorem aside_keyed (keypad : Keypad) : Aside (keyed keypad) where
  memory _ := rfl
  pc _ := rfl
  fault _ := rfl
  obstacle _ i := by cases i <;> rfl
  fetched _ := rfl
  tick _ := rfl
  stopped _ _ := rfl

theorem skipIf_keyed (m : Machine) (keypad : Keypad) (condition : Bool) :
    (m.keyed keypad).skipIf condition = (m.skipIf condition).keyed keypad := by
  cases condition <;> rfl

/-- The keys that an instruction looks at. -/
def keysOf (m : Machine) : Instruction → List UInt8
  | .skipKeyDown x | .skipKeyUp x => [m.reg x]
  | .waitKey _ => Keypad.scanned
  | _ => []

theorem keysOf_fetched (m : Machine) (i : Instruction) : m.fetched.keysOf i = m.keysOf i := by
  cases i <;> rfl

/-- An instruction has the same effect whatever the keys are that it does not look at. -/
theorem effect_keyed (h : ∀ key ∈ m.keysOf i, keypad.isDown key = m.keypad.isDown key) :
    (m.keyed keypad).effect i = (m.effect i).keyed keypad := by
  cases i
  case skipKeyDown x =>
    have hkey : keypad.isDown (m.reg x) = m.keypad.isDown (m.reg x) := h _ (by simp [keysOf])
    show (m.keyed keypad).skipIf (keypad.isDown (m.reg x)) = _
    rw [hkey]
    exact skipIf_keyed m keypad _
  case skipKeyUp x =>
    have hkey : keypad.isDown (m.reg x) = m.keypad.isDown (m.reg x) := h _ (by simp [keysOf])
    show (m.keyed keypad).skipIf (!keypad.isDown (m.reg x)) = _
    rw [hkey]
    exact skipIf_keyed m keypad _
  case waitKey x =>
    have hfirst : keypad.firstDown = m.keypad.firstDown := Keypad.firstDown_congr h
    simp only [effect, execute, keyed, hfirst]
    cases m.keypad.firstDown <;> rfl
  -- no other instruction looks at the keypad
  all_goals simp only [effect, execute, succeed, skipIf_keyed] <;> rfl

/-- A word looks at the keys that its instruction does. -/
theorem keysOf_of_decode (m : Machine) (hd : Instruction.decode w = some i) :
    m.keysOf i = if among ["EX9E", "EXA1"] w then [m.reg w.x]
      else if fits "FX0A" w then Keypad.scanned else [] := by
  simp (disch := decide) only [Pattern.fits_of_decode hd, Pattern.among_of_decode hd]
  obtain ⟨entry, hmem, -, rfl⟩ := Pattern.mem_table_of_decode hd
  fin_cases hmem <;> rfl

/-- Keypads that agree on what the next cycle looks at agree on what its instruction does. -/
theorem agree_of_decode (hm : m.fault = none) (hd : Instruction.decode m.nextWord = some i)
    (h : ∀ key ∈ m.keysRead, keypad.isDown key = m.keypad.isDown key) :
    ∀ key ∈ m.keysOf i, keypad.isDown key = m.keypad.isDown key := by
  rw [keysRead, if_neg (by simp [hm]), ← Keypad.scanned_eq] at h
  rw [keysOf_of_decode m hd]
  by_cases hskip : among ["EX9E", "EXA1"] m.nextWord = true
  · rw [if_pos hskip] at h ⊢
    simpa [Keypad.isDown_and] using h
  · rw [if_neg hskip] at h ⊢
    exact h

/-- A cycle goes alike whatever the keys are that it does not look at. -/
theorem cycle_keyed (h : ∀ key ∈ m.keysRead, keypad.isDown key = m.keypad.isDown key) :
    (m.keyed keypad).cycle = m.cycle.changed (keyed keypad) := by
  refine cycle_changed (aside_keyed keypad) fun w i hm hw hd => effect_keyed ?_
  rw [keysOf_fetched]
  rw [← nextWord_of_word hw] at hd
  exact agree_of_decode hm hd h

theorem decode_wait (hw : fits "FX0A" w = true) : Instruction.decode w = some (.waitKey w.x) :=
  Pattern.decode_of_fits
    (by simp [table] : ("FX0A", fun w : Word => Instruction.waitKey w.x) ∈ table) (by decide) hw

/-- A wait for a key does not look at the last one. -/
theorem keysRead_wait (hw : fits "FX0A" m.nextWord = true) {key : UInt8} (h : key ∈ m.keysRead) :
    nibble key ≠ nibble 0xf := by
  have hd := decode_wait hw
  have hskip : ¬ among ["EX9E", "EXA1"] m.nextWord = true := by
    simp (disch := decide) [Pattern.among_of_decode hd, Instruction.pattern]
  have hlower : ∀ n < 15, nibble (.ofNat n) ≠ nibble 0xf := by decide
  rw [keysRead, if_neg hskip, if_pos hw] at h
  split at h
  · cases h
  · obtain ⟨n, hn, rfl⟩ := List.mem_map.mp h
    exact hlower n (List.mem_range.mp hn)

/-! ### Many cycles -/

/-- Where two machines differ in nothing but their keypads, and their plans agree on the keys that
are read, the next cycle goes alike. -/
theorem cycle_pressed {k : Nat}
    (hm : m'.driven plan' k = (m.driven plan k).keyed (m'.driven plan' k).keypad)
    (h : ∀ key ∈ (m.driven plan k).keysRead, (plan' k).2.isDown key = (plan k).2.isDown key) :
    ((m'.driven plan' k).pressed plan' k).cycle =
      ((m.driven plan k).pressed plan k).cycle.changed (keyed (plan' k).2) := by
  have hpressed : (m'.driven plan' k).pressed plan' k =
      ((m.driven plan k).pressed plan k).keyed (plan' k).2 := by
    rw [hm]
    rfl
  rw [hpressed]
  exact cycle_keyed h

/-- So machines whose plans always agree on the keys that are read stay the same but for their
keypads. -/
theorem driven_keyed {n : Nat} (hm : m' = m.keyed m'.keypad)
    (h : ∀ k < n, ∀ key ∈ (m.driven plan k).keysRead,
      (plan' k).2.isDown key = (plan k).2.isDown key) :
    m'.driven plan' n = (m.driven plan n).keyed (m'.driven plan' n).keypad := by
  induction n with
  | zero => exact hm
  | succ n ih =>
    have hn := ih fun k hk => h k (Nat.lt_succ_of_lt hk)
    rw [driven, driven, cycle_pressed hn (h n (Nat.lt_succ_self n))]
    rfl

/-- UNREAD: two machines that differ in nothing but their keypads, each with a keypad of its own
before every cycle, give the same results and stay the same but for their keypads, for as long as
the keypads agree on the keys that the cycles look at. A wait for a key does not look at the last
key, and no cycle changes a keypad. -/
theorem keys_unread (m m' : Machine) (plan plan' : Plan) (n : Nat)
    (hm : m' = { m with keypad := m'.keypad })
    (h : ∀ k < n, ∀ key ∈ (m.driven plan k).keysRead,
      (plan' k).2.isDown key = (plan k).2.isDown key) :
    (∀ k < n,
      let o := ((m.driven plan k).pressed plan k).cycle
      let o' := ((m'.driven plan' k).pressed plan' k).cycle
      o'.result = o.result ∧ o'.log = o.log ∧
        o.machine = m.driven plan (k + 1) ∧ o'.machine = m'.driven plan' (k + 1) ∧
        m'.driven plan' (k + 1) = { m.driven plan (k + 1) with keypad := (plan' k).2 } ∧
        (m.driven plan (k + 1)).keypad = (plan k).2) ∧
      ∀ down, fits "FX0A" m.nextWord = true →
        let m'' := { m with keypad := m.keypad.set 0xf down }
        m''.cycle.result = m.cycle.result ∧
          m''.cycle.machine = { m.cycle.machine with keypad := m.keypad.set 0xf down } := by
  refine ⟨fun k hk => ?_, fun down hw => ?_⟩
  · intro o o'
    have ho : o' = o.changed (keyed (plan' k).2) :=
      cycle_pressed (driven_keyed hm fun j hj => h j (hj.trans hk)) (h k hk)
    refine ⟨by rw [ho]; rfl, by rw [ho]; rfl, rfl, rfl, ?_, keypad_cycle _⟩
    show o'.machine = _
    rw [ho]
    rfl
  · intro m''
    have hc : m''.cycle = m.cycle.changed (keyed (m.keypad.set 0xf down)) := by
      refine cycle_keyed fun key hkey => ?_
      rw [Keypad.isDown_set, if_neg (Ne.symm (keysRead_wait hw hkey))]
    rw [hc]
    exact ⟨rfl, rfl⟩

/-- A skip by the key 5 and then a wait, while on one side the keys 7, 9 and `F` go down as well. -/
theorem keys_unread_skip_wait :
    let program : List UInt8 := [0x60, 0x05, 0xe0, 0x9e, 0x12, 0x04, 0xf1, 0x0a]
    let plan : Plan := fun k => (.proceed, Keypad.ofKeys ([[], [5], [5]].getD k []))
    let plan' : Plan := fun k => (.proceed, Keypad.ofKeys ([[7], [5, 9], [5, 0xf]].getD k []))
    let m := (powerOn (.ofSeed 0)).after [.load program]
    let m' := { m with keypad := Keypad.ofKeys [3] }
    let waiting := m.driven plan 2
    m' = { m with keypad := m'.keypad } ∧
      (∀ k < 3, ∀ key ∈ (m.driven plan k).keysRead,
        (plan' k).2.isDown key = (plan k).2.isDown key) ∧
      m'.driven plan' 3 = { m.driven plan 3 with keypad := Keypad.ofKeys [5, 0xf] } ∧
      (m.driven plan 3).reg 1 = 5 ∧ fits "FX0A" waiting.nextWord = true ∧
      { waiting with keypad := waiting.keypad.set 0xf true }.cycle.result =
        waiting.cycle.result := by
  intro program plan plan' m m' waiting
  have hm : m' = { m with keypad := m'.keypad } := rfl
  obtain ⟨h, hkey, hwait⟩ :
      (∀ k < 3, ∀ key ∈ (m.driven plan k).keysRead,
        (plan' k).2.isDown key = (plan k).2.isDown key) ∧
      (m.driven plan 3).reg 1 = 5 ∧ fits "FX0A" waiting.nextWord = true := by decide +kernel
  obtain ⟨-, -, -, -, hstate, -⟩ := (keys_unread m m' plan plan' 3 hm h).1 2 (by decide)
  have hnone : ∀ k < 0, ∀ key ∈ (waiting.driven plan k).keysRead,
      (plan k).2.isDown key = (plan k).2.isDown key := fun _ _ _ _ => rfl
  exact ⟨hm, h, hstate, hkey, hwait,
    ((keys_unread waiting waiting plan plan 0 rfl hnone).2 true hwait).1⟩

end Machine

end Chip8
