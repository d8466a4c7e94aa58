import Mathlib.Tactic
import Chip8.Machine.Timers
import Chip8.Proofs.Keys

/-! A wait for a key is a STUTTER until one is down.

    To find no key down takes the program counter back over the wait, so the cycle leaves nothing
    different but the timers (`cycle_of_quiet`), and the next one comes to the same word. So by
    induction a machine stays where it is for as long as no key is down that the wait looks at
    (`pressed_driven`), and the first such key ends the wait (`cycle_of_found`). -/

namespace Chip8

open Pattern (fits)

namespace Keypad

variable {k : Keypad} {key : UInt8}

theorem quiet_iff : k.quiet = true ↔ ∀ key : UInt8, key.toNat < 15 → k.isDown key = false := by
  simp only [quiet, List.all_eq_true, List.mem_range, Bool.not_eq_true']
  constructor
  · intro h key hkey
    have hdown := h key.toNat hkey
    rwa [UInt8.ofNat_toNat] at hdown
  · intro h n hn
    exact h (.ofNat n) (by rw [UInt8.toNat_ofNat']; omega)

/-- A wait finds the lowest key. -/
theorem firstDown_eq_some_iff : k.firstDown = some key ↔ k.Lowest key := by
  rw [firstDown, scanned_eq, List.find?_map, Option.map_eq_some_iff]
  simp only [List.find?_range_eq_some, List.mem_range, Function.comp_apply, Bool.not_eq_true']
  constructor
  · rintro ⟨n, ⟨hdown, hn, hleast⟩, rfl⟩
    have hnat : (UInt8.ofNat n).toNat = n := by
      rw [UInt8.toNat_ofNat']
      omega
    refine ⟨by rwa [hnat], hdown, fun other ho => ?_⟩
    have hup := hleast other.toNat (by rwa [hnat] at ho)
    rwa [UInt8.ofNat_toNat] at hup
  · intro h
    refine ⟨key.toNat, ⟨?_, h.scanned, fun n hn => ?_⟩, UInt8.ofNat_toNat⟩
    · rw [UInt8.ofNat_toNat]
      exact h.isDown
    · have hkey := key.toNat_lt
      exact h.least (.ofNat n) (by rw [UInt8.toNat_ofNat']; omega)

/-- If a key is down that a wait looks at, there is a lowest. -/
theorem exists_lowest (h : ∃ key : UInt8, key.toNat < 15 ∧ k.isDown key = true) :
    ∃ key, k.Lowest key := by
  obtain ⟨key, hkey, hdown⟩ := h
  cases hk : k.firstDown with
  | some first => exact ⟨first, firstDown_eq_some_iff.mp hk⟩
  | none =>
    have hup := quiet_iff.mp ((firstDown_eq_none_iff k).mp hk) key hkey
    rw [hdown] at hup
    cases hup

end Keypad

namespace Machine

variable {m : Machine} {w : Word} {plan : Plan} {n k : Nat}

/-! ### Running down -/

theorem idled_zero (m : Machine) (keypad : Keypad) : m.idled keypad 0 = { m with keypad } := by
  simp [idled]

theorem tick_idled (m : Machine) (keypad : Keypad) (n : Nat) :
    (m.idled keypad n).tick = m.idled keypad (n + 1) := by
  have hsub (t : UInt8) : (UInt8.ofNat (t.toNat - n)).toNat - 1 =
      (UInt8.ofNat (t.toNat - (n + 1))).toNat := by
    have ht := t.toNat_lt
    rw [UInt8.toNat_ofNat', UInt8.toNat_ofNat']
    omega
  have hdelay : (m.idled keypad n).tick.delayTimer = .ofNat (m.delayTimer.toNat - (n + 1)) := by
    rw [← UInt8.toNat_inj, toNat_delayTimer_tick]
    exact hsub m.delayTimer
  have hsound : (m.idled keypad n).tick.soundTimer = .ofNat (m.soundTimer.toNat - (n + 1)) := by
    rw [← UInt8.toNat_inj, toNat_soundTimer_tick]
    exact hsub m.soundTimer
  calc (m.idled keypad n).tick
    _ = { m with
          keypad
          delayTimer := (m.idled keypad n).tick.delayTimer
          soundTimer := (m.idled keypad n).tick.soundTimer } := rfl
    _ = m.idled keypad (n + 1) := by rw [hdelay, hsound, idled]

/-! ### One cycle -/

section Wait

variable (hm : m.fault = none) (hw : m.memory.word m.pc = .ok w) (hf : fits "FX0A" w = true)
include hm hw hf

theorem cycle_wait : m.cycle =
    ⟨.ok (), (m.fetched.effect (.waitKey w.x)).tick, [.executing m.pc w (.waitKey w.x)]⟩ :=
  cycle_of_clear hm hw (decode_wait hf) rfl

/-- A wait that finds no key takes the machine back to where it was. -/
theorem cycle_of_quiet (hnone : m.keypad.firstDown = none) :
    m.cycle.result = .ok () ∧ m.cycle.machine = m.tick := by
  have heffect : m.fetched.effect (.waitKey w.x) = m := by
    have hback : m.pc + 2 - 2 = m.pc := UInt16.add_sub_cancel ..
    simp [effect, execute, fetched, hnone, succeed, hback]
  rw [cycle_wait hm hw hf, heffect]
  exact ⟨rfl, rfl⟩

/-- A wait that finds a key takes it and goes on. -/
theorem cycle_of_found {key : UInt8} (hsome : m.keypad.firstDown = some key) :
    m.cycle.result = .ok () ∧ m.cycle.machine = { m.tick.setReg w.x key with pc := m.pc + 2 } := by
  have heffect : m.fetched.effect (.waitKey w.x) = m.fetched.setReg w.x key := by
    simp [effect, execute, fetched, hsome, succeed]
  rw [cycle_wait hm hw hf, heffect]
  exact ⟨rfl, rfl⟩

/-! ### Many cycles -/

/-- A machine that has waited for some cycles waits for one more. -/
theorem cycle_idled {keypad : Keypad} (n : Nat)
    (hquiet : ∀ key : UInt8, key.toNat < 15 → keypad.isDown key = false) :
    (m.idled keypad n).cycle.result = .ok () ∧
      (m.idled keypad n).cycle.machine = m.idled keypad (n + 1) := by
  have hnone : (m.idled keypad n).keypad.firstDown = none :=
    (Keypad.firstDown_eq_none_iff _).mpr (Keypad.quiet_iff.mpr hquiet)
  obtain ⟨hok, hcycle⟩ := cycle_of_quiet (m := m.idled keypad n) hm hw hf hnone
  exact ⟨hok, hcycle.trans (tick_idled m keypad n)⟩

/-- While no key is down that the wait looks at, the machine stays where it is. -/
theorem pressed_driven
    (hquiet : ∀ j < n, ∀ key : UInt8, key.toNat < 15 → (plan j).2.isDown key = false) :
    (m.driven plan n).pressed plan n = m.idled (plan n).2 n := by
  induction n with
  | zero => exact (idled_zero m _).symm
  | succ n ih =>
    have hn := ih fun j hj => hquiet j (Nat.lt_succ_of_lt hj)
    rw [driven, hn, (cycle_idled hm hw hf n (hquiet n (Nat.lt_succ_self n))).2]
    rfl

end Wait

/-- STUTTER: a running machine with a wait for a key at the program counter, and before each of some
cycles a keypad on which none of the keys is down that the wait looks at, goes through all of these
cycles and is left by each as it was, but for the keypad and the timers, which count the cycles. If
such a key is then down, the next cycle puts the lowest of them into `VX` and goes on to the next
word. The last key may be up or down at any time. -/
theorem wait_stutters (m : Machine) (w : Word) (plan : Plan) (k : Nat) (hm : m.fault = none)
    (hw : m.memory.word m.pc = .ok w) (hf : fits "FX0A" w = true)
    (hquiet : ∀ n < k, ∀ key : UInt8, key.toNat < 15 → (plan n).2.isDown key = false) :
    (∀ n < k, ((m.driven plan n).pressed plan n).cycle.result = .ok () ∧
      m.driven plan (n + 1) = m.idled (plan n).2 (n + 1)) ∧
    ((∃ key : UInt8, key.toNat < 15 ∧ (plan k).2.isDown key = true) →
      ∃ key, (plan k).2.Lowest key ∧
        ((m.driven plan k).pressed plan k).cycle.result = .ok () ∧
        m.driven plan (k + 1) =
          { (m.idled (plan k).2 (k + 1)).setReg w.x key with pc := m.pc + 2 }) := by
  constructor
  · intro n hn
    rw [driven, pressed_driven hm hw hf fun j hj => hquiet j (hj.trans hn)]
    exact cycle_idled hm hw hf n (hquiet n hn)
  · intro hdown
    obtain ⟨key, hlowest⟩ := Keypad.exists_lowest hdown
    have hsome : (m.idled (plan k).2 k).keypad.firstDown = some key :=
      Keypad.firstDown_eq_some_iff.mpr hlowest
    obtain ⟨hok, hcycle⟩ := cycle_of_found (m := m.idled (plan k).2 k) hm hw hf hsome
    rw [driven, pressed_driven hm hw hf hquiet, hcycle, tick_idled]
    exact ⟨key, hlowest, hok, rfl⟩

/-- The last key alone does not end a wait, and of the keys 4 and 9 it is the 4 that does. The delay
timer, which stood at 2, has run out by then. -/
theorem wait_stutters_last_key :
    let program : List UInt8 := [0x63, 0x03, 0xf3, 0x15, 0xf2, 0x0a]
    let m := (powerOn (.ofSeed 0)).after [.load program, .cycle, .cycle]
    let plan : Plan := fun n => (.proceed, Keypad.ofKeys ([[0xf], [], [0xf, 9, 4]].getD n []))
    m.delayTimer = 2 ∧ m.driven plan 2 = m.idled Keypad.released 2 ∧
      (m.driven plan 3).reg 2 = 4 ∧ (m.driven plan 3).pc = 0x206 ∧
      (m.driven plan 3).delayTimer = 0 := by
  intro program m plan
  obtain ⟨hm, hpc, hdelay, hw⟩ : m.fault = none ∧ m.pc = 0x204 ∧ m.delayTimer = 2 ∧
      m.memory.word m.pc = .ok 0xf20a := by decide +kernel
  have hquiet : ∀ n < 2, ∀ key : UInt8, key.toNat < 15 → (plan n).2.isDown key = false := by
    intro n hn
    refine Keypad.quiet_iff.mp ?_
    interval_cases n <;> decide
  obtain ⟨hstay, hgo⟩ := wait_stutters m 0xf20a plan 2 hm hw (by decide) hquiet
  obtain ⟨key, hlowest, -, hnext⟩ := hgo ⟨4, by decide, by decide⟩
  obtain rfl : key = 4 := by
    have hfirst : (plan 2).2.firstDown = some 4 := by decide
    exact Option.some.inj ((Keypad.firstDown_eq_some_iff.mpr hlowest).symm.trans hfirst)
  -- Said of any machine, as the two sides for this one would be computed to be compared.
  have hpast : ∀ (m : Machine) (pc : UInt16), { m with pc }.reg 2 = m.reg 2 := fun _ _ => rfl
  refine ⟨hdelay, (hstay 1 (by decide)).2, ?_, ?_, ?_⟩
  · rw [hnext]
    exact (hpast _ _).trans ((reg_setReg _ _ _ _).trans (if_pos rfl))
  · rw [hnext, hpc]
    rfl
  · rw [hnext]
    show UInt8.ofNat (m.delayTimer.toNat - 3) = 0
    rw [hdelay]
    rfl

end Machine

end Chip8
