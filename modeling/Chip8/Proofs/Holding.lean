import Mathlib.Tactic
import Chip8.Console.Bench
import Chip8.Terminal.Polling

/-! Which keys of the keypad a keyboard holds down.

    A character stands for the key that the layout has for it or for its small letter
    (`keyOf?_eq_some_iff`). Each key has a number of updates left. Reading a press of the key sets it
    to the length of a hold (`entry_read`), and an update takes one from it, so what is left says how
    long ago the last press was read (`lt_left_iff`). A key is down exactly if it was pressed in a
    WINDOW of as many updates as a hold lasts. -/

namespace Chip8

theorem Bank.entry_map {α β : Type} (f : α → β) (bank : Bank α) (b : UInt8) :
    Bank.entry (bank.map f) b = f (bank.entry b) := by
  simp [entry]

namespace Terminal

open HostEvent (quits presses isLetter)

namespace Keyboard

variable {e : HostEvent} {hold j t : Nat} {key : UInt8}

/-! ### Which characters stand for keys -/

theorem eq_toUpper_toLower : ∀ n < 91, 65 ≤ n → Char.ofNat n = (Char.ofNat n).toLower.toUpper := by
  decide

/-- A character is its own small letter, or the capital of it. -/
theorem eq_toLower_or (c : Char) : c = c.toLower ∨ c = c.toLower.toUpper := by
  by_cases h : c.val ≥ 'A'.val ∧ c.val ≤ 'Z'.val
  · right
    have hlo : 65 ≤ c.toNat := h.1
    have hhi : c.toNat ≤ 90 := h.2
    have hcapital := eq_toUpper_toLower c.toNat (by omega) hlo
    rwa [Char.ofNat_toNat] at hcapital
  · left
    have hlower : c.toLower = c := dif_neg h
    exact hlower.symm

/-- The characters that stand for a key are the small letter or the digit that it has on the layout,
and the capital of the letter. -/
theorem keyOf?_eq_some_iff {c : Char} {key : UInt8} : keyOf? c = some key ↔
    ∃ small, (small, key) ∈ layout ∧ (c = small ∨ c = small.toUpper) := by
  have hlookup : ∀ entry ∈ layout, keyOf? entry.1 = some entry.2 ∧
      keyOf? entry.1.toUpper = some entry.2 := by decide
  constructor
  · intro h
    obtain ⟨before, after, hl, -⟩ := List.lookup_eq_some_iff.mp h
    refine ⟨c.toLower, ?_, eq_toLower_or c⟩
    rw [hl]
    simp
  · rintro ⟨small, hmem, rfl | rfl⟩
    · exact (hlookup _ hmem).1
    · exact (hlookup _ hmem).2

theorem any_keyOf? (c : Char) (test : UInt8 → Bool) : (keyOf? c).any test =
    layout.any fun (small, key) => isLetter c small && test key := by
  rw [Bool.eq_iff_iff, Option.any_eq_true, List.any_eq_true]
  constructor
  · rintro ⟨key, hkey, htest⟩
    obtain ⟨small, hmem, hc⟩ := keyOf?_eq_some_iff.mp hkey
    exact ⟨(small, key), hmem, by simpa [isLetter, htest] using hc⟩
  · rintro ⟨⟨small, key⟩, hmem, htest⟩
    simp only [isLetter, Bool.and_eq_true, Bool.or_eq_true, beq_iff_eq] at htest
    exact ⟨key, keyOf?_eq_some_iff.mpr ⟨small, hmem, htest.1⟩, htest.2⟩

/-! ### What one event does -/

theorem meaning_eq_quit_iff : meaning e = .quit ↔ e.quits = true := by
  cases e with
  | mouse => simp [meaning, quits]
  | press k control =>
    cases k with
    | char c =>
      by_cases h : c = 'c' ∧ control = true
      · simp [meaning, quits, h]
      · rw [meaning, if_neg h]
        cases keyOf? c <;> simpa [quits] using h
    | _ => simp [meaning, quits]

/-- An event presses the key that it is read as a press of, and no other. -/
theorem presses_eq (e : HostEvent) (key : UInt8) :
    e.presses key = match meaning e with
      | .press k => nibble k == nibble key
      | _ => false := by
  cases e with
  | mouse => rfl
  | press k control =>
    cases k with
    | char c =>
      by_cases h : c = 'c' ∧ control = true
      · simp [presses, quits, meaning, h]
      · have hq : quits (.press (.char c) control) = false := by simpa [quits] using h
        have hkeys := any_keyOf? c fun k => nibble k == nibble key
        rw [presses, hq, ← hkeys, meaning, if_neg h]
        cases keyOf? c <;> rfl
    | _ => rfl

/-! ### What one update reads -/

/-- Reading leaves what it does not consume. -/
theorem consumed_append_unread (hold : Nat) (held : Bank Nat) (events : List HostEvent) :
    consumed events ++ (read hold held events).unread = events := by
  induction events generalizing held with
  | nil => rfl
  | cons e rest ih =>
    rw [consumed, read]
    cases hm : meaning e with
    | quit => simp [meaning_eq_quit_iff.mp hm]
    | _ =>
      have hq : ¬ e.quits = true := by simp [← meaning_eq_quit_iff, hm]
      rw [if_neg hq, List.cons_append]
      exact congrArg (e :: ·) (ih _)

/-- A key has a whole hold left if a press of it was read, and otherwise what it had. -/
theorem entry_read (hold : Nat) (held : Bank Nat) (events : List HostEvent) (key : UInt8) :
    (read hold held events).held.entry key =
      if (consumed events).any (·.presses key) then hold else held.entry key := by
  induction events generalizing held with
  | nil => rfl
  | cons e rest ih =>
    have hp := presses_eq e key
    rw [consumed, read]
    cases hm : meaning e with
    | quit =>
      rw [hm] at hp
      simp [meaning_eq_quit_iff.mp hm, hp]
    | press k =>
      have hq : ¬ e.quits = true := by simp [← meaning_eq_quit_iff, hm]
      rw [hm] at hp
      rw [if_neg hq, List.any_cons, hp, ih, Bank.entry_setEntry]
      -- a press that was read before another press of the same key makes no difference
      by_cases hk : nibble k = nibble key <;> simp [hk]
    | nothing | warn =>
      have hq : ¬ e.quits = true := by simp [← meaning_eq_quit_iff, hm]
      rw [hm] at hp
      rw [if_neg hq, List.any_cons, hp, Bool.false_or]
      exact ih held

theorem isDown_keypadOf (held : Bank Nat) (key : UInt8) :
    (keypadOf held).isDown key = decide (0 < held.entry key) :=
  Bank.entry_map (fun left => decide (left > 0)) held key

/-! ### What many updates leave -/

/-- How many updates a key is held for, from an update on. -/
def left (k : Keyboard) (key : UInt8) : Nat := (read k.hold k.held k.queue).held.entry key

/-- Whether an update reads a press of a key. -/
def pressed (k : Keyboard) (key : UInt8) : Bool := (consumed k.queue).any (·.presses key)

theorem hold_awaiting (k : Keyboard) (typed : Nat → List HostEvent) (t : Nat) :
    (k.awaiting typed t).hold = k.hold := by
  induction t with
  | zero => rfl
  | succ t ih => exact ih

theorem left_zero (hold : Nat) (typed : Nat → List HostEvent) (key : UInt8) :
    ((idle hold).awaiting typed 0).left key =
      if ((idle hold).awaiting typed 0).pressed key then hold else 0 := by
  rw [left, entry_read]
  simp [awaiting, type, idle, pressed]

/-- A press is worth a whole hold; without one, a key has one update less than before. -/
theorem left_succ (k : Keyboard) (typed : Nat → List HostEvent) (t : Nat) (key : UInt8) :
    (k.awaiting typed (t + 1)).left key =
      if (k.awaiting typed (t + 1)).pressed key then k.hold
      else (k.awaiting typed t).left key - 1 := by
  have hheld : (k.awaiting typed (t + 1)).held.entry key = (k.awaiting typed t).left key - 1 :=
    Bank.entry_map (· - 1) _ key
  rw [left, entry_read, hold_awaiting, hheld]
  rfl

/-- More than `j` updates are left for a key exactly if it was pressed so recently that the hold of
that press lasts for `j` updates more. -/
theorem lt_left_iff (typed : Nat → List HostEvent) :
    j < ((idle hold).awaiting typed t).left key ↔
      ∃ u ≤ t, t - u + j < hold ∧ ((idle hold).awaiting typed u).pressed key = true := by
  induction t generalizing j with
  | zero =>
    rw [left_zero]
    cases hp : ((idle hold).awaiting typed 0).pressed key <;> simp [hp]
  | succ t ih =>
    rw [left_succ]
    cases hp : ((idle hold).awaiting typed (t + 1)).pressed key with
    | true =>
      have hhold : (idle hold).hold = hold := rfl
      rw [if_pos rfl, hhold]
      constructor
      · intro h
        exact ⟨t + 1, Nat.le_refl _, by omega, hp⟩
      · rintro ⟨u, hu, hlt, -⟩
        omega
    | false =>
      have hstep : j < ((idle hold).awaiting typed t).left key - 1 ↔
          j + 1 < ((idle hold).awaiting typed t).left key := by omega
      rw [if_neg (by simp), hstep, ih]
      constructor
      · rintro ⟨u, hu, hlt, hpress⟩
        exact ⟨u, by omega, by omega, hpress⟩
      · rintro ⟨u, hu, hlt, hpress⟩
        obtain hu | rfl : u ≤ t ∨ u = t + 1 := by omega
        · exact ⟨u, hu, by omega, hpress⟩
        · rw [hp] at hpress
          cases hpress

/-- WINDOW: after an update a key is down exactly if one of the last `hold` updates, this one among
them, consumed a press of it; whatever else was typed, whether or not an update was asked to quit,
and whatever was on the keypad. -/
theorem isDown_update_iff (hold : Nat) (typed : Nat → List HostEvent) (t : Nat) (keypad : Keypad)
    (key : UInt8) :
    let k (u : Nat) := (idle hold).awaiting typed u
    let after := Console.InputDevice.update (k t) keypad
    (∃ control, after.result = .ok control) ∧
      consumed (k t).queue ++ after.device.queue = (k t).queue ∧
      (after.keypad.isDown key = true ↔
        ∃ u ≤ t, t - u < hold ∧ ∃ e ∈ consumed (k u).queue, e.presses key = true) ∧
      (hold = 0 → after.keypad.isDown key = false) := by
  intro k after
  have hdown : after.keypad.isDown key = true ↔
      ∃ u ≤ t, t - u < hold ∧ ∃ e ∈ consumed (k u).queue, e.presses key = true := by
    have hleft : after.keypad.isDown key = decide (0 < (k t).left key) := isDown_keypadOf _ key
    rw [hleft, decide_eq_true_iff, lt_left_iff]
    simp [pressed, k]
  refine ⟨⟨_, rfl⟩, consumed_append_unread _ _ _, hdown, ?_⟩
  rintro rfl
  rw [← Bool.not_eq_true, hdown]
  rintro ⟨u, -, hlt, -⟩
  exact absurd hlt (Nat.not_lt_zero _)

/-- With a hold of two updates a key is down at the update that reads its press and at the next. -/
example :
    let typed (t : Nat) : List HostEvent := if t = 0 then [.press (.char 'W') false] else []
    let down (t : Nat) := ((idle 2).awaiting typed t).update.keypad.isDown 5
    down 0 = true ∧ down 1 = true ∧ down 2 = false := by
  decide +kernel

end Keyboard

end Terminal

end Chip8
