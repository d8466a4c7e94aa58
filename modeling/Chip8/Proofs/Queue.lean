import Mathlib.Tactic
import Chip8.Proofs.Holding

/-! Nothing that is typed is lost, repeated or put out of ORDER.

    An update splits what waits into what it consumes and what waits for the next update
    (`consumed_append_unread`), and it goes as far as the first event that asks to quit
    (`consumed_cases`). So over any number of updates the events that were consumed, and then those
    that still wait, are all that was typed. What an update logs can be told from what it consumed,
    event by event (`text_warnings_read`). -/

namespace Chip8.Terminal.Keyboard

open HostEvent (quits line?)

/-! ### One update -/

/-- What is consumed ends at the first event that asks to quit, or is all there is. -/
theorem consumed_cases (events : List HostEvent) :
    (∃ before e, consumed events = before ++ [e] ∧ (∀ b ∈ before, b.quits = false) ∧
        e.quits = true) ∨
      consumed events = events ∧ ∀ e ∈ events, e.quits = false := by
  induction events with
  | nil => exact .inr ⟨rfl, by simp⟩
  | cons e rest ih =>
    cases hq : e.quits with
    | true =>
      refine .inl ⟨[], e, ?_, by simp, hq⟩
      rw [consumed, if_pos hq, List.nil_append]
    | false =>
      have hc : consumed (e :: rest) = e :: consumed rest := by
        rw [consumed, if_neg (by simp [hq])]
      rw [hc]
      rcases ih with ⟨before, last, hrest, hbefore, hlast⟩ | ⟨hrest, hall⟩
      · exact .inl ⟨e :: before, last, by rw [hrest, List.cons_append],
          List.forall_mem_cons.mpr ⟨hq, hbefore⟩, hlast⟩
      · exact .inr ⟨by rw [hrest], List.forall_mem_cons.mpr ⟨hq, hall⟩⟩

/-- An update is asked to quit by one of the events that wait. -/
theorem control_read (hold : Nat) (held : Bank Nat) (events : List HostEvent) :
    (read hold held events).control = if events.any quits then .quit else .proceed := by
  induction events generalizing held with
  | nil => rfl
  | cons e rest ih =>
    rw [read, List.any_cons]
    cases hm : meaning e with
    | quit => simp [meaning_eq_quit_iff.mp hm]
    | _ =>
      have hq : e.quits = false := by simp [← Bool.not_eq_true, ← meaning_eq_quit_iff, hm]
      rw [hq, Bool.false_or]
      exact ih _

/-- The line of an event is the text of the warning that it is read as. -/
theorem line?_eq (e : HostEvent) : e.line? =
    match meaning e with
    | .warn w => some w.text
    | _ => none := by
  cases e with
  | mouse => rfl
  | press k control =>
    cases k with
    | char c =>
      by_cases h : c = 'c' ∧ control = true
      · simp [line?, quits, meaning, h]
      · have hq : quits (.press (.char c) control) = false := by simpa [quits] using h
        have hkeys := any_keyOf? c fun _ => true
        simp only [Bool.and_true] at hkeys
        rw [line?, hq, ← hkeys, meaning, if_neg h]
        cases keyOf? c <;> rfl
    | _ => rfl

/-- The warnings are the lines of the events consumed, in order. -/
theorem text_warnings_read (hold : Nat) (held : Bank Nat) (events : List HostEvent) :
    (read hold held events).warnings.map Warning.text = (consumed events).filterMap line? := by
  induction events generalizing held with
  | nil => rfl
  | cons e rest ih =>
    have hl := line?_eq e
    rw [consumed, read]
    cases hm : meaning e with
    | quit =>
      rw [hm] at hl
      simp [meaning_eq_quit_iff.mp hm, hl]
    | warn w =>
      have hq : ¬ e.quits = true := by simp [← meaning_eq_quit_iff, hm]
      rw [hm] at hl
      rw [if_neg hq, List.filterMap_cons_some hl, List.map_cons]
      exact congrArg (w.text :: ·) (ih held)
    | press | nothing =>
      have hq : ¬ e.quits = true := by simp [← meaning_eq_quit_iff, hm]
      rw [hm] at hl
      rw [if_neg hq, List.filterMap_cons_none hl]
      exact ih _

/-! ### Many updates -/

/-- What waits for an update is what the updates before it left, and then what was typed since. -/
theorem queue_awaiting (k : Keyboard) (typed : Nat → List HostEvent) (t : Nat) :
    (k.awaiting typed t).queue = (k.polled typed t).queue ++ typed t := by
  cases t <;> rfl

/-- What one update consumes, and then what it leaves, is what waited for it. -/
theorem consumed_append_polled (k : Keyboard) (typed : Nat → List HostEvent) (t : Nat) :
    consumed (k.awaiting typed t).queue ++ (k.polled typed (t + 1)).queue =
      (k.polled typed t).queue ++ typed t := by
  rw [← queue_awaiting]
  exact consumed_append_unread _ _ _

/-- What some updates consume, and then what they leave, is all that was typed. -/
theorem flatMap_consumed (k : Keyboard) (typed : Nat → List HostEvent) (n : Nat) :
    ((List.range n).flatMap fun t => consumed (k.awaiting typed t).queue) ++
        (k.polled typed n).queue =
      k.queue ++ (List.range n).flatMap typed := by
  induction n with
  | zero => simp [polled]
  | succ n ih =>
    rw [List.range_succ, List.flatMap_append, List.flatMap_singleton, List.append_assoc,
      consumed_append_polled, ← List.append_assoc, ih, List.flatMap_append,
      List.flatMap_singleton, List.append_assoc]

/-- ORDER: what the updates so far consumed, and then what still waits, is what waited at first and
then all that was typed. Each update consumes what waits as far as the first event that asks to
quit, and is asked to quit exactly if there is one; and it logs one warning for each event consumed
that has a line, in order, and nothing else. -/
theorem typed_in_order (k : Keyboard) (typed : Nat → List HostEvent) (n : Nat) :
    ((List.range n).flatMap fun t => consumed (k.awaiting typed t).queue) ++
          (k.polled typed n).queue =
        k.queue ++ (List.range n).flatMap typed ∧
      ∀ t keypad,
        let waiting := (k.awaiting typed t).queue
        let after := Console.InputDevice.update (k.awaiting typed t) keypad
        waiting = (k.polled typed t).queue ++ typed t ∧
        after.device = k.polled typed (t + 1) ∧
        consumed waiting ++ after.device.queue = waiting ∧
        ((after.result = .ok .quit ∧ ∃ before e, consumed waiting = before ++ [e] ∧
            (∀ b ∈ before, b.quits = false) ∧ e.quits = true) ∨
          (after.result = .ok .proceed ∧ consumed waiting = waiting ∧
            ∀ e ∈ waiting, e.quits = false)) ∧
        after.log.map (fun event => (event.level, event.text)) =
          ((consumed waiting).filterMap line?).map fun line => (Level.warn, line) := by
  refine ⟨flatMap_consumed k typed n, fun t keypad => ?_⟩
  intro waiting after
  have hsplit : consumed waiting ++ after.device.queue = waiting := consumed_append_unread _ _ _
  have hresult : after.result = .ok (if waiting.any quits then .quit else .proceed) :=
    congrArg Except.ok (control_read _ _ _)
  refine ⟨queue_awaiting k typed t, rfl, hsplit, ?_, ?_⟩
  · rcases consumed_cases waiting with ⟨before, e, hc, hbefore, he⟩ | ⟨hc, hall⟩
    · have hquit : waiting.any quits = true := by
        rw [← hsplit, hc]
        simp [he]
      exact .inl ⟨by rw [hresult, if_pos hquit], before, e, hc, hbefore, he⟩
    · have hnone : ¬ waiting.any quits = true := by simpa using hall
      exact .inr ⟨by rw [hresult, if_neg hnone], hc, hall⟩
  · have hlines := text_warnings_read (k.awaiting typed t).hold (k.awaiting typed t).held waiting
    show (List.map Console.Event.keyboard _).map _ = _
    rw [← hlines, List.map_map, List.map_map]
    rfl

/-- What was typed after an escape is read by the next update, before what is typed then. -/
example :
    let typed (t : Nat) : List HostEvent :=
      if t = 0 then [.press (.char 'w') false, .press .escape false, .press (.char 'p') false]
      else [.mouse, .press .up false]
    let update (t : Nat) := ((idle 6).awaiting typed t).update
    (update 0).control = .quit ∧ (update 0).warnings = [] ∧ (update 1).control = .proceed ∧
      (update 1).warnings.map Warning.text =
        ["can't map 'p' to a COSMAC key", "ignoring key Up"] := by
  decide +kernel

end Chip8.Terminal.Keyboard
