import Mathlib.Tactic
import Chip8.Console.Moves
import Chip8.Machine.Load
import Chip8.Proofs.Bench
import Chip8.Proofs.Tone

/-! The tone follows the sound timer by its EDGES.

    A gate calls the tone only where it has to change, so the calls that succeed are told apart by
    their order alone: on, off, on. `Told` says so of a stretch of calls, together with what the
    tone says and has counted after it; a gate is told so (`told_gate`), and so are a frame and any
    path of moves. What a run is asked for is such a path (`run_moves`). -/

namespace Chip8.Console

open SoundDevice (Honest Truthful turn turned isBeeping)

/-! ### Alternating turns -/

theorem turnsOf_append (calls calls' : List DeviceCall) :
    turnsOf (calls ++ calls') = turnsOf calls ++ turnsOf calls' :=
  List.filterMap_append

/-- Turns alternate on from where the turns before them ended. -/
theorem alternates_append {turns turns' : List Bool} {on : Bool} :
    Alternates on (turns ++ turns') ↔
      Alternates on turns ∧ Alternates (turns.getLastD on) turns' := by
  induction turns generalizing on with
  | nil => simp [Alternates]
  | cons t rest ih =>
    rw [List.cons_append, Alternates, Alternates, ih, List.getLastD_cons, and_assoc]

section Tone

variable {σ : Type} [SoundDevice σ] {count : σ → Nat} {d d' d'' : σ} {on : Bool}

/-- What turns that succeeded make of a tone. -/
structure Told (count : σ → Nat) (d d' : σ) (turns : List Bool) : Prop where
  alternates : Alternates (isBeeping d) turns
  isBeeping : isBeeping d' = turns.getLastD (isBeeping d)
  count : count d' = count d + turns.count true

theorem told_nil (count : σ → Nat) (d : σ) : Told count d d [] := ⟨trivial, rfl, rfl⟩

theorem told_append {turns turns' : List Bool} (h : Told count d d' turns)
    (h' : Told count d' d'' turns') : Told count d d'' (turns ++ turns') where
  alternates := by
    rw [alternates_append, ← h.isBeeping]
    exact ⟨h.alternates, h'.alternates⟩
  isBeeping := by
    rw [h'.isBeeping, h.isBeeping]
    cases turns' using List.reverseRecOn <;> simp
  count := by
    rw [h'.count, h.count, List.count_append, Nat.add_assoc]

/-! ### One gate -/

/-- The call that tells a tone to begin or to end. -/
def DeviceCall.ofTurn (on ok : Bool) : DeviceCall := if on then beep ok else stop ok

theorem turnsOf_ofTurn (on ok : Bool) : turnsOf [.ofTurn on ok] = if ok then [on] else [] := by
  cases on <;> cases ok <;> rfl

/-- A tone that is not as it should be is called once. -/
theorem gate_of_ne (h : isBeeping d = !on) :
    gate on d = ⟨(turn d on).1, (turn d on).2, [.ofTurn on (isOk (turn d on).1)]⟩ := by
  cases on <;> simp [gate, h, turn, DeviceCall.ofTurn]

theorem isOk_iff {r : Except DeviceError Unit} : isOk r = true ↔ r = .ok () := by
  cases r <;> simp [isOk]

theorem honest_gate (h : Honest d count) (on : Bool) : Honest (gate on d).device count :=
  SoundDevice.always_gate (Q := fun d => Truthful d count) h on

/-- A gate calls the tone only to change it, and a call that fails changes nothing. -/
theorem told_gate (h : Honest d count) (on : Bool) :
    Told count d (gate on d).device (turnsOf (gate on d).calls) := by
  by_cases hd : isBeeping d = on
  · rw [gate_of_eq hd]
    exact told_nil count d
  · have hne : isBeeping d = !on := Bool.eq_not_of_ne hd
    have hturn := h [] on
    rw [gate_of_ne hne, turnsOf_ofTurn]
    cases hok : isOk (turn d on).1 with
    | true =>
      obtain ⟨hon, hcount⟩ : isBeeping (turn d on).2 = on ∧
          count (turn d on).2 = count d + if on then 1 else 0 := by
        simpa [turned, hok] using hturn
      refine ⟨⟨by simp [hne], trivial⟩, hon, hcount.trans ?_⟩
      cases on <;> rfl
    | false =>
      obtain ⟨hsame, hcount⟩ : isBeeping (turn d on).2 = isBeeping d ∧
          count (turn d on).2 = count d := by
        simpa [turned, hok] using hturn
      exact ⟨trivial, hsame, hcount⟩

/-- After a gate that succeeded the tone is as the gate wants it. -/
theorem isBeeping_of_gate (h : Honest d count) (hr : (gate on d).result = .ok ()) :
    isBeeping (gate on d).device = on := by
  by_cases hd : isBeeping d = on
  · rwa [gate_of_eq hd]
  · rw [gate_of_ne (Bool.eq_not_of_ne hd)] at hr ⊢
    have hturn := h [] on
    rw [turned, List.foldl_nil, if_pos (isOk_iff.mpr hr)] at hturn
    exact hturn.1

end Tone

/-! ### One frame -/

variable {ι δ σ : Type} [InputDevice ι] [DisplayDevice δ] [SoundDevice σ]
variable {c : Console ι δ σ} {count : σ → Nat}

theorem honest_frame (h : Honest c.sound count) : Honest c.frame.console.sound count :=
  keeps_frame (P := fun d => Honest d count) (fun _ on hd => honest_gate hd on) h

theorem told_frame (h : Honest c.sound count) :
    Told count c.sound c.frame.console.sound (turnsOf c.frame.calls) := by
  rcases frame_cases c with ⟨e, log, hf⟩ | ⟨log, hf⟩ | ⟨e, log, hf⟩ | ⟨log, hf⟩ <;> rw [hf]
  · exact told_nil count c.sound
  · exact told_nil count c.sound
  · exact told_nil count c.sound
  · exact told_gate h (toneOf c.polled.machine.cycle)

/-- After a frame that goes on the tone is on exactly if the sound timer runs. -/
theorem isBeeping_of_none (h : Honest c.sound count) (hgo : c.frame.result = .ok none) :
    isBeeping c.frame.console.sound = c.frame.console.machine.toneActive := by
  obtain ⟨-, hgate, hconsole⟩ := frame_of_none hgo
  rw [hconsole]
  exact isBeeping_of_gate h hgate

/-- After a frame that stops at a fault the tone is off. -/
theorem isBeeping_of_fault {f : Fault} (h : Honest c.sound count)
    (hs : c.frame.result = .ok (some (.fault f))) : isBeeping c.frame.console.sound = false := by
  rcases frame_cases c with ⟨e, log, hf⟩ | ⟨log, hf⟩ | ⟨e, log, hf⟩ | ⟨log, hf⟩ <;> rw [hf] at hs ⊢
  · cases hs
  · cases hs
  · cases hs
  · obtain ⟨⟨⟩, hgate, hstop⟩ := map_eq_ok hs
    have htone : toneOf c.polled.machine.cycle = false := by
      cases hr : c.polled.machine.cycle.result with
      | ok _ =>
        rw [hr] at hstop
        cases hstop
      | error f' => rw [toneOf, hr]
    rw [htone] at hgate
    show isBeeping (gate (toneOf c.polled.machine.cycle) c.sound).device = false
    rw [htone]
    exact isBeeping_of_gate h hgate

/-- A gate calls no device but the tone. -/
theorem calls_gate (on : Bool) (d : σ) :
    (gate on d).calls = [] ∨ ∃ ok, (gate on d).calls = [.ofTurn on ok] := by
  by_cases hd : isBeeping d = on
  · exact .inl (by rw [gate_of_eq hd])
  · exact .inr ⟨_, by rw [gate_of_ne (Bool.eq_not_of_ne hd)]⟩

/-- A frame that was asked to quit, or in which the input or the display failed, does not reach the
tone. -/
theorem sound_of_unreached
    (h : c.frame.result = .ok (some .quit) ∨ .update false ∈ c.frame.calls ∨
      ∃ g, .draw g false ∈ c.frame.calls) :
    c.frame.console.sound = c.sound ∧ turnsOf c.frame.calls = [] := by
  rcases frame_cases c with ⟨e, log, hf⟩ | ⟨log, hf⟩ | ⟨e, log, hf⟩ | ⟨log, hf⟩ <;> rw [hf] at h ⊢
  · exact ⟨rfl, rfl⟩
  · exact ⟨rfl, rfl⟩
  · exact ⟨rfl, rfl⟩
  · exfalso
    rcases h with hquit | hcall
    · obtain ⟨⟨⟩, -, hstop⟩ := map_eq_ok hquit
      cases hr : c.polled.machine.cycle.result <;> rw [hr] at hstop <;> cases hstop
    · rcases calls_gate (toneOf c.polled.machine.cycle) c.sound with hg | ⟨ok, hg⟩ <;>
        rw [hg] at hcall
      · simp at hcall
      · cases ht : toneOf c.polled.machine.cycle <;> simp [ht, DeviceCall.ofTurn] at hcall

/-- The calls of a frame that goes on and leaves the sound timer running: the tone begins in it
unless it was on. -/
theorem calls_of_none (hgo : c.frame.result = .ok none)
    (hactive : c.frame.console.machine.toneActive = true) :
    c.frame.calls = [.update true, .draw c.frame.console.machine.grid true] ++
      if isBeeping c.sound then [] else [.beep true] := by
  obtain ⟨hcycle, hgate, hconsole⟩ := frame_of_none hgo
  rw [hconsole] at hactive
  have hactive : c.polled.machine.cycle.machine.toneActive = true := hactive
  rw [hactive] at hgate
  rcases frame_cases c with ⟨e, log, hf⟩ | ⟨log, hf⟩ | ⟨e, log, hf⟩ | ⟨log, hf⟩ <;> rw [hf] at hgo ⊢
  · cases hgo
  · cases hgo
  · cases hgo
  · have htone : toneOf c.polled.machine.cycle = true := by rw [toneOf, hcycle, hactive]
    have hcalls : (gate true c.sound).calls = if isBeeping c.sound then [] else [.beep true] := by
      cases hd : isBeeping c.sound with
      | true => rw [gate_of_eq hd, if_pos rfl]
      | false =>
        rw [gate_of_ne hd] at hgate ⊢
        simp [isOk_iff.mpr hgate, DeviceCall.ofTurn]
    rw [htone, hcalls]
    rfl

/-- In a stretch of frames that go on and leave the sound timer running, only the first frame can
call the tone. -/
theorem calls_of_stretch {n j : Nat} (h : Honest c.sound count)
    (hgo : ∀ j ≤ n, (frames j c).frame.result = .ok none ∧
      (frames (j + 1) c).machine.toneActive = true) (hj : j ≤ n) :
    (frames j c).frame.calls = [.update true, .draw (frames (j + 1) c).machine.grid true] ++
      if j = 0 ∧ isBeeping c.sound = false then [.beep true] else [] := by
  have hhonest (i : Nat) : Honest (frames i c).sound count :=
    keeps_frames (P := fun d => Honest d count) (fun _ on hd => honest_gate hd on) h i
  obtain ⟨hnone, hactive⟩ := hgo j hj
  rw [frames_succ] at hactive ⊢
  rw [calls_of_none hnone hactive]
  congr 1
  cases j with
  | zero => cases hd : isBeeping c.sound <;> simp [frames, hd]
  | succ i =>
    obtain ⟨hbefore, hon⟩ := hgo i (by omega)
    have hbeeping : isBeeping (frames (i + 1) c).sound = true := by
      rw [frames_succ] at hon ⊢
      rw [isBeeping_of_none (hhonest i) hbefore, hon]
    simp [hbeeping]

/-! ### Paths of moves -/

theorem honest_move (h : Honest c.sound count) (m : Move) : Honest (c.move m).1.sound count := by
  cases m with
  | frame => exact honest_frame h
  | silence => exact honest_gate h false

theorem honest_moved (h : Honest c.sound count) (ms : List Move) :
    Honest (c.moved ms).sound count := by
  induction ms generalizing c with
  | nil => exact h
  | cons m rest ih => exact ih (honest_move h m)

theorem told_move (h : Honest c.sound count) (m : Move) :
    Told count c.sound (c.move m).1.sound (turnsOf (c.move m).2) := by
  cases m with
  | frame => exact told_frame h
  | silence => exact told_gate h false

/-- Whatever moves a console makes, its tone is told to begin and to end in turn. -/
theorem told_moved (h : Honest c.sound count) (ms : List Move) :
    Told count c.sound (c.moved ms).sound (turnsOf (c.callsOf ms)) := by
  induction ms generalizing c with
  | nil => exact told_nil count c.sound
  | cons m rest ih =>
    rw [callsOf, turnsOf_append]
    exact told_append (told_move h m) (ih (honest_move h m))

/-! ### Runs are paths of moves -/

/-- To finish a run is to silence the tone, whether or not that succeeds. -/
theorem finish_eq_silence (c : Console ι δ σ) (done : Nat) (stop : Stop) :
    (c.finish done stop).console = (c.move .silence).1 ∧
      (c.finish done stop).calls = (c.move .silence).2 := by
  cases hg : (gate false c.sound).result with
  | error e => rw [finish_of_error hg]; exact ⟨rfl, rfl⟩
  | ok _ => rw [finish_of_ok hg]; exact ⟨rfl, rfl⟩

theorem loop_moves {limit : Option Nat} {fuel done : Nat} {r : Report ι δ σ Stop}
    (h : loop limit fuel done c = some r) :
    r.console = c.moved (runMoves limit fuel done c) ∧
      r.calls = c.callsOf (runMoves limit fuel done c) := by
  induction fuel generalizing done c r with
  | zero => cases h
  | succ fuel ih =>
    rw [loop] at h
    rw [runMoves]
    by_cases hl : limit = some done
    · rw [pass_of_limit hl] at h
      rw [if_pos hl]
      obtain rfl := Option.some.inj h
      obtain ⟨hconsole, hcalls⟩ := finish_eq_silence c done .cycleLimit
      exact ⟨hconsole, by simpa [Report.preceded, callsOf] using hcalls⟩
    · rw [pass_of_ne hl] at h
      rw [if_neg hl]
      cases hr : c.frame.result with
      | error e =>
        simp only [hr, Option.some.injEq] at h
        subst h
        exact ⟨rfl, by simp [callsOf, move]⟩
      | ok s =>
        cases s with
        | some stop =>
          simp only [hr, Option.some.injEq] at h
          subst h
          obtain ⟨hconsole, hcalls⟩ := finish_eq_silence c.frame.console done stop
          exact ⟨hconsole, by simpa [Report.preceded, callsOf, move] using hcalls⟩
        | none =>
          simp only [hr, Option.map_eq_some_iff] at h
          obtain ⟨rest, hrest, rfl⟩ := h
          obtain ⟨hconsole, hcalls⟩ := ih hrest
          exact ⟨hconsole, congrArg (c.frame.calls ++ ·) hcalls⟩

/-- A run that ends makes the calls of its moves and leaves the console that they leave. -/
theorem run_moves {config : Config} {fuel : Nat} {r : Report ι δ σ Stop}
    (h : run config fuel c = some r) :
    r.console = c.moved (c.requestMoves (.run config fuel)) ∧
      r.calls = c.callsOf (c.requestMoves (.run config fuel)) := by
  obtain ⟨rest, hloop, rfl⟩ := Option.map_eq_some_iff.mp h
  obtain ⟨hconsole, hcalls⟩ := loop_moves hloop
  exact ⟨hconsole, hcalls⟩

/-! ### A tone that fails now and then -/

theorem honest_fickleTone (t : FickleTone) : Honest t (·.tone.beeps) := by
  intro turns on
  cases hf : (turned t turns).fails (turned t turns).calls <;> cases on <;>
    simp [turn, SoundDevice.beep, SoundDevice.stop, isBeeping, isOk, hf]

/-! ### The edges -/

/-- EDGES: whatever frames and runs a console is asked for, and whichever calls to its tone fail,

    * the calls to begin and to end that succeed alternate, from what the tone said before, and
      each beginning was counted;
    * after a frame that goes on the tone is on exactly if the sound timer runs, after one that
      stops at a fault it is off, and one that was asked to quit, or in which the input or the
      display failed, did not reach it;
    * in a stretch of frames that go on and leave the sound timer running, with no run ended among
      them, the tone begins in the first frame, unless it was on, and is not called again.

A run that ends has made the calls of its moves and left the console that they leave. -/
theorem tone_edges (h : Honest c.sound count) (requests : List Request) :
    let ms := c.moves requests
    (Alternates (isBeeping c.sound) (turnsOf (c.callsOf ms)) ∧
      count (c.moved ms).sound = count c.sound + (turnsOf (c.callsOf ms)).count true) ∧
    (∀ before after, ms = before ++ .frame :: after →
      let now := c.moved before
      (now.frame.result = .ok none → isBeeping now.frame.console.sound =
        decide (0 < now.frame.console.machine.soundTimer.toNat)) ∧
      (∀ f, now.frame.result = .ok (some (.fault f)) →
        isBeeping now.frame.console.sound = false) ∧
      (now.frame.result = .ok (some .quit) ∨ .update false ∈ now.frame.calls ∨
          (∃ g, .draw g false ∈ now.frame.calls) →
        now.frame.console.sound = now.sound ∧ turnsOf now.frame.calls = [])) ∧
    (∀ before after n, ms = before ++ List.replicate (n + 1) .frame ++ after →
      let now := c.moved before
      (∀ j ≤ n, (frames j now).frame.result = .ok none ∧
        0 < (frames (j + 1) now).machine.soundTimer.toNat) →
      ∀ j ≤ n, (frames j now).frame.calls =
        [.update true, .draw (frames (j + 1) now).machine.grid true] ++
          if j = 0 ∧ isBeeping now.sound = false then [.beep true] else []) ∧
    ∀ config fuel r, run config fuel c = some r →
      r.console = c.moved (c.moves [.run config fuel]) ∧
        r.calls = c.callsOf (c.moves [.run config fuel]) := by
  have hactive (m : Machine) : m.toneActive = decide (0 < m.soundTimer.toNat) := rfl
  intro ms
  have htold := told_moved h ms
  refine ⟨⟨htold.alternates, htold.count⟩, ?_, ?_, ?_⟩
  · intro before after _ now
    have hnow : Honest now.sound count := honest_moved h before
    exact ⟨fun hgo => (isBeeping_of_none hnow hgo).trans (hactive _),
      fun f hs => isBeeping_of_fault hnow hs, sound_of_unreached⟩
  · intro before after n _ now hgo j hj
    have hnow : Honest now.sound count := honest_moved h before
    exact calls_of_stretch hnow (fun i hi => by simpa [hactive] using hgo i hi) hj
  · intro config fuel r hr
    simpa [moves] using run_moves hr

/-- A program starts the sound timer, and the first call to the tone fails. The tone begins in the
frame after that, goes on sounding into a run, and ends with it. -/
theorem tone_edges_second_try :
    let machine := ((Machine.powerOn (.ofSeed 0)).load [0x60, 0x05, 0xf0, 0x18, 0x12, 0x04]).machine
    let c : Console HeldKeys FrameCounter FickleTone :=
      ⟨machine, { keys := [] }, {}, { fails := (· == 0) }⟩
    let requests : List Request := [.frame, .frame, .frame, .run { maxCycles := some 2 } 3]
    let ms := c.moves requests
    let now := c.moved [.frame, .frame]
    Honest c.sound (·.tone.beeps) ∧
      ms = [.frame, .frame] ++ List.replicate (2 + 1) .frame ++ [.silence] ∧
      turnsOf (c.callsOf ms) = [true, false] ∧ Alternates false (turnsOf (c.callsOf ms)) ∧
      (c.moved ms).sound.tone.beeps = 1 ∧ isBeeping now.frame.console.sound = true ∧
      (frames 0 now).frame.calls = [.update true, .draw (frames 1 now).machine.grid true, .beep true] ∧
      (frames 2 now).frame.calls = [.update true, .draw (frames 3 now).machine.grid true] := by
  intro machine c requests ms now
  have hhonest : Honest c.sound (·.tone.beeps) := honest_fickleTone _
  obtain ⟨hms, hturns, hsilent, hgo⟩ :
      ms = [.frame, .frame] ++ List.replicate (2 + 1) .frame ++ [.silence] ∧
      turnsOf (c.callsOf ms) = [true, false] ∧ isBeeping now.sound = false ∧
      ∀ j ≤ 2, (frames j now).frame.result = .ok none ∧
        0 < (frames (j + 1) now).machine.soundTimer.toNat := by decide +kernel
  obtain ⟨⟨halternates, hcount⟩, hframe, hstretch, -⟩ := tone_edges hhonest requests
  have hcalls := hstretch [.frame, .frame] [.silence] 2 hms hgo
  refine ⟨hhonest, hms, hturns, halternates, ?_, ?_, ?_, ?_⟩
  · rw [hcount, hturns]
    rfl
  · rw [(hframe [.frame, .frame] _ hms).1 (hgo 0 (by decide)).1]
    exact decide_eq_true (hgo 0 (by decide)).2
  · rw [hcalls 0 (by decide), if_pos ⟨rfl, hsilent⟩]
    rfl
  · rw [hcalls 2 (by decide), if_neg (by simp)]
    rfl

end Chip8.Console
