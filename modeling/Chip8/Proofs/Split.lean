import Mathlib.Tactic
import Chip8.Machine.Load
import Chip8.Proofs.Bench
import Chip8.Proofs.Tone

/-! A run that is SPLIT in two is the same run, except for the tone.

    The limit of the first part silences the tone, and the second part begins with everything else
    as it was. So it is beside the whole run from there on: two consoles that differ only in their
    tones answer every frame alike (`frame_beside`). If the tone was on at the split and the next
    frame wants it on, it begins once more than in the whole run (`count_split`). -/

namespace Chip8.Console

open SoundDevice (Stops Sounds Counts isBeeping)

variable {ι δ σ : Type} [SoundDevice σ]
variable {c c' : Console ι δ σ} {R : σ → σ → Prop} {count : σ → Nat} {a b k n : Nat}

/-! ### Consoles that differ in their tones -/

/-- Tones in a relation that no gate breaks, and that a gate answers alike. -/
def Tied (R : σ → σ → Prop) : Prop :=
  ∀ on d d', R d d' →
    (gate on d').result = (gate on d).result ∧ R (gate on d).device (gate on d').device

/-- Consoles that differ in nothing but their tones, which are in relation. -/
structure Beside (R : σ → σ → Prop) (c c' : Console ι δ σ) : Prop where
  machine : c'.machine = c.machine
  input : c'.input = c.input
  display : c'.display = c.display
  sound : R c.sound c'.sound

theorem hushed_beside (hR : Tied R) (h : Beside R c c') : Beside R c.hushed c'.hushed :=
  ⟨h.machine, h.input, h.display, (hR false _ _ h.sound).2⟩

/-- Tones that never fail. -/
def BothWork (d d' : σ) : Prop := SoundDevice.Works d ∧ SoundDevice.Works d'

theorem tied_works : Tied (@BothWork σ _) := by
  rintro on d d' ⟨h, h'⟩
  obtain ⟨hr, hd⟩ := SoundDevice.works_gate h on
  obtain ⟨hr', hd'⟩ := SoundDevice.works_gate h' on
  exact ⟨by rw [hr, hr'], hd, hd'⟩

theorem beside_hushed (h : SoundDevice.Works c.sound) : Beside BothWork c c.hushed :=
  ⟨rfl, rfl, rfl, h, (SoundDevice.works_gate h false).2⟩

variable [DisplayDevice δ]

theorem advance_beside (hR : Tied R) (h : Beside R c c') :
    c'.advance.result = c.advance.result ∧ Beside R c.advance.console c'.advance.console := by
  have hdraw : DisplayDevice.draw c'.display c'.machine.cycle.machine.grid =
      DisplayDevice.draw c.display c.machine.cycle.machine.grid := by
    rw [h.machine, h.display]
  have hdrawn : Beside R c.drawn c'.drawn :=
    ⟨by rw [drawn, drawn, h.machine], h.input, congrArg Prod.snd hdraw, h.sound⟩
  cases hd : (DisplayDevice.draw c.display c.machine.cycle.machine.grid).1 with
  | error e =>
    rw [advance_of_blind hd, advance_of_blind (by rw [hdraw, hd])]
    exact ⟨rfl, hdrawn⟩
  | ok _ =>
    rw [advance_of_drawn hd, advance_of_drawn (by rw [hdraw, hd]), h.machine]
    obtain ⟨hresult, hsound⟩ := hR (toneOf c.machine.cycle) _ _ h.sound
    refine ⟨by rw [hresult], hdrawn.machine, hdrawn.input, hdrawn.display, ?_⟩
    rw [presented, presented, h.machine]
    exact hsound

variable [InputDevice ι]

theorem frame_beside (hR : Tied R) (h : Beside R c c') :
    c'.frame.result = c.frame.result ∧ Beside R c.frame.console c'.frame.console := by
  have hupdate : InputDevice.update c'.input c'.machine.keypad =
      InputDevice.update c.input c.machine.keypad := by
    rw [h.input, h.machine]
  have hpolled : Beside R c.polled c'.polled :=
    ⟨by rw [polled, polled, hupdate, h.machine], by rw [polled, polled, hupdate], h.display, h.sound⟩
  cases hu : (InputDevice.update c.input c.machine.keypad).result with
  | error e =>
    rw [frame_of_error hu, frame_of_error (by rw [hupdate, hu])]
    exact ⟨rfl, hpolled⟩
  | ok control =>
    cases control with
    | quit =>
      rw [frame_of_quit hu, frame_of_quit (by rw [hupdate, hu])]
      exact ⟨rfl, hpolled⟩
    | proceed =>
      rw [frame_of_proceed hu, frame_of_proceed (by rw [hupdate, hu])]
      exact advance_beside hR hpolled

theorem frames_beside (hR : Tied R) (h : Beside R c c') (n : Nat) :
    Beside R (frames n c) (frames n c') := by
  induction n generalizing c c' with
  | zero => exact h
  | succ n ih => exact ih (frame_beside hR h).2

/-- A limit that is as far away makes the same pass. -/
theorem pass_beside (hR : Tied R) (h : Beside R c c') (a b n : Nat) :
    (c'.pass (some b) n).result = (c.pass (some (a + b)) (a + n)).result ∧
      polls (c'.pass (some b) n).calls = polls (c.pass (some (a + b)) (a + n)).calls ∧
      Beside R (c.pass (some (a + b)) (a + n)).console (c'.pass (some b) n).console := by
  by_cases hb : b = n
  · subst hb
    rw [pass_of_limit rfl, pass_of_limit rfl]
    exact ⟨rfl, rfl, h⟩
  · rw [pass_of_ne (by simpa using hb), pass_of_ne (by simpa using hb), polls_frame, polls_frame]
    obtain ⟨hresult, hconsole⟩ := frame_beside hR h
    exact ⟨hresult, rfl, hconsole⟩

/-! ### How often the tone began -/

/-- A tone that works, says whether it is on, and is counted. -/
structure Counted (count : σ → Nat) (d : σ) : Prop where
  works : SoundDevice.Works d
  stops : Stops d
  sounds : Sounds d
  counts : Counts d count

/-- A gate makes the tone begin if it was off and is to be on. -/
theorem count_gate {d : σ} (h : Counts d count) (on : Bool) :
    count (gate on d).device = count d + if on && !isBeeping d then 1 else 0 := by
  rcases SoundDevice.gate_cases on d with ⟨hd, hg⟩ | ⟨hd, call, -, hg⟩
  · rw [hg, hd]
    simp
  · rw [hg, hd]
    cases on with
    | true => exact (h []).1
    | false => exact (h []).2

/-- To silence a tone does not make it begin. -/
theorem count_silenced {d : σ} (h : Counts d count) : count (gate false d).device = count d :=
  count_gate h false

theorem counted_gate {d : σ} (h : Counted count d) (on : Bool) :
    Counted count (gate on d).device ∧ isBeeping (gate on d).device = on := by
  obtain ⟨hresult, hworks⟩ := SoundDevice.works_gate h.works on
  exact ⟨⟨hworks, SoundDevice.stops_gate h.stops on, SoundDevice.sounds_gate h.sounds on,
    SoundDevice.counts_gate h.counts on⟩, SoundDevice.isBeeping_gate h.stops h.sounds hresult⟩

theorem counted_frames (h : Counted count c.sound) (n : Nat) :
    Counted count (frames n c).sound :=
  keeps_frames (P := Counted count) (fun _ on hd => (counted_gate hd on).1) h n

/-- Counted tones, both on or both off, of which the second began some more times. -/
structure Ahead (count : σ → Nat) (extra : Nat) (d d' : σ) : Prop where
  counted : Counted count d
  counted' : Counted count d'
  isBeeping : isBeeping d' = isBeeping d
  count : count d' = count d + extra

theorem tied_ahead (count : σ → Nat) (extra : Nat) : Tied (Ahead count extra) := by
  intro on d d' h
  obtain ⟨hd, hon⟩ := counted_gate h.counted on
  obtain ⟨hd', hon'⟩ := counted_gate h.counted' on
  refine ⟨?_, hd, hd', by rw [hon, hon'], ?_⟩
  · rw [(SoundDevice.works_gate h.counted.works on).1,
      (SoundDevice.works_gate h.counted'.works on).1]
  · rw [count_gate h.counted.counts, count_gate h.counted'.counts, h.count, h.isBeeping]
    omega

/-- A run that ends in the next frame does not begin the tone. -/
theorem count_of_stop {stop : Stop} (h : Counted count c.sound)
    (hs : c.frame.result = .ok (some stop)) :
    count c.frame.console.hushed.sound = count c.sound := by
  have hframe : Counted count c.frame.console.sound := counted_frames h 1
  rw [hushed, count_silenced hframe.counts]
  rcases frame_of_some hs with ⟨-, hc⟩ | ⟨f, -, hc⟩
  · rw [hc]
    rfl
  · rw [hc]
    exact count_silenced h.counts

/-- A frame that goes on begins the tone once more if the tone was silenced while it was on, and
the sound timer still runs. -/
theorem ahead_frame (h : Counted count c.sound) (hgo : c.frame.result = .ok none)
    (hgo' : c.hushed.frame.result = .ok none) :
    Ahead count (if isBeeping c.sound && c.frame.console.machine.toneActive then 1 else 0)
      c.frame.console.sound c.hushed.frame.console.sound := by
  obtain ⟨-, -, hc⟩ := frame_of_none hgo
  obtain ⟨-, -, hc'⟩ := frame_of_none hgo'
  rw [hc, hc']
  show Ahead count (if isBeeping c.sound && c.polled.machine.cycle.machine.toneActive then 1 else 0)
    (gate c.polled.machine.cycle.machine.toneActive c.sound).device
    (gate c.polled.machine.cycle.machine.toneActive (gate false c.sound).device).device
  generalize c.polled.machine.cycle.machine.toneActive = on
  obtain ⟨hoff, hsilent⟩ := counted_gate h false
  obtain ⟨hd, hon⟩ := counted_gate h on
  obtain ⟨hd', hon'⟩ := counted_gate hoff on
  refine ⟨hd, hd', by rw [hon, hon'], ?_⟩
  rw [count_gate hoff.counts, count_gate h.counts, count_gate h.counts, hsilent]
  cases on <;> cases isBeeping c.sound <;> simp

/-- The tone begins once more after a split exactly if it was on there and the next frame goes on
and wants it on. -/
theorem count_split {stop : Stop} (h : Counted count c.sound)
    (hends : c.hushed.Ends (some b) k stop) :
    count ((frames k c.hushed).pass (some b) k).console.hushed.sound =
      count ((frames k c).pass (some (a + b)) (a + k)).console.hushed.sound +
        if isBeeping c.sound = true ∧ 0 < b ∧ c.hushed.frame.result = .ok none ∧
          c.hushed.frame.console.machine.toneActive = true then 1 else 0 := by
  have hoff := (counted_gate h false).1
  obtain ⟨hresult, hconsole⟩ := frame_beside tied_works (beside_hushed h.works)
  cases k with
  | zero =>
    by_cases hb : b = 0
    · subst hb
      rw [frames, frames, pass_of_limit rfl, pass_of_limit rfl, if_neg (by simp)]
      exact count_silenced hoff.counts
    · have hstop := hends.stops
      rw [frames, pass_of_ne (by simpa using hb)] at hstop ⊢
      rw [frames, pass_of_ne (by simpa using hb), if_neg (by simp [hstop]),
        count_of_stop hoff hstop, count_of_stop h (hresult.symm.trans hstop)]
      exact count_silenced h.counts
  | succ k =>
    have hfirst := hends.goes 0 (Nat.succ_pos k)
    have hb : 0 < b := by
      refine Nat.pos_of_ne_zero fun h0 => (pass_of_none hfirst).1 ?_
      rw [h0]
    have hgo' : c.hushed.frame.result = .ok none := frame_of_pass hfirst
    have hahead : Beside (Ahead count _) c.frame.console c.hushed.frame.console :=
      ⟨hconsole.machine, hconsole.input, hconsole.display,
        ahead_frame h (hresult.symm.trans hgo') hgo'⟩
    obtain ⟨-, -, hlast⟩ :=
      pass_beside (tied_ahead count _) (frames_beside (tied_ahead count _) hahead k) a b (k + 1)
    refine (hushed_beside (tied_ahead count _) hlast).sound.count.trans ?_
    congr 1
    rw [hconsole.machine]
    simp [hb, hgo']

/-! ### Two runs and one -/

/-- Frames that go on put an end off. -/
theorem ends_split {stop : Stop} (hgo : ∀ j < a, (frames j c).frame.result = .ok none)
    (h : Beside BothWork (frames a c) c') (hends : c'.Ends (some b) n stop) :
    c.Ends (some (a + b)) (a + n) stop := by
  have hpass (i : Nat) := pass_beside tied_works (frames_beside tied_works h i) a b i
  simp only [← frames_add] at hpass
  constructor
  · intro j hj
    by_cases hja : j < a
    · rw [pass_of_ne (by simp only [ne_eq, Option.some.injEq]; omega)]
      exact hgo j hja
    · obtain ⟨i, rfl⟩ := Nat.exists_eq_add_of_le (Nat.le_of_not_lt hja)
      rw [← (hpass i).1]
      exact hends.goes i (by omega)
  · rw [← (hpass n).1]
    exact hends.stops

/-- SPLIT: with devices that work, a run of `a` frames that its limit stopped and then one of `b`
end as one run of `a + b` does: with the same stop, machine, input and display, after as many
updates, and with the tone off. A counted tone began as often, or once more: namely if it was on
when the first run reached its limit, and the second run has a next frame, which goes on and leaves
the sound timer running. -/
theorem run_split (first second whole : Config) {fuel fuel₂ fuel₃ : Nat} {r₁ : Report ι δ σ Stop}
    (hw : c.Works) (hstops : Stops c.sound) (ha : first.maxCycles = some a)
    (hb : second.maxCycles = some b) (hab : whole.maxCycles = some (a + b))
    (hf₂ : b < fuel₂) (hf₃ : a + b < fuel₃)
    (hr₁ : run first fuel c = some r₁) (hlimit : r₁.result = .ok .cycleLimit) :
    ∃ r₂ r stop, run second fuel₂ r₁.console = some r₂ ∧ run whole fuel₃ c = some r ∧
      r₂.result = .ok stop ∧ r.result = .ok stop ∧
      r₂.console.machine = r.console.machine ∧ r₂.console.input = r.console.input ∧
      r₂.console.display = r.console.display ∧
      polls r₁.calls + polls r₂.calls = polls r.calls ∧
      isBeeping r₂.console.sound = false ∧ isBeeping r.console.sound = false ∧
      ∀ count : σ → Nat, Sounds c.sound → Counts c.sound count →
        count r₂.console.sound = count r.console.sound +
          if isBeeping (frames a c).sound = true ∧ 0 < b ∧ r₁.console.frame.result = .ok none ∧
            r₁.console.frame.console.machine.toneActive = true then 1 else 0 := by
  obtain ⟨hgo, hcut, hpolls₁⟩ := run_of_limit ha hr₁ hlimit
  have hwa := works_frames hw a
  have hbeside := beside_hushed hwa.sound
  have hworks₁ : (frames a c).hushed.Works := ⟨hwa.input, hwa.display, hbeside.sound.2⟩
  have hstops₁ := SoundDevice.stops_gate (stops_frames hstops a) false
  rw [hcut]
  obtain ⟨r₂, hr₂, -⟩ := run_returns hb hf₂ (frames a c).hushed
  obtain ⟨r, hr, -⟩ := run_returns hab hf₃ c
  obtain ⟨stop, hstop₂⟩ := stop_of_works hworks₁ hr₂
  obtain ⟨stop', hstop⟩ := stop_of_works hw hr
  obtain ⟨n, hends₂, hconsole₂, hpolls₂, -⟩ := run_of_stop hr₂ hstop₂
  obtain ⟨k, hends, hconsole, hpolls, -⟩ := run_of_stop hr hstop
  rw [hb] at hends₂ hconsole₂ hpolls₂
  rw [hab] at hends hconsole hpolls
  obtain ⟨rfl, rfl⟩ := ends_unique hends (ends_split hgo hbeside hends₂)
  obtain ⟨-, hcalls, hlast⟩ := pass_beside tied_works (frames_beside tied_works hbeside n) a b n
  rw [frames_add] at hconsole hpolls
  have hend := hushed_beside tied_works hlast
  rw [← hconsole₂, ← hconsole] at hend
  refine ⟨r₂, r, stop', hr₂, hr, hstop₂, hstop, hend.machine, hend.input, hend.display, ?_,
    isBeeping_of_stop hstops₁ hr₂ hstop₂, isBeeping_of_stop hstops hr hstop, ?_⟩
  · rw [hpolls₁, hpolls₂, hpolls, hcalls, Nat.add_assoc]
  · intro count hsounds hcounts
    rw [hconsole₂, hconsole]
    exact count_split (counted_frames ⟨hw.sound, hstops, hsounds, hcounts⟩ a) hends₂

/-- Split while the tone sounds, two frames after a program started it: it begins once more. -/
theorem run_split_sounding :
    let machine := ((Machine.powerOn (.ofSeed 0)).load [0x60, 0x05, 0xf0, 0x18, 0x12, 0x04]).machine
    let c : Console HeldKeys FrameCounter SilentTone := ⟨machine, { keys := [5] }, {}, {}⟩
    c.Works ∧ Stops c.sound ∧ ∃ r₁ r₂ r stop,
      run { maxCycles := some 3 } 4 c = some r₁ ∧ r₁.result = .ok .cycleLimit ∧
      run { maxCycles := some 1 } 2 r₁.console = some r₂ ∧ r₂.result = .ok stop ∧
      run { maxCycles := some 4 } 5 c = some r ∧ r.result = .ok stop ∧
      r₂.console.machine = r.console.machine ∧ r₂.console.display = r.console.display ∧
      polls r.calls = 3 + polls r₂.calls ∧ r₂.console.sound.beeps = r.console.sound.beeps + 1 := by
  intro machine c
  have hinput : InputDevice.Works c.input c.machine.keypad := fun n =>
    ⟨_, (follows_heldKeys (d := { keys := [5] }) rfl c.machine.keypad n).1⟩
  have hw : c.Works := ⟨hinput, works_frameCounter rfl, works_silentTone ⟨rfl, rfl⟩⟩
  have hstops : Stops c.sound := stops_silentTone rfl
  have hrun : (run { maxCycles := some 3 } 4 c).map (fun r => (r.result, r.console.frame.result,
      r.console.frame.console.machine.toneActive)) =
      some (.ok .cycleLimit, .ok none, true) := by decide +kernel
  have hon : isBeeping (frames 3 c).sound = true := by decide +kernel
  obtain ⟨r₁, hr₁, hafter⟩ := Option.map_eq_some_iff.mp hrun
  obtain ⟨hlimit, hnext, htone⟩ : r₁.result = .ok .cycleLimit ∧ r₁.console.frame.result = .ok none ∧
      r₁.console.frame.console.machine.toneActive = true := by simpa using hafter
  obtain ⟨r₂, r, stop, hr₂, hr, hstop₂, hstop, hmachine, -, hdisplay, hpolls, -, -, hcount⟩ :=
    run_split { maxCycles := some 3 } { maxCycles := some 1 } { maxCycles := some 4 } hw hstops
      rfl rfl rfl (show 1 < 2 by decide) (show 3 + 1 < 5 by decide) hr₁ hlimit
  obtain ⟨-, -, hpolls₁⟩ := run_of_limit rfl hr₁ hlimit
  refine ⟨hw, hstops, r₁, r₂, r, stop, hr₁, hlimit, hr₂, hstop₂, hr, hstop, hmachine, hdisplay,
    ?_, ?_⟩
  · rw [← hpolls, hpolls₁]
  · rw [hcount SilentTone.beeps (sounds_silentTone _) (counts_silentTone ⟨rfl, rfl⟩),
      if_pos ⟨hon, by decide, hnext, htone⟩]

end Chip8.Console
