import Mathlib.Tactic
import Chip8.Command.Rehearsal
import Chip8.Proofs.Bench
import Chip8.Proofs.Latch
import Chip8.Proofs.Picture
import Chip8.Proofs.Queue
import Chip8.Proofs.Twin

/-! How a SESSION of the command ends is told by a run of its machine with other devices.

    The machine of a session has a source of random bytes that nobody knows, but a run that draws
    nothing is that of its twin. What the command writes is read off the reports of the run, of which
    only the fault that stops it is an error (`errorLines_loop`), and what it shows is the frame that
    the run showed last (`shows_shown`). -/

namespace Chip8.Command

open Console (Event Stop Report framesOf lastShown? Drawless Works works_induction)
open Terminal (HostEvent Keyboard Picture)

variable {δ σ : Type}

/-! ### Lines -/

/-- The lines that a run writes about why it ended, if it has. -/
def haltingLines : Option Stop → List String
  | some (.fault f) => ["ERROR: halted: " ++ f.message]
  | _ => []

theorem errorLines_append (log log' : List Event) :
    errorLines (log ++ log') = errorLines log ++ errorLines log' := by
  simp [errorLines]

theorem errorLine_halted (f : Fault) :
    errorLine (Machine.Event.halted f).text = "ERROR: halted: " ++ f.message := by
  rw [errorLine, Machine.Event.text, ← String.append_assoc]
  rfl

/-- A cycle of a running machine writes a line about the fault that it meets. -/
theorem errorLines_cycle {m : Machine} (hm : m.fault = none) :
    errorLines (m.cycle.log.map .machine) = haltingLines (Console.stopOf m.cycle.result) := by
  have hannounced : errorLines (m.announced.map .machine) = [] := by
    rcases Machine.announced_cases m with ha | ⟨w, i, ha⟩
    · rw [ha]
      rfl
    · rw [ha]
      rfl
  rw [Machine.log_cycle hm, List.map_append, errorLines_append, hannounced, List.nil_append]
  cases m.cycle.result with
  | ok _ => rfl
  | error f => exact congrArg ([·]) (errorLine_halted f)

/-- What a keyboard reports is no error. -/
theorem errorLines_update (k : Keyboard) (keypad : Keypad) :
    errorLines (Console.InputDevice.update k keypad).log = [] := by
  simp [errorLines, Console.InputDevice.update, Event.level]

/-- The lines and the status of a session are those of the stop of its run. -/
theorem tellsOf_ofReport {path : String} {stop : Stop} {r : Report Keyboard Picture σ Stop}
    (hr : r.result = .ok stop) (hlines : errorLines r.log = haltingLines (some stop)) :
    (Ending.ofReport path r).TellsOf path stop := by
  rw [Ending.ofReport, hr, hlines]
  cases stop with
  | fault f => exact ⟨rfl, rfl⟩
  | quit => exact ⟨rfl, rfl⟩
  | cycleLimit => exact ⟨rfl, rfl⟩

/-! ### The screen -/

/-- A terminal shows the frame that it was given last. -/
theorem shows_shown (p : Picture) {frames : List Grid} {g : Grid}
    (h : frames.getLast? = some g) : (Console.DisplayDevice.shown p frames).Shows g := by
  obtain ⟨before, rfl⟩ := List.getLast?_eq_some_iff.mp h
  have hdraw (p : Picture) : Console.DisplayDevice.draw p g = (.ok (), p.draw g) := rfl
  have hshown := Picture.shows_draw (Console.DisplayDevice.shown p before) g
  simpa only [Console.DisplayDevice.shown, List.foldl_concat, hdraw] using hshown

/-- A session shows the frame that its run showed last, on a terminal that was blank. -/
theorem showsLast_ofReport (path : String) {r : Report Keyboard Picture σ Stop}
    (h : r.console.display = Console.DisplayDevice.shown Picture.blank (framesOf r.calls)) :
    (Ending.ofReport path r).ShowsLast (lastShown? r.calls) := by
  have hscreen : (Ending.ofReport path r).screen = some r.console.display := by
    rw [Ending.ofReport]
    split <;> rfl
  cases hlast : lastShown? r.calls with
  | none =>
    rw [List.getLast?_eq_none_iff.mp hlast] at h
    exact hscreen.trans (congrArg some h)
  | some g =>
    refine ⟨_, hscreen, ?_⟩
    rw [h]
    exact shows_shown Picture.blank hlast

/-! ### The lines of a run -/

variable [Console.DisplayDevice δ] [Console.SoundDevice σ]
variable {c : Console Keyboard δ σ} {r : Report Keyboard δ σ Stop}
variable {limit : Option Nat} {fuel done : Nat}

theorem errorLines_frame (hw : c.Works) (hm : c.machine.fault = none) {s : Option Stop}
    (h : c.frame.result = .ok s) : errorLines c.frame.log = haltingLines s := by
  rcases Console.update_cases hw with hu | hu
  · rw [Console.frame_of_quit hu] at h ⊢
    cases h
    exact errorLines_update c.input c.machine.keypad
  · rw [Console.frame_of_cycle hw hu] at h ⊢
    cases h
    have hcycle := errorLines_cycle (m := c.polled.machine) hm
    rw [errorLines_append, errorLines_update, hcycle, List.nil_append]

theorem errorLines_pass (hw : c.Works) (hm : c.machine.fault = none) {s : Option Stop}
    (h : (c.pass limit done).result = .ok s) :
    errorLines (c.pass limit done).log = haltingLines s := by
  by_cases hl : limit = some done
  · rw [Console.pass_of_limit hl] at h ⊢
    cases h
    rfl
  · rw [Console.pass_of_ne hl] at h ⊢
    exact errorLines_frame hw hm h

/-- A run of a machine that is not stopped yet ends in a stop, and the only error that it reports is
the fault that it stops with. -/
theorem errorLines_loop (hw : c.Works) (h : Console.loop limit fuel done c = some r)
    (hm : c.machine.fault = none) :
    ∃ stop, r.result = .ok stop ∧ errorLines r.log = haltingLines (some stop) := by
  refine works_induction (P := fun _ c r => c.machine.fault = none →
    ∃ stop, r.result = .ok stop ∧ errorLines r.log = haltingLines (some stop)) ?_ ?_ hw h hm
  · intro done c stop hw hs hm
    refine ⟨stop, rfl, ?_⟩
    rw [errorLines_append, errorLines_pass hw hm hs]
    exact List.append_nil _
  · intro done c r hw _ hgo ih hm
    obtain ⟨hcycle, -, hconsole⟩ := Console.frame_of_none hgo
    have hm' : c.frame.console.machine.fault = none := by
      rw [hconsole]
      exact Machine.fault_cycle_of_ok hcycle
    obtain ⟨stop, hresult, hlines⟩ := ih hm'
    refine ⟨stop, hresult, ?_⟩
    rw [Report.preceded, errorLines_append, errorLines_frame hw hm hgo, hlines]
    rfl

/-! ### The session -/

theorem contents_bytes (rom : List UInt8) : ByteSource.contents [.bytes rom] = .ok rom := by
  cases rom <;> simp [ByteSource.contents, Except.map]

/-- A program that fits is run as it is rehearsed with the devices of the terminal. -/
theorem session_of_le {options : Options} (hbeep : options.beep = false) {rom : List UInt8}
    (hfits : rom.length ≤ 3584) (random : Random) (typed : List HostEvent) (fuel : Nat) :
    session options (.bytes rom) random typed fuel =
      ((rehearsal options rom typed random Picture.blank ({} : Console.SilentTone)).run
        ⟨options.hz, options.maxCycles⟩ fuel).map (Ending.ofReport options.path) := by
  have hload : load (.bytes rom) random = .ok ((Machine.powerOn random).load rom).machine := by
    rw [load, File.open?]
    simp only [Except.mapError, bind, Except.bind, Machine.loadFrom_of_le (contents_bytes rom) hfits]
  simp only [session, hload, hbeep, Bool.false_eq_true, if_false]
  rfl

theorem session_of_gt (options : Options) {rom : List UInt8} (hlong : 3584 < rom.length)
    (random : Random) (typed : List HostEvent) (fuel : Nat) :
    session options (.bytes rom) random typed fuel =
      some (.unopened (.loading (.fault (.addressOutOfRange 512 rom.length)))) := by
  have hload : load (.bytes rom) random =
      .error (.loading (.fault (.addressOutOfRange 512 rom.length))) := by
    rw [load, File.open?]
    simp only [Except.mapError, bind, Except.bind, Machine.loadFrom_of_gt (contents_bytes rom) hlong]
    rfl
  rw [session, hload]

/-- The line of a program that is too long. -/
theorem failureLine_tooLong (len : Nat) :
    failureLine (.loading (.fault (.addressOutOfRange 512 len))) =
      "Error: Fault(AddressOutOfRange \x7b addr: 512, len: " ++ Text.decimal len ++ " \x7d)" := by
  have hline : failureLine (.loading (.fault (.addressOutOfRange 512 len))) =
      "Error: " ++ ("Fault" ++ "(" ++ ("AddressOutOfRange" ++ " \x7b " ++ ("addr" ++ ": " ++
        Text.decimal 512 ++ ", " ++ ("len" ++ ": " ++ Text.decimal len)) ++ " \x7d") ++ ")") := rfl
  have hend : (" \x7d)" : String) = " \x7d" ++ ")" := rfl
  rw [hline, hend]
  simp only [← String.append_assoc]
  rfl

/-- The first update of a keyboard quits if a key was typed that asks to. -/
theorem update_typed (hold : Nat) (typed : List HostEvent) (keypad : Keypad) :
    (Console.InputDevice.update ((Keyboard.idle hold).type typed) keypad).result = .ok .quit ↔
      typed.any HostEvent.quits = true := by
  have hcontrol := Keyboard.control_read hold (Keyboard.idle hold).held typed
  show Except.ok (Keyboard.read hold (Keyboard.idle hold).held ([] ++ typed)).control = _ ↔ _
  rw [List.nil_append, hcontrol]
  cases typed.any HostEvent.quits <;> simp

section Rehearsal

variable {options : Options} {rom : List UInt8} {typed : List HostEvent} {random random' : Random}
variable {display : δ} {sound : σ}

theorem works_rehearsal (hdisplay : Console.DisplayDevice.Works display)
    (hsound : Console.SoundDevice.Works sound) :
    (rehearsal options rom typed random display sound).Works :=
  ⟨fun _ => ⟨_, rfl⟩, hdisplay, hsound⟩

/-- A rehearsal is a twin of the session. -/
theorem twin_rehearsal (hdisplay : Console.DisplayDevice.Works display)
    (hsound : Console.SoundDevice.Works sound) :
    Console.Twin random (rehearsal options rom typed random' display sound)
      (rehearsal options rom typed random Picture.blank ({} : Console.SilentTone)) where
  works := works_rehearsal hdisplay hsound
  works' := works_rehearsal (fun _ _ => rfl) (Console.works_silentTone ⟨rfl, rfl⟩)
  machine := congrArg Outcome.machine (Machine.load_reseeded (Machine.powerOn random') random rom)
  input := rfl

end Rehearsal

/-- SESSION: a program that does not fit ends the command with one line, before the display is
opened. One that fits is run, without the speaker, as it is rehearsed with any source of random bytes,
any display and any tone that do not fail, provided that the rehearsal ends without a draw of a
random byte. The status and the lines are those of the reason why the rehearsal stopped. The screen
shows the frame that was shown last, also if its cycle failed, which the machine is left with; and
it is blank if the limit is zero or a key was typed that asks to quit. -/
theorem session_outcome (options : Options) (hbeep : options.beep = false) (rom : List UInt8)
    (typed : List HostEvent) (random : Random) :
    (3584 < rom.length → ∀ fuel, ∃ e, session options (.bytes rom) random typed fuel = some e ∧
      e.screen = none ∧ e.status = 1 ∧
      e.errors = ["Error: Fault(AddressOutOfRange \x7b addr: 512, len: " ++
        Text.decimal rom.length ++ " \x7d)"]) ∧
    (rom.length ≤ 3584 → ∀ (random' : Random) (display : δ) (sound : σ),
      Console.DisplayDevice.Works display → Console.SoundDevice.Works sound →
      ∀ fuel r, (rehearsal options rom typed random' display sound).run
          ⟨options.hz, options.maxCycles⟩ fuel = some r → Drawless r.log →
        ∃ stop e, r.result = .ok stop ∧ session options (.bytes rom) random typed fuel = some e ∧
          e.TellsOf options.path stop ∧ e.ShowsLast (lastShown? r.calls) ∧
          (∀ g, lastShown? r.calls = some g → g = r.console.machine.grid) ∧
          (lastShown? r.calls = none ↔
            options.maxCycles = some 0 ∨ typed.any HostEvent.quits = true)) := by
  constructor
  · intro hlong fuel
    refine ⟨_, session_of_gt options hlong random typed fuel, rfl, rfl, ?_⟩
    rw [Ending.unopened, failureLine_tooLong]
  · intro hfits random' display sound hdisplay hsound fuel r hrun hdrawless
    have htwin : Console.Twin random (rehearsal options rom typed random' display sound) _ :=
      twin_rehearsal hdisplay hsound
    have hfault : (rehearsal options rom typed random' display sound).machine.fault = none := by
      rw [rehearsal, Machine.load_of_le hfits]
      rfl
    have hquit := update_typed options.keyHold typed
      (rehearsal options rom typed random' display sound).machine.keypad
    rw [Console.run_eq, Option.map_eq_some_iff] at hrun
    obtain ⟨r, hloop, rfl⟩ := hrun
    obtain ⟨-, hdrawless⟩ := Console.drawless_append.mp hdrawless
    obtain ⟨stop, hstop, hlines⟩ := errorLines_loop htwin.works hloop hfault
    obtain ⟨r', hloop', hagree⟩ := Console.loop_twin htwin hloop hdrawless
    have hgrid := (Console.recorded_loop htwin.works hloop).grid
    have hdisplay' := (Console.recorded_loop htwin.works' hloop').display
    have hnone := Console.framesOf_loop_eq_nil htwin.works hloop
    refine ⟨stop, Ending.ofReport options.path (r'.preceded [] [.running options.hz]), hstop,
      ?_, ?_, ?_, ?_, ?_⟩
    · rw [session_of_le hbeep hfits, Console.run_eq, hloop']
      rfl
    · have hlines' : errorLines (r'.preceded [] [.running options.hz]).log =
          haltingLines (some stop) := by
        rw [Report.preceded, errorLines_append, hagree.log, hlines]
        rfl
      exact tellsOf_ofReport (hagree.result.trans hstop) hlines'
    · have hlast : lastShown? r'.calls = lastShown? r.calls :=
        congrArg List.getLast? hagree.frames
      show Ending.ShowsLast _ (lastShown? r.calls)
      rw [← hlast]
      exact showsLast_ofReport options.path hdisplay'
    · intro g hlast
      have hlast : lastShown? r.calls = some g := hlast
      rw [hlast] at hgrid
      exact hgrid.symm
    · exact List.getLast?_eq_none_iff.trans (hnone.trans (or_congr_right hquit))

/-- A program that draws a `0` and then returns without a call: the session says so three times, and
shows the `0` in its corner although its last cycle failed. -/
theorem session_outcome_underflow :
    let options : Options := ⟨"zero.ch8", 60, none, false, 6⟩
    let rom : List UInt8 := [0xa0, 0x50, 0xd0, 0x05, 0x00, 0xee]
    let typed : List HostEvent := [.press (.char 'p') false, .press (.char 'w') false]
    let c := rehearsal options rom typed (.ofSeed 1) ({} : Console.FrameCounter)
      ({} : Console.SilentTone)
    let text := "stack underflow: RET at pc 0x204 with an empty stack"
    ∃ r e p, c.run ⟨options.hz, options.maxCycles⟩ 3 = some r ∧
      r.result = .ok (.fault (.stackUnderflow 0x204)) ∧ Drawless r.log ∧
      session options (.bytes rom) (.ofSeed 2) typed 3 = some e ∧ e.status = 1 ∧
      e.errors = ["ERROR: halted: " ++ text, "ERROR: zero.ch8: " ++ text,
        "Error: StackUnderflow \x7b pc: 516 \x7d"] ∧
      e.screen = some p ∧ p.tile 1 1 = .lit := by
  intro options rom typed c text
  have hrun : (c.run ⟨options.hz, options.maxCycles⟩ 3).map (fun r =>
      (r.result, r.log.all fun e => !e.draws, (lastShown? r.calls).map fun g => g.isLit 0 0)) =
      some (.ok (.fault (.stackUnderflow 0x204)), true, some true) := by
    decide +kernel
  obtain ⟨r, hr, hfacts⟩ := Option.map_eq_some_iff.mp hrun
  obtain ⟨hresult, hlog, hcorner⟩ : r.result = .ok (.fault (.stackUnderflow 0x204)) ∧
      (r.log.all fun e => !e.draws) = true ∧
      (lastShown? r.calls).map (fun g => g.isLit 0 0) = some true := by
    simpa using hfacts
  have hd : Drawless r.log := by simpa [Drawless] using hlog
  obtain ⟨stop, e, hstop, he, htells, hshows, -⟩ :=
    (session_outcome options rfl rom typed (.ofSeed 2)).2 (by decide) (.ofSeed 1) _ _
      (Console.works_frameCounter rfl) (Console.works_silentTone ⟨rfl, rfl⟩) 3 r hr hd
  obtain rfl : stop = .fault (.stackUnderflow 0x204) :=
    Except.ok.inj (hstop.symm.trans hresult)
  obtain ⟨g, hlast, hlit⟩ := Option.map_eq_some_iff.mp hcorner
  rw [hlast] at hshows
  obtain ⟨p, hscreen, hp⟩ := hshows
  refine ⟨r, e, p, hr, hresult, hd, he, htells.1, htells.2.trans ?_, hscreen, ?_⟩
  · decide
  · rw [hp 1 (by decide) 1 (by decide), Picture.tileOf, if_neg (by decide), if_pos hlit]

end Chip8.Command
