import Chip8.Console.Frame

/-! Frames until something stops them: a quit, the limit on cycles, a fault, or a device that fails.

    The limit is checked before the input is read. After a stop the tone is silenced and the run
    reports how many frames ran to their end; a device that fails ends the run at once. A run
    without a limit may go on for ever, so the loop takes fuel, one unit for each pass, and answers
    `none` when it runs out. -/

namespace Chip8.Console

/-- How a console runs. -/
structure Config where
  /-- Cycles a second, and so frames and ticks of the timers. -/
  hz : Float := 60
  /-- Stop after this many cycles. -/
  maxCycles : Option Nat := none

variable {ι δ σ : Type} [InputDevice ι] [DisplayDevice δ] [SoundDevice σ]

/-- Begin with earlier calls and reports. -/
def Report.preceded {α : Type} (r : Report ι δ σ α) (calls : List DeviceCall) (log : List Event) :
    Report ι δ σ α :=
  { r with calls := calls ++ r.calls, log := log ++ r.log }

/-- One pass of the loop after `done` frames: stop at the limit, or run a frame. -/
def pass (limit : Option Nat) (done : Nat) (c : Console ι δ σ) : Report ι δ σ (Option Stop) :=
  if limit = some done then ⟨.ok (some .cycleLimit), c, [], []⟩ else c.frame

/-- Silence the tone after a stop, and report how many frames were done. -/
def finish (c : Console ι δ σ) (done : Nat) (stop : Stop) : Report ι δ σ Stop :=
  let g := gate false c.sound
  let c := { c with sound := g.device }
  match g.result with
  | .error e => ⟨.error e, c, g.calls, []⟩
  | .ok _ => ⟨.ok stop, c, g.calls, [.stopped done stop]⟩

/-- Pass after pass until one stops or fails, with `done` frames behind. -/
def loop (limit : Option Nat) : Nat → Nat → Console ι δ σ → Option (Report ι δ σ Stop)
  | 0, _, _ => none
  | fuel + 1, done, c =>
    let r := c.pass limit done
    match r.result with
    | .error e => some ⟨.error e, r.console, r.calls, r.log⟩
    | .ok (some stop) => some ((r.console.finish done stop).preceded r.calls r.log)
    | .ok none => (loop limit fuel (done + 1) r.console).map fun rest => rest.preceded r.calls r.log

/-- Run frames until something stops them. -/
def run (config : Config) (fuel : Nat) (c : Console ι δ σ) : Option (Report ι δ σ Stop) :=
  (loop config.maxCycles fuel 0 c).map fun r => r.preceded [] [.running config.hz]

end Chip8.Console
