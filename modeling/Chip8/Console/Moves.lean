import Chip8.Console.Conduct
import Chip8.Console.Loop

/-! A console that is asked for frames and for runs, MOVE by move.

    A run is frames and, after a stop, one silencing of the tone; a frame asked for by itself is one
    move. So whatever a console is asked for, it makes a path of these two moves, and what happens
    between two frames can be said without the calls that they belong to. -/

namespace Chip8.Console

open SoundDevice (turn isBeeping)

/-! ### Tones that answer truly -/

namespace SoundDevice

variable {σ : Type} [SoundDevice σ]

/-- A call that succeeds leaves a tone as it was told to be, and counted if it was told to begin; a
call that fails leaves the tone as it was. -/
def Truthful (d : σ) (count : σ → Nat) : Prop :=
  ∀ on,
    if isOk (turn d on).1 then
      isBeeping (turn d on).2 = on ∧ count (turn d on).2 = count d + if on then 1 else 0
    else isBeeping (turn d on).2 = isBeeping d ∧ count (turn d on).2 = count d

/-- Every call to a tone answers truly, whichever of the calls before it failed. -/
def Honest (d : σ) (count : σ → Nat) : Prop := ∀ turns, Truthful (turned d turns) count

end SoundDevice

/-! ### Calls to a tone -/

/-- What a call told the tone, if it is one that succeeded: to begin or to end. -/
def DeviceCall.turn? : DeviceCall → Option Bool
  | beep true => some true
  | stop true => some false
  | _ => none

/-- What the tone was told by the calls that succeeded, in order. -/
def turnsOf (calls : List DeviceCall) : List Bool := calls.filterMap DeviceCall.turn?

/-- Each turn of a tone is the opposite of the one before; the first is the opposite of `on`. -/
def Alternates : Bool → List Bool → Prop
  | _, [] => True
  | on, turn :: rest => turn = !on ∧ Alternates turn rest

/-! ### Moves -/

/-- One thing a console does. -/
inductive Move
  | frame
  /-- Turn the tone off, as a run does after a stop. -/
  | silence
  deriving DecidableEq, Repr

variable {ι δ σ : Type} [InputDevice ι] [DisplayDevice δ] [SoundDevice σ]

/-- The console that a move leaves, and the calls to its devices. -/
def move (c : Console ι δ σ) : Move → Console ι δ σ × List DeviceCall
  | .frame => (c.frame.console, c.frame.calls)
  | .silence => ({ c with sound := (gate false c.sound).device }, (gate false c.sound).calls)

/-- The console after some moves. -/
def moved (c : Console ι δ σ) (moves : List Move) : Console ι δ σ :=
  moves.foldl (fun c m => (c.move m).1) c

/-- The calls to the devices of a console during some moves. -/
def callsOf (c : Console ι δ σ) : List Move → List DeviceCall
  | [] => []
  | m :: rest => (c.move m).2 ++ callsOf (c.move m).1 rest

/-! ### Requests -/

/-- Something asked of a console. -/
inductive Request
  | frame
  | run (config : Config) (fuel : Nat)

/-- The moves of a run with `done` frames behind, as far as its fuel lasts. -/
def runMoves (limit : Option Nat) : Nat → Nat → Console ι δ σ → List Move
  | 0, _, _ => []
  | fuel + 1, done, c =>
    if limit = some done then [.silence]
    else match c.frame.result with
      | .error _ => [.frame]
      | .ok (some _) => [.frame, .silence]
      | .ok none => .frame :: runMoves limit fuel (done + 1) c.frame.console

/-- The moves that a request makes. -/
def requestMoves (c : Console ι δ σ) : Request → List Move
  | .frame => [.frame]
  | .run config fuel => runMoves config.maxCycles fuel 0 c

/-- The moves that requests make, each put to the console that the ones before it left. -/
def moves (c : Console ι δ σ) : List Request → List Move
  | [] => []
  | r :: rest => c.requestMoves r ++ moves (c.moved (c.requestMoves r)) rest

end Chip8.Console
