import Chip8.Command.Options
import Chip8.Console.Bench
import Chip8.Console.Loop
import Chip8.Machine.Load

/-! A whole session of the command: load the program, run it at a terminal, and say how it went.

    A program that cannot be loaded ends the session before the display is opened. Of what is
    reported during the run only errors are shown. A fault is shown when it happens, again with the
    path of the program, and once more as the reason why the command failed. -/

namespace Chip8.Command

open Console (Event Stop)
open Terminal (HostEvent Keyboard Picture)

/-- What is found at a path. -/
inductive File
  | missing
  | directory
  | bytes (data : List UInt8)
  /-- Something that cannot be opened. -/
  | refused (error : ReadError)
  deriving DecidableEq, Repr

/-- Why a session failed. -/
inductive Failure
  /-- The file could not be opened. -/
  | opening (error : ReadError)
  | loading (error : LoadError)
  | running (fault : Fault)
  | device (error : Console.DeviceError)
  deriving DecidableEq, Repr

/-- The structural text of a failure. -/
def Failure.inspect : Failure → String
  | opening e => e.inspect
  | loading e => e.inspect
  | running f => f.inspect
  | device e => Text.labelled "DeviceError" [("reason", "\"" ++ e.reason ++ "\"")]

/-- Open a file: a directory opens, and fails when it is read. -/
def File.open? : File → Except ReadError ByteSource
  | missing => .error .notFound
  | directory => .ok [.failure .isADirectory]
  | bytes data => .ok [.bytes data]
  | refused e => .error e

/-- How a session ended: what failed, the lines written to the error output, and the last picture
shown unless the display was never opened. -/
structure Ending where
  failure : Option Failure
  errors : List String
  screen : Option Picture

/-- The exit status of the command. -/
def Ending.status (e : Ending) : Nat := if e.failure.isSome then 1 else 0

/-- An error as the log writes it. -/
def errorLine (text : String) : String := "ERROR: " ++ text

/-- The line that ends a command that failed. -/
def failureLine (f : Failure) : String := "Error: " ++ f.inspect

/-- The lines of the reports that are errors. -/
def errorLines (log : List Event) : List String :=
  (log.filter fun e => e.level = .error).map fun e => errorLine e.text

/-- The console of a session. -/
abbrev Desk (σ : Type) := Console Keyboard Picture σ

/-- A machine that holds the program in a file, or why there is none. -/
def load (file : File) (random : Random) : Except Failure Machine := do
  let source ← file.open?.mapError .opening
  let o := (Machine.powerOn random).loadFrom source
  match o.result with
  | .ok _ => .ok o.machine
  | .error e => .error (.loading e)

/-- How a session ends with nothing but a failure to load. -/
def Ending.unopened (f : Failure) : Ending := ⟨some f, [failureLine f], none⟩

/-- The lines and the failure that a run at the terminal ends with. -/
def Ending.ofReport {σ : Type} (path : String) (r : Console.Report Keyboard Picture σ Stop) :
    Ending :=
  let screen := some r.console.display
  match r.result with
  | .error e => ⟨some (.device e), errorLines r.log ++ [failureLine (.device e)], screen⟩
  | .ok (.fault f) =>
    ⟨some (.running f),
      errorLines r.log ++ [errorLine (path ++ ": " ++ f.message), failureLine (.running f)], screen⟩
  | .ok _ => ⟨none, errorLines r.log, screen⟩

/-- A machine at a blank terminal with a tone. -/
def desk {σ : Type} (sound : σ) (options : Options) (machine : Machine) : Desk σ :=
  ⟨machine, Keyboard.idle options.keyHold, Picture.blank, sound⟩

/-- Run a machine at a terminal with a tone, with keys typed beforehand. -/
def runWith {σ : Type} [Console.SoundDevice σ] (sound : σ) (options : Options) (machine : Machine)
    (typed : List HostEvent) (fuel : Nat) : Option Ending :=
  let d := desk sound options machine
  let d := { d with input := d.input.type typed }
  (d.run ⟨options.hz, options.maxCycles⟩ fuel).map (Ending.ofReport options.path)

/-- A whole session; `none` if it takes more passes than there is fuel. -/
def session (options : Options) (file : File) (random : Random) (typed : List HostEvent)
    (fuel : Nat) : Option Ending :=
  match load file random with
  | .error f => some (.unopened f)
  | .ok machine =>
    if options.beep then runWith ({} : Console.Speaker) options machine typed fuel
    else runWith ({} : Console.SilentTone) options machine typed fuel

end Chip8.Command
