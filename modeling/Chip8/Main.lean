import Chip8.Command.Session
import Chip8.Terminal.Typing

/-! The command: reads the program and what is typed, shows the screen, and keeps the pace. -/

namespace Chip8.Command

open Console (Event Stop)
open Terminal (HostEvent Keyboard Picture)

/-- What is found at a path. -/
def fileAt (path : String) : IO File := do
  try
    return .bytes (← IO.FS.readBinFile path).toList
  catch
    | .noFileOrDirectory .. => return .missing
    | .inappropriateType .. => return .directory
    | e => return .refused (.other (toString e))

/-- A source of random bytes that no two sessions share. -/
def entropy : IO Random := do
  let bytes ← IO.getRandomBytes 32
  let word (k : Nat) : UInt32 :=
    ((bytes.toList.drop (4 * k)).take 4).foldl (fun w b => w <<< 8 ||| b.toUInt32) 0
  return ⟨Vector.ofFn fun k => word k.val, 0⟩

/-- Bytes on their way from the terminal. -/
abbrev Incoming := Task (Except IO.Error ByteArray)

/-- Begin to read what is typed next. -/
def listen : IO Incoming := do
  let input ← IO.getStdin
  IO.asTask (input.read 64)

/-- What was typed, if anything was, and the reading to wait for next; none after the end. -/
def typed (incoming : Option Incoming) : IO (List HostEvent × Option Incoming) := do
  match incoming with
  | none => return ([], none)
  | some task =>
    if ← IO.hasFinished task then
      match task.get with
      | .ok bytes =>
        if bytes.isEmpty then return ([], none)
        let chars := ((String.fromUTF8? bytes).getD "").toList
        return (HostEvent.ofChars chars, some (← listen))
      | .error _ => return ([], none)
    else return ([], some task)

/-- Show what a frame did: the picture if it was drawn, and the bell if a tone began. -/
def showFrame {σ : Type} (speaker : Bool) (d : Desk σ) (calls : List Console.DeviceCall) :
    IO Unit := do
  let output ← IO.getStdout
  for call in calls do
    match call with
    | .draw .. => output.putStr ("\x1b[H" ++ "\r\n".intercalate d.display.lines)
    | .beep true => if speaker then output.putStr "\x07"
    | _ => pure ()
  output.flush

/-- Run frames at the pace of the options, reading what is typed before each. -/
partial def play {σ : Type} [Console.SoundDevice σ] (options : Options) (incoming : Option Incoming)
    (done : Nat) (log : List Event) (d : Desk σ) :
    IO (Console.Report Keyboard Picture σ Stop) := do
  let (events, incoming) ← typed incoming
  let r := { d with input := d.input.type events }.pass options.maxCycles done
  showFrame options.beep r.console r.calls
  let log := log ++ r.log.filter fun e => e.level = .error
  match r.result with
  | .error e => return ⟨.error e, r.console, [], log⟩
  | .ok (some stop) => return (r.console.finish done stop).preceded [] log
  | .ok none =>
    IO.sleep (1000 / options.hz).toUInt32
    play options incoming (done + 1) log r.console

/-- Run a machine at the terminal. -/
def perform {σ : Type} [Console.SoundDevice σ] (sound : σ) (options : Options) (machine : Machine) :
    IO Ending := do
  let output ← IO.getStdout
  output.putStr "\x1b[?1049h\x1b[?25l\x1b[2J"
  let r ← play options (some (← listen)) 0 [] (desk sound options machine)
  output.putStr "\x1b[?25h\x1b[?1049l"
  output.flush
  return .ofReport options.path r

/-- Carry out what the command line asks for, and answer with the exit status. -/
def execute (arguments : List String) : IO UInt32 := do
  match Invocation.ofArguments arguments with
  | .error e =>
    IO.eprintln ("error: " ++ e.message ++ "\n\n" ++ usage)
    return 2
  | .ok .help =>
    IO.println usage
    return 0
  | .ok (.run options) =>
    let ending ← match load (← fileAt options.path) (← entropy) with
      | .error f => pure (.unopened f)
      | .ok machine =>
        if options.beep then perform ({} : Console.Speaker) options machine
        else perform ({} : Console.SilentTone) options machine
    for line in ending.errors do
      IO.eprintln line
    return .ofNat ending.status

end Chip8.Command

/-- The entry point. -/
def main (arguments : List String) : IO UInt32 := Chip8.Command.execute arguments
