import Chip8.Command.Session
import Chip8.Console.Calls

/-! A REHEARSAL of a session: the same program and the same keys, typed beforehand, with a source of
    random bytes, a display and a tone of one's own.

    What the session does is then said of what the rehearsal did: which status and which lines the
    command ends with when it stopped, and which screen is shown when it had shown some frame last. -/

namespace Chip8.Command

open Console (Stop)
open Terminal (HostEvent Keyboard Picture)

/-- A machine that holds a program, and a keyboard on which some keys were typed. -/
def rehearsal {δ σ : Type} (options : Options) (rom : List UInt8) (typed : List HostEvent)
    (random : Random) (display : δ) (sound : σ) : Console Keyboard δ σ where
  machine := ((Machine.powerOn random).load rom).machine
  input := (Keyboard.idle options.keyHold).type typed
  display := display
  sound := sound

namespace Ending

/-- The status and the lines of a session whose run stopped for a reason. A fault is told three
times. -/
def TellsOf (e : Ending) (path : String) : Stop → Prop
  | .fault f => e.status = 1 ∧ e.errors =
      ["ERROR: halted: " ++ f.message, "ERROR: " ++ (path ++ ": " ++ f.message),
        "Error: " ++ f.inspect]
  | _ => e.status = 0 ∧ e.errors = []

/-- The screen of a session that showed some frame last, or none. -/
def ShowsLast (e : Ending) : Option Grid → Prop
  | some g => ∃ p, e.screen = some p ∧ p.Shows g
  | none => e.screen = some Picture.blank

end Ending

end Chip8.Command
