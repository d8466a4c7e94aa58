import Chip8.Terminal.Keyboard

/-! A keyboard that is updated again and again while someone types.

    An update CONSUMES the events that wait, in order, up to and including one that asks to quit;
    what comes after that one waits for the next update. So which update a key press belongs to is
    a matter of the events alone: it is said here without the keys that are held. -/

namespace Chip8.Terminal

namespace HostEvent

/-- Whether an event asks to quit: escape, or `c` with the control key. -/
def quits : HostEvent → Bool
  | .press .escape _ => true
  | .press (.char c) control => c == 'c' && control
  | _ => false

/-- Whether a character is a small letter or its capital; a digit is its own. -/
def isLetter (c small : Char) : Bool := c == small || c == small.toUpper

/-- Whether an event is a character that stands for a key of the keypad, and does not ask to quit.
The key is named by the low four bits. -/
def presses (e : HostEvent) (key : UInt8) : Bool :=
  match e with
  | .press (.char c) _ =>
    !e.quits && Keyboard.layout.any fun (small, k) => isLetter c small && nibble k == nibble key
  | _ => false

/-- The line that is logged for an event: of a character that stands for no key, or of a key that is
no character, and in either case does not ask to quit. -/
def line? : HostEvent → Option String
  | .mouse => none
  | .press .escape _ => none
  | .press (.char c) control =>
    if quits (.press (.char c) control) then none
    else if Keyboard.layout.any fun (small, _) => isLetter c small then none
    else some ("can't map " ++ Text.quoted c ++ " to a COSMAC key")
  | .press key _ => some ("ignoring key " ++ key.inspect)

end HostEvent

namespace Keyboard

/-- The events that an update consumes of those that wait. -/
def consumed : List HostEvent → List HostEvent
  | [] => []
  | e :: rest => if e.quits then [e] else e :: consumed rest

/-- A keyboard as it is before an update, with what was typed before each of the updates so far. -/
def awaiting (k : Keyboard) (typed : Nat → List HostEvent) : Nat → Keyboard
  | 0 => k.type (typed 0)
  | t + 1 => (k.awaiting typed t).update.keyboard.type (typed (t + 1))

/-- A keyboard after some updates, with what was typed before each of them. -/
def polled (k : Keyboard) (typed : Nat → List HostEvent) : Nat → Keyboard
  | 0 => k
  | t + 1 => (k.awaiting typed t).update.keyboard

end Keyboard

end Chip8.Terminal
