import Chip8.Keypad
import Chip8.Terminal.Key

/-! A terminal's keyboard as a keypad.

    A terminal reports that a key was pressed and never that it was let go, so a press holds its key
    down for a fixed number of updates. The left-hand side of a keyboard stands for the keypad:

        1 2 3 4        1 2 3 C
        q w e r        4 5 6 D
        a s d f        7 8 9 E
        z x c v        A 0 B F

    An update reads what was typed since the last one, up to a key that asks to quit, and then ages
    every key, also when it was asked to quit. -/

namespace Chip8.Terminal

/-- What whoever runs a machine should do after reading its input. -/
inductive Control
  | proceed
  | quit
  deriving DecidableEq, Repr

/-- A key that a keyboard has no use for. -/
inductive Warning
  /-- A character that stands for no key of the keypad. -/
  | unmapped (c : Char)
  /-- A key that is no character. -/
  | ignored (key : Key)
  deriving DecidableEq, Repr

/-- The text of a warning. -/
def Warning.text : Warning → String
  | unmapped c => "can't map " ++ Text.quoted c ++ " to a COSMAC key"
  | ignored key => "ignoring key " ++ key.inspect

/-- A keyboard: for how many updates a press lasts, how many are left for each key of the keypad,
and what was typed and not read yet. -/
structure Keyboard where
  hold : Nat
  held : Bank Nat
  queue : List HostEvent
  deriving DecidableEq

namespace Keyboard

/-- The characters that stand for keys of the keypad. -/
def layout : List (Char × UInt8) :=
  [('1', 0x1), ('2', 0x2), ('3', 0x3), ('4', 0xc),
   ('q', 0x4), ('w', 0x5), ('e', 0x6), ('r', 0xd),
   ('a', 0x7), ('s', 0x8), ('d', 0x9), ('f', 0xe),
   ('z', 0xa), ('x', 0x0), ('c', 0xb), ('v', 0xf)]

/-- The key of the keypad that a character stands for; capital and small letters are the same. -/
def keyOf? (c : Char) : Option UInt8 := layout.lookup c.toLower

/-- What an event asks for. -/
inductive Meaning
  | quit
  | press (key : UInt8)
  | warn (warning : Warning)
  | nothing
  deriving DecidableEq, Repr

/-- What an event asks for. Escape and control with `c` ask to quit, a character presses its key
whether or not control is held, and other keys are not used. -/
def meaning : HostEvent → Meaning
  | .mouse => .nothing
  | .press .escape _ => .quit
  | .press (.char c) control =>
    if c = 'c' ∧ control then .quit
    else match keyOf? c with
      | some key => .press key
      | none => .warn (.unmapped c)
  | .press key _ => .warn (.ignored key)

/-- A keyboard on which nothing was typed. -/
def idle (hold : Nat) : Keyboard := ⟨hold, Vector.replicate 16 0, []⟩

/-- Add what was typed to what waits to be read. -/
def type (k : Keyboard) (events : List HostEvent) : Keyboard :=
  { k with queue := k.queue ++ events }

/-- What was read: whether a key asked to quit, the updates left for each key, what is still unread,
and the warnings in order. -/
structure Reading where
  control : Control
  held : Bank Nat
  unread : List HostEvent
  warnings : List Warning
  deriving DecidableEq

/-- Read events in order up to one that asks to quit; a press holds its key for `hold` updates. -/
def read (hold : Nat) (held : Bank Nat) : List HostEvent → Reading
  | [] => ⟨.proceed, held, [], []⟩
  | e :: rest =>
    match meaning e with
    | .quit => ⟨.quit, held, rest, []⟩
    | .press key => read hold (held.setEntry key hold) rest
    | .nothing => read hold held rest
    | .warn w =>
      let r := read hold held rest
      { r with warnings := w :: r.warnings }

/-- The keypad with the keys down that are held for one update more at least. -/
def keypadOf (held : Bank Nat) : Keypad := ⟨held.map (· > 0)⟩

/-- What an update of the keypad gives. -/
structure Update where
  control : Control
  keyboard : Keyboard
  keypad : Keypad
  warnings : List Warning
  deriving DecidableEq

/-- Read what was typed, set the keypad, and take one update from every key. -/
def update (k : Keyboard) : Update :=
  let r := read k.hold k.held k.queue
  ⟨r.control, ⟨k.hold, r.held.map (· - 1), r.unread⟩, keypadOf r.held, r.warnings⟩

end Keyboard

end Chip8.Terminal
