import Chip8.Text.Structure

/-! What a terminal reports: keys and mouse events. -/

namespace Chip8.Terminal

/-- A key of the terminal's keyboard. -/
inductive Key
  | char (c : Char)
  | function (n : Nat)
  | escape
  | enter
  | tab
  | backTab
  | backspace
  | insert
  | delete
  | home
  | endKey
  | pageUp
  | pageDown
  | up
  | down
  | left
  | right
  | null
  deriving DecidableEq, Repr

namespace Key

/-- The keys that have a name of their own. -/
def named : List (String × Key) :=
  [("Esc", escape), ("Enter", enter), ("Tab", tab), ("BackTab", backTab), ("Backspace", backspace),
   ("Insert", insert), ("Delete", delete), ("Home", home), ("End", endKey), ("PageUp", pageUp),
   ("PageDown", pageDown), ("Up", up), ("Down", down), ("Left", left), ("Right", right),
   ("Null", null)]

/-- The text of a key. -/
def inspect : Key → String
  | char c => Text.applied "Char" [Text.quoted c]
  | function n => Text.applied "F" [Text.decimal n]
  | escape => "Esc"
  | enter => "Enter"
  | tab => "Tab"
  | backTab => "BackTab"
  | backspace => "Backspace"
  | insert => "Insert"
  | delete => "Delete"
  | home => "Home"
  | endKey => "End"
  | pageUp => "PageUp"
  | pageDown => "PageDown"
  | up => "Up"
  | down => "Down"
  | left => "Left"
  | right => "Right"
  | null => "Null"

/-- The key of a name: a single character, a letter `F` and a number, or a name of its own. -/
def ofName? (name : String) : Option Key :=
  match name.toList with
  | [c] => some (char c)
  | 'F' :: digits => (String.ofList digits).toNat?.map function
  | _ => named.lookup name

end Key

/-- Something that happened at the terminal. -/
inductive HostEvent
  /-- A key was pressed, with or without the control key. -/
  | press (key : Key) (control : Bool)
  /-- Anything else, such as an event of the mouse. -/
  | mouse
  deriving DecidableEq, Repr

end Chip8.Terminal
