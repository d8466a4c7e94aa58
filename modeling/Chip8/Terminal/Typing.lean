import Chip8.Terminal.Key

/-! The characters that a terminal sends for its keys.

    Keys that are no character send an escape and some more characters; control with a letter sends
    one of the first 26 control characters. Sequences that stand for no key are dropped up to the
    escape, which is then a key of its own. -/

namespace Chip8.Terminal.HostEvent

/-- The key of a single character. -/
def ofChar (c : Char) : HostEvent :=
  if c = '\r' then .press .enter false
  else if c = '\t' then .press .tab false
  else if c = '\x7f' then .press .backspace false
  else if c = '\x1b' then .press .escape false
  else if 1 ≤ c.toNat ∧ c.toNat ≤ 26 then .press (.char (Char.ofNat (c.toNat + 96))) true
  else .press (.char c) false

/-- The keys of the characters that a terminal sent. -/
def ofChars : List Char → List HostEvent
  | [] => []
  | '\x1b' :: '[' :: 'A' :: rest => .press .up false :: ofChars rest
  | '\x1b' :: '[' :: 'B' :: rest => .press .down false :: ofChars rest
  | '\x1b' :: '[' :: 'C' :: rest => .press .right false :: ofChars rest
  | '\x1b' :: '[' :: 'D' :: rest => .press .left false :: ofChars rest
  | '\x1b' :: '[' :: 'H' :: rest => .press .home false :: ofChars rest
  | '\x1b' :: '[' :: 'F' :: rest => .press .endKey false :: ofChars rest
  | '\x1b' :: '[' :: 'Z' :: rest => .press .backTab false :: ofChars rest
  | '\x1b' :: '[' :: '2' :: '~' :: rest => .press .insert false :: ofChars rest
  | '\x1b' :: '[' :: '3' :: '~' :: rest => .press .delete false :: ofChars rest
  | '\x1b' :: '[' :: '5' :: '~' :: rest => .press .pageUp false :: ofChars rest
  | '\x1b' :: '[' :: '6' :: '~' :: rest => .press .pageDown false :: ofChars rest
  | '\x1b' :: 'O' :: 'P' :: rest => .press (.function 1) false :: ofChars rest
  | '\x1b' :: 'O' :: 'Q' :: rest => .press (.function 2) false :: ofChars rest
  | '\x1b' :: 'O' :: 'R' :: rest => .press (.function 3) false :: ofChars rest
  | '\x1b' :: 'O' :: 'S' :: rest => .press (.function 4) false :: ofChars rest
  | c :: rest => ofChar c :: ofChars rest

end Chip8.Terminal.HostEvent
