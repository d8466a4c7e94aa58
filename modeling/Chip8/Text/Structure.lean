import Chip8.Text.Numeral
import Chip8.Text.Printable

/-! Structural text of a value: a name applied to arguments, a name with labelled fields, or a
    character between single quotes.

    Between quotes a tab, a line end, a null, a single quote and a backslash are written as two
    characters. What cannot be shown, or would be drawn on top of the quote before it, is written by
    its code point in hexadecimal, and everything else as it is. -/

namespace Chip8.Text

/-- `Name(a, b)`, or the bare name when there are no arguments. -/
def applied (name : String) : List String → String
  | [] => name
  | arguments => name ++ "(" ++ ", ".intercalate arguments ++ ")"

/-- A name, then its fields as `label: value` between braces. -/
def labelled (name : String) (fields : List (String × String)) : String :=
  let items := fields.map fun (label, value) => label ++ ": " ++ value
  name ++ " \x7b " ++ ", ".intercalate items ++ " \x7d"

/-! ### Characters -/

/-- A character by its code point. -/
def codePoint (c : Char) : String := "\\u\x7b" ++ hex 1 c.toNat ++ "\x7d"

/-- A character as it stands between quotes. -/
def escaped (c : Char) : String :=
  match c with
  | '\x00' => "\\0"
  | '\t' => "\\t"
  | '\n' => "\\n"
  | '\r' => "\\r"
  | '\'' => "\\'"
  | '\\' => "\\\\"
  | c =>
    if isGraphemeExtender c then codePoint c
    else if isPrintable c then c.toString
    else codePoint c

/-- A character between single quotes. -/
def quoted (c : Char) : String := "'" ++ escaped c ++ "'"

end Chip8.Text
