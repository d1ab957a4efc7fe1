import CellMachine.Text.Hidden

set_option relaxedAutoImplicit false
set_option autoImplicit false

/-!
# Quoted text

Text between double quotes, as the description of a machine shows the tokens of its
instructions. A quote and a backslash are written after a backslash, the control characters
with a short name are written by it, and every other hidden character by its code point.

## Main definitions

* `CellMachine.Text.escape` — how one character is written.
* `CellMachine.Text.quoted` — the text between quotes.
-/

namespace CellMachine.Text

/-- How a character is written between quotes. -/
def escape (c : Char) : List Char :=
  match c with
  | '"' => ['\\', '"']
  | '\\' => ['\\', '\\']
  | '\n' => ['\\', 'n']
  | '\r' => ['\\', 'r']
  | '\t' => ['\\', 't']
  | '\x00' => ['\\', '0']
  | c =>
    if isHidden c then '\\' :: 'u' :: '\x7b' :: (Nat.toDigits 16 c.toNat ++ ['\x7d'])
    else [c]

/-- A text between double quotes. -/
def quoted (cs : List Char) : List Char :=
  '"' :: (cs.flatMap escape ++ ['"'])

example : quoted "q\"t\\".toList = "\"q\\\"t\\\\\"".toList := by decide +kernel

end CellMachine.Text
