import CellMachine.Dump
import CellMachine.Settings

set_option relaxedAutoImplicit false
set_option autoImplicit false

/-!
# The console

What is printed while a program is checked and run: status lines, the memory and the trace. A
minimal console prints the memory and the trace only, and without colour. Nothing is printed
here; each function gives the text to print.

## Main definitions

* `CellMachine.Style` — the ways a text can stand out.
* `CellMachine.Console` — whether output is minimal and whether it has colour.
* `CellMachine.Console.status`, `CellMachine.Console.showMemory`,
  `CellMachine.Console.showStep` — the three kinds of output.
-/

namespace CellMachine

/-! ## Styles -/

/-- The ways a text can stand out. -/
inductive Style where
  | green
  | cyan
  | yellow
  | red
  | bold
  | dim
  | underline
  deriving DecidableEq

namespace Style

/-- The number of a style in a control sequence. -/
def code : Style → Nat
  | green => 32
  | cyan => 36
  | yellow => 33
  | red => 31
  | bold => 1
  | dim => 2
  | underline => 4

/-- The control sequence with the given number. -/
def sequence (code : Nat) : List Char :=
  '\x1b' :: '[' :: (Text.ofNatural code ++ ['m'])

/-- The control sequence that starts a style. -/
def start (style : Style) : List Char :=
  sequence style.code

/-- The control sequence that ends every style. -/
def stop : List Char :=
  sequence 0

/-- The text with the style started again wherever a sequence in it has ended it. The number
counts the characters of such a sequence that are still to be passed. -/
def resume (style : Style) : Nat → List Char → List Char
  | _, [] => []
  | 0, c :: cs =>
    if stop.isPrefixOf (c :: cs) then c :: resume style (stop.length - 1) cs
    else c :: resume style 0 cs
  | 1, c :: cs => c :: (style.start ++ resume style 0 cs)
  | pending + 2, c :: cs => c :: resume style (pending + 1) cs

/-- A text in a style, laid out inside its control sequences. -/
def apply (style : Style) (layout : List Char → List Char) (cs : List Char) : List Char :=
  style.start ++ layout (resume style 0 cs) ++ stop

end Style

/-! ## Consoles -/

/-- How output is written. -/
structure Console where
  /-- Whether status lines are left out. -/
  minimal : Bool := false
  /-- Whether styles are shown. -/
  colour : Bool := false
  deriving DecidableEq

namespace Console

/-- The console at the start. It has colour if the environment forces it, and not otherwise. -/
def ofEnvironment (env : Environment) : Console where
  colour :=
    match env "CLICOLOR_FORCE" with
    | some value => value ≠ "0"
    | none => false

/-- Make output minimal or not. Minimal output has no colour, and colour does not come back
after it. -/
def setMinimal (c : Console) (minimal : Bool) : Console :=
  { minimal, colour := c.colour && !minimal }

/-- A text in a style, if the console shows it. -/
def paint (c : Console) (style : Style) (layout : List Char → List Char) (cs : List Char) :
    List Char :=
  if c.colour then style.apply layout cs else layout cs

/-- A status line: a short heading in a style, and what it is about. -/
def status (c : Console) (style : Style) (heading about : List Char) : List Char :=
  if c.minimal then []
  else c.paint style (Text.alignRight 12) heading ++ ' ' :: about ++ ['\n']

/-- A status line about a file. -/
def fileStatus (c : Console) (style : Style) (heading path : List Char) : List Char :=
  c.status style heading ("target ".toList ++ path)

/-- The memory, between two rules unless output is minimal. -/
def showMemory (c : Console) (m : Memory) : List Char :=
  if c.minimal then m.dump
  else "\n------ Memory ------\n".toList ++ m.dump ++ "--------------------\n".toList

/-- The line of the trace for an executed instruction: the pointer before it, its text and the
pointer after it. The columns are laid out before they are styled. -/
def showStep (c : Console) (pointer : Int) (text : List Char) (next : Int) : List Char :=
  c.paint .dim id (Text.alignRight 4 (Text.ofInteger pointer)) ++
    ' ' :: c.paint .bold id (Text.alignLeft 20 text) ++
    ' ' :: c.paint .dim id ['-', '>'] ++
    ' ' :: Text.ofInteger next ++ ['\n']

end Console

end CellMachine
