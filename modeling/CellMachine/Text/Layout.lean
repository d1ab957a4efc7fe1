set_option relaxedAutoImplicit false
set_option autoImplicit false

/-!
# Columns

Text set into a column of a given width. Widths count characters, and a text that is already
wider than its column is left as it is.

## Main definitions

* `CellMachine.Text.alignRight`, `CellMachine.Text.alignLeft` — pad with spaces before or after.
* `CellMachine.Text.plural` — the ending of a counted noun.
-/

namespace CellMachine.Text

/-- The text at the right of a column. -/
def alignRight (width : Nat) (cs : List Char) : List Char :=
  List.replicate (width - cs.length) ' ' ++ cs

/-- The text at the left of a column. -/
def alignLeft (width : Nat) (cs : List Char) : List Char :=
  cs ++ List.replicate (width - cs.length) ' '

/-- The ending of a noun that is counted: one thing, two things. -/
def plural (count : Nat) : String :=
  if count = 1 then "" else "s"

/-- A text is never cut. -/
theorem length_alignRight (width : Nat) (cs : List Char) :
    (alignRight width cs).length = max width cs.length := by
  simp [alignRight]
  omega

/-- A text is never cut. -/
theorem length_alignLeft (width : Nat) (cs : List Char) :
    (alignLeft width cs).length = max width cs.length := by
  simp [alignLeft]
  omega

end CellMachine.Text
