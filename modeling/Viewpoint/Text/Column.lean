/-! Columns of a text table, measured in characters. -/

namespace Viewpoint

/-- The side of a column that its text keeps to. -/
inductive Side where
  | left
  | right
  deriving DecidableEq, Repr

/-- Fills a text with spaces up to the width of its column; a longer text stays as it is. -/
def fillColumn (side : Side) (width : Nat) (text : String) : String :=
  let blanks := String.ofList (List.replicate (width - text.length) ' ')
  match side with
  | .left => text ++ blanks
  | .right => blanks ++ text

/--
Cuts a text to the given number of characters.

A text that was cut ends in three points, unless they would leave no room for it.
-/
def clip (most : Nat) (text : String) : String :=
  if text.length ≤ most then text
  else if most ≤ 3 then String.ofList (text.toList.take most)
  else String.ofList (text.toList.take (most - 3)) ++ "..."

/-- A column of a table: the side that its text keeps to, and its width. -/
structure Column where
  side : Side
  width : Nat
  deriving DecidableEq, Repr

/-- Joins the cells of a row, with two spaces between neighbours. -/
def tableRow (columns : List Column) (cells : List String) : String :=
  "  ".intercalate (List.zipWith (fun column => fillColumn column.side column.width) columns cells)

/-- A line of the given width, drawn with one repeated character. -/
def ruler (c : Char) (width : Nat) : String :=
  String.ofList (List.replicate width c)

end Viewpoint
