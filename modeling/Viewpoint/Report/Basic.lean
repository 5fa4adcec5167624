import Viewpoint.Json.Writer
import Viewpoint.Named
import Viewpoint.Text.Column

/-! Reports, which can be printed as tables or as JSON. -/

namespace Viewpoint

/-- The form in which reports are printed. -/
inductive Format where
  | table
  | json
  deriving DecidableEq, Repr

namespace Format

/-- The name of a form. -/
def name : Format → String
  | table => "table"
  | json => "json"

instance : Named Format where
  all := [table, json]
  name := name
  find_name f := by cases f <;> rfl

end Format

/-- A report has the lines of its table, and a JSON value. -/
class Report (α : Type) where
  lines : α → List String
  toJson : α → Json

namespace Report

/-- Ends each line. -/
def unlines (lines : List String) : String :=
  String.join (lines.map fun line => line ++ "\n")

/-- Prints a report. -/
def print {α : Type} [Report α] (format : Format) (report : α) : String :=
  match format with
  | .table => unlines (lines report)
  | .json => (toJson report).pretty ++ "\n"

/-- The line under the title of a report. -/
def titleRuler : String :=
  ruler '═' 34

/-- A text to show for a value that may be missing. -/
def orDash (value : Option String) : String :=
  value.getD "-"

end Report

end Viewpoint
