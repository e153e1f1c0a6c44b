/-!
# What is printed

The console takes lines, panels and tables; their texts are markup, in which brackets set the style.
-/

namespace Walkthrough

/-- A column of a table. -/
structure Column where
  title : String
  side : String := "left"
  style : String := ""
  deriving DecidableEq

/-- A line, a panel or a table on the console. -/
inductive Printed where
  | blank
  | line (markup : String) (style : Option String)
  | panel (markup : String) (title : Option String) (border : String)
  | table (title border : String) (columns : List Column) (rows : List (List String))
  deriving DecidableEq

namespace Printed

/-- A line without a style of its own. -/
def plain (markup : String) : Printed :=
  .line markup none

/-- A panel with a red title and border. -/
def alarm (title markup : String) : Printed :=
  .panel markup (some s!"[red]{title}[/red]") "red"

end Printed

end Walkthrough
