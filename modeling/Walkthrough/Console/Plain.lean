import Walkthrough.Console.Printed

/-!
# Print without style

What is printed as plain lines, for a console that knows no markup and draws no frames.
-/

namespace Walkthrough.Printed

/-- The lines of what is printed, its markup as it is. -/
def plainLines : Printed → List String
  | blank => [""]
  | line markup _ => [markup]
  | panel markup title _ => title.toList ++ [markup]
  | table title _ columns rows =>
    title :: (columns.map (·.title) :: rows).map ("  ".intercalate ·)

end Walkthrough.Printed
