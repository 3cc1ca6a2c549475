import RuleMatch.Grammar.Basic
import RuleMatch.Text.Quoted

/-!
# Showing cells

A cell is shown by its name and by whether it has been defined, without its definition, which may refer
back to the cell.
-/

namespace RuleMatch.Grammar

/-- Shows a cell. -/
def inspect (g : Grammar) (cell : Cell) : String :=
  "RuleCell \x7b name: " ++ quoted cell.name ++ ", complete: " ++ toString (g.isDefined cell) ++ " \x7d"

end RuleMatch.Grammar
