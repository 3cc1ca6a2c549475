/-!
# Values of settings

Settings are read from values: scalars, arrays and tables.  A value knows the file that it comes from, if
it comes from one.
-/

namespace RuleMatch.Settings

/-- A value without parts. -/
inductive Scalar where
  | null
  | bool (b : Bool)
  | int (n : Int)
  | float (x : Float)
  | text (s : String)

/-- A value, with the name of the file that it comes from. -/
inductive Value where
  | scalar (origin : Option String) (s : Scalar)
  | array (origin : Option String) (items : List Value)
  | table (origin : Option String) (entries : List (String × Value))

namespace Value

/-- Whether a value is a table. -/
def IsTable : Value → Prop
  | .table _ _ => True
  | _ => False

/-- Whether a value is a scalar. -/
def IsScalar : Value → Prop
  | .scalar _ _ => True
  | _ => False

/-- The scalar that a value is. -/
def scalar? : Value → Option Scalar
  | .scalar _ s => some s
  | _ => none

end Value

end RuleMatch.Settings
