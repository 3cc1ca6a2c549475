import RuleMatch.Number.Decimal
import RuleMatch.Settings.Value
import RuleMatch.Text.Lowercase
import RuleMatch.Text.Quoted

/-!
# Tables of values

This is how the back end for TOML keeps values.  The keys of tables do not depend on case; they are kept in
lowercase.

`Value.assign` puts a value under a key.  A table that is assigned is merged, entry by entry and at every
depth, with what stands there; anything else takes its place.
-/

namespace RuleMatch.Settings

/-- Puts a value under a key, in place of the first entry there or else at the end. -/
def putEntry {α : Type} (key : String) (value : α) : List (String × α) → List (String × α)
  | [] => [(key, value)]
  | (k, old) :: entries =>
      if k = key then (k, value) :: entries else (k, old) :: putEntry key value entries

namespace Value

/-- Nothing. -/
def null : Value := .scalar none .null

/-- A table without entries. -/
def emptyTable : Value := .table none []

/-- The file that a value comes from. -/
def origin : Value → Option String
  | .scalar origin _ => origin
  | .array origin _ => origin
  | .table origin _ => origin

/-- The entries of a table; other values have none. -/
def entries : Value → List (String × Value)
  | .table _ entries => entries
  | _ => []

/-- The items of an array; other values have none. -/
def items : Value → List Value
  | .array _ items => items
  | _ => []

/-- The value under a key of a table, whatever the case of the key. -/
def find? (root : Value) (key : String) : Option Value :=
  root.entries.lookup (lowercaseString key)

/-- The value below keys, one inside the other. -/
def at? : List String → Value → Option Value
  | [], root => some root
  | key :: keys, root => (root.find? key).bind (at? keys)

/-- Puts a value under a key of a table.  What is not a table becomes one. -/
def put (root : Value) (key : String) (value : Value) : Value :=
  match root with
  | .table origin entries => .table origin (putEntry (lowercaseString key) value entries)
  | _ => .table none [(lowercaseString key, value)]

mutual

/-- Assigns a value to a key of a table. -/
def assign (root : Value) (key : String) : Value → Value
  | .table _ entries => root.put key (assignAll ((root.find? key).getD emptyTable) entries)
  | .scalar origin s => root.put key (.scalar origin s)
  | .array origin items => root.put key (.array origin items)

/-- Assigns the entries of a table, one after the other. -/
def assignAll (root : Value) : List (String × Value) → Value
  | [] => root
  | (key, value) :: entries => assignAll (assign root key value) entries

end

/-- How a value is named in a message about its type. -/
def kind : Value → String
  | .scalar _ .null => "unit value"
  | .scalar _ (.bool b) => "boolean `" ++ toString b ++ "`"
  | .scalar _ (.int n) => "integer `" ++ toString n ++ "`"
  | .scalar _ (.float x) => "floating point `" ++ Number.markedFloatText x ++ "`"
  | .scalar _ (.text s) => "string " ++ quoted s
  | .array _ _ => "sequence"
  | .table _ _ => "map"

end Value

end RuleMatch.Settings
