import RuleMatch.Settings.Backend
import RuleMatch.Settings.Toml.Table

/-!
# Records from values

The back end for TOML fills a record from the table under its key.  Scalars are read generously: a boolean may
be written as a number or as one of a few words, a string as a boolean or a number.  Other keys are ignored.
An array may stand in place of the table and gives the fields in order.

A value of the wrong type is reported before a field that is missing.
-/

namespace RuleMatch.Settings

/-- Why values do not fill a record. -/
inductive DecodeFailure where
  /-- A field has a value that cannot be read as its type. -/
  | wrongType (found expected key : String) (origin : Option String)
  /-- What stands for the record is no table. -/
  | wrongShape (found record : String)
  /-- An array in place of the table is too short. -/
  | tooShort (length : Nat) (record : String)
  | missing (name : String)
  deriving DecidableEq, Repr

namespace DecodeFailure

/-- The message of a failure. -/
def message : DecodeFailure → String
  | .wrongType found expected key origin =>
      let place := match origin with
        | some file => " in " ++ file
        | none => ""
      "invalid type: " ++ found ++ ", expected " ++ expected ++ " for key `" ++ key ++ "`" ++ place
  | .wrongShape found record => "invalid type: " ++ found ++ ", expected struct " ++ record
  | .tooShort length record =>
      "invalid length " ++ toString length ++ ", expected struct " ++ record ++ " with 2 elements"
  | .missing name => "missing field `" ++ name ++ "`"

end DecodeFailure

/-- The boolean that a word stands for. -/
def wordBool? (word : String) : Option Bool :=
  if word ∈ ["1", "true", "on", "yes"] then some true
  else if word ∈ ["0", "false", "off", "no"] then some false
  else none

namespace Scalar

/-- Reads a scalar as a boolean. -/
def toBool? : Scalar → Option Bool
  | .null => none
  | .bool b => some b
  | .int n => some (n != 0)
  | .float x => some (x != 0)
  | .text s => wordBool? (lowercaseString s)

/-- Reads a scalar as a string. -/
def toText? : Scalar → Option String
  | .null => none
  | .bool b => some (toString b)
  | .int n => some (toString n)
  | .float x => some (Number.floatText x)
  | .text s => some s

end Scalar

namespace Value

/-- How a value is named where a boolean was expected: a word stands there as it was compared. -/
def kindForBool : Value → String
  | .scalar _ (.text s) => "string " ++ quoted (lowercaseString s)
  | value => value.kind

/-- Reads a value as one of a type, if it is a scalar that can be read so. -/
def decodeAs {α : Type} (read : Scalar → Option α) (kind : Value → String) (expected key : String)
    (value : Value) : Except DecodeFailure α :=
  match value.scalar?.bind read with
  | some a => .ok a
  | none => .error (.wrongType (kind value) expected key value.origin)

/-- Reads a value as a boolean. -/
def decodeBool : (key : String) → Value → Except DecodeFailure Bool :=
  decodeAs Scalar.toBool? kindForBool "a boolean"

/-- Reads a value as a string. -/
def decodeText : (key : String) → Value → Except DecodeFailure String :=
  decodeAs Scalar.toText? kind "a string"

end Value

/-- Reads a value where there is one. -/
def decodeSome {α : Type} (decode : Value → Except DecodeFailure α) :
    Option Value → Except DecodeFailure (Option α)
  | none => .ok none
  | some value => (decode value).map some

/-- A field that must have been found. -/
def require {α : Type} (failure : DecodeFailure) : Option α → Except DecodeFailure α
  | none => .error failure
  | some value => .ok value

/-- Reads the fields of a record. -/
def decodeFields (shape : RecordShape) (value : Value) : Except DecodeFailure (Bool × String) := do
  match value with
  | .table _ entries =>
      let boolean? ←
        decodeSome (Value.decodeBool (shape.key ++ "." ++ shape.boolField)) (entries.lookup shape.boolField)
      let text? ←
        decodeSome (Value.decodeText (shape.key ++ "." ++ shape.textField)) (entries.lookup shape.textField)
      let boolean ← require (.missing shape.boolField) boolean?
      let text ← require (.missing shape.textField) text?
      return (boolean, text)
  | .array _ items =>
      let boolean ← require (.tooShort 0 shape.name) items[0]? >>= Value.decodeBool (shape.key ++ "[0]")
      let text ← require (.tooShort 1 shape.name) items[1]? >>= Value.decodeText (shape.key ++ "[1]")
      return (boolean, text)
  | value => .error (.wrongShape value.kind shape.name)

/-- Reads a record from a table of everything. -/
def decodeRecord (shape : RecordShape) (root : Value) : Except DecodeFailure (Bool × String) :=
  require (.missing shape.key) (root.find? shape.key) >>= decodeFields shape

end RuleMatch.Settings
