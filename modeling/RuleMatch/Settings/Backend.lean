import RuleMatch.Settings.Value

/-!
# Back ends of the loader

The loader leaves it to another package to read documents, to put together what they say, and to fill a record
from it.  That package is not part of this library, and it is a parameter here: a `Backend` names what the
loader asks of it, and what can be seen of its answers.  Which laws it is taken to keep is said where something
is proved of the loader.

What a back end is handed, step by step, is recorded as it is (`Step`); the back end makes of it what it will.
-/

namespace RuleMatch.Settings

/-- The files that there are, with their texts. -/
abbrev Files := List (String × String)

/-- Where a document comes from. -/
inductive Source where
  /-- A document at hand. -/
  | text (document : String)
  /-- A file, which may be absent unless it is required. -/
  | file (path : String) (required : Bool)
  deriving DecidableEq, Repr

/-- What a back end is handed: a source of values, or a single key with its value. -/
inductive Step where
  | source (s : Source)
  | override (key : String) (value : Value)

/-- The declaration of a record with a boolean and a text, which stands below a key. -/
structure RecordShape where
  name : String
  key : String
  boolField : String
  textField : String
  deriving DecidableEq, Repr

/-- A package that puts settings together. -/
structure Backend where
  /-- What is put together. -/
  Config : Type
  /-- What can go wrong. -/
  Failure : Type
  /-- What is wrong with a key, if it cannot be overridden. -/
  keyFault? : String → Option Failure
  /-- Puts together what was handed over, in the order of the steps. -/
  build : Files → List Step → Except Failure Config
  /-- Fills a record. -/
  fill : RecordShape → Config → Except Failure (Bool × String)
  /-- Whether a path leads to no file. -/
  isMissing : Files → String → Bool
  /-- The value below keys, one inside the other. -/
  value? : Config → List String → Option Value
  /-- The boolean that a scalar is read as. -/
  toBool? : Scalar → Option Bool
  /-- The text that a scalar is read as. -/
  toText? : Scalar → Option String

end RuleMatch.Settings
