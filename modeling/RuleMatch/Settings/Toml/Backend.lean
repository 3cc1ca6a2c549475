import RuleMatch.Settings.Backend
import RuleMatch.Settings.Toml.Document
import RuleMatch.Settings.Toml.KeyPath
import RuleMatch.Settings.Toml.Record

/-!
# A back end for TOML

This is the back end that the loader is run with (`tomlBackend`).  It is one of many: the loader works with any,
and what is proved of the loader is proved for any that keeps the laws.

It merges the sources in the order in which they were handed over, and a later one prevails over an earlier one,
key by key.  On top come the single keys that were set, again in order, wherever they stood among the sources.

A file is looked for under its path and then with `.toml` behind it.  A file that is optional may be
absent.  A key at the top of a source is read as a key path, if it is one.
-/

namespace RuleMatch.Settings

/-- Why settings cannot be loaded. -/
inductive LoadFailure where
  /-- A key that was to be set is no key path. -/
  | badKey (fault : KeyFault)
  /-- A file that is required is absent. -/
  | missingFile (path : String)
  /-- A document is not well formed, which may be that of a file. -/
  | badDocument (file : Option String)
  /-- An item in front of the start of an array was to be set. -/
  | badIndex
  /-- The values make no settings. -/
  | badValue (failure : DecodeFailure)
  deriving DecidableEq, Repr

namespace LoadFailure

/-- The message of a failure; what is wrong in a document and an index out of range have none. -/
def message? : LoadFailure → Option String
  | .badKey fault => some fault.message
  | .missingFile path => some ("configuration file \"" ++ path ++ "\" not found")
  | .badDocument _ => none
  | .badIndex => none
  | .badValue failure => some failure.message

end LoadFailure

/-! ## Reading sources -/

/-- The steps of a path, without those that lead nowhere. -/
def pathSteps (path : String) : List String :=
  (path.splitOn "/").filter fun step => step != "" && step != "."

/-- The names under which a file is looked for, in order.  A path from the root or out of a folder names no
file, and a path that has to be a folder names one only with `.toml` behind it. -/
def candidates (path : String) : List String :=
  let steps := pathSteps path
  let all := path.splitOn "/"
  if steps.isEmpty || steps.contains ".." || all.head? == some "" then []
  else
    let name := "/".intercalate steps
    let folder := all.getLast? == some "" || all.getLast? == some "."
    if folder then [name ++ ".toml"] else [name, name ++ ".toml"]

/-- The first file that a path leads to, with its name. -/
def locate? (files : Files) (path : String) : Option (String × String) :=
  (candidates path).findSome? fun name => (files.lookup name).map fun text => (name, text)

/-- The values in a document, which may be that of a file.  A byte order mark at its start does not belong to
the document. -/
def parseDocument (file : Option String) (text : String) : Except LoadFailure Value :=
  match Toml.document? (Toml.afterByteOrderMark text.toList) with
  | some tree => .ok (tree.toValue file)
  | none => .error (.badDocument file)

/-- The values of a source.  A file that may be absent and is has none. -/
def readSource (files : Files) : Source → Except LoadFailure Value
  | .text document => parseDocument none document
  | .file path required =>
      match locate? files path with
      | some (name, text) => parseDocument (some name) text
      | none => if required then .error (.missingFile path) else .ok Value.emptyTable

/-! ## Merging -/

/-- Assigns a value to a path, or fails at an item before the start of an array. -/
def assignAt (root : Value) (path : KeyPath) (value : Value) : Except LoadFailure Value :=
  match path.assign value root with
  | some root => .ok root
  | none => .error .badIndex

/-- Assigns a value to a key at the top, which is read as a path if it is one. -/
def assignTop (root : Value) (key : String) (value : Value) : Except LoadFailure Value :=
  match KeyPath.parse key with
  | .ok path => assignAt root path value
  | .error _ => .ok (root.assign key value)

/-- Assigns the entries at the top, one after the other. -/
def assignTops : List (String × Value) → Value → Except LoadFailure Value
  | [], root => .ok root
  | (key, value) :: entries, root => assignTop root key value >>= assignTops entries

/-- Merges a source into what was read before it. -/
def mergeSource (files : Files) (root : Value) (source : Source) : Except LoadFailure Value :=
  readSource files source >>= fun value => assignTops value.entries root

/-! ## Putting settings together -/

/-- The sources among the steps, in order. -/
def sources (steps : List Step) : List Source :=
  steps.filterMap fun
    | .source s => some s
    | .override _ _ => none

/-- Replaces the value of a path in a list of overrides, or adds it at the end. -/
def putOverride (path : KeyPath) (value : Value) : List (KeyPath × Value) → List (KeyPath × Value)
  | [] => [(path, value)]
  | (p, old) :: overrides =>
      if p = path then (p, value) :: overrides else (p, old) :: putOverride path value overrides

/-- Adds what a step overrides to a list of overrides, if its key is a path. -/
def addOverride (overrides : List (KeyPath × Value)) : Step → List (KeyPath × Value)
  | .source _ => overrides
  | .override key value =>
      match KeyPath.parse key with
      | .ok path => putOverride path value overrides
      | .error _ => overrides

/-- The paths that the steps override, each with its last value. -/
def overrides (steps : List Step) : List (KeyPath × Value) :=
  steps.foldl addOverride []

/-- Puts the values of all steps together. -/
def assemble (files : Files) (steps : List Step) : Except LoadFailure Value := do
  let merged ← (sources steps).foldlM (mergeSource files) Value.emptyTable
  let merged ← assignTops merged.entries Value.emptyTable
  (overrides steps).foldlM (fun root (path, value) => assignAt root path value) merged

/-- The back end for TOML. -/
def tomlBackend : Backend where
  Config := Value
  Failure := LoadFailure
  keyFault? key :=
    match KeyPath.parse key with
    | .ok _ => none
    | .error fault => some (.badKey fault)
  build := assemble
  fill shape root := (decodeRecord shape root).mapError .badValue
  isMissing files path := (locate? files path).isNone
  value? root keys := root.at? keys
  toBool? := Scalar.toBool?
  toText? := Scalar.toText?

end RuleMatch.Settings
