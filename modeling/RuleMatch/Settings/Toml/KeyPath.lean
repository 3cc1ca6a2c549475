import RuleMatch.Settings.Toml.Table

/-!
# Key paths

The back end for TOML addresses a setting by a path of keys: `keywords.word_boundary`.  A path starts with a key;
each step further is a key behind a point or a number in brackets, which counts from the end of an array if it is
negative.  Keys in a path are made of letters and digits of ASCII, underlines, hyphens and spaces.

Setting a path makes room for it: what stands in the way becomes a table or an array, as the path needs
it, and arrays are filled up.
-/

namespace RuleMatch.Settings

/-- The way to a setting. -/
inductive KeyPath where
  | key (name : String)
  | child (parent : KeyPath) (name : String)
  | item (parent : KeyPath) (index : Int)
  deriving DecidableEq, Repr

/-- Why a text is not a key path. -/
inductive KeyFault where
  /-- The first key is missing. -/
  | noKey
  /-- A step starts with something else than a point and a key or a bracket, or a bracket is not closed. -/
  | badStep
  /-- A bracket holds no number. -/
  | noIndex
  /-- A bracket holds a number of more than 64 bits. -/
  | hugeIndex
  deriving DecidableEq, Repr

namespace KeyFault

/-- The message of a key fault. -/
def message : KeyFault → String
  | .noKey => "IsA"
  | .badStep => "Char"
  | .noIndex => "Digit"
  | .hugeIndex => "MapRes"

end KeyFault

namespace KeyPath

/-- Whether a character may stand in a key of a path. -/
def isKeyChar (c : Char) : Bool :=
  c.isAlphanum || c == '_' || c == '-' || c == ' '

/-- Whether a character may stand around the number in brackets. -/
def isGap (c : Char) : Bool :=
  c == ' ' || c == '\t'

/-- Reads the number in brackets behind the opening one, and what follows the closing one. -/
def readIndex (text : Text) : Except KeyFault (Int × Text) :=
  let text := text.dropWhile isGap
  let (negative, text) := match text with
    | '-' :: rest => (true, rest)
    | _ => (false, text)
  let digits := text.takeWhile Char.isDigit
  if digits.isEmpty then .error .noIndex
  else
    let size : Int := (digits.foldl (fun n c => 10 * n + (c.toNat - 48)) 0 : Nat)
    let index := if negative then -size else size
    if !Number.fitsWord index then .error .hugeIndex
    else
      match (text.dropWhile Char.isDigit).dropWhile isGap with
      | ']' :: rest => .ok (index, rest)
      | _ => .error .badStep

/-- Reads one step further along a path. -/
def readStep (path : KeyPath) (text : Text) : Except KeyFault (KeyPath × Text) :=
  match text with
  | '.' :: rest =>
      let name := rest.takeWhile isKeyChar
      if name.isEmpty then .error .badStep
      else .ok (.child path (String.ofList name), rest.dropWhile isKeyChar)
  | '[' :: rest => (readIndex rest).map fun (index, rest) => (.item path index, rest)
  | _ => .error .badStep

/-- Reads the steps of a path, at most `count` of them, up to the end of the text. -/
def readSteps : (count : Nat) → KeyPath → Text → Except KeyFault KeyPath
  | 0, path, _ => .ok path
  | count + 1, path, text =>
      if text.isEmpty then .ok path
      else do
        let (path, rest) ← readStep path text
        readSteps count path rest

/-- Reads a key path. -/
def parse (text : String) : Except KeyFault KeyPath :=
  let cs := text.toList
  let name := cs.takeWhile isKeyChar
  if name.isEmpty then .error .noKey
  else readSteps cs.length (.key (String.ofList name)) (cs.dropWhile isKeyChar)

/-- The place of an item in an array of the given size, or none if it lies before the start. -/
def place? (index : Int) (size : Nat) : Option Nat :=
  if 0 ≤ index then some index.toNat
  else if index.natAbs ≤ size then some (size - index.natAbs)
  else none

/-- Changes an item of an array, which is filled up to that item.  What is not an array becomes one. -/
def modifyItem (index : Int) (change : Value → Option Value) (root : Value) : Option Value := do
  let origin := match root with
    | .array origin _ => origin
    | _ => none
  let place ← place? index root.items.length
  let filled := root.items ++ List.replicate (place + 1 - root.items.length) Value.null
  let item ← change (filled[place]?.getD Value.null)
  return .array origin (filled.set place item)

/-- Changes what stands at a path, or fails at an item before the start of an array. -/
def modify : KeyPath → (Value → Option Value) → Value → Option Value
  | .key name, change, root => do
      let value ← change ((root.find? name).getD Value.null)
      return root.put name value
  | .child parent name, change, root =>
      parent.modify (fun inner => do
        let value ← change ((inner.find? name).getD Value.null)
        return inner.put name value) root
  | .item parent index, change, root => parent.modify (modifyItem index change) root

/-- Assigns a value to a path, or fails at an item before the start of an array. -/
def assign (path : KeyPath) (value : Value) (root : Value) : Option Value :=
  match path with
  | .key name => some (root.assign name value)
  | .child parent name => parent.modify (fun inner => some (inner.assign name value)) root
  | .item parent index => parent.modify (modifyItem index fun _ => some value) root

end KeyPath

end RuleMatch.Settings
