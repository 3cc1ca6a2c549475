import RuleMatch.Settings.Toml.Table

/-!
# Trees of TOML documents

A document is a tree of tables, and TOML restricts how its lines may build them.  A table written by its
header is complete, and its header stands there once.  A table that a longer header merely passes through is
implied: it may still get a header of its own.  A table made by a dotted key may only be extended by dotted
keys.  An inline table is closed.  `Tree.insertKey`, `Tree.openSection` and `Tree.openItem` are the ways in
which lines add to a tree, and each refuses what these rules exclude.
-/

namespace RuleMatch.Settings.Toml

/-- How a table came about. -/
inductive Form where
  /-- By a header of its own, or as the top of the document. -/
  | headed
  /-- On the way of a longer header. -/
  | implied
  /-- On the way of a dotted key. -/
  | dotted
  /-- Between braces. -/
  | braced
  deriving DecidableEq

/-- A piece of a document. -/
inductive Tree where
  | scalar (s : Scalar)
  | array (items : List Tree)
  | table (form : Form) (entries : List (String × Tree))
  /-- The tables of a repeated header. -/
  | sections (items : List Tree)

namespace Tree

/-- The entries of a table. -/
def entries : Tree → List (String × Tree)
  | .table _ entries => entries
  | _ => []

/-- Changes the table at the end of a path.  Tables that are missing on the way are made, in the form that
suits the path; the way leads through the last table of a repeated header. -/
def descend (dotted : Bool) : List String → (Tree → Option Tree) → Tree → Option Tree
  | [], change, tree => change tree
  | key :: path, change, .table form entries => do
      let fresh := .table (if dotted then .dotted else .implied) []
      let child ← match (entries.lookup key).getD fresh with
        | .table .braced _ => none
        | .table .headed inner =>
            if dotted then none else descend dotted path change (.table .headed inner)
        | .table form inner => descend dotted path change (.table form inner)
        | .sections items =>
            match items.getLast? with
            | none => none
            | some last =>
                (descend dotted path change last).map fun last =>
                  .sections (items.dropLast ++ [last])
        | _ => none
      return .table form (putEntry key child entries)
  | _, _, _ => none

/-- Adds an entry to a table, under a key that is not taken.  Only a table made by a dotted key may be
reached by one. -/
def addEntry (viaDots : Bool) (key : String) (value : Tree) : Tree → Option Tree
  | .table form entries =>
      if (form == .dotted) != viaDots || (entries.lookup key).isSome then none
      else some (.table form (entries ++ [(key, value)]))
  | _ => none

/-- Puts a value under a dotted key of a table. -/
def insertKey (tree : Tree) (path : List String) (key : String) (value : Tree) : Option Tree :=
  descend true path (addEntry (!path.isEmpty) key value) tree

/-- Opens the table of a header: its place is vacant or held by an implied table, whose entries are
kept. -/
def openSection (tree : Tree) (path : List String) (key : String) : Option Tree :=
  descend false path (fun parent =>
    match parent with
    | .table form entries =>
        match entries.lookup key with
        | none => some (.table form (entries ++ [(key, .table .headed [])]))
        | some (.table .implied inner) =>
            some (.table form (putEntry key (.table .headed inner) entries))
        | some _ => none
    | _ => none) tree

/-- Opens one more table of a repeated header. -/
def openItem (tree : Tree) (path : List String) (key : String) : Option Tree :=
  descend false path (fun parent =>
    match parent with
    | .table form entries =>
        match (entries.lookup key).getD (.sections []) with
        | .sections items =>
            some (.table form (putEntry key (.sections (items ++ [.table .headed []])) entries))
        | _ => none
    | _ => none) tree

/-- Puts a value under a dotted key of the table whose header was read last. -/
def insertBelow (tree : Tree) (header path : List String) (key : String) (value : Tree) :
    Option Tree :=
  descend false header (fun inner => inner.insertKey path key value) tree

mutual

/-- The value that a piece of the document stands for. -/
def toValue (origin : Option String) : Tree → Value
  | .scalar s => .scalar origin s
  | .array items => .array origin (toValues origin items)
  | .table _ entries => .table origin (toEntries origin entries)
  | .sections items => .array origin (toValues origin items)

/-- The values of the items of an array. -/
def toValues (origin : Option String) : List Tree → List Value
  | [] => []
  | item :: items => toValue origin item :: toValues origin items

/-- The values of the entries of a table. -/
def toEntries (origin : Option String) : List (String × Tree) → List (String × Value)
  | [] => []
  | (key, item) :: entries => (key, toValue origin item) :: toEntries origin entries

end

end Tree

end RuleMatch.Settings.Toml
