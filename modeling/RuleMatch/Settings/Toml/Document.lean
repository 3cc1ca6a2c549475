import RuleMatch.Settings.Toml.Scalar
import RuleMatch.Settings.Toml.Tree

/-!
# TOML documents

A document is read line by line.  A line holds a header, which says what table the lines behind it belong
to, or a key with its value, or neither; a comment may end any line.  Arrays may run over several lines,
inline tables may not.  `document?` answers the tree of a document, or nothing if it is not well formed.

Dates and times are not read.
-/

namespace RuleMatch.Settings.Toml

/-- Passes the blanks of a line. -/
def passBlanks (text : Text) : Text :=
  text.dropWhile fun c => c == ' ' || c == '\t'

/-- Passes a comment, if there is one. -/
def passComment? (text : Text) : Option Text :=
  match text with
  | '#' :: rest =>
      match rest.dropWhile isPlain with
      | [] => some []
      | '\n' :: rest => some ('\n' :: rest)
      | '\r' :: '\n' :: rest => some ('\n' :: rest)
      | _ => none
  | text => some text

/-- Passes blanks, comments and line breaks, in at most `steps` steps. -/
def passLines? : (steps : Nat) → Text → Option Text
  | 0, _ => none
  | steps + 1, text => do
      match ← passComment? (passBlanks text) with
      | '\n' :: rest => passLines? steps rest
      | '\r' :: '\n' :: rest => passLines? steps rest
      | rest => some rest

/-- Passes the end of a line, with a comment in front of it. -/
def passLineEnd? (text : Text) : Option Text := do
  match ← passComment? (passBlanks text) with
  | [] => some []
  | '\n' :: rest => some rest
  | '\r' :: '\n' :: rest => some rest
  | _ => none

/-- Whether a character may stand in a key without quotes. -/
def isBareKeyChar (c : Char) : Bool :=
  c.isAlphanum || c == '_' || c == '-'

/-- Reads one key. -/
def readKey? (text : Text) : Option (String × Text) :=
  match text with
  | '"' :: _ | '\'' :: _ => (readLine? text).map fun (cs, rest) => (String.ofList cs, rest)
  | text =>
      let name := text.takeWhile isBareKeyChar
      if name.isEmpty then none else some (String.ofList name, text.dropWhile isBareKeyChar)

/-- Reads keys with points between them, in at most `steps` steps.  The last of them is set apart. -/
def readKeys? : (steps : Nat) → Text → Option ((List String × String) × Text)
  | 0, _ => none
  | steps + 1, text => do
      let (key, rest) ← readKey? (passBlanks text)
      match passBlanks rest with
      | '.' :: rest => do
          let ((path, last), rest) ← readKeys? steps rest
          return ((key :: path, last), rest)
      | rest => return (([], key), rest)

mutual

/-- Reads a value, in at most `steps` steps. -/
def readValue? : (steps : Nat) → Text → Option (Tree × Text)
  | 0, _ => none
  | steps + 1, text =>
      match text with
      | '[' :: rest => (readItems? steps rest).map fun (items, rest) => (.array items, rest)
      | '\x7b' :: rest =>
          match passBlanks rest with
          | '\x7d' :: rest => some (.table .braced [], rest)
          | rest => readEntries? steps (.table .braced []) rest
      | text => (readScalar? text).map fun (s, rest) => (.scalar s, rest)

/-- Reads the items of an array and the bracket at its end. -/
def readItems? : (steps : Nat) → Text → Option (List Tree × Text)
  | 0, _ => none
  | steps + 1, text => do
      match ← passLines? (text.length + 1) text with
      | ']' :: rest => return ([], rest)
      | text => do
          let (item, rest) ← readValue? steps text
          match ← passLines? (rest.length + 1) rest with
          | ']' :: rest => return ([item], rest)
          | ',' :: rest => do
              let (items, rest) ← readItems? steps rest
              return (item :: items, rest)
          | _ => none

/-- Reads the entries of an inline table into a tree, and the brace at its end. -/
def readEntries? : (steps : Nat) → Tree → Text → Option (Tree × Text)
  | 0, _, _ => none
  | steps + 1, tree, text => do
      let ((path, key), rest) ← readKeys? (text.length + 1) text
      match rest with
      | '=' :: rest => do
          let (value, rest) ← readValue? steps (passBlanks rest)
          let tree ← tree.insertKey path key value
          match passBlanks rest with
          | '\x7d' :: rest => return (tree, rest)
          | ',' :: rest => readEntries? steps tree rest
          | _ => none
      | _ => none

end

/-- Reads a header behind its first bracket: the tree with the table of the header, the way there, and what
follows the header. -/
def readHeader? (tree : Tree) (text : Text) : Option (Tree × List String × Text) :=
  match text with
  | '[' :: rest => do
      let ((path, key), rest) ← readKeys? (rest.length + 1) rest
      match rest with
      | ']' :: ']' :: rest => return (← tree.openItem path key, path ++ [key], rest)
      | _ => none
  | text => do
      let ((path, key), rest) ← readKeys? (text.length + 1) text
      match rest with
      | ']' :: rest => return (← tree.openSection path key, path ++ [key], rest)
      | _ => none

/-- Reads the lines of a document into a tree, in at most `steps` steps.  The lines at hand belong to the
table of the given header. -/
def readLines? : (steps : Nat) → (header : List String) → Tree → Text → Option Tree
  | 0, _, _, _ => none
  | steps + 1, header, tree, text => do
      match ← passLines? (text.length + 1) text with
      | [] => some tree
      | '[' :: rest => do
          let (tree, header, rest) ← readHeader? tree rest
          readLines? steps header tree (← passLineEnd? rest)
      | text => do
          let ((path, key), rest) ← readKeys? (text.length + 1) text
          match rest with
          | '=' :: rest => do
              let (value, rest) ← readValue? (2 * rest.length + 2) (passBlanks rest)
              let tree ← tree.insertBelow header path key value
              readLines? steps header tree (← passLineEnd? rest)
          | _ => none

/-- Leaves out the byte order mark that a text may start with. -/
def afterByteOrderMark : Text → Text
  | '\ufeff' :: rest => rest
  | text => text

/-- The tree of a document. -/
def document? (text : Text) : Option Tree :=
  let text := afterByteOrderMark text
  readLines? (text.length + 1) [] (.table .headed []) text

end RuleMatch.Settings.Toml
