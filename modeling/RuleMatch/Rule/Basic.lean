/-!
# Rules

A rule describes the texts that it matches.  Terminals match characters directly; every other rule is put
together from smaller ones.  A rule cannot contain itself, so recursion goes through a cell: `Rule.ref`
refers to a cell, and a grammar says which rule the cell stands for.

Two cells are the same if they come from the same declaration, whatever their names and definitions.
Rules compare in this sense (`Rule.same`): equal shape, equal texts and names, and the same cells.
-/

namespace RuleMatch

/-- A rule that matches characters directly. -/
inductive Terminal where
  /-- One decimal digit of ASCII. -/
  | digit
  /-- One letter of ASCII. -/
  | letter
  /-- One blank. -/
  | blank
  /-- This character, after any blanks. -/
  | char (c : Char)
  /-- This text as a whole word, after any blanks. -/
  | keyword (text : String)
  deriving DecidableEq, Repr

/-- Whether the parts of a series may stand apart. -/
inductive Spacing where
  /-- Blanks may stand between the parts. -/
  | spaced
  /-- The parts follow each other directly. -/
  | adjacent
  deriving DecidableEq, Repr

/-- A handle of a recursive rule. -/
structure Cell where
  /-- Tells the cells of one grammar apart. -/
  id : Nat
  name : String
  deriving Repr

namespace Cell

/-- Cells compare by declaration alone. -/
instance : BEq Cell := ⟨fun a b => a.id == b.id⟩

theorem beq_iff {a b : Cell} : (a == b) = true ↔ a.id = b.id := by
  show (a.id == b.id) = true ↔ a.id = b.id
  simp

end Cell

/-- What a grammar allows at one place. -/
inductive Rule where
  | terminal (t : Terminal)
  /-- Matches like `body`, and is described by the name alone. -/
  | named (name : String) (body : Rule)
  | oneOrMore (body : Rule)
  | zeroOrMore (body : Rule)
  | optional (body : Rule)
  /-- The first alternative that matches, in this order. -/
  | oneOf (alternatives : List Rule)
  /-- All parts, one after the other. -/
  | series (spacing : Spacing) (parts : List Rule)
  /-- Whatever the cell stands for. -/
  | ref (cell : Cell)
  deriving Repr

namespace Rule

@[match_pattern] abbrev digit : Rule := .terminal .digit

@[match_pattern] abbrev letter : Rule := .terminal .letter

@[match_pattern] abbrev blank : Rule := .terminal .blank

@[match_pattern] abbrev char (c : Char) : Rule := .terminal (.char c)

@[match_pattern] abbrev keyword (text : String) : Rule := .terminal (.keyword text)

/-- Whether a rule matches characters directly. -/
def isTerminal : Rule → Bool
  | .terminal _ => true
  | _ => false

mutual

/-- Whether two rules have the same shape, texts and names, and refer to the same cells. -/
def same : Rule → Rule → Bool
  | .terminal s, .terminal t => s == t
  | .named m r, .named n s => m == n && same r s
  | .oneOrMore r, .oneOrMore s => same r s
  | .zeroOrMore r, .zeroOrMore s => same r s
  | .optional r, .optional s => same r s
  | .oneOf rs, .oneOf ss => sameAll rs ss
  | .series k rs, .series l ss => k == l && sameAll rs ss
  | .ref a, .ref b => a == b
  | _, _ => false

/-- Whether two lists of rules are the same, rule by rule. -/
def sameAll : List Rule → List Rule → Bool
  | [], [] => true
  | r :: rs, s :: ss => same r s && sameAll rs ss
  | _, _ => false

end

instance : BEq Rule := ⟨same⟩

mutual

/-- The number of rules that a rule is put together from, itself included. -/
def size : Rule → Nat
  | .terminal _ => 1
  | .named _ body => body.size + 1
  | .oneOrMore body => body.size + 1
  | .zeroOrMore body => body.size + 1
  | .optional body => body.size + 1
  | .oneOf alternatives => sizeAll alternatives + 1
  | .series _ parts => sizeAll parts + 1
  | .ref _ => 1

/-- The size of all rules of a list together. -/
def sizeAll : List Rule → Nat
  | [] => 0
  | rule :: rules => rule.size + sizeAll rules

end

end Rule

end RuleMatch
