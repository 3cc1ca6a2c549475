import RuleMatch.Match.Failure
import RuleMatch.Rule.Basic

/-!
# Grammars

A grammar says which rules its cells stand for.  A cell is declared with a name and without a definition,
and gets its definition later, so that rules may refer to it in between.  A definition is given once: a
second one is a fault and changes nothing.

Since definitions may be recursive, matching goes by a bound on how deep calls for rules nest.
`Grammar.budget` is large enough for every match that ends at all.
-/

namespace RuleMatch

/-- The definitions of cells, by their numbers. -/
structure Grammar where
  definitions : Array (Option Rule) := #[]

namespace Grammar

/-- The rule that a cell stands for, if it has been defined. -/
def definition? (g : Grammar) (cell : Cell) : Option Rule :=
  g.definitions[cell.id]?.join

/-- Whether a cell has been defined. -/
def isDefined (g : Grammar) (cell : Cell) : Bool :=
  (g.definition? cell).isSome

/-- The rule that a cell stands for, or the failure that says that there is none. -/
def lookUp (g : Grammar) (cell : Cell) : Except Failure Rule :=
  match g.definition? cell with
  | some rule => .ok rule
  | none => .error (.undefinedRule cell.name)

/-- The rule that a cell must stand for. -/
def require (g : Grammar) (cell : Cell) : Except Fault Rule :=
  match g.definition? cell with
  | some rule => .ok rule
  | none => .error (.undefinedRule cell.name)

/-- Adds a cell that has no definition yet. -/
def declare (g : Grammar) (name : String) : Cell × Grammar :=
  (⟨g.definitions.size, name⟩, ⟨g.definitions.push none⟩)

/-- Gives a cell its definition. -/
def define (g : Grammar) (cell : Cell) (rule : Rule) : Except Fault Grammar :=
  match g.definition? cell with
  | some _ => .error (.redefinedRule cell.name)
  | none => .ok ⟨g.definitions.setIfInBounds cell.id (some rule)⟩

/-- A new cell has no definition, and no other cell gets or loses one. -/
@[simp] theorem definition?_declare (g : Grammar) (name : String) (other : Cell) :
    (g.declare name).2.definition? other = g.definition? other := by
  show (g.definitions.push none)[other.id]?.join = g.definitions[other.id]?.join
  rw [Array.getElem?_push]
  split
  · next hnew =>
      rw [hnew, Array.getElem?_eq_none (Nat.le_refl _)]
      rfl
  · rfl

theorem definition?_of_size_le {g : Grammar} {cell : Cell} (h : g.definitions.size ≤ cell.id) :
    g.definition? cell = none := by
  rw [definition?, Array.getElem?_eq_none h]
  rfl

theorem define_of_defined {g : Grammar} {cell : Cell} {definition : Rule}
    (h : g.definition? cell = some definition) (rule : Rule) :
    g.define cell rule = .error (.redefinedRule cell.name) := by
  rw [define, h]

theorem define_of_undefined {g : Grammar} {cell : Cell} (h : g.definition? cell = none) (rule : Rule) :
    g.define cell rule = .ok ⟨g.definitions.setIfInBounds cell.id (some rule)⟩ := by
  rw [define, h]

/-- The size of all definitions together. -/
def size (g : Grammar) : Nat :=
  Rule.sizeAll (g.definitions.toList.filterMap id)

/-- How deep calls for rules can nest before one of them repeats a call that it is part of.  Such a call is
given by a rule, a place ahead, and whether blanks may be skipped there; the last term leaves room for a
body to be repeated at every place. -/
def budget (g : Grammar) (rule : Rule) (c : Cursor) : Nat :=
  (c.ahead.length + 1) * (2 * (rule.size + g.size) + 1) + 1

end Grammar

end RuleMatch
