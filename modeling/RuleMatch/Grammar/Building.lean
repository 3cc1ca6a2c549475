import RuleMatch.Grammar.Basic

/-!
# Building grammars

A grammar is built by steps that declare and define cells.  A fault ends the building, and the grammar
stays as far as it was built.  `Building.recursive` makes a rule that may refer to itself: the definition
is built while the cell is declared already, and may itself declare and define cells.
-/

namespace RuleMatch

/-- A stretch of building, which leaves a grammar behind even if it meets a fault. -/
abbrev Building := ExceptT Fault (StateM Grammar)

namespace Building

/-- Adds a cell that has no definition yet. -/
def declare (name : String) : Building Cell :=
  modifyGet fun g => g.declare name

/-- Gives a cell its definition. -/
def define (cell : Cell) (rule : Rule) : Building Unit := do
  match (← get).define cell rule with
  | .ok g => set g
  | .error fault => throw fault

/-- Adds a cell with its definition. -/
def declareAs (name : String) (rule : Rule) : Building Cell := do
  let cell ← declare name
  define cell rule
  return cell

/-- Adds a cell whose definition is built with the cell at hand. -/
def recursive (name : String) (build : Cell → Building Rule) : Building Cell := do
  let cell ← declare name
  let rule ← build cell
  define cell rule
  return cell

/-- Builds on a grammar. -/
def runOn {α : Type} (steps : Building α) (g : Grammar) : Except Fault α × Grammar :=
  StateT.run (ExceptT.run steps) g

/-! ## What steps do -/

@[simp] theorem runOn_pure {α : Type} (value : α) (g : Grammar) :
    (pure value : Building α).runOn g = (.ok value, g) := rfl

/-- A fault of the first steps is the fault of the whole, and leaves the grammar that they left. -/
@[simp] theorem runOn_bind {α β : Type} (steps : Building α) (next : α → Building β) (g : Grammar) :
    (steps >>= next).runOn g
      = match steps.runOn g with
        | (.ok value, g') => (next value).runOn g'
        | (.error fault, g') => (.error fault, g') := by
  simp only [runOn, ExceptT.run_bind, StateT.run_bind]
  cases StateT.run (ExceptT.run steps) g with
  | mk answer g' =>
      cases answer with
      | ok value => rfl
      | error fault => rfl

@[simp] theorem runOn_declare (name : String) (g : Grammar) :
    (declare name).runOn g = (.ok (g.declare name).1, (g.declare name).2) := rfl

/-- A cell that has a definition keeps it, and nothing else changes either. -/
theorem runOn_define_of_defined {g : Grammar} {cell : Cell} {definition : Rule}
    (h : g.definition? cell = some definition) (rule : Rule) :
    (define cell rule).runOn g = (.error (.redefinedRule cell.name), g) := by
  show (match g.define cell rule with
    | .ok g' => set g'
    | .error fault => throw fault : Building Unit).runOn g = _
  rw [Grammar.define_of_defined h]
  rfl

theorem runOn_define_of_undefined {g : Grammar} {cell : Cell} (h : g.definition? cell = none)
    (rule : Rule) :
    (define cell rule).runOn g = (.ok (), ⟨g.definitions.setIfInBounds cell.id (some rule)⟩) := by
  show (match g.define cell rule with
    | .ok g' => set g'
    | .error fault => throw fault : Building Unit).runOn g = _
  rw [Grammar.define_of_undefined h]
  rfl

/-- A rule that makes no use of the cell at hand can just as well be built before. -/
theorem declareAs_eq_recursive (name : String) (rule : Rule) :
    declareAs name rule = recursive name fun _ => pure rule := rfl

end Building

end RuleMatch
