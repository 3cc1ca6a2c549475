import Mathlib.Data.List.Infix
import RuleMatch.Grammar.Building

/-!
# Cells over whole runs

A workshop is a grammar together with the handles that are held on its cells.  What can be done to it is to
make a cell, with or without a definition or around a builder, to copy a handle, and to give a rule to the
cell of a handle.  A builder does such things itself, with the handle that it is called with and with all the
others, while the cell that it builds for is still undefined.  A fault ends the operation that meets it, not
the run: whoever catches it may go on.

A workshop also keeps a record: the names of the cells in the order of their making, and every rule that was
given to a cell, refused ones included.  A handle knows the number of the creation that it stems from.

* `Becomes` — what finitely many operations may turn a workshop into; that it says nothing about the order
  of operations, or about what a builder does, is the point.
* `Sound` — the record agrees with the grammar: a cell stands for the first rule that was given to it.
* `Becomes.keeps` — every operation keeps a workshop sound, and only adds to handles and record; what was
  first in a record stays first (`GrewTo.firstGiven`).
* `cells_are_assigned_once` — what this means for handles, definitions and faults.
-/

namespace RuleMatch

/-! ## Definitions through the steps of building -/

namespace Building

variable {g : Grammar}

/-- Giving a rule to a cell defines it if it is undefined; all other cells stay as they are. -/
theorem definition?_define {cell : Cell} (hmade : cell.id < g.definitions.size) (rule : Rule)
    (other : Cell) :
    ((define cell rule).runOn g).2.definition? other
      = (g.definition? other).or (if other.id = cell.id then some rule else none) := by
  cases hdef : g.definition? cell with
  | some definition =>
      rw [runOn_define_of_defined hdef]
      by_cases hsame : other.id = cell.id
      · rw [Grammar.definition?, hsame, ← Grammar.definition?, hdef]
        rfl
      · simp [hsame]
  | none =>
      rw [runOn_define_of_undefined hdef]
      show (g.definitions.setIfInBounds cell.id (some rule))[other.id]?.join = _
      by_cases hsame : other.id = cell.id
      · rw [hsame, Array.getElem?_setIfInBounds_self_of_lt hmade, if_pos rfl, Grammar.definition?, hsame,
          ← Grammar.definition?, hdef]
        rfl
      · rw [Array.getElem?_setIfInBounds_ne (Ne.symm hsame), if_neg hsame, Option.or_none]
        rfl

theorem size_define (cell : Cell) (rule : Rule) :
    ((define cell rule).runOn g).2.definitions.size = g.definitions.size := by
  cases hdef : g.definition? cell with
  | some definition => rw [runOn_define_of_defined hdef]
  | none =>
      rw [runOn_define_of_undefined hdef]
      exact Array.size_setIfInBounds

/-- A fault of the builder is the fault of the whole. -/
theorem runOn_recursive_of_fault {name : String} {build : Cell → Building Rule} {fault : Fault}
    {inner : Grammar}
    (work : (build (g.declare name).1).runOn (g.declare name).2 = (.error fault, inner)) :
    (recursive name build).runOn g = (.error fault, inner) := by
  simp only [recursive, runOn_bind, runOn_declare, work]

/-- What the builder built is given to the cell, in the grammar that the builder left. -/
theorem runOn_recursive_of_built {name : String} {build : Cell → Building Rule} {rule : Rule}
    {inner : Grammar}
    (work : (build (g.declare name).1).runOn (g.declare name).2 = (.ok rule, inner)) :
    (recursive name build).runOn g
      = (((define (g.declare name).1 rule).runOn inner).1.map fun _ => (g.declare name).1,
        ((define (g.declare name).1 rule).runOn inner).2) := by
  simp only [recursive, runOn_bind, runOn_declare, work, runOn_pure]
  cases (define (g.declare name).1 rule).runOn inner with
  | mk answer after =>
      cases answer with
      | ok done => rfl
      | error fault => rfl

end Building

/-! ## Workshops -/

/-- A handle that is held, with the number of the creation that it stems from. -/
structure Handle where
  origin : Nat
  cell : Cell

/-- A grammar under construction, with the handles that are held and a record of what was done. -/
structure Workshop where
  grammar : Grammar := {}
  handles : List Handle := []
  /-- The names of the cells, in the order of their making. -/
  created : List String := []
  /-- The rules given to cells, each with the number of the creation, in the order of giving. -/
  given : List (Nat × Rule) := []

namespace Workshop

/-- The first rule that was given to the cell of a creation. -/
def firstGiven (w : Workshop) (origin : Nat) : Option Rule :=
  w.given.lookup origin

/-- A new cell has been made, and there is a handle on it. -/
def make (w : Workshop) (name : String) : Workshop where
  grammar := (w.grammar.declare name).2
  handles := w.handles ++ [⟨w.created.length, (w.grammar.declare name).1⟩]
  created := w.created ++ [name]
  given := w.given

/-- A handle has been copied. -/
def copy (w : Workshop) (handle : Handle) : Workshop :=
  { w with handles := w.handles ++ [handle] }

/-- A rule has been given to the cell of a creation, and this is what the grammar is like after that. -/
def give (w : Workshop) (origin : Nat) (rule : Rule) (after : Grammar) : Workshop :=
  { w with grammar := after, given := w.given ++ [(origin, rule)] }

/-- What a builder came to has been given to the cell of a creation, unless it came to a fault. -/
def conclude (w : Workshop) (origin : Nat) (built : Except Fault Rule) (after : Grammar) : Workshop :=
  match built with
  | .ok rule => w.give origin rule after
  | .error _ => { w with grammar := after }

/-- What finitely many operations may turn a workshop into.  Of a builder it is asked that what it does to the
grammar is a run of such operations too, which starts with the new cell and a handle on it. -/
inductive Becomes : Workshop → Workshop → Prop where
  | refl (w : Workshop) : Becomes w w
  | declare {first w : Workshop} (before : Becomes first w) {name : String} {cell : Cell} {g : Grammar}
      (run : (Building.declare name).runOn w.grammar = (.ok cell, g)) :
      Becomes first { w.make name with grammar := g }
  | declareAs {first w : Workshop} (before : Becomes first w) {name : String} {rule : Rule}
      {answer : Except Fault Cell} {g : Grammar}
      (run : (Building.declareAs name rule).runOn w.grammar = (answer, g)) :
      Becomes first ((w.make name).give w.created.length rule g)
  | recursive {first w inner : Workshop} (before : Becomes first w) {name : String}
      (build : Cell → Building Rule) {built : Except Fault Rule} {answer : Except Fault Cell} {g : Grammar}
      (inside : Becomes (w.make name) inner)
      (work : (build (w.grammar.declare name).1).runOn (w.make name).grammar = (built, inner.grammar))
      (run : (Building.recursive name build).runOn w.grammar = (answer, g)) :
      Becomes first (inner.conclude w.created.length built g)
  | copy {first w : Workshop} (before : Becomes first w) {handle : Handle} (held : handle ∈ w.handles) :
      Becomes first (w.copy handle)
  | define {first w : Workshop} (before : Becomes first w) {handle : Handle} (held : handle ∈ w.handles)
      {rule : Rule} {answer : Except Fault Unit} {g : Grammar}
      (run : (Building.define handle.cell rule).runOn w.grammar = (answer, g)) :
      Becomes first (w.give handle.origin rule g)

/-! ## What every operation keeps -/

/-- The record of a workshop agrees with its grammar. -/
structure Sound (w : Workshop) : Prop where
  size_eq : w.grammar.definitions.size = w.created.length
  /-- A handle has the number and the name that its cell was made with. -/
  stems : ∀ handle ∈ w.handles,
    handle.cell.id = handle.origin ∧ w.created[handle.origin]? = some handle.cell.name
  definition_eq : ∀ cell : Cell, w.grammar.definition? cell = w.firstGiven cell.id

/-- Handles, cells and rules given have at most become more. -/
structure GrewTo (w w' : Workshop) : Prop where
  handles : w.handles <+: w'.handles
  created : w.created <+: w'.created
  given : w.given <+: w'.given

variable {w w' w'' : Workshop}

namespace GrewTo

theorem refl (w : Workshop) : w.GrewTo w :=
  ⟨List.prefix_rfl, List.prefix_rfl, List.prefix_rfl⟩

theorem trans (h : w.GrewTo w') (h' : w'.GrewTo w'') : w.GrewTo w'' :=
  ⟨h.handles.trans h'.handles, h.created.trans h'.created, h.given.trans h'.given⟩

theorem make (w : Workshop) (name : String) : w.GrewTo (w.make name) :=
  ⟨List.prefix_append _ _, List.prefix_append _ _, List.prefix_rfl⟩

theorem copy (w : Workshop) (handle : Handle) : w.GrewTo (w.copy handle) :=
  ⟨List.prefix_append _ _, List.prefix_rfl, List.prefix_rfl⟩

theorem give (w : Workshop) (origin : Nat) (rule : Rule) (after : Grammar) :
    w.GrewTo (w.give origin rule after) :=
  ⟨List.prefix_rfl, List.prefix_rfl, List.prefix_append _ _⟩

theorem conclude (w : Workshop) (origin : Nat) (built : Except Fault Rule) (after : Grammar) :
    w.GrewTo (w.conclude origin built after) := by
  cases built with
  | ok rule => exact give w origin rule after
  | error fault => exact ⟨List.prefix_rfl, List.prefix_rfl, List.prefix_rfl⟩

/-- A builder works on when the cell that it builds for has been made. -/
theorem length_lt {name : String} (h : (w.make name).GrewTo w') : w.created.length < w'.created.length := by
  have hlength := h.created.length_le
  rw [Workshop.make, List.length_append, List.length_singleton] at hlength
  omega

/-- What was the first to be given is so for good. -/
theorem firstGiven (h : w.GrewTo w') {origin : Nat} {rule : Rule}
    (hfirst : w.firstGiven origin = some rule) : w'.firstGiven origin = some rule :=
  List.IsPrefix.lookup_eq_some h.given hfirst

end GrewTo

/-- What is given to a cell later does not count. -/
theorem firstGiven_give (w : Workshop) (origin : Nat) (rule : Rule) (after : Grammar) (other : Nat) :
    (w.give origin rule after).firstGiven other
      = (w.firstGiven other).or (if other = origin then some rule else none) := by
  simp only [firstGiven, give, List.lookup_append]
  by_cases hsame : other = origin
  · simp [hsame]
  · have hne : (other == origin) = false := by simpa using hsame
    simp [hsame, hne, List.lookup_cons]

namespace Sound

theorem empty : Sound {} where
  size_eq := rfl
  stems := by simp
  definition_eq := fun _ => rfl

/-- The number of a new cell is that of its creation. -/
theorem make (h : w.Sound) (name : String) : (w.make name).Sound where
  size_eq := by
    show (w.grammar.definitions.push none).size = (w.created ++ [name]).length
    rw [Array.size_push, h.size_eq, List.length_append, List.length_singleton]
  stems handle held := by
    show _ ∧ (w.created ++ [name])[handle.origin]? = _
    rcases List.mem_append.1 held with hold | hnew
    · obtain ⟨hid, hname⟩ := h.stems handle hold
      have hlt : handle.origin < w.created.length := (List.getElem?_eq_some_iff.1 hname).1
      exact ⟨hid, by rw [List.getElem?_append_left hlt, hname]⟩
    · rw [List.mem_singleton.1 hnew]
      exact ⟨h.size_eq, List.getElem?_concat_length⟩
  definition_eq cell := by
    show (w.grammar.declare name).2.definition? cell = _
    rw [Grammar.definition?_declare, h.definition_eq]
    rfl

theorem copy (h : w.Sound) {handle : Handle} (held : handle ∈ w.handles) : (w.copy handle).Sound where
  size_eq := h.size_eq
  stems other hother := by
    rcases List.mem_append.1 hother with hold | hnew
    · exact h.stems other hold
    · rw [List.mem_singleton.1 hnew]
      exact h.stems handle held
  definition_eq := h.definition_eq

/-- The first rule that is given to a cell becomes its definition and a later one changes nothing; in the
record, too, a later entry for the same cell is never the one that is found. -/
theorem give (h : w.Sound) {cell : Cell} {origin : Nat} (hid : cell.id = origin)
    (hmade : origin < w.created.length) (rule : Rule) :
    (w.give origin rule ((Building.define cell rule).runOn w.grammar).2).Sound where
  size_eq := by
    show ((Building.define cell rule).runOn w.grammar).2.definitions.size = w.created.length
    rw [Building.size_define, h.size_eq]
  stems := h.stems
  definition_eq other := by
    show ((Building.define cell rule).runOn w.grammar).2.definition? other = _
    have hlt : cell.id < w.grammar.definitions.size := by
      rw [hid, h.size_eq]
      exact hmade
    rw [Building.definition?_define hlt, firstGiven_give, h.definition_eq, hid]

/-- A recursive rule leaves a sound workshop if its builder does, whether or not it comes to a fault. -/
theorem conclude (h : w.Sound) {inner : Workshop} (hinner : inner.Sound) {name : String}
    (hgrew : (w.make name).GrewTo inner) (build : Cell → Building Rule) {built : Except Fault Rule}
    (work : (build (w.grammar.declare name).1).runOn (w.make name).grammar = (built, inner.grammar)) :
    (inner.conclude w.created.length built
      ((Building.recursive name build).runOn w.grammar).2).Sound := by
  cases built with
  | error fault =>
      rw [Building.runOn_recursive_of_fault work]
      exact ⟨hinner.size_eq, hinner.stems, hinner.definition_eq⟩
  | ok rule =>
      -- Whether or not the builder has defined the new cell, giving it the rule is one more step.
      rw [Building.runOn_recursive_of_built work]
      exact hinner.give h.size_eq hgrew.length_lt rule

end Sound

/-- No operation breaks the agreement, and none takes anything away. -/
theorem Becomes.keeps (h : Becomes w w') (hw : w.Sound) : w'.Sound ∧ w.GrewTo w' := by
  -- In each case but the first, `ih` is about the operations before; in that of a builder, `ihinside` is about
  -- what was done by the builder, which starts with the new cell.
  induction h with
  | refl w => exact ⟨hw, .refl w⟩
  | @declare first w before name cell g run ih =>
      obtain ⟨hsound, hgrew⟩ := ih hw
      obtain rfl : (w.grammar.declare name).2 = g := congrArg Prod.snd run
      exact ⟨hsound.make name, hgrew.trans (.make w name)⟩
  | @declareAs first w before name rule answer g run ih =>
      obtain ⟨hsound, hgrew⟩ := ih hw
      rw [Building.declareAs_eq_recursive] at run
      obtain rfl := congrArg Prod.snd run
      exact ⟨hsound.conclude (hsound.make name) (.refl _) (fun _ => pure rule) rfl,
        (hgrew.trans (.make w name)).trans (.give _ _ rule _)⟩
  | @recursive first w inner before name build built answer g inside work run ih ihinside =>
      obtain ⟨hsound, hgrew⟩ := ih hw
      obtain ⟨hinner, hmore⟩ := ihinside (hsound.make name)
      obtain rfl := congrArg Prod.snd run
      exact ⟨hsound.conclude hinner hmore build work,
        ((hgrew.trans (.make w name)).trans hmore).trans (.conclude _ _ built _)⟩
  | @copy first w before handle held ih =>
      obtain ⟨hsound, hgrew⟩ := ih hw
      exact ⟨hsound.copy held, hgrew.trans (.copy w handle)⟩
  | @define first w before handle held rule answer g run ih =>
      obtain ⟨hsound, hgrew⟩ := ih hw
      obtain ⟨hid, hname⟩ := hsound.stems handle held
      obtain rfl := congrArg Prod.snd run
      exact ⟨hsound.give hid (List.getElem?_eq_some_iff.1 hname).1 rule,
        hgrew.trans (.give w handle.origin rule _)⟩

/-! ## What handles show -/

/-- What can be seen of a cell through a handle, if it has this name and this definition. -/
structure Shows (w : Workshop) (handle : Handle) (name : String) (rule? : Option Rule) : Prop where
  name_eq : handle.cell.name = name
  definition_eq : w.grammar.definition? handle.cell = rule?
  isDefined_eq : w.grammar.isDefined handle.cell = rule?.isSome
  lookUp_eq : w.grammar.lookUp handle.cell = rule?.elim (.error (.undefinedRule name)) .ok
  require_eq : w.grammar.require handle.cell = rule?.elim (.error (.undefinedRule name)) .ok

/-- Among the cells that there are handles on, a grammar differs from that of the workshop in one definition
at most: the cell of this creation stands for this rule. -/
def DefinesOnly (w : Workshop) (origin : Nat) (rule : Rule) (after : Grammar) : Prop :=
  ∀ handle ∈ w.handles, after.definition? handle.cell
    = if handle.origin = origin then some rule else w.grammar.definition? handle.cell

namespace Sound

theorem shows (h : w.Sound) {handle : Handle} (held : handle ∈ w.handles) :
    ∃ name, w.created[handle.origin]? = some name ∧ w.Shows handle name (w.firstGiven handle.origin) := by
  obtain ⟨hid, hname⟩ := h.stems handle held
  have hdef : w.grammar.definition? handle.cell = w.firstGiven handle.origin := by
    rw [h.definition_eq, hid]
  refine ⟨handle.cell.name, hname, rfl, hdef, ?_, ?_, ?_⟩
  · rw [Grammar.isDefined, hdef]
  · rw [Grammar.lookUp, hdef]
    cases w.firstGiven handle.origin <;> rfl
  · rw [Grammar.require, hdef]
    cases w.firstGiven handle.origin <;> rfl

theorem beq_iff (h : w.Sound) {a b : Handle} (ha : a ∈ w.handles) (hb : b ∈ w.handles) :
    (a.cell == b.cell) = true ↔ a.origin = b.origin := by
  rw [Cell.beq_iff, (h.stems a ha).1, (h.stems b hb).1]

/-- Handles that stem from one creation are the same in every respect. -/
theorem cell_eq (h : w.Sound) {a b : Handle} (ha : a ∈ w.handles) (hb : b ∈ w.handles)
    (horigin : a.origin = b.origin) : a.cell = b.cell := by
  obtain ⟨haid, haname⟩ := h.stems a ha
  obtain ⟨hbid, hbname⟩ := h.stems b hb
  have hid : a.cell.id = b.cell.id := by rw [haid, hbid, horigin]
  have hname : a.cell.name = b.cell.name := by
    rw [horigin, hbname] at haname
    exact (Option.some.inj haname).symm
  calc a.cell = ⟨a.cell.id, a.cell.name⟩ := rfl
    _ = ⟨b.cell.id, b.cell.name⟩ := by rw [hid, hname]
    _ = b.cell := rfl

theorem definesOnly (h : w.Sound) {cell : Cell} {origin : Nat} (hid : cell.id = origin)
    (hmade : origin < w.created.length) (hdef : w.grammar.definition? cell = none) (rule : Rule) :
    ((Building.define cell rule).runOn w.grammar).1 = .ok () ∧
      w.DefinesOnly origin rule ((Building.define cell rule).runOn w.grammar).2 := by
  constructor
  · rw [Building.runOn_define_of_undefined hdef]
  · -- The numbers of cells are those of their creations, so that handles show which cell is meant.
    intro other held
    have hlt : cell.id < w.grammar.definitions.size := by
      rw [hid, h.size_eq]
      exact hmade
    rw [Building.definition?_define hlt, (h.stems other held).1, hid]
    by_cases hsame : other.origin = origin
    · have hother : w.grammar.definition? other.cell = none := by
        rw [h.definition_eq, (h.stems other held).1, hsame, ← hid, ← h.definition_eq, hdef]
      rw [if_pos hsame, hother, if_pos hsame]
      rfl
    · rw [if_neg hsame, if_neg hsame, Option.or_none]

/-- A cell that has just been made is another one than those before. -/
theorem beq_new (h : w.Sound) (name : String) {handle : Handle} (held : handle ∈ w.handles) :
    ((w.grammar.declare name).1 == handle.cell) = false := by
  obtain ⟨hid, hname⟩ := h.stems handle held
  have hlt := (List.getElem?_eq_some_iff.1 hname).1
  rw [← h.size_eq, ← hid] at hlt
  show (w.grammar.definitions.size == handle.cell.id) = false
  simp only [beq_eq_false_iff_ne]
  omega

end Sound

/-! ## Assigned once -/

/-- What giving a rule to the cell of a handle comes to. -/
structure DefineLaw (w : Workshop) (handle : Handle) (rule : Rule) : Prop where
  /-- A defined cell refuses by its name, and everything stays as it is. -/
  refused : w.grammar.isDefined handle.cell = true → ∃ name, w.created[handle.origin]? = some name ∧
    (Building.define handle.cell rule).runOn w.grammar = (.error (.redefinedRule name), w.grammar)
  accepted : w.grammar.isDefined handle.cell = false →
    ((Building.define handle.cell rule).runOn w.grammar).1 = .ok () ∧
      w.DefinesOnly handle.origin rule ((Building.define handle.cell rule).runOn w.grammar).2

/-- What making a cell comes to, without a definition or with one. -/
structure MakeLaw (w : Workshop) (name : String) (cell : Cell) : Prop where
  name_eq : cell.name = name
  is_new : ∀ handle ∈ w.handles, (cell == handle.cell) = false
  declare : ∃ g, (Building.declare name).runOn w.grammar = (.ok cell, g) ∧ g.isDefined cell = false ∧
    ∀ handle ∈ w.handles, g.definition? handle.cell = w.grammar.definition? handle.cell
  declareAs : ∀ rule, ∃ g, (Building.declareAs name rule).runOn w.grammar = (.ok cell, g) ∧
    (w.make name).DefinesOnly w.created.length rule g

/-- What making a cell around a builder comes to, by what the builder came to and the workshop it left. -/
structure CreateLaw (w : Workshop) (name : String) (build : Cell → Building Rule)
    (built : Except Fault Rule) (inner : Workshop) : Prop where
  faults_iff : (∃ fault, ((Building.recursive name build).runOn w.grammar).1 = .error fault) ↔
    (∃ fault, built = .error fault) ∨ inner.grammar.isDefined (w.grammar.declare name).1 = true
  of_fault : ∀ fault, built = .error fault →
    (Building.recursive name build).runOn w.grammar = (.error fault, inner.grammar)
  /-- If the builder has defined the new cell, this is what the cell keeps. -/
  of_defined : ∀ rule, built = .ok rule → inner.grammar.isDefined (w.grammar.declare name).1 = true →
    (Building.recursive name build).runOn w.grammar = (.error (.redefinedRule name), inner.grammar)
  of_undefined : ∀ rule, built = .ok rule →
    inner.grammar.isDefined (w.grammar.declare name).1 = false →
      ((Building.recursive name build).runOn w.grammar).1 = .ok (w.grammar.declare name).1 ∧
        inner.DefinesOnly w.created.length rule ((Building.recursive name build).runOn w.grammar).2

namespace Sound

theorem defineLaw (h : w.Sound) {handle : Handle} (held : handle ∈ w.handles) (rule : Rule) :
    w.DefineLaw handle rule where
  refused hdefined := by
    obtain ⟨definition, hdef⟩ := Option.isSome_iff_exists.1 hdefined
    exact ⟨handle.cell.name, (h.stems handle held).2, Building.runOn_define_of_defined hdef rule⟩
  accepted hundefined := by
    obtain ⟨hid, hname⟩ := h.stems handle held
    have hdef : w.grammar.definition? handle.cell = none := by simpa [Grammar.isDefined] using hundefined
    exact h.definesOnly hid (List.getElem?_eq_some_iff.1 hname).1 hdef rule

/-- The new cell has no definition before its builder sets to work. -/
theorem isDefined_new (w : Workshop) (name : String) :
    (w.make name).grammar.isDefined (w.grammar.declare name).1 = false := by
  show ((w.grammar.declare name).2.definition? (w.grammar.declare name).1).isSome = false
  rw [Grammar.definition?_declare, Grammar.definition?_of_size_le (Nat.le_refl w.grammar.definitions.size)]
  rfl

theorem createLaw (h : w.Sound) {inner : Workshop} (hinner : inner.Sound) {name : String}
    (hgrew : (w.make name).GrewTo inner) (build : Cell → Building Rule) {built : Except Fault Rule}
    (work : (build (w.grammar.declare name).1).runOn (w.make name).grammar = (built, inner.grammar)) :
    w.CreateLaw name build built inner := by
  have of_fault : ∀ fault, built = .error fault →
      (Building.recursive name build).runOn w.grammar = (.error fault, inner.grammar) := by
    rintro fault rfl
    exact Building.runOn_recursive_of_fault work
  have of_defined : ∀ rule, built = .ok rule →
      inner.grammar.isDefined (w.grammar.declare name).1 = true →
      (Building.recursive name build).runOn w.grammar
        = (.error (.redefinedRule name), inner.grammar) := by
    rintro rule rfl hdefined
    obtain ⟨definition, hdef⟩ := Option.isSome_iff_exists.1 hdefined
    rw [Building.runOn_recursive_of_built work, Building.runOn_define_of_defined hdef]
    rfl
  have of_undefined : ∀ rule, built = .ok rule →
      inner.grammar.isDefined (w.grammar.declare name).1 = false →
      ((Building.recursive name build).runOn w.grammar).1 = .ok (w.grammar.declare name).1 ∧
        inner.DefinesOnly w.created.length rule
          ((Building.recursive name build).runOn w.grammar).2 := by
    rintro rule rfl hundefined
    have hdef : inner.grammar.definition? (w.grammar.declare name).1 = none := by
      simpa [Grammar.isDefined] using hundefined
    obtain ⟨haccepted, honly⟩ := hinner.definesOnly h.size_eq (hgrew.length_lt) hdef rule
    rw [Building.runOn_recursive_of_built work, haccepted]
    exact ⟨rfl, honly⟩
  refine ⟨?_, of_fault, of_defined, of_undefined⟩
  cases built with
  | error fault => simp [of_fault fault rfl]
  | ok rule =>
      cases hdefined : inner.grammar.isDefined (w.grammar.declare name).1 with
      | true => simp [of_defined rule rfl hdefined]
      | false => simp [(of_undefined rule rfl hdefined).1]

theorem makeLaw (h : w.Sound) (name : String) : w.MakeLaw name (w.grammar.declare name).1 where
  name_eq := rfl
  is_new _ held := h.beq_new name held
  declare := ⟨_, rfl, isDefined_new w name, fun _ _ => Grammar.definition?_declare w.grammar name _⟩
  declareAs rule := by
    -- A cell with its definition is made around a builder that does nothing to the grammar.
    have hcreate : w.CreateLaw name (fun _ => pure rule) (.ok rule) (w.make name) :=
      h.createLaw (h.make name) (.refl _) _ rfl
    obtain ⟨hok, honly⟩ := hcreate.of_undefined rule rfl (isDefined_new w name)
    rw [Building.declareAs_eq_recursive]
    exact ⟨_, Prod.ext hok rfl, honly⟩

end Sound

/-- Whatever was done in a workshop that started out empty, and whatever is done after that:

* a handle shows the name that its cell was made with and, as its definition, the first rule that was ever
  given to the cell;
* a handle stays, and so does what its cell stands for; a defined cell does not become undefined;
* two handles are equal if they stem from the same creation, and only then, and such handles have everything
  in common;
* giving a rule to a defined cell is a fault that has the name of the cell and changes nothing; otherwise
  nothing changes but the definition of this cell;
* making a cell, with or without a definition, is never a fault, and the new cell is none of the others;
* making a cell around a builder is a fault if the builder comes to one or has itself defined the new cell,
  and only then; what the builder did stays done. -/
theorem cells_are_assigned_once {w w' : Workshop} (earlier : Becomes {} w) (later : Becomes w w') :
    (∀ handle ∈ w.handles, ∃ name, w.created[handle.origin]? = some name ∧
      w.Shows handle name (w.firstGiven handle.origin)) ∧
    (∀ handle ∈ w.handles, handle ∈ w'.handles ∧
      (∀ rule, w.grammar.definition? handle.cell = some rule →
        w'.grammar.definition? handle.cell = some rule) ∧
      (w.grammar.isDefined handle.cell = true → w'.grammar.isDefined handle.cell = true)) ∧
    (∀ a ∈ w.handles, ∀ b ∈ w.handles,
      ((a.cell == b.cell) = true ↔ a.origin = b.origin) ∧ (a.origin = b.origin → a.cell = b.cell)) ∧
    (∀ handle ∈ w.handles, ∀ rule, w.DefineLaw handle rule) ∧
    (∀ name, ∃ cell, w.MakeLaw name cell) ∧
    ∀ name build built inner, Becomes (w.make name) inner →
      (build (w.grammar.declare name).1).runOn (w.make name).grammar = (built, inner.grammar) →
      w.CreateLaw name build built inner := by
  have hw : w.Sound := (earlier.keeps .empty).1
  obtain ⟨hw', hgrew⟩ := later.keeps hw
  refine ⟨fun handle held => hw.shows held, ?_, ?_, fun handle held rule => hw.defineLaw held rule,
    fun name => ⟨_, hw.makeLaw name⟩, ?_⟩
  · intro handle held
    have hstays : ∀ rule, w.grammar.definition? handle.cell = some rule →
        w'.grammar.definition? handle.cell = some rule := by
      intro rule hdef
      rw [hw.definition_eq] at hdef
      rw [hw'.definition_eq]
      exact hgrew.firstGiven hdef
    refine ⟨hgrew.handles.subset held, hstays, ?_⟩
    intro hdefined
    obtain ⟨rule, hdef⟩ := Option.isSome_iff_exists.1 hdefined
    rw [Grammar.isDefined, hstays rule hdef]
    rfl
  · intro a ha b hb
    exact ⟨hw.beq_iff ha hb, hw.cell_eq ha hb⟩
  · intro name build built inner inside work
    obtain ⟨hinner, hmore⟩ := inside.keeps (hw.make name)
    exact hw.createLaw hinner hmore build work

/-- A builder that defines the cell it is called with, and comes to another rule. -/
def hasty (list : Cell) : Building Rule := do
  Building.define list .letter
  return .digit

/-- Making a cell around a hasty builder is a fault.  But the definition stays, and the handle that the
builder was called with, or a copy of it, shows it for good: a third rule that is given to the cell through
the copy is refused, too. -/
theorem definition_of_builder_is_kept :
    ∃ w w' : Workshop, ∃ handle ∈ w.handles, Becomes {} w ∧ Becomes w w' ∧
      (Building.recursive "list" hasty).runOn {} = (.error (.redefinedRule "list"), w.grammar) ∧
      w.given = [(0, .letter), (0, .digit)] ∧
      w.grammar.definition? handle.cell = some .letter ∧
      w'.handles = [handle, handle] ∧ w'.given = [(0, .letter), (0, .digit), (0, .blank)] ∧
      w'.grammar.definition? handle.cell = some .letter ∧
      (Building.define handle.cell .blank).runOn w'.grammar
        = (.error (.redefinedRule "list"), w'.grammar) := by
  let handle : Handle := ⟨0, ⟨0, "list"⟩⟩
  let g : Grammar := ⟨#[some .letter]⟩
  let w : Workshop := ((make {} "list").give 0 .letter g).give 0 .digit g
  have received : handle ∈ (make {} "list").handles := .head _
  have held : handle ∈ w.handles := received
  have copied : handle ∈ (w.copy handle).handles := .tail _ (.head _)
  have inside : Becomes (make {} "list") ((make {} "list").give 0 .letter g) :=
    .define (.refl _) received rfl
  have earlier : Becomes {} w := .recursive (.refl _) hasty inside rfl rfl
  have later : Becomes w ((w.copy handle).give 0 .blank g) := .define (.copy (.refl w) held) copied rfl
  obtain ⟨hshows, hstays, -⟩ := cells_are_assigned_once earlier later
  obtain ⟨name, hname, hshown⟩ := hshows handle held
  have hkept := (hstays handle held).2.1 .letter hshown.definition_eq
  exact ⟨w, _, handle, held, earlier, later, rfl, rfl, hshown.definition_eq, rfl, rfl,
    hkept, rfl⟩

end Workshop

end RuleMatch
