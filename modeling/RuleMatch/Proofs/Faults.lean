import Mathlib.Logic.Relation
import RuleMatch.Proofs.Calls
import RuleMatch.Proofs.WordLists

/-!
# The one fault of matching

Of the faults that a cursor can meet, a match meets none.  A mark that is gone back to is a place where the
cursor stood, a text that is cut out lies between two such places, and what a first part has matched is no
longer than what lies behind the cursor.  What is left is the fault of a cell without a definition, and the
cell is one that the rule refers to, through its parts and the definitions of other cells
(`faults_are_undefined_cells`).

So the rules that a match can reach are all that has to be looked at, and `Grammar.Reaches` says which they are.
-/

namespace RuleMatch

/-- The run of word characters at the front of a text ends between two characters. -/
theorem Settings.isBoundary_wordRun (settings : Settings) (ahead : Text) :
    Text.IsBoundary (Text.byteLength (settings.wordRun ahead)) ahead :=
  ⟨settings.wordRun ahead, ahead.dropWhile settings.continuesWord,
    List.takeWhile_append_dropWhile.symm, rfl⟩

namespace Grammar

variable {g : Grammar} {root rule : Rule}

/-- The second rule is the first, or a part or a definition of a rule that is reached already. -/
def Reaches (g : Grammar) : Rule → Rule → Prop :=
  Relation.ReflTransGen fun caller callee => callee ∈ g.callees caller

theorem Reaches.self (g : Grammar) (rule : Rule) : g.Reaches rule rule :=
  Relation.ReflTransGen.refl

theorem Reaches.callee {callee : Rule} (h : g.Reaches root rule) (hcallee : callee ∈ g.callees rule) :
    g.Reaches root callee :=
  Relation.ReflTransGen.tail h hcallee

/-- What is reached is among the rule's own nodes and those of all definitions. -/
theorem Reaches.mem_reachable (h : g.Reaches root rule) : rule ∈ g.reachable root := by
  induction h with
  | refl => exact self_mem_reachable root
  | tail _ hcallee ih => exact callee_mem_reachable ih hcallee

/-- The fault of a cell that is reached from the rule and has no definition. -/
def UndefinedFault (g : Grammar) (rule : Rule) (fault : Fault) : Prop :=
  ∃ cell, g.Reaches rule (.ref cell) ∧ g.isDefined cell = false ∧ fault = .undefinedRule cell.name

theorem undefinedFault_of_reaches {cell : Cell} (h : g.Reaches rule (.ref cell))
    (hdef : g.definition? cell = none) : g.UndefinedFault rule (.undefinedRule cell.name) :=
  ⟨cell, h, by simp [isDefined, hdef], rfl⟩

theorem matchAt_ensures_undefinedFault (g : Grammar) (rule : Rule) (c : Cursor) :
    (g.matchAt rule c).Ensures (g.UndefinedFault rule) (Answers c) :=
  matchWithin_ensures_of_closed (g.Reaches rule) (fun _ hreached _ hcallee => hreached.callee hcallee)
    (fun _ hcell hdef => undefinedFault_of_reaches hcell hdef) _ (Reaches.self g rule) c

theorem mayMatch_ensures_undefinedFault (g : Grammar) (rule : Rule) (c : Cursor) :
    (g.mayMatch rule c).Ensures (g.UndefinedFault rule) fun _ stop => stop = c :=
  mayMatchWithin_ensures_of_closed (g.Reaches rule) (fun _ hreached _ hcallee => hreached.callee hcallee)
    (fun _ hcell hdef => undefinedFault_of_reaches hcell hdef) _ (Reaches.self g rule) c

/-- A run whose only faults are those of undefined cells is finished if it ends and all cells are defined. -/
theorem finished_of_all_defined {α : Type} {outcome : Outcome α} {post : α → Cursor → Prop}
    (h : outcome.Ensures (g.UndefinedFault rule) post)
    (hdefined : ∀ cell, g.Reaches rule (.ref cell) → g.isDefined cell = true)
    (hends : outcome ≠ .unfinished) : ∃ value stop log, outcome = .finished value stop log := by
  cases outcome with
  | finished value stop log => exact ⟨value, stop, log, rfl⟩
  | faulted fault log =>
      obtain ⟨cell, hreached, hundefined, -⟩ := h
      simp [hdefined cell hreached] at hundefined
  | unfinished => exact absurd rfl hends

/-- A match or a look ahead meets no fault but that of a cell which is reached from the rule and has no
definition, and the message says which cell that is.  If all cells that are reached are defined, whatever
ends is finished.  The two cuts of a text that are not marks of a match are sound at any cursor: the text
ahead starts at a boundary of the input, and the run of word characters there ends at a boundary. -/
theorem faults_are_undefined_cells (g : Grammar) (rule : Rule) (c : Cursor) :
    (∀ fault log, g.matchAt rule c = .faulted fault log ∨ g.mayMatch rule c = .faulted fault log →
      ∃ cell, g.Reaches rule (.ref cell) ∧ g.isDefined cell = false ∧
        fault = .undefinedRule cell.name ∧
        fault.message? = some ("Recursive rule '" ++ cell.name ++
          "' was used before its definition was set")) ∧
      ((∀ cell, g.Reaches rule (.ref cell) → g.isDefined cell = true) →
        (g.matchAt rule c ≠ .unfinished →
          ∃ verdict stop log, g.matchAt rule c = .finished verdict stop log) ∧
        (g.mayMatch rule c ≠ .unfinished →
          ∃ can stop log, g.mayMatch rule c = .finished can stop log)) ∧
      ∀ d : Cursor, Text.IsBoundary d.offset d.input ∧
        Text.IsBoundary (Text.byteLength (d.settings.wordRun d.ahead)) d.ahead := by
  have hmatch := g.matchAt_ensures_undefinedFault rule c
  have hlook := g.mayMatch_ensures_undefinedFault rule c
  refine ⟨?_, ?_, ?_⟩
  · intro fault log hfaulted
    have hfault : g.UndefinedFault rule fault := by
      rcases hfaulted with hfaulted | hfaulted
      · rw [hfaulted] at hmatch
        exact hmatch
      · rw [hfaulted] at hlook
        exact hlook
    obtain ⟨cell, hreached, hundefined, rfl⟩ := hfault
    exact ⟨cell, hreached, hundefined, rfl, rfl⟩
  · intro hdefined
    exact ⟨finished_of_all_defined hmatch hdefined, finished_of_all_defined hlook hdefined⟩
  · intro d
    exact ⟨d.isBoundary_offset, d.settings.isBoundary_wordRun d.ahead⟩

/-- A bracketed list is matched against any text to an end that is no fault.  In a grammar without the cell
of a list the match meets a fault, and the message names the list. -/
theorem faults_of_bracketed_lists :
    (∃ verdict stop log, WordLists.grammar.matchAt WordLists.bracketed
        (Cursor.start ['(', 'a', ',', 'é', ')'] {}) = .finished verdict stop log) ∧
      ∃ fault log, ({} : Grammar).matchAt WordLists.bracketed (Cursor.start ['(', 'é'] {})
          = .faulted fault log ∧
        fault.message? = some "Recursive rule 'list' was used before its definition was set" := by
  constructor
  · have hends : (WordLists.grammar.matchAt WordLists.bracketed
        (Cursor.start ['(', 'a', ',', 'é', ')'] {})).reading ≠ .unfinished := by
      decide +kernel
    have hall := faults_are_undefined_cells WordLists.grammar WordLists.bracketed
      (Cursor.start ['(', 'a', ',', 'é', ')'] {})
    refine (hall.2.1 ?_).1 fun hunfinished => hends (by rw [hunfinished]; rfl)
    intro cell hcell
    have hlist : cell = WordLists.list := by
      simpa [reachable, Rule.nodes, Rule.nodesAll, WordLists.grammar, WordLists.definition_eq,
        WordLists.bracketed_eq] using hcell.mem_reachable
    subst hlist
    rfl
  · have hreading : (({} : Grammar).matchAt WordLists.bracketed (Cursor.start ['(', 'é'] {})).reading
        = .faulted (.undefinedRule "list") := by
      decide +kernel
    obtain ⟨log, hfaulted⟩ := Outcome.reading_eq_faulted_iff.1 hreading
    have hall := faults_are_undefined_cells {} WordLists.bracketed (Cursor.start ['(', 'é'] {})
    obtain ⟨cell, -, -, hname, hmessage⟩ := hall.1 _ log (.inl hfaulted)
    have hlist : cell.name = "list" := (Fault.undefinedRule.inj hname).symm
    rw [hlist] at hmessage
    exact ⟨_, log, hfaulted, hmessage⟩

end Grammar

end RuleMatch
