import RuleMatch.Proofs.Following
import RuleMatch.Proofs.WordLists

/-!
# Completing a grammar

A grammar may be used while some of its cells have no definition yet.  A match that finishes there has not
missed any of them, and comes to the same when they are defined (`match_survives_completion`): the same
verdict at the same place, with the same log.  Nothing asks whether a cell is defined except to go on to what
it stands for, and failures and logs show a cell by its name alone.

A match that met an undefined cell may come to anything in the completed grammar, so such a fault is excused
(`sameRun`).  All else in the two runs is equal.
-/

namespace RuleMatch

namespace Grammar

/-- Every cell that has a definition in the first grammar has the same one in the second. -/
def CompletedBy (g g' : Grammar) : Prop :=
  ∀ cell definition, g.definition? cell = some definition → g'.definition? cell = some definition

theorem CompletedBy.trans {g g' g'' : Grammar} (h : g.CompletedBy g') (h' : g'.CompletedBy g'') :
    g.CompletedBy g'' := by
  intro cell definition hdef
  exact h' cell definition (h cell definition hdef)

/-- A new cell changes no definition. -/
theorem completedBy_declare (g : Grammar) (name : String) : g.CompletedBy (g.declare name).2 := by
  intro cell definition hdef
  rw [definition?_declare]
  exact hdef

/-- A definition is given only to a cell that has none. -/
theorem completedBy_of_define {g g' : Grammar} {cell : Cell} {rule : Rule}
    (h : g.define cell rule = .ok g') : g.CompletedBy g' := by
  intro other definition hdef
  unfold define at h
  split at h
  · simp at h
  · next hnone =>
      simp only [Except.ok.injEq] at h
      subst h
      have hne : cell.id ≠ other.id := by
        intro hid
        rw [definition?, ← hid] at hdef
        rw [definition?, hdef] at hnone
        simp at hnone
      show (g.definitions.setIfInBounds cell.id (some rule))[other.id]?.join = some definition
      rw [Array.getElem?_setIfInBounds_ne hne]
      exact hdef

end Grammar

/-- Two runs that are the same, unless the first meets a fault or is unfinished. -/
def sameRun : Correspondence :=
  CursorPairing.same.sameSteps (fun _ => True) (fun h => congrArg Cursor.offset h.symm) fun terminal => by
    rintro c _ rfl
    exact ⟨rfl, rfl⟩

theorem Outcome.Corresponds.eq_of_finished {α : Type} {values : α → Cursor → α → Cursor → Prop}
    {outcome outcome' : Outcome α} (h : outcome.Corresponds sameRun values outcome')
    (hvalues : ∀ value stop value' stop', values value stop value' stop' → value' = value ∧ stop' = stop)
    {value : α} {stop : Cursor} {log : List Event} (hfinished : outcome = .finished value stop log) :
    outcome' = .finished value stop log := by
  subst hfinished
  cases h with
  | finished h hlog =>
      obtain ⟨rfl, rfl⟩ := hvalues _ _ _ _ h
      rw [show log = _ from hlog]
  | broken h _ => exact h.elim

namespace Grammar

variable {g g' : Grammar}

theorem CompletedBy.sameShape (h : g.CompletedBy g') {related : Rule → Rule → Prop}
    (hrelated : ∀ rule, related rule rule) (rule : Rule) : sameRun.SameShape g g' related rule rule := by
  apply RunPairing.SameShape.of_cells (fun t _ => sameRun.reads t) (fun child _ => hrelated child)
  rintro cell -
  cases hdef : g.definition? cell with
  | some definition =>
      rw [require_eq_ok hdef, require_eq_ok (h cell definition hdef)]
      exact .ok (hrelated definition)
  | none =>
      rw [require_eq_error hdef]
      exact .excused trivial _

theorem CompletedBy.matchWithin_followed (h : g.CompletedBy g') (bound : Nat) (rule : Rule) :
    sameRun.Matches (g.matchWithin bound rule) (g'.matchAt rule) := by
  induction bound generalizing rule with
  | zero => exact fun _ => .broken (.of_unfinished trivial) _
  | succ bound ih =>
      exact matchWithin_succ_followed trivial (h.sameShape (fun callee => ⟨rfl, ih callee⟩) rule)

theorem CompletedBy.mayMatchWithin_followed (h : g.CompletedBy g') (bound : Nat) (rule : Rule) :
    sameRun.Looks (g.mayMatchWithin bound rule) (g'.mayMatch rule) := by
  induction bound generalizing rule with
  | zero => exact fun _ => .broken (.of_unfinished trivial) _
  | succ bound ih => exact mayMatchWithin_succ_followed (h.sameShape ih rule)

/-- What finishes in a grammar finishes in the same way when further cells are defined, be it a match or a
look ahead: with the same answer, at the same place and with the same log. -/
theorem match_survives_completion (h : g.CompletedBy g') (rule : Rule) (c : Cursor) :
    (∀ verdict stop log, g.matchAt rule c = .finished verdict stop log →
      g'.matchAt rule c = .finished verdict stop log) ∧
    ∀ can stop log, g.mayMatch rule c = .finished can stop log →
      g'.mayMatch rule c = .finished can stop log := by
  have hmatch := h.matchWithin_followed (g.budget rule c) rule (c := c) rfl
  have hlook := h.mayMatchWithin_followed (g.budget rule c) rule (c := c) rfl
  constructor
  · intro verdict stop log hfinished
    refine hmatch.eq_of_finished ?_ hfinished
    intro verdict stop verdict' stop' hanswer
    exact ⟨hanswer.verdicts.eq, (hanswer.cursors : stop = stop').symm⟩
  · intro can stop log hfinished
    refine hlook.eq_of_finished ?_ hfinished
    rintro can _ _ _ ⟨rfl, rfl, rfl⟩
    exact ⟨rfl, rfl⟩

/-- A choice offers a bracketed list or whatever a second cell stands for.  Where the list matches, it does so
before the cell is declared, and in the same way after.  Elsewhere the definition is needed: first there is a
fault, and then a match. -/
theorem bracketed_list_survives_completion :
    ∃ g', (WordLists.grammar.declare "number").2.define ⟨1, "number"⟩ (.oneOrMore .digit) = .ok g' ∧
      (∃ stop log,
        WordLists.grammar.matchAt (.oneOf [WordLists.bracketed, .ref ⟨1, "number"⟩])
            (Cursor.start ['(', 'a', ')'] {}) = .finished (.ok ['(', 'a', ')']) stop log ∧
          g'.matchAt (.oneOf [WordLists.bracketed, .ref ⟨1, "number"⟩]) (Cursor.start ['(', 'a', ')'] {})
            = .finished (.ok ['(', 'a', ')']) stop log) ∧
      (WordLists.grammar.matchAt (.oneOf [WordLists.bracketed, .ref ⟨1, "number"⟩])
        (Cursor.start ['4', '2'] {})).reading = .faulted (.undefinedRule "number") ∧
      (g'.matchAt (.oneOf [WordLists.bracketed, .ref ⟨1, "number"⟩])
        (Cursor.start ['4', '2'] {})).reading = .matched ['4', '2'] 2 := by
  have hdefine : (WordLists.grammar.declare "number").2.define ⟨1, "number"⟩ (.oneOrMore .digit)
      = .ok ⟨#[some WordLists.definition, some (.oneOrMore .digit)]⟩ := rfl
  have hcompleted := (WordLists.grammar.completedBy_declare "number").trans (completedBy_of_define hdefine)
  have hreading : (WordLists.grammar.matchAt (.oneOf [WordLists.bracketed, .ref ⟨1, "number"⟩])
      (Cursor.start ['(', 'a', ')'] {})).reading = .matched ['(', 'a', ')'] 3 := by
    decide +kernel
  have hsurvives := (match_survives_completion hcompleted (.oneOf [WordLists.bracketed, .ref ⟨1, "number"⟩])
    (Cursor.start ['(', 'a', ')'] {})).1
  obtain ⟨stop, log, h, -⟩ := Outcome.reading_eq_matched_iff.1 hreading
  refine ⟨_, hdefine, ⟨stop, log, h, hsurvives _ stop log h⟩, ?_, ?_⟩
  · decide +kernel
  · decide +kernel

end Grammar

end RuleMatch
