import Mathlib.Data.Fintype.EquivFin
import Mathlib.Logic.Relation
import RuleMatch.Proofs.Nullable

/-!
# Left recursion

A rule leads to a cell if it may call for the cell where it is matched itself: nothing in front of the
reference has to be matched first.  A grammar is left recursive if a definition leads back to its own cell,
at once or through others.  If it is not, the calls that are made at one place of the text are well-founded
(`NoLeftRecursion.acc_leadingCallee`), because the cells are finite in number and the way from a rule to its
leading cells goes down in the rule.
-/

namespace RuleMatch

namespace Grammar

/-! ## Leading cells -/

/-- A child that may be matched where its rule is: a part of a series only behind nullable parts. -/
def LeadingChild (g : Grammar) (rule child : Rule) : Prop :=
  match rule with
  | .series _ parts =>
      ∃ before after, parts = before ++ child :: after ∧ ∀ part ∈ before, g.Nullable part
  | rule => child ∈ rule.children

/-- The cell with this number may be called for where the rule is matched. -/
inductive Leads (g : Grammar) : Rule → Nat → Prop
  | ref (cell : Cell) : Leads g (.ref cell) cell.id
  | child {rule child : Rule} {id : Nat} (hchild : g.LeadingChild rule child) (h : Leads g child id) :
      Leads g rule id

/-- The second cell is a leading cell of the definition of the first. -/
def LeadsTo (g : Grammar) (id id' : Nat) : Prop :=
  ∃ rule, g.definitions[id]? = some (some rule) ∧ g.Leads rule id'

/-- No cell leads back to itself. -/
def NoLeftRecursion (g : Grammar) : Prop :=
  ∀ id, ¬ Relation.TransGen g.LeadsTo id id

/-- A callee that may be matched where its rule is. -/
def LeadingCallee (g : Grammar) (rule callee : Rule) : Prop :=
  g.LeadingChild rule callee ∨ ∃ cell, rule = .ref cell ∧ g.definition? cell = some callee

variable {g : Grammar}

theorem leads_iff {rule : Rule} {id : Nat} :
    g.Leads rule id ↔
      (∃ cell, rule = .ref cell ∧ cell.id = id) ∨ ∃ child, g.LeadingChild rule child ∧ g.Leads child id := by
  constructor
  · rintro (⟨cell⟩ | ⟨hchild, hleads⟩)
    · exact .inl ⟨cell, rfl, rfl⟩
    · exact .inr ⟨_, hchild, hleads⟩
  · rintro (⟨cell, rfl, rfl⟩ | ⟨child, hchild, hleads⟩)
    · exact .ref cell
    · exact .child hchild hleads

@[simp] theorem not_leads_terminal {t : Terminal} {id : Nat} : ¬ g.Leads (.terminal t) id := by
  rw [leads_iff]
  simp [LeadingChild]

@[simp] theorem leads_ref_iff {cell : Cell} {id : Nat} : g.Leads (.ref cell) id ↔ cell.id = id := by
  rw [leads_iff]
  simp [LeadingChild]

@[simp] theorem leads_zeroOrMore_iff {body : Rule} {id : Nat} :
    g.Leads (.zeroOrMore body) id ↔ g.Leads body id := by
  rw [leads_iff]
  simp [LeadingChild]

@[simp] theorem leads_oneOrMore_iff {body : Rule} {id : Nat} :
    g.Leads (.oneOrMore body) id ↔ g.Leads body id := by
  rw [leads_iff]
  simp [LeadingChild]

@[simp] theorem not_leads_series_nil {spacing : Spacing} {id : Nat} :
    ¬ g.Leads (.series spacing []) id := by
  rw [leads_iff]
  simp [LeadingChild]

theorem leadingChild_series_cons {spacing : Spacing} {first child : Rule} {others : List Rule} :
    g.LeadingChild (.series spacing (first :: others)) child ↔
      child = first ∨ g.Nullable first ∧ g.LeadingChild (.series spacing others) child := by
  constructor
  · rintro ⟨before, after, hparts, hnullable⟩
    cases before with
    | nil => exact .inl (List.cons.inj hparts).1.symm
    | cons part before =>
        obtain ⟨rfl, rfl⟩ := List.cons.inj hparts
        exact .inr ⟨hnullable first (by simp), before, after, rfl,
          fun p hp => hnullable p (by simp [hp])⟩
  · rintro (rfl | ⟨hfirst, before, after, rfl, hnullable⟩)
    · exact ⟨[], others, rfl, by simp⟩
    · refine ⟨first :: before, after, rfl, ?_⟩
      intro p hp
      rcases List.mem_cons.1 hp with rfl | hp
      · exact hfirst
      · exact hnullable p hp

/-- A series leads where its first part leads and, if that may match nothing, where the rest leads. -/
@[simp] theorem leads_series_cons_iff {spacing : Spacing} {first : Rule} {others : List Rule} {id : Nat} :
    g.Leads (.series spacing (first :: others)) id ↔
      g.Leads first id ∨ g.Nullable first ∧ g.Leads (.series spacing others) id := by
  constructor
  · intro h
    obtain ⟨cell, hcell, -⟩ | ⟨child, hchild, hleads⟩ := leads_iff.1 h
    · simp at hcell
    · rcases leadingChild_series_cons.1 hchild with rfl | ⟨hfirst, hrest⟩
      · exact .inl hleads
      · exact .inr ⟨hfirst, .child hrest hleads⟩
  · rintro (hleads | ⟨hfirst, hrest⟩)
    · exact .child (leadingChild_series_cons.2 (.inl rfl)) hleads
    · obtain ⟨cell, hcell, -⟩ | ⟨child, hchild, hleads⟩ := leads_iff.1 hrest
      · simp at hcell
      · exact .child (leadingChild_series_cons.2 (.inr ⟨hfirst, hchild⟩)) hleads

theorem LeadingChild.mem_children {rule child : Rule} (h : g.LeadingChild rule child) :
    child ∈ rule.children := by
  cases rule with
  | series spacing parts =>
      obtain ⟨before, after, rfl, -⟩ := h
      simp
  | _ => exact h

theorem definition?_eq_some_iff {cell : Cell} {rule : Rule} :
    g.definition? cell = some rule ↔ g.definitions[cell.id]? = some (some rule) := by
  rw [definition?, Option.join_eq_some_iff]

/-- Without left recursion there is no endless way from cell to leading cell. -/
theorem NoLeftRecursion.acc (h : g.NoLeftRecursion) (id : Nat) :
    Acc (fun later earlier => g.LeadsTo earlier later) id := by
  -- Being led to, over any number of cells, is a transitive relation without cycles on the finitely
  -- many cells that can have a definition.  All other cells lead nowhere.
  let back : Fin g.definitions.size → Fin g.definitions.size → Prop :=
    fun later earlier => Relation.TransGen g.LeadsTo earlier later
  have htrans : IsTrans _ back := ⟨fun _ _ _ hab hbc => hbc.trans hab⟩
  have hirrefl : Std.Irrefl back := ⟨fun cell => h cell⟩
  have hwf : WellFounded back := Finite.wellFounded_of_trans_of_irrefl back
  have hout : ∀ id, ¬ id < g.definitions.size →
      Acc (fun later earlier => g.LeadsTo earlier later) id := by
    intro id hid
    apply Acc.intro
    rintro later ⟨rule, hdef, -⟩
    rw [Array.getElem?_eq_none (Nat.le_of_not_lt hid)] at hdef
    simp at hdef
  have hin : ∀ cell : Fin g.definitions.size,
      Acc (fun later earlier => g.LeadsTo earlier later) cell := by
    intro cell
    induction cell using hwf.induction with
    | _ cell ih =>
        apply Acc.intro
        intro later hlater
        by_cases hid : later < g.definitions.size
        · exact ih ⟨later, hid⟩ (.single hlater)
        · exact hout later hid
  by_cases hid : id < g.definitions.size
  · exact hin ⟨id, hid⟩
  · exact hout id hid

/-- Leading calls of a rule end if those of its leading cells do. -/
theorem acc_leadingCallee_of_leads (rule : Rule)
    (h : ∀ cell definition, g.Leads rule cell.id → g.definition? cell = some definition →
      Acc (fun callee caller => g.LeadingCallee caller callee) definition) :
    Acc (fun callee caller => g.LeadingCallee caller callee) rule := by
  -- Down in the rule leading calls go from child to child; where they leave it, it leads to the cell.
  induction rule using Rule.induction_children with
  | step rule ih =>
      apply Acc.intro
      rintro callee (hchild | ⟨cell, rfl, hdef⟩)
      · apply ih callee hchild.mem_children
        intro cell definition hleads hdef
        exact h cell definition (.child hchild hleads) hdef
      · exact h cell callee (.ref cell) hdef

/-- Without left recursion there is no endless chain of leading calls. -/
theorem NoLeftRecursion.acc_leadingCallee (h : g.NoLeftRecursion) (rule : Rule) :
    Acc (fun callee caller => g.LeadingCallee caller callee) rule := by
  have hcells : ∀ (id : Nat) (rule : Rule), g.definitions[id]? = some (some rule) →
      Acc (fun callee caller => g.LeadingCallee caller callee) rule := by
    intro id
    induction h.acc id with
    | intro id _ ih =>
        intro rule hrule
        apply acc_leadingCallee_of_leads
        intro cell definition hleads hdef
        exact ih cell.id ⟨rule, hrule, hleads⟩ definition (definition?_eq_some_iff.1 hdef)
  apply acc_leadingCallee_of_leads
  intro cell definition _ hdef
  exact hcells cell.id definition (definition?_eq_some_iff.1 hdef)

/-- A grammar has no left recursion if its cells can be ranked so that leading cells rank higher. -/
theorem NoLeftRecursion.of_rank (rank : Nat → Nat)
    (h : ∀ id id', g.LeadsTo id id' → rank id < rank id') : g.NoLeftRecursion := by
  have hless : ∀ id id', Relation.TransGen g.LeadsTo id id' → rank id < rank id' := by
    intro id id' hleads
    induction hleads with
    | single hstep => exact h _ _ hstep
    | tail _ hstep ih => exact Nat.lt_trans ih (h _ _ hstep)
  intro id hcycle
  exact Nat.lt_irrefl _ (hless id id hcycle)

end Grammar

end RuleMatch
