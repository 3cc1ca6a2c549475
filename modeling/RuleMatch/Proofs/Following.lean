import RuleMatch.Proofs.Budget
import RuleMatch.Proofs.Correspondence

/-!
# Runs followed in another grammar

Two grammars may need different bounds for what is the same match, so their runs do not go in step.  What can
be shown is that a run under a bound is followed by the match in the other grammar, whatever bound that needs:
if the run finishes, then so does the match, and they correspond.  The step is the same for all comparisons of
this kind.  Rules of one shape are followed if their callees are, one bound below
(`matchWithin_succ_followed`, `mayMatchWithin_succ_followed`).

Such a comparison excuses a first run that is unfinished.  It says all about two matches if it goes through
both ways (`Outcome.Corresponds.sameKind_of_both`).
-/

namespace RuleMatch

/-! ## Both ways -/

/-- Two outcomes of one kind: they finish at the same place with related values, or both meet a fault, or
neither ends. -/
inductive Outcome.SameKind {α : Type} (relates : α → α → Prop) : Outcome α → Outcome α → Prop
  | finished {value value' : α} (h : relates value value') (stop : Cursor) (log log' : List Event) :
      SameKind relates (.finished value stop log) (.finished value' stop log')
  | faulted (fault fault' : Fault) (log log' : List Event) :
      SameKind relates (.faulted fault log) (.faulted fault' log')
  | unfinished : SameKind relates .unfinished .unfinished

/-- If each of two outcomes is followed by the other, and nothing but not to finish is excused, then they are
of one kind. -/
theorem Outcome.Corresponds.sameKind_of_both {α : Type} {k : RunPairing}
    {values values' : α → Cursor → α → Cursor → Prop} {relates : α → α → Prop} {outcome outcome' : Outcome α}
    (hfaults : ∀ fault, ¬ k.excused (some fault)) (h : outcome.Corresponds k values outcome')
    (h' : outcome'.Corresponds k values' outcome)
    (hvalues : ∀ value stop value' stop', values value stop value' stop' →
      relates value value' ∧ stop' = stop) : outcome.SameKind relates outcome' := by
  cases h with
  | finished h _ =>
      obtain ⟨hrelates, rfl⟩ := hvalues _ _ _ _ h
      exact .finished hrelates _ _ _
  | faulted _ _ => exact .faulted _ _ _ _
  | unfinished => exact .unfinished
  | broken hbroken _ =>
      cases outcome with
      | finished value stop log => exact hbroken.elim
      | faulted fault log => exact absurd hbroken (hfaults fault)
      | unfinished =>
          -- The second outcome is followed by one that does not finish, so it is such a one itself.
          cases h' with
          | unfinished => exact .unfinished
          | broken hbroken' _ =>
              cases outcome' with
              | finished value stop log => exact hbroken'.elim
              | faulted fault log => exact absurd hbroken' (hfaults fault)
              | unfinished => exact .unfinished

namespace RunPairing

variable {k : RunPairing} {g g' : Grammar} {related : Rule → Rule → Prop}

theorem SameFinding.flip (hsymm : ∀ fault fault', k.faults fault fault' → k.faults fault' fault)
    (hfaults : ∀ fault, ¬ k.excused (some fault)) {found found' : Except Fault Rule}
    (h : k.SameFinding related found found') :
    k.SameFinding (fun callee callee' => related callee' callee) found' found := by
  cases h with
  | ok h => exact .ok h
  | error h => exact .error (hsymm _ _ h)
  | excused h _ => exact absurd h (hfaults _)

/-- Shapes may be compared from either side. -/
theorem SameShape.flip (hsymm : ∀ fault fault', k.faults fault fault' → k.faults fault' fault)
    (hfaults : ∀ fault, ¬ k.excused (some fault)) {rule rule' : Rule}
    (h : k.SameShape g g' related rule rule') :
    k.SameShape g' g (fun callee callee' => related callee' callee) rule' rule := by
  cases h with
  | terminal h => exact .terminal h
  | named name h => exact .named name h
  | oneOrMore h => exact .oneOrMore h
  | zeroOrMore h => exact .zeroOrMore h
  | optional h => exact .optional h
  | oneOf h => exact .oneOf h.flip
  | series spacing h => exact .series spacing h.flip
  | ref h => exact .ref (h.flip hsymm hfaults)

end RunPairing

/-! ## One way -/

namespace Grammar

variable {k : RunPairing} {g g' : Grammar} {bound : Nat} {rule rule' : Rule}

/-- Both runs are given rounds enough for a repetition: for the first, more than its bound allows. -/
theorem matchWithin_succ_followed (hnone : k.excused none)
    (h : k.SameShape g g' (k.AlikeUnder (g.matchWithin bound) g'.matchAt) rule rule') :
    k.Matches (g.matchWithin (bound + 1) rule) (g'.matchAt rule') := by
  intro c c' hc
  let rounds := bound + (c.ahead.length + 1)
  have hlonger : (g.matchWithin (bound + 1) rule c).Extends
      (Matching.restoring (g.attempt rounds (g.matchWithin bound) rule) c) := by
    apply Matching.restoring_extends
    apply attempt_extends (fun callee _ d => g.matchWithin_ensures bound callee d) _
      (.inl (Nat.le_add_right bound (c.ahead.length + 1)))
    intro callee _ d _
    exact Outcome.Extends.refl _
  have henough : c'.ahead.length < rounds := by
    rw [k.ahead_eq hc]
    show c.ahead.length < bound + (c.ahead.length + 1)
    omega
  have hright : g'.matchAt rule' c' = Matching.restoring (g'.attempt rounds g'.matchAt rule') c' :=
    matchAt_eq henough
  rw [hright]
  exact .of_extends hnone hlonger
    (restoring_attempt_corresponds (g.matchWithin_ensures bound) g'.matchAt_ensures h rounds hc)

theorem mayMatchWithin_succ_followed
    (h : k.SameShape g g' (fun callee callee' => k.Looks (g.mayMatchWithin bound callee) (g'.mayMatch callee'))
      rule rule') : k.Looks (g.mayMatchWithin (bound + 1) rule) (g'.mayMatch rule') := by
  intro c c' hc
  rw [mayMatch_eq]
  exact look_corresponds h hc

end Grammar

end RuleMatch
