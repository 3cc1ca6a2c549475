import RuleMatch.Proofs.Following

/-!
# Names make no difference

A rule is given a name, and a cell is declared with one, for the sake of descriptions.  Take the names off all
rules of a grammar, those in definitions included, and call its cells by any other names.  Then every match
comes to the same as before, at the same place, and so does every look ahead (`names_make_no_difference`).
Failures keep their shape, their offsets and what they say of the text; only the descriptions of rules in them
may read differently.

A name is one more call, so the two runs need different bounds and do not go in step.  Each is followed by the
other instead.  The names in front of a rule are shed at once (`Rule.bare`); what is left keeps its shape when
the names inside it go.
-/

namespace RuleMatch

/-! ## Taking names off -/

namespace Rule

mutual

/-- The rule without the names in it, and with other names for its cells. -/
def withoutNames (rename : Cell → String) : Rule → Rule
  | .terminal t => .terminal t
  | .named _ body => withoutNames rename body
  | .oneOrMore body => .oneOrMore (withoutNames rename body)
  | .zeroOrMore body => .zeroOrMore (withoutNames rename body)
  | .optional body => .optional (withoutNames rename body)
  | .oneOf alternatives => .oneOf (withoutNamesAll rename alternatives)
  | .series spacing parts => .series spacing (withoutNamesAll rename parts)
  | .ref cell => .ref ⟨cell.id, rename cell⟩

/-- The rules of a list without their names. -/
def withoutNamesAll (rename : Cell → String) : List Rule → List Rule
  | [] => []
  | rule :: rules => withoutNames rename rule :: withoutNamesAll rename rules

end

theorem forall₂_withoutNamesAll {rename : Cell → String} {related : Rule → Rule → Prop}
    (h : ∀ rule, related rule (rule.withoutNames rename)) (rules : List Rule) :
    List.Forall₂ related rules (withoutNamesAll rename rules) := by
  induction rules with
  | nil => exact .nil
  | cons rule rules ih => exact .cons (h rule) ih

/-- What a name stands in front of, without that name and any further one there. -/
def bare : Rule → Rule
  | .named _ body => body.bare
  | rule => rule

theorem bare_eq_self_or_named (rule : Rule) :
    rule.bare = rule ∨ ∃ name body, rule = .named name body := by
  cases rule with
  | named name body => exact .inr ⟨name, body, rfl⟩
  | _ => exact .inl rfl

end Rule

/-- The grammar whose definitions have no names in them. -/
def Grammar.withoutNames (rename : Cell → String) (g : Grammar) : Grammar :=
  ⟨g.definitions.map (Option.map (Rule.withoutNames rename))⟩

theorem Grammar.definition?_withoutNames (rename : Cell → String) (g : Grammar) (cell : Cell) (name : String) :
    (g.withoutNames rename).definition? ⟨cell.id, name⟩
      = (g.definition? cell).map (Rule.withoutNames rename) := by
  rw [definition?, definition?, withoutNames, Array.getElem?_map]
  cases g.definitions[cell.id]? with
  | none => rfl
  | some found => rfl

/-! ## Failures and runs -/

/-- Two failures that are the same but for how they describe rules. -/
inductive Failure.SameButDescriptions : Failure → Failure → Prop
  | endOfInput (expected : String) (offset : Nat) :
      SameButDescriptions (.endOfInput expected offset) (.endOfInput expected offset)
  | wrongChar (expected : String) (found : Char) (offset : Nat) :
      SameButDescriptions (.wrongChar expected found offset) (.wrongChar expected found offset)
  | wrongKeyword (expected found : String) (offset : Nat) :
      SameButDescriptions (.wrongKeyword expected found offset) (.wrongKeyword expected found offset)
  | noneRepeated (rule rule' : String) (offset : Nat) :
      SameButDescriptions (.noneRepeated rule offset) (.noneRepeated rule' offset)
  | noAlternative {tried tried' : List String} (h : tried'.length = tried.length) (offset : Nat) :
      SameButDescriptions (.noAlternative tried offset) (.noAlternative tried' offset)
  | partFailed (index : Nat) {cause cause' : Failure} (h : SameButDescriptions cause cause') :
      SameButDescriptions (.partFailed index cause) (.partFailed index cause')
  | undefinedRule (name : String) : SameButDescriptions (.undefinedRule name) (.undefinedRule name)

theorem Failure.SameButDescriptions.refl (failure : Failure) : failure.SameButDescriptions failure := by
  induction failure with
  | endOfInput expected offset => exact .endOfInput expected offset
  | wrongChar expected found offset => exact .wrongChar expected found offset
  | wrongKeyword expected found offset => exact .wrongKeyword expected found offset
  | noneRepeated rule offset => exact .noneRepeated rule rule offset
  | noAlternative tried offset => exact .noAlternative rfl offset
  | partFailed index cause ih => exact .partFailed index ih
  | undefinedRule name => exact .undefinedRule name

/-- Two runs from the same cursor that may describe rules differently, the first perhaps unfinished. -/
def sameButDescriptions : Correspondence where
  toCursorPairing := .same
  rules _ _ := True
  failures := Failure.SameButDescriptions
  faults _ _ := True
  logs _ _ := True
  excused fault? := fault? = none
  read := by
    rintro terminal c _ rfl
    exact ⟨.of_refl .refl _, rfl⟩
  faults_refl _ := trivial
  noneRepeated := by
    rintro body body' c _ - rfl
    exact .noneRepeated _ _ c.offset
  noAlternative := by
    rintro alternatives alternatives' c _ halternatives rfl
    apply Failure.SameButDescriptions.noAlternative
    rw [Rule.length_describeAll, Rule.length_describeAll, halternatives.length_eq]
  partFailed index _ _ hcause := .partFailed index hcause
  logs_nil := trivial
  logs_append _ _ := trivial
  logs_repetitionStopped _ _ _ := trivial
  logs_alternativeFailed _ _ _ _ _ _ _ _ _ _ := trivial
  logs_choiceFailed _ := trivial
  logs_partFailed _ _ _ _ _ _ _ := trivial

namespace Grammar

variable {g : Grammar} {rename : Cell → String}

theorem matchAt_bare (rule : Rule) (c : Cursor) : g.matchAt rule.bare c = g.matchAt rule c := by
  fun_induction Rule.bare rule with
  | case1 name body ih => rw [ih, matchAt_named]
  | case2 rule _ => rfl

theorem mayMatch_bare (rule : Rule) (c : Cursor) : g.mayMatch rule.bare c = g.mayMatch rule c := by
  fun_induction Rule.bare rule with
  | case1 name body ih =>
      have hnamed : g.mayMatch (.named name body) c = g.mayMatch body c := mayMatch_eq
      rw [ih, hnamed]
  | case2 rule _ => rfl

/-- What a name stands in front of keeps its shape if the names inside it are taken off. -/
theorem sameShape_withoutNames {related : Rule → Rule → Prop}
    (h : ∀ callee : Rule, related callee (callee.withoutNames rename)) (rule : Rule) :
    sameButDescriptions.SameShape g (g.withoutNames rename) related rule.bare (rule.withoutNames rename) := by
  fun_induction Rule.bare rule with
  | case1 name body ih => exact ih
  | case2 rule hnamed =>
      cases rule with
      | terminal t => exact .terminal (sameButDescriptions.reads t)
      | named name body => exact absurd rfl (hnamed name body)
      | oneOrMore body => exact .oneOrMore (h body)
      | zeroOrMore body => exact .zeroOrMore (h body)
      | optional body => exact .optional (h body)
      | oneOf alternatives => exact .oneOf (Rule.forall₂_withoutNamesAll h alternatives)
      | series spacing parts => exact .series spacing (Rule.forall₂_withoutNamesAll h parts)
      | ref cell =>
          apply RunPairing.SameShape.ref
          have hdef' := g.definition?_withoutNames rename cell (rename cell)
          cases hdef : g.definition? cell with
          | some definition =>
              rw [hdef] at hdef'
              rw [require_eq_ok hdef, require_eq_ok hdef']
              exact .ok (h definition)
          | none =>
              rw [hdef] at hdef'
              rw [require_eq_error hdef, require_eq_error hdef']
              exact .error trivial

theorem sameShape_withNames {related : Rule → Rule → Prop}
    (h : ∀ callee : Rule, related (callee.withoutNames rename) callee) (rule : Rule) :
    sameButDescriptions.SameShape (g.withoutNames rename) g related (rule.withoutNames rename) rule.bare := by
  have hshape : sameButDescriptions.SameShape g (g.withoutNames rename)
      (fun callee callee' => related callee' callee) rule.bare (rule.withoutNames rename) :=
    sameShape_withoutNames h rule
  exact hshape.flip (fun _ _ _ => trivial) (by simp [sameButDescriptions])

/-! ## The four comparisons -/

variable (g rename)

theorem matchWithin_withoutNames_followed (bound : Nat) (rule : Rule) :
    sameButDescriptions.Matches (g.matchWithin bound rule)
      ((g.withoutNames rename).matchAt (rule.withoutNames rename)) := by
  induction bound generalizing rule with
  | zero => exact fun _ => .broken (.of_unfinished rfl) _
  | succ bound ih =>
      intro c c' hc
      rcases rule.bare_eq_self_or_named with hbare | ⟨name, body, rfl⟩
      · have hshape : sameButDescriptions.SameShape g (g.withoutNames rename)
            (sameButDescriptions.AlikeUnder (g.matchWithin bound) (g.withoutNames rename).matchAt)
            rule.bare (rule.withoutNames rename) :=
          sameShape_withoutNames (fun callee => ⟨trivial, ih callee⟩) rule
        rw [hbare] at hshape
        exact matchWithin_succ_followed rfl hshape hc
      · rw [matchWithin_named]
        exact ih body hc

theorem matchWithin_withNames_followed (bound : Nat) (rule : Rule) :
    sameButDescriptions.Matches ((g.withoutNames rename).matchWithin bound (rule.withoutNames rename))
      (g.matchAt rule) := by
  induction bound generalizing rule with
  | zero => exact fun _ => .broken (.of_unfinished rfl) _
  | succ bound ih =>
      intro c c' hc
      rw [← matchAt_bare]
      exact matchWithin_succ_followed rfl (sameShape_withNames (fun callee => ⟨trivial, ih callee⟩) rule) hc

theorem mayMatchWithin_withoutNames_followed (bound : Nat) (rule : Rule) :
    sameButDescriptions.Looks (g.mayMatchWithin bound rule)
      ((g.withoutNames rename).mayMatch (rule.withoutNames rename)) := by
  induction bound generalizing rule with
  | zero => exact fun _ => .broken (.of_unfinished rfl) _
  | succ bound ih =>
      intro c c' hc
      rcases rule.bare_eq_self_or_named with hbare | ⟨name, body, rfl⟩
      · have hshape : sameButDescriptions.SameShape g (g.withoutNames rename)
            (fun callee callee' => sameButDescriptions.Looks (g.mayMatchWithin bound callee)
              ((g.withoutNames rename).mayMatch callee')) rule.bare (rule.withoutNames rename) :=
          sameShape_withoutNames ih rule
        rw [hbare] at hshape
        exact mayMatchWithin_succ_followed hshape hc
      · exact ih body hc

theorem mayMatchWithin_withNames_followed (bound : Nat) (rule : Rule) :
    sameButDescriptions.Looks ((g.withoutNames rename).mayMatchWithin bound (rule.withoutNames rename))
      (g.mayMatch rule) := by
  induction bound generalizing rule with
  | zero => exact fun _ => .broken (.of_unfinished rfl) _
  | succ bound ih =>
      intro c c' hc
      rw [← mayMatch_bare]
      exact mayMatchWithin_succ_followed (sameShape_withNames ih rule) hc

/-- Take the names off a rule and off all definitions, and give the cells any other names.  From every cursor
the match then comes to the same: to the same text and the same place; or to a failure of the same shape, with
the same indices, the same offsets and the same words about the text, and back to where it started; or to a
fault; or to no end.  The look ahead gives the same answer. -/
theorem names_make_no_difference (g : Grammar) (rename : Cell → String) (rule : Rule) (c : Cursor) :
    (g.matchAt rule c).SameKind (SameVerdict Failure.SameButDescriptions)
        ((g.withoutNames rename).matchAt (rule.withoutNames rename) c) ∧
      (g.mayMatch rule c).SameKind Eq
        ((g.withoutNames rename).mayMatch (rule.withoutNames rename) c) := by
  have hfaults : ∀ fault, ¬ sameButDescriptions.excused (some fault) := by simp [sameButDescriptions]
  constructor
  · have hforth := g.matchWithin_withoutNames_followed rename (g.budget rule c) rule (c := c) rfl
    have hback := g.matchWithin_withNames_followed rename
      ((g.withoutNames rename).budget (rule.withoutNames rename) c) rule (c := c) rfl
    apply hforth.sameKind_of_both hfaults hback
    intro verdict stop verdict' stop' hanswer
    have hstop : stop = stop' := hanswer.cursors
    exact ⟨hanswer.verdicts, hstop.symm⟩
  · have hforth := g.mayMatchWithin_withoutNames_followed rename (g.budget rule c) rule (c := c) rfl
    have hback := g.mayMatchWithin_withNames_followed rename
      ((g.withoutNames rename).budget (rule.withoutNames rename) c) rule (c := c) rfl
    apply hforth.sameKind_of_both hfaults hback
    intro can stop can' stop' hlook
    obtain ⟨hcan, hstop, hstop'⟩ := hlook
    exact ⟨hcan.symm, hstop'.trans hstop.symm⟩

end Grammar

end RuleMatch
