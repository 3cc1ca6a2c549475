import RuleMatch.Proofs.Budget
import RuleMatch.Rule.Combine

/-!
# Splicing a choice into a choice

A choice among the alternatives of a choice may be spliced in without a change to what is matched or foreseen
(`splicing_changes_no_choice`).  Unlike a series, a choice may be spliced in wherever it stands and even if
it is empty.  Two things tell the two apart: the log, and the list of what was tried when nothing matched,
where the nested choice has a single entry for all its alternatives.

Alternatives are tried one after the other, and one that fails leaves no trace but in the log.  So a list of
alternatives in front of another is gone through first, and the other list only if nothing was found
(`firstMatch_append`).  A choice as an alternative finds what its own alternatives find
(`firstMatch_nested`).
-/

namespace RuleMatch

namespace Outcome

/-- Two outcomes that are the same but for their logs. -/
def SameButLog {α : Type} (outcome outcome' : Outcome α) : Prop :=
  outcome.Related (fun value stop value' stop' => value' = value ∧ stop' = stop) outcome'

namespace SameButLog

variable {α β : Type} {outcome outcome' : Outcome α}

theorem refl (outcome : Outcome α) : outcome.SameButLog outcome :=
  Related.refl (fun _ _ => ⟨rfl, rfl⟩) outcome

/-- What is finished apart from the log is finished. -/
theorem exists_finished {value : α} {stop : Cursor} {log : List Event}
    (h : outcome.SameButLog (.finished value stop log)) : ∃ log', outcome = .finished value stop log' := by
  cases h with
  | finished hsame log' _ =>
      obtain ⟨rfl, rfl⟩ := hsame
      exact ⟨log', rfl⟩

theorem andThen {goOn goOn' : α → Cursor → Outcome β} (h : outcome.SameButLog outcome')
    (hgoOn : ∀ value stop, (goOn value stop).SameButLog (goOn' value stop)) :
    (outcome.andThen goOn).SameButLog (outcome'.andThen goOn') := by
  refine Related.andThen h ?_
  rintro value stop _ _ ⟨rfl, rfl⟩
  exact hgoOn _ _

end SameButLog

end Outcome

/-! ## Trying alternatives -/

/-- Goes on if nothing was found so far. -/
def unlessFound (goOn : Cursor → Outcome (Option Text)) (found : Option Text) (stop : Cursor) :
    Outcome (Option Text) :=
  match found with
  | some text => .finished (some text) stop []
  | none => goOn stop

section Constructs

variable {self : Rule → Matching}

/-- Two lists of alternatives in a row. -/
theorem firstMatch_append (mark index : Nat) (rules others : List Rule) (c : Cursor) :
    firstMatch self mark index (rules ++ others) c
      = (firstMatch self mark index rules c).andThen
          (unlessFound (firstMatch self mark (index + rules.length) others)) := by
  induction rules generalizing index c with
  | nil => exact (Outcome.after_nil _).symm
  | cons rule rules ih =>
      have hindex : index + (rule :: rules).length = index + 1 + rules.length := by
        rw [List.length_cons]
        omega
      rw [List.cons_append, firstMatch, firstMatch, Outcome.andThen_assoc, hindex]
      refine (self rule c).ensures_true.andThen_congr ?_
      intro verdict stop _
      cases verdict with
      | ok text => rfl
      | error failure =>
          dsimp only
          rw [ih, Outcome.after_andThen]

/-- The numbers of the alternatives appear in the log only. -/
theorem firstMatch_renumbered (mark index mark' index' : Nat) (rules : List Rule) (c : Cursor) :
    (firstMatch self mark index rules c).SameButLog (firstMatch self mark' index' rules c) := by
  induction rules generalizing index index' c with
  | nil => exact .refl (.finished none c [])
  | cons rule rules ih =>
      refine (Outcome.SameButLog.refl (self rule c)).andThen ?_
      intro verdict stop
      cases verdict with
      | ok text => exact .refl (.finished (some text) stop [])
      | error failure => exact (ih (index + 1) (index' + 1) stop).after _ _

/-- Two lists of rules in a row, looking ahead. -/
theorem anyCan_append {looks : Rule → Looking} (rules others : List Rule) (c : Cursor) :
    anyCan looks (rules ++ others) c
      = (anyCan looks rules c).andThen fun can stop =>
          if can then .finished true stop [] else anyCan looks others stop := by
  induction rules generalizing c with
  | nil => exact (Outcome.after_nil _).symm
  | cons rule rules ih =>
      rw [List.cons_append, anyCan, anyCan, Outcome.andThen_assoc]
      refine (looks rule c).ensures_true.andThen_congr ?_
      intro can stop _
      cases can with
      | true => rfl
      | false => exact ih stop

end Constructs

/-- A choice that is spliced gives its alternatives; any other rule gives itself. -/
theorem Rule.alternatives_eq (rule : Rule) :
    rule.alternatives = [rule] ∨ ∃ inner, rule = .oneOf inner ∧ rule.alternatives = inner := by
  cases rule with
  | oneOf inner => exact .inr ⟨inner, rfl, rfl⟩
  | _ => exact .inl rfl

theorem Rule.either_eq (rule other : Rule) :
    rule.either other = .oneOf (rule.alternatives ++ other.alternatives) := by
  rw [either, choice, List.flatMap_cons, List.flatMap_cons, List.flatMap_nil, List.append_nil]

/-- Two choices at `c` come to the same text at the same place, or nothing matches on either side, with
`tried` and `tried'` as what was tried there. -/
inductive SameChoice (c : Cursor) (tried tried' : List String) : Verdict → Cursor → Verdict → Cursor → Prop
  | ok (text : Text) (stop : Cursor) : SameChoice c tried tried' (.ok text) stop (.ok text) stop
  | none : SameChoice c tried tried' (.error (.noAlternative tried c.offset)) c
      (.error (.noAlternative tried' c.offset)) c

theorem SameChoice.trans {c stop stop' stop'' : Cursor} {tried tried' tried'' : List String}
    {verdict verdict' verdict'' : Verdict} (h : SameChoice c tried tried' verdict stop verdict' stop')
    (h' : SameChoice c tried' tried'' verdict' stop' verdict'' stop'') :
    SameChoice c tried tried'' verdict stop verdict'' stop'' := by
  cases h with
  | ok text =>
      cases h' with
      | ok _ => exact .ok text stop
  | none =>
      cases h' with
      | none => exact .none

namespace Grammar

variable (g : Grammar)

/-- A choice as an alternative finds what its own alternatives find. -/
theorem firstMatch_nested (mark index mark' index' : Nat) (inner : List Rule) (c : Cursor) :
    (firstMatch g.matchAt mark index [.oneOf inner] c).SameButLog
      (firstMatch g.matchAt mark' index' inner c) := by
  rw [firstMatch, g.matchAt_oneOf, matchOneOf, Outcome.andThen_assoc,
    ← Outcome.andThen_finished (firstMatch g.matchAt mark' index' inner c)]
  refine (firstMatch_renumbered c.offset 0 mark' index' inner c).andThen ?_
  intro found stop
  cases found with
  | some text => exact .refl (.finished (some text) stop [])
  | none => exact .finished ⟨rfl, rfl⟩ _ _

/-- Whether something is found, what and where does not depend on the nesting. -/
theorem firstMatch_splice (mark index mark' index' : Nat) (before inner after : List Rule) (c : Cursor) :
    (firstMatch g.matchAt mark index (before ++ [.oneOf inner] ++ after) c).SameButLog
      (firstMatch g.matchAt mark' index' (before ++ inner ++ after) c) := by
  rw [firstMatch_append, firstMatch_append, firstMatch_append, firstMatch_append]
  refine Outcome.SameButLog.andThen (Outcome.SameButLog.andThen ?_ ?_) ?_
  · exact firstMatch_renumbered mark index mark' index' before c
  · intro found stop
    cases found with
    | some text => exact .refl (.finished (some text) stop [])
    | none => exact g.firstMatch_nested mark _ mark' _ inner stop
  · intro found stop
    cases found with
    | some text => exact .refl (.finished (some text) stop [])
    | none => exact firstMatch_renumbered mark _ mark' _ after stop

/-- Looking ahead asks the alternatives of a nested choice in their turn. -/
theorem anyCan_splice (before inner after : List Rule) (c : Cursor) :
    anyCan g.mayMatch (before ++ [.oneOf inner] ++ after) c
      = anyCan g.mayMatch (before ++ inner ++ after) c := by
  have hnested : ∀ d, anyCan g.mayMatch [.oneOf inner] d = anyCan g.mayMatch inner d := by
    intro d
    rw [anyCan, mayMatch_eq, look]
    nth_rewrite 2 [← Outcome.andThen_finished (anyCan g.mayMatch inner d)]
    refine (anyCan g.mayMatch inner d).ensures_true.andThen_congr ?_
    intro can stop _
    cases can with
    | true => rfl
    | false => rfl
  rw [anyCan_append, anyCan_append, anyCan_append, anyCan_append]
  simp only [hnested]

/-- Two choices that match alike, wherever they are matched, and are foreseen alike.  If nothing matches, the
one says that it has tried what is in `tried`, the other what is in `tried'`. -/
structure ChooseAlike (choice : Rule) (tried : List String) (choice' : Rule) (tried' : List String) :
    Prop where
  matchAt : ∀ c, (g.matchAt choice c).Related (SameChoice c tried tried') (g.matchAt choice' c)
  mayMatch : ∀ c, g.mayMatch choice c = g.mayMatch choice' c

variable {g}

theorem ChooseAlike.trans {choice choice' choice'' : Rule} {tried tried' tried'' : List String}
    (h : g.ChooseAlike choice tried choice' tried') (h' : g.ChooseAlike choice' tried' choice'' tried'') :
    g.ChooseAlike choice tried choice'' tried'' where
  matchAt c := (h.matchAt c).trans (h'.matchAt c) fun _ _ _ _ _ _ => SameChoice.trans
  mayMatch c := (h.mayMatch c).trans (h'.mayMatch c)

/-- If the alternatives of two choices find the same, the choices come to the same. -/
theorem sameChoice_of_firstMatch {rules rules' : List Rule} {c : Cursor}
    (h : (firstMatch g.matchAt c.offset 0 rules c).SameButLog
      (firstMatch g.matchAt c.offset 0 rules' c)) :
    (g.matchAt (.oneOf rules) c).Related
      (SameChoice c (Rule.describeAll rules) (Rule.describeAll rules')) (g.matchAt (.oneOf rules') c) := by
  rw [g.matchAt_oneOf, g.matchAt_oneOf, matchOneOf, matchOneOf]
  have hstay := firstMatch_ensures (fun rule (_ : rule ∈ rules) d => g.matchAt_ensures rule d) c.offset 0 c
  refine (h.and_ensures hstay).andThen ?_
  rintro _ _ found stop ⟨⟨rfl, rfl⟩, hfound⟩
  cases found with
  | some text => exact .finished (.ok text stop) [] []
  | none =>
      obtain rfl : stop = c := hfound
      exact .finished .none _ _

/-- Choices whose alternatives find the same match alike. -/
theorem chooseAlike_of_firstMatch {rules rules' : List Rule}
    (hfirst : ∀ c, (firstMatch g.matchAt c.offset 0 rules c).SameButLog
      (firstMatch g.matchAt c.offset 0 rules' c))
    (hcan : ∀ c, anyCan g.mayMatch rules c = anyCan g.mayMatch rules' c) :
    g.ChooseAlike (.oneOf rules) (Rule.describeAll rules) (.oneOf rules') (Rule.describeAll rules') where
  matchAt c := sameChoice_of_firstMatch (hfirst c)
  mayMatch c := by
    rw [mayMatch_eq, mayMatch_eq]
    exact hcan c

theorem ChooseAlike.refl (rules : List Rule) :
    g.ChooseAlike (.oneOf rules) (Rule.describeAll rules) (.oneOf rules) (Rule.describeAll rules) :=
  chooseAlike_of_firstMatch (fun _ => .refl _) fun _ => rfl

theorem chooseAlike_splice (before inner after : List Rule) :
    g.ChooseAlike (.oneOf (before ++ [.oneOf inner] ++ after))
      (Rule.describeAll (before ++ [.oneOf inner] ++ after))
      (.oneOf (before ++ inner ++ after)) (Rule.describeAll (before ++ inner ++ after)) :=
  chooseAlike_of_firstMatch (fun c => g.firstMatch_splice c.offset 0 c.offset 0 before inner after c)
    (g.anyCan_splice before inner after)

/-- Operands may be spliced in one by one, behind those that are there already. -/
theorem chooseAlike_flatMap (before rules : List Rule) :
    g.ChooseAlike (.oneOf (before ++ rules)) (Rule.describeAll (before ++ rules))
      (.oneOf (before ++ rules.flatMap Rule.alternatives))
      (Rule.describeAll (before ++ rules.flatMap Rule.alternatives)) := by
  refine Rule.relates_flatMap
    (fun rules rules' => g.ChooseAlike (.oneOf rules) (Rule.describeAll rules)
      (.oneOf rules') (Rule.describeAll rules'))
    .refl (fun _ _ _ => .trans) ?_ before
  intro rule _ before after
  rcases Rule.alternatives_eq rule with hsame | ⟨inner, rfl, hinner⟩
  · rw [hsame, List.append_assoc]
    exact .refl _
  · rw [hinner, List.append_cons]
    exact chooseAlike_splice before inner after

/-- A choice among the alternatives of a choice may be spliced in, and what was tried then has the entries of
its alternatives in place of its own.  So a choice that was put together flat matches as it was written. -/
theorem splicing_changes_no_choice (g : Grammar) :
    (∀ before inner after : List Rule,
      g.ChooseAlike
        (.oneOf (before ++ [.oneOf inner] ++ after))
        (Rule.describeAll before ++ [(Rule.oneOf inner).describe] ++ Rule.describeAll after)
        (.oneOf (before ++ inner ++ after))
        (Rule.describeAll before ++ Rule.describeAll inner ++ Rule.describeAll after)) ∧
      (∀ rules : List Rule,
        g.ChooseAlike (.oneOf rules) (Rule.describeAll rules)
          (.choice rules) (Rule.describeAll (rules.flatMap Rule.alternatives))) ∧
      ∀ rule other : Rule, (rule ||| other) = rule.either other ∧
        g.ChooseAlike (.oneOf [rule, other]) [rule.describe, other.describe]
          (rule.either other) (Rule.describeAll (rule.alternatives ++ other.alternatives)) := by
  refine ⟨?_, ?_, ?_⟩
  · intro before inner after
    have hsplice : g.ChooseAlike _ _ _ _ := chooseAlike_splice before inner after
    simpa only [Rule.describeAll_append, Rule.describeAll] using hsplice
  · intro rules
    exact chooseAlike_flatMap [] rules
  · intro rule other
    refine ⟨rfl, ?_⟩
    rw [Rule.either_eq]
    have hflat : g.ChooseAlike _ _ _ _ := chooseAlike_flatMap [] [rule, other]
    simpa only [List.nil_append, List.flatMap_cons, List.flatMap_nil, List.append_nil,
      Rule.describeAll] using hflat

/-- What was tried is the only difference that shows. -/
example :
    (matchAt {} (.oneOf [.char 'a', .oneOf [.char 'b', .char 'c']]) (Cursor.start ['d'] {})).value?
        = some (.error (.noAlternative ["'a'", "'b' | 'c'"] 0)) ∧
      (matchAt {} (.char 'a' ||| .oneOf [.char 'b', .char 'c']) (Cursor.start ['d'] {})).value?
        = some (.error (.noAlternative ["'a'", "'b'", "'c'"] 0)) := by
  decide +kernel

end Grammar

end RuleMatch
