import RuleMatch.Proofs.Calls

/-!
# What a look ahead foretells

Looking ahead takes short cuts: it judges a series by its first part, a repetition by its body, and a choice
by the first alternative that is expected to match.  It errs on one side only.  Unless the answer is yes, it
comes to what the match comes to (`mayMatch_foretells`): a no means that the match fails, a fault that the
match meets the same fault, and no end that the match has none.

The two recursions go in step, bound by bound.  What has to be shown of each construct is that it fails if
its first call does.
-/

namespace RuleMatch

/-- What a look ahead says of a match: nothing if it answers yes, and all there is to say otherwise. -/
def Outcome.Foretells : Outcome Bool → Outcome Verdict → Prop
  | .finished true _ _, _ => True
  | .finished false _ _, .finished (.error _) _ _ => True
  | .faulted fault _, .faulted fault' _ => fault = fault'
  | .unfinished, .unfinished => True
  | _, _ => False

namespace Outcome.Foretells

variable {look : Outcome Bool} {outcome : Outcome Verdict}

theorem exists_error {stop : Cursor} {log : List Event}
    (h : (Outcome.finished false stop log).Foretells outcome) :
    ∃ failure stop' log', outcome = .finished (.error failure) stop' log' := by
  rcases outcome with ⟨failure | text, stop', log'⟩ | ⟨fault, log'⟩ | _
  · exact ⟨failure, stop', log', rfl⟩
  · exact h.elim
  · exact h.elim
  · exact h.elim

theorem exists_faulted {fault : Fault} {log : List Event}
    (h : (Outcome.faulted fault log).Foretells outcome) : ∃ log', outcome = .faulted fault log' := by
  rcases outcome with ⟨_ | _, _, _⟩ | ⟨fault', log'⟩ | _
  · exact h.elim
  · exact h.elim
  · obtain rfl : fault = fault' := h
    exact ⟨log', rfl⟩
  · exact h.elim

theorem eq_unfinished (h : Outcome.unfinished.Foretells outcome) : outcome = .unfinished := by
  rcases outcome with ⟨_ | _, _, _⟩ | ⟨_, _⟩ | _
  · exact h.elim
  · exact h.elim
  · exact h.elim
  · rfl

/-- The logs do not matter. -/
theorem after (h : look.Foretells outcome) (log log' : List Event) :
    (look.after log).Foretells (outcome.after log') := by
  rcases look with ⟨_ | _, _, _⟩ | ⟨fault, _⟩ | _
  · obtain ⟨failure, stop, rest, rfl⟩ := exists_error h
    exact trivial
  · exact trivial
  · obtain ⟨rest, rfl⟩ := exists_faulted h
    exact rfl
  · obtain rfl := eq_unfinished h
    exact trivial

/-- The look ahead for a first call serves for whatever fails when that call fails. -/
theorem andThen {goOn : Verdict → Matching} {allowed : Fault → Prop} {post : Verdict → Cursor → Prop}
    (h : look.Foretells outcome) (hpost : outcome.Ensures allowed post)
    (hfail : ∀ failure stop, post (.error failure) stop →
      ∃ failure' stop' log, goOn (.error failure) stop = .finished (.error failure') stop' log) :
    look.Foretells (outcome.andThen goOn) := by
  rcases look with ⟨_ | _, _, _⟩ | ⟨fault, _⟩ | _
  · obtain ⟨failure, stop, log, rfl⟩ := exists_error h
    obtain ⟨failure', stop', log', hgoOn⟩ := hfail failure stop hpost
    rw [finished_andThen, hgoOn]
    exact trivial
  · exact trivial
  · obtain ⟨log, rfl⟩ := exists_faulted h
    exact rfl
  · obtain rfl := eq_unfinished h
    exact trivial

end Outcome.Foretells

/-! ## Constructs -/

section Constructs

variable {looks : Rule → Looking} {self : Rule → Matching} {allowed allowed' : Fault → Prop} {c : Cursor}

theorem restoring_foretold {look : Outcome Bool} {attempt : Matching} (h : look.Foretells (attempt c))
    (hframe : (attempt c).Ensures allowed (Attempts c)) :
    look.Foretells (Matching.restoring attempt c) := by
  apply h.andThen hframe
  intro failure stop hstop
  refine ⟨failure, c, [], ?_⟩
  dsimp only
  rw [Cursor.moveTo_offset hstop]
  rfl

/-- A body that fails at once makes a repetition of at least one match fail. -/
theorem matchOneOrMore_foretold {body : Rule} (h : (looks body c).Foretells (self body c))
    {bound : Nat} (hbound : bound = 0 → looks body c = .unfinished) :
    (looks body c).Foretells (matchOneOrMore self bound body c) := by
  cases bound with
  | zero =>
      rw [hbound rfl]
      exact trivial
  | succ bound =>
      rw [matchOneOrMore, repeated, Outcome.andThen_assoc]
      apply h.andThen (Outcome.ensures_true _)
      intro failure stop _
      exact ⟨_, _, _, rfl⟩

/-- An alternative that is not expected to match is passed over. -/
theorem firstMatch_refused {rule : Rule} {log : List Event}
    (hself : (self rule c).Ensures allowed (Answers c))
    (h : (Outcome.finished false c log).Foretells (self rule c)) (rules : List Rule) (mark index : Nat) :
    ∃ log', firstMatch self mark index (rule :: rules) c
      = (firstMatch self mark (index + 1) rules c).after log' := by
  obtain ⟨failure, stop, log', herror⟩ := h.exists_error
  rw [herror] at hself
  obtain rfl : stop = c := hself
  refine ⟨log' ++ [.alternativeFailed index rule mark failure], ?_⟩
  rw [firstMatch, herror, Outcome.finished_andThen, Outcome.after_append]

/-- Both go through the alternatives up to the first yes, and up to there every alternative fails. -/
theorem matchOneOf_foretold {alternatives : List Rule}
    (hlooks : ∀ rule ∈ alternatives, (looks rule c).Ensures allowed' fun _ stop => stop = c)
    (hself : ∀ rule ∈ alternatives, (self rule c).Ensures allowed (Answers c))
    (h : ∀ rule ∈ alternatives, (looks rule c).Foretells (self rule c))
    {finish : Option Text → Matching}
    (hnone : ∃ failure stop log, finish none c = .finished (.error failure) stop log) (mark index : Nat) :
    (anyCan looks alternatives c).Foretells
      ((firstMatch self mark index alternatives c).andThen finish) := by
  induction alternatives generalizing index with
  | nil =>
      obtain ⟨failure, stop, log, hfinish⟩ := hnone
      rw [anyCan, firstMatch, Outcome.finished_andThen, hfinish]
      exact trivial
  | cons rule rules ih =>
      obtain ⟨hlook, hlooks⟩ := List.forall_mem_cons.1 hlooks
      obtain ⟨hrule, hrules⟩ := List.forall_mem_cons.1 hself
      obtain ⟨hfirst, hrest⟩ := List.forall_mem_cons.1 h
      rw [anyCan]
      cases hcan : looks rule c with
      | finished can stop log =>
          rw [hcan] at hlook hfirst
          obtain rfl : stop = c := hlook
          cases can with
          | true => exact trivial
          | false =>
              obtain ⟨log', hrefused⟩ := firstMatch_refused hrule hfirst rules mark index
              rw [hrefused, Outcome.after_andThen]
              exact (ih hlooks hrules hrest (index + 1)).after log log'
      | faulted fault log =>
          rw [hcan] at hfirst
          obtain ⟨log', hfaulted⟩ := hfirst.exists_faulted
          rw [firstMatch, hfaulted]
          exact rfl
      | unfinished =>
          rw [hcan] at hfirst
          rw [firstMatch, hfirst.eq_unfinished]
          exact trivial

/-- A series fails if its first part does. -/
theorem matchSeries_foretold {first : Rule} {others : List Rule} (spacing : Spacing)
    (hself : (self first c).Ensures allowed (Answers c)) (h : (looks first c).Foretells (self first c)) :
    (looks first c).Foretells (matchSeries self spacing (first :: others) c) := by
  apply h.andThen hself
  rintro failure stop rfl
  exact ⟨_, _, _, abandon_eq (Cursor.SameFrame.refl stop) 0 first failure⟩

end Constructs

/-! ## Rules -/

theorem Terminal.canRead_foretells (terminal : Terminal) (c : Cursor) (log : List Event) :
    (terminal.canRead c).Foretells (.finished (terminal.read c).1 (terminal.read c).2 log) := by
  rw [canRead_eq]
  cases (terminal.read c).1 <;> exact trivial

namespace Grammar

variable {g : Grammar} {allowed allowed' : Fault → Prop}

/-- Looking ahead foretells an attempt if it foretells the calls that both begin with. -/
theorem look_foretells {looks : Rule → Looking} {self : Rule → Matching} {rule : Rule} {c : Cursor}
    {bound : Nat}
    (hlooks : ∀ callee ∈ g.callees rule, (looks callee c).Ensures allowed' fun _ stop => stop = c)
    (hself : ∀ callee ∈ g.callees rule, (self callee c).Ensures allowed (Answers c))
    (h : ∀ callee ∈ g.callees rule, (looks callee c).Foretells (self callee c))
    (hbound : bound = 0 → ∀ callee, looks callee c = .unfinished) :
    (g.look looks rule c).Foretells (g.attempt bound self rule c) := by
  cases rule with
  | terminal t => exact t.canRead_foretells c []
  | named name body => exact h body (by simp)
  | oneOrMore body => exact matchOneOrMore_foretold (h body (by simp)) fun hzero => hbound hzero body
  | zeroOrMore body => exact trivial
  | optional body => exact trivial
  | oneOf alternatives => exact matchOneOf_foretold hlooks hself h ⟨_, _, _, rfl⟩ c.offset 0
  | series spacing parts =>
      cases parts with
      | nil => exact trivial
      | cons first others =>
          exact matchSeries_foretold spacing (hself first (by simp)) (h first (by simp))
  | ref cell =>
      cases hdef : g.definition? cell with
      | some definition =>
          simp only [look, attempt, require_eq_ok hdef]
          exact h definition (by simp [hdef])
      | none =>
          simp only [look, attempt, require_eq_error hdef]
          exact rfl

theorem mayMatchWithin_foretells (bound : Nat) (rule : Rule) (c : Cursor) :
    (g.mayMatchWithin bound rule c).Foretells (g.matchWithin bound rule c) := by
  induction bound generalizing rule c with
  | zero => exact trivial
  | succ bound ih =>
      have hframe := g.attempt_ensures_attempts (g.matchWithin_ensures bound) bound rule c
      refine restoring_foretold ?_ hframe
      apply look_foretells (fun callee _ => g.mayMatchWithin_ensures bound callee c)
        (fun callee _ => g.matchWithin_ensures bound callee c) (fun callee _ => ih callee c)
      rintro rfl callee
      rfl

/-- The budget is the same for both, so what holds under every bound holds of the two themselves. -/
theorem mayMatch_foretells (rule : Rule) (c : Cursor) :
    (g.mayMatch rule c).Foretells (g.matchAt rule c) :=
  mayMatchWithin_foretells (g.budget rule c) rule c

end Grammar

end RuleMatch
