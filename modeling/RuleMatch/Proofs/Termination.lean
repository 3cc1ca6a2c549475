import RuleMatch.Proofs.Budget
import RuleMatch.Proofs.LeftRecursion

/-!
# Matching without left recursion

A match that does not end is a chain of calls that never moves the cursor, and so a chain of leading calls.
Without left recursion there is no such chain, and every match and every look ahead ends
(`matching_ends_of_no_left_recursion`).

Each construct is shown to end where its leading calls do, and its other calls do further on.  The
induction is then on the characters ahead, and within it on the leading calls.
-/

namespace RuleMatch

/-! ## Constructs that end -/

section Constructs

variable {g : Grammar} {self : Rule → Matching} {allowed : Fault → Prop}

theorem repeated_ne_unfinished {body : Rule}
    (hself : ∀ c, (self body c).Ensures allowed (Answers c)) {start : Cursor}
    (hends : ∀ d, start.MayCall d → self body d ≠ .unfinished) {bound : Nat} {run : Text} {c : Cursor}
    (hstart : start.Passes run c) (hbound : c.ahead.length < bound) :
    repeated self body bound c ≠ .unfinished := by
  induction bound generalizing run c with
  | zero => omega
  | succ bound ih =>
      unfold repeated
      apply Outcome.andThen_ne_unfinished (hends c hstart.mayCall) (hself c)
      intro verdict stop hanswer
      obtain ⟨more, hmore⟩ := hanswer.passes
      cases verdict with
      | ok text =>
          dsimp only
          split
          · simp
          · next hmoved =>
              have hshorter := hmore.length_lt hmoved
              apply Outcome.andThen_ne_unfinished (ih (hstart.trans hmore) (by omega))
                (Outcome.ensures_true _)
              simp
      | error failure => simp

theorem firstMatch_ne_unfinished {rules : List Rule} {c : Cursor}
    (hself : ∀ rule ∈ rules, (self rule c).Ensures allowed (Answers c))
    (hends : ∀ rule ∈ rules, self rule c ≠ .unfinished) (mark index : Nat) :
    firstMatch self mark index rules c ≠ .unfinished := by
  induction rules generalizing index with
  | nil => simp [firstMatch]
  | cons rule rules ih =>
      obtain ⟨hrule, hrules⟩ := List.forall_mem_cons.1 hself
      obtain ⟨hfirst, hrest⟩ := List.forall_mem_cons.1 hends
      unfold firstMatch
      apply Outcome.andThen_ne_unfinished hfirst hrule
      intro verdict stop hanswer
      cases verdict with
      | ok text => simp
      | error failure =>
          obtain rfl : stop = c := hanswer
          apply Outcome.after_ne_unfinished
          exact ih hrules hrest (index + 1)

theorem abandon_ne_unfinished (mark index : Nat) (part : Rule) (cause : Failure) (stop : Cursor) :
    abandon mark index part cause stop ≠ .unfinished := by
  apply Outcome.after_ne_unfinished
  cases stop.moveTo mark <;> simp [Outcome.reaching]

theorem upTo_ne_unfinished (mark : Nat) (c : Cursor) : Matching.upTo mark c ≠ .unfinished := by
  unfold Matching.upTo
  split <;> simp

theorem laterPart_ne_unfinished {part : Rule} {start : Cursor} (spacing : Spacing) {run : Text}
    {c : Cursor} (hstart : start.Passes run c)
    (hself : ∀ c, (self part c).Ensures allowed (Answers c))
    (hends : ∀ d, start.MayCall d → (d.ahead.length < start.ahead.length ∨ c.offset = start.offset) →
      self part d ≠ .unfinished) :
    laterPart self spacing part c ≠ .unfinished := by
  -- If the parts before have moved the cursor, the call is further on than the series started.
  have hfar : ∀ d : Cursor, d.ahead.length ≤ c.ahead.length →
      d.ahead.length < start.ahead.length ∨ c.offset = start.offset := by
    intro d hlength
    by_cases hoffset : c.offset = start.offset
    · exact .inr hoffset
    · exact .inl (Nat.lt_of_le_of_lt hlength (hstart.length_lt hoffset))
  cases spacing with
  | spaced =>
      have hgap := Cursor.passes_skipBlanks c
      have hlength := hgap.mayCall.length_le
      exact hends _ (hstart.trans hgap).mayCall (hfar _ hlength)
  | adjacent =>
      apply Outcome.andThen_ne_unfinished (hends _ hstart.mayCall_pin (hfar _ (Nat.le_refl _)))
        (hself c.pin)
      simp

/-- The parts `done` have been matched.  Each of them is nullable, unless the cursor has moved since. -/
theorem laterParts_ne_unfinished {done parts : List Rule} (spacing : Spacing)
    (mark textStart index : Nat) {start c : Cursor} {run : Text} (hstart : start.Passes run c)
    (hself : ∀ part ∈ parts, ∀ c, (self part c).Ensures allowed (Advances g part c))
    (hends : ∀ before part after, done ++ parts = before ++ part :: after → ∀ d, start.MayCall d →
      (d.ahead.length < start.ahead.length ∨ ∀ p ∈ before, g.Nullable p) →
        self part d ≠ .unfinished)
    (hdone : c.offset = start.offset → ∀ part ∈ done, g.Nullable part) :
    laterParts self spacing mark textStart index parts c ≠ .unfinished := by
  induction parts generalizing done index run c with
  | nil => exact upTo_ne_unfinished textStart c
  | cons part parts ih =>
      obtain ⟨hpart, hparts⟩ := List.forall_mem_cons.1 hself
      have hanswers : ∀ d, (self part d).Ensures allowed (Answers d) := fun d => (hpart d).answers
      have hfirst : laterPart self spacing part c ≠ .unfinished := by
        apply laterPart_ne_unfinished spacing hstart hanswers
        intro d hcall hd
        exact hends done part parts rfl d hcall (hd.imp_right hdone)
      unfold laterParts
      apply Outcome.andThen_ne_unfinished hfirst
        ((laterPart_ensures hanswers spacing c).and (laterPart_progresses hpart spacing c))
      rintro verdict stop ⟨⟨more, hmore⟩, hprogress⟩
      cases verdict with
      | ok text =>
          have hsplit : done ++ part :: parts = (done ++ [part]) ++ parts := by simp
          apply ih (index + 1) (hstart.trans hmore) hparts (hsplit ▸ hends)
          -- If the cursor is still at the start, it was there before this part as well.
          intro hstill p hp
          have hbefore := hstart.offset_le
          have hhere := hmore.offset_le
          rcases List.mem_append.1 hp with hp | hp
          · exact hdone (by omega) p hp
          · obtain rfl := List.mem_singleton.1 hp
            exact hprogress (by omega)
      | error cause => exact abandon_ne_unfinished mark index part cause stop

theorem matchSeries_ne_unfinished {parts : List Rule} (spacing : Spacing) {c : Cursor}
    (hself : ∀ part ∈ parts, ∀ c, (self part c).Ensures allowed (Advances g part c))
    (hends : ∀ before part after, parts = before ++ part :: after → ∀ d, c.MayCall d →
      (d.ahead.length < c.ahead.length ∨ ∀ p ∈ before, g.Nullable p) → self part d ≠ .unfinished) :
    matchSeries self spacing parts c ≠ .unfinished := by
  cases parts with
  | nil => exact upTo_ne_unfinished c.offset c
  | cons first others =>
      obtain ⟨hfirst, hothers⟩ := List.forall_mem_cons.1 hself
      have hfirstEnds : self first c ≠ .unfinished :=
        hends [] first others rfl c (Cursor.MayCall.refl c) (.inr (by simp))
      apply Outcome.andThen_ne_unfinished hfirstEnds (hfirst c)
      rintro verdict stop ⟨hanswer, hprogress⟩
      obtain ⟨run, hrun⟩ := hanswer.passes
      cases verdict with
      | ok text =>
          dsimp only
          split
          · have hdone : stop.offset = c.offset → ∀ part ∈ [first], g.Nullable part := by
              intro hstill part hpart
              obtain rfl := List.mem_singleton.1 hpart
              exact hprogress hstill
            exact laterParts_ne_unfinished spacing _ _ 1 hrun hothers hends hdone
          · simp
      | error cause => exact abandon_ne_unfinished c.offset 0 first cause stop

theorem Matching.restoring_ne_unfinished {attempt : Matching} {c : Cursor}
    (h : attempt c ≠ .unfinished) : Matching.restoring attempt c ≠ .unfinished := by
  apply Outcome.andThen_ne_unfinished h (Outcome.ensures_true _)
  intro verdict stop _
  cases verdict with
  | ok text => simp
  | error failure => cases stop.moveTo c.offset <;> simp [Outcome.reaching]

theorem anyCan_ne_unfinished {self : Rule → Looking} {rules : List Rule} {c : Cursor}
    (hself : ∀ rule ∈ rules, (self rule c).Ensures allowed fun _ stop => stop = c)
    (hends : ∀ rule ∈ rules, self rule c ≠ .unfinished) : anyCan self rules c ≠ .unfinished := by
  induction rules with
  | nil => simp [anyCan]
  | cons rule rules ih =>
      obtain ⟨hrule, hrules⟩ := List.forall_mem_cons.1 hself
      obtain ⟨hfirst, hrest⟩ := List.forall_mem_cons.1 hends
      unfold anyCan
      apply Outcome.andThen_ne_unfinished hfirst hrule
      rintro can stop rfl
      split
      · simp
      · exact ih hrules hrest

end Constructs

namespace Grammar

variable {g : Grammar} {allowed : Fault → Prop}

/-- An attempt ends if its leading calls do, and its other calls do further on. -/
theorem attempt_ne_unfinished {self : Rule → Matching} {rule : Rule} {c : Cursor} {bound : Nat}
    (hself : ∀ callee ∈ g.callees rule, ∀ d, (self callee d).Ensures allowed (Advances g callee d))
    (hbound : c.ahead.length < bound)
    (hends : ∀ callee ∈ g.callees rule, ∀ d, c.MayCall d →
      (d.ahead.length < c.ahead.length ∨ g.LeadingCallee rule callee) → self callee d ≠ .unfinished) :
    g.attempt bound self rule c ≠ .unfinished := by
  have hanswers : ∀ callee ∈ g.callees rule, ∀ d, (self callee d).Ensures allowed (Answers d) :=
    fun callee hcallee d => (hself callee hcallee d).answers
  have hhere := Cursor.MayCall.refl c
  have hrest := Cursor.Passes.refl c
  cases rule with
  | terminal t => simp [attempt]
  | named name body => exact hends body (by simp) c hhere (.inr (.inl (by simp [LeadingChild])))
  | oneOrMore body =>
      have hbody : ∀ d, c.MayCall d → self body d ≠ .unfinished := fun d hcall =>
        hends body (by simp) d hcall (.inr (.inl (by simp [LeadingChild])))
      apply Outcome.andThen_ne_unfinished
        (repeated_ne_unfinished (hanswers body (by simp)) hbody hrest hbound) (Outcome.ensures_true _)
      intro count stop _
      split
      · simp
      · exact upTo_ne_unfinished c.offset stop
  | zeroOrMore body =>
      have hbody : ∀ d, c.MayCall d → self body d ≠ .unfinished := fun d hcall =>
        hends body (by simp) d hcall (.inr (.inl (by simp [LeadingChild])))
      apply Outcome.andThen_ne_unfinished
        (repeated_ne_unfinished (hanswers body (by simp)) hbody hrest hbound) (Outcome.ensures_true _)
      intro count stop _
      exact upTo_ne_unfinished c.offset stop
  | optional body =>
      have hbody := hends body (by simp) c hhere (.inr (.inl (by simp [LeadingChild])))
      apply Outcome.andThen_ne_unfinished hbody (Outcome.ensures_true _)
      intro verdict stop _
      cases verdict <;> simp
  | oneOf alternatives =>
      have hbodies : ∀ r ∈ alternatives, self r c ≠ .unfinished := fun r hr =>
        hends r hr c hhere (.inr (.inl hr))
      apply Outcome.andThen_ne_unfinished
        (firstMatch_ne_unfinished (fun r hr => hanswers r hr c) hbodies c.offset 0)
        (Outcome.ensures_true _)
      intro found stop _
      cases found <;> simp
  | series spacing parts =>
      apply matchSeries_ne_unfinished spacing hself
      rintro before part after rfl d hcall hd
      exact hends part (by simp) d hcall (hd.imp_right fun hnullable =>
        .inl ⟨before, after, rfl, hnullable⟩)
  | ref cell =>
      cases hdef : g.definition? cell with
      | some definition =>
          simp only [attempt, require_eq_ok hdef]
          exact hends definition (by simp [hdef]) c hhere (.inr (.inr ⟨cell, rfl, hdef⟩))
      | none => simp [attempt, require_eq_error hdef]

/-- Looking ahead makes leading calls only. -/
theorem look_ne_unfinished {self : Rule → Looking} {rule : Rule} {c : Cursor}
    (hself : ∀ callee ∈ g.callees rule, (self callee c).Ensures allowed fun _ stop => stop = c)
    (hends : ∀ callee ∈ g.callees rule, g.LeadingCallee rule callee → self callee c ≠ .unfinished) :
    g.look self rule c ≠ .unfinished := by
  cases rule with
  | terminal t => cases hback : (t.read c).2.moveTo c.offset <;>
      simp [look, Terminal.canRead, hback, Outcome.reaching]
  | named name body => exact hends body (by simp) (.inl (by simp [LeadingChild]))
  | oneOrMore body => exact hends body (by simp) (.inl (by simp [LeadingChild]))
  | zeroOrMore body => simp [look]
  | optional body => simp [look]
  | oneOf alternatives =>
      exact anyCan_ne_unfinished hself fun r hr => hends r hr (.inl hr)
  | series spacing parts =>
      cases parts with
      | nil => simp [look]
      | cons first others => exact hends first (by simp) (.inl ⟨[], others, rfl, by simp⟩)
  | ref cell =>
      cases hdef : g.definition? cell with
      | some definition =>
          simp only [look, require_eq_ok hdef]
          exact hends definition (by simp [hdef]) (.inr ⟨cell, rfl, hdef⟩)
      | none => simp [look, require_eq_error hdef]

/-! ## Matches that end -/

theorem matchAt_ne_unfinished (h : g.NoLeftRecursion) (rule : Rule) (c : Cursor) :
    g.matchAt rule c ≠ .unfinished := by
  induction hlength : c.ahead.length using Nat.strong_induction_on generalizing rule c with
  | _ length ih =>
      induction h.acc_leadingCallee rule generalizing c with
      | intro rule _ ihrule =>
          rw [matchAt_eq (Nat.lt_succ_self c.ahead.length)]
          apply Matching.restoring_ne_unfinished
          apply attempt_ne_unfinished (fun callee _ d => g.matchAt_advances callee d)
            (Nat.lt_succ_self _)
          intro callee _ d hcall hd
          -- A call further on ends by the outer induction, and a leading call here by the inner one.
          by_cases hshorter : d.ahead.length < c.ahead.length
          · exact ih d.ahead.length (hlength ▸ hshorter) callee d rfl
          · have hle := hcall.length_le
            exact ihrule callee (hd.resolve_left hshorter) d (by omega)

theorem mayMatch_ne_unfinished (h : g.NoLeftRecursion) (rule : Rule) (c : Cursor) :
    g.mayMatch rule c ≠ .unfinished := by
  induction h.acc_leadingCallee rule with
  | intro rule _ ih =>
      rw [mayMatch_eq]
      apply look_ne_unfinished fun callee _ => g.mayMatch_ensures callee c
      intro callee _ hleading
      exact ih callee hleading

/-- Without left recursion, and if every cell in use has been defined, every match and every look ahead
finishes: it meets no fault and it ends. -/
theorem matching_ends_of_no_left_recursion (h : g.NoLeftRecursion) {rule : Rule}
    (hdefined : ∀ cell, .ref cell ∈ g.reachable rule → g.isDefined cell = true) (c : Cursor) :
    (∃ verdict stop log, g.matchAt rule c = .finished verdict stop log) ∧
      ∃ can stop log, g.mayMatch rule c = .finished can stop log := by
  have hcallees : ∀ node ∈ g.reachable rule, ∀ callee ∈ g.callees node, callee ∈ g.reachable rule :=
    fun _ hnode _ hcallee => callee_mem_reachable hnode hcallee
  have hfault : ∀ cell, .ref cell ∈ g.reachable rule → g.definition? cell = none → False := by
    intro cell hcell hnone
    simpa [isDefined, hnone] using hdefined cell hcell
  constructor
  · have hensures : (g.matchAt rule c).Ensures (fun _ => False) (Answers c) :=
      matchWithin_ensures_of_closed (· ∈ g.reachable rule) hcallees hfault _ (self_mem_reachable rule) c
    exact hensures.exists_finished (matchAt_ne_unfinished h rule c)
  · have hensures : (g.mayMatch rule c).Ensures (fun _ => False) fun _ stop => stop = c :=
      mayMatchWithin_ensures_of_closed (· ∈ g.reachable rule) hcallees hfault _
        (self_mem_reachable rule) c
    exact hensures.exists_finished (mayMatch_ne_unfinished h rule c)

end Grammar

/-! ## A grammar of groups -/

namespace Groups

/-- The cell of a group behind blanks. -/
def padded : Cell := ⟨0, "padded"⟩

/-- The cell of a group. -/
def group : Cell := ⟨1, "group"⟩

/-- Groups may stand in groups: the two cells call for each other, the first of them behind a part that
may match nothing. -/
def grammar : Grammar :=
  ⟨#[some (.series .adjacent [.zeroOrMore .blank, .ref group]),
    some (.series .spaced [.char '(', .optional (.ref padded), .char ')'])]⟩

/-- The first cell leads to the second; the second, whose groups start with a parenthesis, leads nowhere. -/
theorem leads_up {id id' : Nat} (h : grammar.LeadsTo id id') : id < id' := by
  obtain ⟨rule, hdef, hleads⟩ := h
  match id with
  | 0 =>
      obtain rfl : Rule.series .adjacent [.zeroOrMore .blank, .ref group] = rule := by
        simpa [grammar] using hdef
      have hgroup : grammar.Nullable (.zeroOrMore .blank) ∧ group.id = id' := by
        simpa using hleads
      exact hgroup.2 ▸ Nat.zero_lt_one
  | 1 =>
      obtain rfl : Rule.series .spaced [.char '(', .optional (.ref padded), .char ')'] = rule := by
        simpa [grammar] using hdef
      have hparen : ¬ grammar.Nullable (.char '(') := nofun
      simp [hparen] at hleads
  | id + 2 => simp [grammar] at hdef

/-- A group in a group is matched to an end, and so is the question whether one stands there. -/
theorem matching_ends_on_groups :
    grammar.NoLeftRecursion ∧
      (∃ verdict stop log, grammar.matchAt (.ref padded) (Cursor.start [' ', '(', '(', ')', ')'] {})
        = .finished verdict stop log) ∧
      ∃ can stop log, grammar.mayMatch (.ref padded) (Cursor.start [' ', '(', '(', ')', ')'] {})
        = .finished can stop log := by
  have hleads : grammar.NoLeftRecursion := Grammar.NoLeftRecursion.of_rank id fun _ _ => leads_up
  refine ⟨hleads, Grammar.matching_ends_of_no_left_recursion hleads ?_ _⟩
  intro cell hcell
  have hcells : cell = padded ∨ cell = group ∨ cell = padded := by
    simpa [Grammar.reachable, Rule.nodes, Rule.nodesAll, grammar] using hcell
  rcases hcells with rfl | rfl | rfl <;> rfl

end Groups

end RuleMatch
