import RuleMatch.Match.Lookahead
import RuleMatch.Match.Rules
import RuleMatch.Proofs.Lexemes
import RuleMatch.Proofs.Outcomes
import RuleMatch.Proofs.Subrules

/-!
# What a match does to the cursor

A match that succeeds has passed a gap and the matched text, and one that fails is back where it started:
`Answers`.  The constructs of `Match/Rules` are functions of how the rules that they call for are matched,
so each of them is shown to keep this promise if its callees do (`attempt_ensures`); `matchWithin` then
keeps it by induction on the bound (`matchWithin_ensures`).  On the way the two faults of a misused cursor
are excluded: every mark that is gone back to is a place where the cursor stood, and every text that is
cut out lies behind it.  What is left is the fault of an undefined rule.
-/

namespace RuleMatch

/-- What a match may answer: the text that it consumed, or a failure where it started. -/
def Answers (c : Cursor) (verdict : Verdict) (stop : Cursor) : Prop :=
  match verdict with
  | .ok text => c.Consumes text stop
  | .error _ => stop = c

/-- What an attempt may answer, which after a failure may stand anywhere in the text. -/
def Attempts (c : Cursor) (verdict : Verdict) (stop : Cursor) : Prop :=
  match verdict with
  | .ok text => c.Consumes text stop
  | .error _ => Cursor.SameFrame c stop

theorem Answers.passes {c stop : Cursor} {verdict : Verdict} (h : Answers c verdict stop) :
    ∃ run, c.Passes run stop := by
  cases verdict with
  | ok text =>
      obtain ⟨skipped, -, hpass⟩ := h
      exact ⟨_, hpass⟩
  | error failure =>
      obtain rfl : stop = c := h
      exact ⟨[], Cursor.Passes.refl stop⟩

theorem Answers.attempts {c stop : Cursor} {verdict : Verdict} (h : Answers c verdict stop) :
    Attempts c verdict stop := by
  cases verdict with
  | ok text => exact h
  | error failure =>
      obtain rfl : stop = c := h
      exact Cursor.SameFrame.refl stop

theorem Attempts.sameFrame {c stop : Cursor} {verdict : Verdict} (h : Attempts c verdict stop) :
    Cursor.SameFrame c stop := by
  cases verdict with
  | ok text =>
      obtain ⟨skipped, -, hpass⟩ := h
      exact hpass.frame
  | error failure => exact h

theorem Terminal.attempts_read (terminal : Terminal) (c : Cursor) :
    Attempts c (terminal.read c).1 (terminal.read c).2 := by
  have hentry := terminal.passes_entry c
  cases hlexeme : terminal.lexeme? c.settings (terminal.entry c).ahead with
  | some text =>
      obtain ⟨stop, hread, hpass⟩ := read_of_lexeme hlexeme
      rw [hread]
      refine ⟨_, ?_, hentry.trans hpass⟩
      cases terminal.skipsBlanks
      · exact .inl rfl
      · exact .inr rfl
  | none =>
      obtain ⟨failure, hread⟩ := read_of_no_lexeme hlexeme
      rw [hread]
      exact hentry.frame

/-- Looking ahead for a terminal takes back whatever was read. -/
theorem Terminal.canRead_eq (terminal : Terminal) (c : Cursor) :
    terminal.canRead c = .finished (terminal.read c).1.isOk c [] := by
  unfold canRead
  dsimp only
  rw [Cursor.moveTo_offset (terminal.attempts_read c).sameFrame]
  rfl

/-! ## Constructs -/

/-- The text that was passed since a mark, without a first part. -/
theorem Matching.upTo_eq {start c : Cursor} {skipped text : Text}
    (h : start.Passes (skipped ++ text) c) :
    Matching.upTo (start.offset + Text.byteLength skipped) c = .finished (.ok text) c [] := by
  simp [Matching.upTo, h.textFrom_eq]

/-- All of the text that was passed since a mark. -/
theorem Matching.upTo_offset {start c : Cursor} {text : Text} (h : start.Passes text c) :
    Matching.upTo start.offset c = .finished (.ok text) c [] := by
  simp [Matching.upTo, h.textFrom_offset]

section Constructs

variable {self : Rule → Matching} {allowed : Fault → Prop}

theorem repeated_ensures {body : Rule} (hself : ∀ c, (self body c).Ensures allowed (Answers c))
    (bound : Nat) (c : Cursor) :
    (repeated self body bound c).Ensures allowed fun _ stop => ∃ run, c.Passes run stop := by
  induction bound generalizing c with
  | zero => exact trivial
  | succ bound ih =>
      unfold repeated
      apply (hself c).andThen
      intro verdict stop hanswer
      obtain ⟨run, hrun⟩ := hanswer.passes
      cases verdict with
      | ok text =>
          dsimp only
          split
          · exact ⟨run, hrun⟩
          · apply (ih stop).andThen
            rintro count last ⟨more, hmore⟩
            exact ⟨run ++ more, hrun.trans hmore⟩
      | error failure => exact ⟨run, hrun⟩

/-- A repetition that has counted no match has not moved the cursor. -/
theorem repeated_ensures_of_zero {body : Rule} (hself : ∀ c, (self body c).Ensures allowed (Answers c))
    (bound : Nat) (c : Cursor) :
    (repeated self body bound c).Ensures allowed fun count stop => count = 0 → stop = c := by
  cases bound with
  | zero => exact trivial
  | succ bound =>
      unfold repeated
      apply (hself c).andThen
      intro verdict stop hanswer
      cases verdict with
      | ok text =>
          dsimp only
          split
          · exact fun hcount => absurd hcount Nat.one_ne_zero
          · apply (repeated_ensures hself bound stop).andThen
            intro count last _ hcount
            exact absurd hcount (Nat.succ_ne_zero count)
      | error failure => exact fun _ => hanswer

theorem matchOneOrMore_ensures {body : Rule}
    (hself : ∀ c, (self body c).Ensures allowed (Answers c)) (bound : Nat) (c : Cursor) :
    (matchOneOrMore self bound body c).Ensures allowed (Answers c) := by
  apply ((repeated_ensures hself bound c).and (repeated_ensures_of_zero hself bound c)).andThen
  rintro count stop ⟨⟨run, hrun⟩, hzero⟩
  split
  · next hcount => exact hzero hcount
  · rw [Matching.upTo_offset hrun]
    exact hrun.consumes

theorem matchZeroOrMore_ensures {body : Rule}
    (hself : ∀ c, (self body c).Ensures allowed (Answers c)) (bound : Nat) (c : Cursor) :
    (matchZeroOrMore self bound body c).Ensures allowed (Answers c) := by
  apply (repeated_ensures hself bound c).andThen
  rintro count stop ⟨run, hrun⟩
  rw [Matching.upTo_offset hrun]
  exact hrun.consumes

theorem matchOptional_ensures {body : Rule}
    (hself : ∀ c, (self body c).Ensures allowed (Answers c)) (c : Cursor) :
    (matchOptional self body c).Ensures allowed (Answers c) := by
  apply (hself c).andThen
  intro verdict stop hanswer
  cases verdict with
  | ok text => exact hanswer
  | error failure =>
      obtain rfl : stop = c := hanswer
      exact (Cursor.Passes.refl stop).consumes

/-- The text of the first alternative that matches was consumed; without one the cursor has not moved. -/
theorem firstMatch_ensures {rules : List Rule}
    (hself : ∀ rule ∈ rules, ∀ c, (self rule c).Ensures allowed (Answers c)) (mark index : Nat)
    (c : Cursor) :
    (firstMatch self mark index rules c).Ensures allowed fun found stop =>
      match found with
      | some text => c.Consumes text stop
      | none => stop = c := by
  induction rules generalizing index with
  | nil => exact rfl
  | cons rule rules ih =>
      obtain ⟨hrule, hrules⟩ := List.forall_mem_cons.1 hself
      unfold firstMatch
      apply (hrule c).andThen
      intro verdict stop hanswer
      cases verdict with
      | ok text => exact hanswer
      | error failure =>
          obtain rfl : stop = c := hanswer
          rw [Outcome.ensures_after]
          exact ih hrules (index + 1)

theorem matchOneOf_ensures {alternatives : List Rule}
    (hself : ∀ rule ∈ alternatives, ∀ c, (self rule c).Ensures allowed (Answers c)) (c : Cursor) :
    (matchOneOf self alternatives c).Ensures allowed (Answers c) := by
  apply (firstMatch_ensures hself c.offset 0 c).andThen
  intro found stop hfound
  cases found with
  | some text => exact hfound
  | none => exact hfound

/-- A part behind the first passes some text; its blanks and its pin are no concern of the series. -/
theorem laterPart_ensures {part : Rule} (hself : ∀ c, (self part c).Ensures allowed (Answers c))
    (spacing : Spacing) (c : Cursor) :
    (laterPart self spacing part c).Ensures allowed fun _ stop => ∃ run, c.Passes run stop := by
  cases spacing with
  | spaced =>
      apply (hself c.skipBlanks.2).mono
      intro verdict stop hanswer
      obtain ⟨run, hrun⟩ := hanswer.passes
      exact ⟨c.gap ++ run, (Cursor.passes_skipBlanks c).trans hrun⟩
  | adjacent =>
      apply (hself c.pin).andThen
      intro verdict stop hanswer
      obtain ⟨run, hrun⟩ := hanswer.passes
      exact ⟨run, hrun.of_pin⟩

theorem abandon_eq {start stop : Cursor} (h : Cursor.SameFrame start stop) (index : Nat) (part : Rule)
    (cause : Failure) :
    abandon start.offset index part cause stop
      = .finished (.error (.partFailed index cause)) start [.partFailed index part start.offset] := by
  simp [abandon, Cursor.moveTo_offset h, Outcome.reaching, Outcome.after]

/-- A later part that fails takes the series back to where it started. -/
theorem laterParts_cons {part : Rule} (hself : ∀ c, (self part c).Ensures allowed (Answers c))
    (spacing : Spacing) {start c : Cursor} (hstart : Cursor.SameFrame start c) (textStart index : Nat)
    (parts : List Rule) :
    laterParts self spacing start.offset textStart index (part :: parts) c
      = (laterPart self spacing part c).andThen fun verdict stop =>
          match verdict with
          | .ok _ => laterParts self spacing start.offset textStart (index + 1) parts stop
          | .error cause =>
              .finished (.error (.partFailed index cause)) start [.partFailed index part start.offset] := by
  rw [laterParts]
  refine (laterPart_ensures hself spacing c).andThen_congr ?_
  rintro verdict stop ⟨run, hrun⟩
  cases verdict with
  | ok text => rfl
  | error cause => exact abandon_eq (hstart.trans hrun.frame) index part cause

/-- The series started at `start`, has skipped `skipped` and has matched `text` so far.  Its later parts add
to the text what they pass. -/
theorem laterParts_ensures {parts : List Rule}
    (hself : ∀ part ∈ parts, ∀ c, (self part c).Ensures allowed (Answers c)) (spacing : Spacing)
    {start c : Cursor} {skipped text : Text} (hstart : start.Passes (skipped ++ text) c)
    (index : Nat) :
    (laterParts self spacing start.offset (start.offset + Text.byteLength skipped) index parts c).Ensures
      allowed fun verdict stop =>
        match verdict with
        | .ok whole => ∃ run, whole = text ++ run ∧ c.Passes run stop
        | .error _ => stop = start := by
  induction parts generalizing index c text with
  | nil =>
      rw [laterParts, Matching.upTo_eq hstart]
      exact ⟨[], (List.append_nil text).symm, Cursor.Passes.refl c⟩
  | cons part parts ih =>
      obtain ⟨hpart, hparts⟩ := List.forall_mem_cons.1 hself
      rw [laterParts_cons hpart spacing hstart.frame]
      apply (laterPart_ensures hpart spacing c).andThen
      rintro verdict stop ⟨run, hrun⟩
      -- All that the part passed belongs to the text, its blanks included.
      have hstop : start.Passes (skipped ++ (text ++ run)) stop := hstart.trans_text hrun
      cases verdict with
      | ok partText =>
          apply (ih hparts hstop (index + 1)).mono
          intro verdict last hlast
          cases verdict with
          | ok whole =>
              obtain ⟨more, rfl, hmore⟩ := hlast
              exact ⟨run ++ more, List.append_assoc text run more, hrun.trans hmore⟩
          | error cause => exact hlast
      | error cause => exact rfl

/-- Where the text of a series starts, once its first part has matched. -/
theorem Cursor.Passes.textStart_eq {c stop : Cursor} {skipped text : Text}
    (h : c.Passes (skipped ++ text) stop) :
    Text.byteLength text ≤ stop.offset ∧
      stop.offset - Text.byteLength text = c.offset + Text.byteLength skipped := by
  have hoffset := h.offset_eq
  rw [Text.byteLength_append] at hoffset
  omega

/-- The text of a first part is no longer than what was passed, and a first part that fails has not moved
the cursor. -/
theorem matchSeries_cons {first : Rule} {c : Cursor} (hself : (self first c).Ensures allowed (Answers c))
    (spacing : Spacing) (others : List Rule) :
    matchSeries self spacing (first :: others) c
      = (self first c).andThen fun verdict stop =>
          match verdict with
          | .ok text =>
              laterParts self spacing c.offset (stop.offset - Text.byteLength text) 1 others stop
          | .error cause =>
              .finished (.error (.partFailed 0 cause)) c [.partFailed 0 first c.offset] := by
  rw [matchSeries]
  refine hself.andThen_congr ?_
  intro verdict stop hanswer
  cases verdict with
  | ok text =>
      obtain ⟨skipped, -, hpass⟩ := hanswer
      exact if_pos hpass.textStart_eq.1
  | error cause =>
      obtain rfl : stop = c := hanswer
      exact abandon_eq (Cursor.SameFrame.refl stop) 0 first cause

/-- A series that fails has gone back to its start by itself. -/
theorem matchSeries_ensures {parts : List Rule}
    (hself : ∀ part ∈ parts, ∀ c, (self part c).Ensures allowed (Answers c)) (spacing : Spacing)
    (c : Cursor) : (matchSeries self spacing parts c).Ensures allowed (Answers c) := by
  cases parts with
  | nil =>
      rw [matchSeries, Matching.upTo_offset (Cursor.Passes.refl c)]
      exact (Cursor.Passes.refl c).consumes
  | cons first others =>
      obtain ⟨hfirst, hothers⟩ := List.forall_mem_cons.1 hself
      rw [matchSeries_cons (hfirst c)]
      apply (hfirst c).andThen
      intro verdict stop hanswer
      cases verdict with
      | ok text =>
          -- What the first part skipped is skipped by the series.
          obtain ⟨skipped, hskipped, hpass⟩ := hanswer
          dsimp only
          rw [hpass.textStart_eq.2]
          apply (laterParts_ensures hothers spacing hpass 1).mono
          intro verdict last hlast
          cases verdict with
          | ok whole =>
              obtain ⟨run, rfl, hrun⟩ := hlast
              exact ⟨skipped, hskipped, hpass.trans_text hrun⟩
          | error cause => exact hlast
      | error cause => exact rfl

end Constructs

/-! ## Rules -/

/-- An attempt is taken back after a failure; what it ensures of a success stays. -/
theorem Matching.restoring_ensures_of {attempt : Matching} {allowed : Fault → Prop} {c : Cursor}
    {post : Verdict → Cursor → Prop} (hframe : (attempt c).Ensures allowed (Attempts c))
    (hok : (attempt c).Ensures allowed fun verdict stop =>
      ∀ text, verdict = .ok text → post verdict stop)
    (herror : ∀ failure, post (.error failure) c) :
    (Matching.restoring attempt c).Ensures allowed post := by
  apply (hframe.and hok).andThen
  rintro verdict stop ⟨hattempt, hpost⟩
  cases verdict with
  | ok text => exact hpost text rfl
  | error failure =>
      dsimp only
      rw [Cursor.moveTo_offset hattempt]
      exact herror failure

/-- If a failed attempt is back where it started, there is nothing to take back. -/
theorem Matching.restoring_eq_self {attempt : Matching} {allowed : Fault → Prop} {c : Cursor}
    (h : (attempt c).Ensures allowed (Answers c)) : Matching.restoring attempt c = attempt c := by
  unfold restoring
  nth_rewrite 2 [← Outcome.andThen_finished (attempt c)]
  refine h.andThen_congr ?_
  intro verdict stop hanswer
  cases verdict with
  | ok text => rfl
  | error failure =>
      obtain rfl : stop = c := hanswer
      dsimp only
      rw [Cursor.moveTo_offset (Cursor.SameFrame.refl stop)]
      rfl

/-- An attempt that is taken back after a failure answers. -/
theorem Matching.restoring_ensures {attempt : Matching} {allowed : Fault → Prop} {c : Cursor}
    (h : (attempt c).Ensures allowed (Attempts c)) :
    (Matching.restoring attempt c).Ensures allowed (Answers c) := by
  apply Matching.restoring_ensures_of h
  · apply h.mono
    rintro _ stop hattempt text rfl
    exact hattempt
  · intro failure
    exact rfl

namespace Grammar

variable {g : Grammar} {allowed : Fault → Prop}

theorem require_eq_ok {cell : Cell} {rule : Rule} (h : g.definition? cell = some rule) :
    g.require cell = .ok rule := by
  simp [require, h]

theorem require_eq_error {cell : Cell} (h : g.definition? cell = none) :
    g.require cell = .error (.undefinedRule cell.name) := by
  simp [require, h]

/-- A construct keeps the promise that its callees keep, and adds only the fault of an undefined rule. -/
theorem attempt_answers {self : Rule → Matching} {rule : Rule} (hrule : rule.isTerminal = false)
    (hself : ∀ callee ∈ g.callees rule, ∀ c, (self callee c).Ensures allowed (Answers c))
    (hfault : ∀ cell, rule = .ref cell → g.definition? cell = none →
      allowed (.undefinedRule cell.name)) (bound : Nat) (c : Cursor) :
    (g.attempt bound self rule c).Ensures allowed (Answers c) := by
  cases rule with
  | terminal t => simp [Rule.isTerminal] at hrule
  | named name body => exact hself body (by simp) c
  | oneOrMore body => exact matchOneOrMore_ensures (hself body (by simp)) bound c
  | zeroOrMore body => exact matchZeroOrMore_ensures (hself body (by simp)) bound c
  | optional body => exact matchOptional_ensures (hself body (by simp)) c
  | oneOf alternatives => exact matchOneOf_ensures hself c
  | series spacing parts => exact matchSeries_ensures hself spacing c
  | ref cell =>
      cases hdef : g.definition? cell with
      | some definition =>
          rw [attempt, require_eq_ok hdef]
          exact hself definition (by simp [hdef]) c
      | none =>
          rw [attempt, require_eq_error hdef]
          exact hfault cell rfl hdef

/-- Only a terminal may leave it to others to take back what it has passed before it failed. -/
theorem attempt_ensures {self : Rule → Matching} {rule : Rule}
    (hself : ∀ callee ∈ g.callees rule, ∀ c, (self callee c).Ensures allowed (Answers c))
    (hfault : ∀ cell, rule = .ref cell → g.definition? cell = none →
      allowed (.undefinedRule cell.name)) (bound : Nat) (c : Cursor) :
    (g.attempt bound self rule c).Ensures allowed (Attempts c) := by
  cases hrule : rule.isTerminal with
  | true =>
      cases rule with
      | terminal t => exact t.attempts_read c
      | _ => simp [Rule.isTerminal] at hrule
  | false => exact (attempt_answers hrule hself hfault bound c).mono fun _ _ h => h.attempts

/-- A class of rules that contains the callees of its members answers, with no faults but those of its
undefined cells. -/
theorem matchWithin_ensures_of_closed (closed : Rule → Prop)
    (hcallees : ∀ rule, closed rule → ∀ callee ∈ g.callees rule, closed callee)
    (hfault : ∀ cell, closed (.ref cell) → g.definition? cell = none →
      allowed (.undefinedRule cell.name))
    (bound : Nat) {rule : Rule} (hrule : closed rule) (c : Cursor) :
    (g.matchWithin bound rule c).Ensures allowed (Answers c) := by
  induction bound generalizing rule c with
  | zero => exact trivial
  | succ bound ih =>
      apply Matching.restoring_ensures
      apply attempt_ensures
      · intro callee hcallee d
        exact ih (hcallees rule hrule callee hcallee) d
      · rintro cell rfl hdef
        exact hfault cell hrule hdef

/-- Every match answers, and its only fault is an undefined rule. -/
theorem matchWithin_ensures (bound : Nat) (rule : Rule) (c : Cursor) :
    (g.matchWithin bound rule c).Ensures (fun fault => ∃ name, fault = .undefinedRule name)
      (Answers c) :=
  matchWithin_ensures_of_closed (fun _ => True) (fun _ _ _ _ => trivial)
    (fun cell _ _ => ⟨cell.name, rfl⟩) bound trivial c

theorem matchAt_ensures (rule : Rule) (c : Cursor) :
    (g.matchAt rule c).Ensures (fun fault => ∃ name, fault = .undefinedRule name) (Answers c) :=
  g.matchWithin_ensures (g.budget rule c) rule c

theorem answers_of_matchAt {rule : Rule} {c stop : Cursor} {verdict : Verdict} {log : List Event}
    (h : g.matchAt rule c = .finished verdict stop log) : Answers c verdict stop := by
  have hensures := matchAt_ensures (g := g) rule c
  rw [h] at hensures
  exact hensures

/-- A rule that fails has failed where it was tried. -/
theorem matchAt_ensures_start (rule : Rule) (c : Cursor) :
    (g.matchAt rule c).Ensures (fun _ => True) fun verdict _ =>
      ∀ cause, verdict = .error cause → ∃ log, g.matchAt rule c = .finished (.error cause) c log := by
  apply ((g.matchAt rule c).ensures_self.and (g.matchAt_ensures rule c)).mono
  rintro _ stop ⟨⟨log, hmatch⟩, hanswer⟩ cause rfl
  obtain rfl : stop = c := hanswer
  exact ⟨log, hmatch⟩

/-- An attempt on top of such matches is back in the text where it started, whichever rule it is for. -/
theorem attempt_ensures_attempts {self : Rule → Matching}
    (hself : ∀ callee c, (self callee c).Ensures (fun fault => ∃ name, fault = .undefinedRule name)
      (Answers c)) (bound : Nat) (rule : Rule) (c : Cursor) :
    (g.attempt bound self rule c).Ensures (fun fault => ∃ name, fault = .undefinedRule name)
      (Attempts c) :=
  attempt_ensures (fun callee _ d => hself callee d) (fun cell _ _ => ⟨cell.name, rfl⟩) bound c

/-! ## Looking ahead -/

theorem anyCan_ensures {self : Rule → Looking} {rules : List Rule}
    (hself : ∀ rule ∈ rules, ∀ c, (self rule c).Ensures allowed fun _ stop => stop = c) (c : Cursor) :
    (anyCan self rules c).Ensures allowed fun _ stop => stop = c := by
  induction rules with
  | nil => exact rfl
  | cons rule rules ih =>
      obtain ⟨hrule, hrules⟩ := List.forall_mem_cons.1 hself
      unfold anyCan
      apply (hrule c).andThen
      rintro can stop rfl
      split
      · exact rfl
      · exact ih hrules

/-- Looking ahead stays where it is if the rules that it asks do. -/
theorem look_ensures {self : Rule → Looking} {rule : Rule}
    (hself : ∀ callee ∈ g.callees rule, ∀ c, (self callee c).Ensures allowed fun _ stop => stop = c)
    (hfault : ∀ cell, rule = .ref cell → g.definition? cell = none →
      allowed (.undefinedRule cell.name)) (c : Cursor) :
    (g.look self rule c).Ensures allowed fun _ stop => stop = c := by
  cases rule with
  | terminal t =>
      rw [look, t.canRead_eq]
      exact rfl
  | named name body => exact hself body (by simp) c
  | oneOrMore body => exact hself body (by simp) c
  | zeroOrMore body => exact rfl
  | optional body => exact rfl
  | oneOf alternatives => exact anyCan_ensures hself c
  | series spacing parts =>
      cases parts with
      | nil => exact rfl
      | cons first others => exact hself first (by simp) c
  | ref cell =>
      cases hdef : g.definition? cell with
      | some definition =>
          rw [look, require_eq_ok hdef]
          exact hself definition (by simp [hdef]) c
      | none =>
          rw [look, require_eq_error hdef]
          exact hfault cell rfl hdef

/-- A class of rules that contains the callees of its members stays where it is when it is asked. -/
theorem mayMatchWithin_ensures_of_closed (closed : Rule → Prop)
    (hcallees : ∀ rule, closed rule → ∀ callee ∈ g.callees rule, closed callee)
    (hfault : ∀ cell, closed (.ref cell) → g.definition? cell = none →
      allowed (.undefinedRule cell.name))
    (bound : Nat) {rule : Rule} (hrule : closed rule) (c : Cursor) :
    (g.mayMatchWithin bound rule c).Ensures allowed fun _ stop => stop = c := by
  induction bound generalizing rule c with
  | zero => exact trivial
  | succ bound ih =>
      unfold mayMatchWithin
      apply look_ensures
      · intro callee hcallee d
        exact ih (hcallees rule hrule callee hcallee) d
      · rintro cell rfl hdef
        exact hfault cell hrule hdef

/-- Looking ahead stays where it is, and its only fault is an undefined rule. -/
theorem mayMatchWithin_ensures (bound : Nat) (rule : Rule) (c : Cursor) :
    (g.mayMatchWithin bound rule c).Ensures (fun fault => ∃ name, fault = .undefinedRule name)
      fun _ stop => stop = c :=
  mayMatchWithin_ensures_of_closed (fun _ => True) (fun _ _ _ _ => trivial)
    (fun cell _ _ => ⟨cell.name, rfl⟩) bound trivial c

theorem mayMatch_ensures (rule : Rule) (c : Cursor) :
    (g.mayMatch rule c).Ensures (fun fault => ∃ name, fault = .undefinedRule name)
      fun _ stop => stop = c :=
  g.mayMatchWithin_ensures (g.budget rule c) rule c

end Grammar

end RuleMatch
