import RuleMatch.Proofs.Calls

/-!
# Rules that may match nothing

`Grammar.Nullable` is the least class of rules that may match without moving the cursor, as it can be read
off a grammar.  It is not missed by any match: a rule that is not nullable moves the cursor whenever it
matches (`matchAt_advances`).
-/

namespace RuleMatch

namespace Grammar

/-- A rule that may match without moving the cursor. -/
inductive Nullable (g : Grammar) : Rule → Prop
  | keyword : Nullable g (.keyword "")
  | named {name : String} {body : Rule} (h : Nullable g body) : Nullable g (.named name body)
  | oneOrMore {body : Rule} (h : Nullable g body) : Nullable g (.oneOrMore body)
  | zeroOrMore (body : Rule) : Nullable g (.zeroOrMore body)
  | optional (body : Rule) : Nullable g (.optional body)
  | oneOf {alternatives : List Rule} {alternative : Rule} (hmem : alternative ∈ alternatives)
      (h : Nullable g alternative) : Nullable g (.oneOf alternatives)
  | series {spacing : Spacing} {parts : List Rule} (h : ∀ part ∈ parts, Nullable g part) :
      Nullable g (.series spacing parts)
  | ref {cell : Cell} {rule : Rule} (hdef : g.definition? cell = some rule) (h : Nullable g rule) :
      Nullable g (.ref cell)

end Grammar

/-- A match that succeeds where it started is a match of a nullable rule. -/
def Progresses (g : Grammar) (rule : Rule) (c : Cursor) (verdict : Verdict) (stop : Cursor) : Prop :=
  match verdict with
  | .ok _ => stop.offset = c.offset → g.Nullable rule
  | .error _ => True

/-- A match answers and, if it matches a rule that is not nullable, moves the cursor. -/
def Advances (g : Grammar) (rule : Rule) (c : Cursor) (verdict : Verdict) (stop : Cursor) : Prop :=
  Answers c verdict stop ∧ Progresses g rule c verdict stop

theorem Outcome.Ensures.answers {g : Grammar} {rule : Rule} {c : Cursor} {outcome : Outcome Verdict}
    {allowed : Fault → Prop} (h : outcome.Ensures allowed (Advances g rule c)) :
    outcome.Ensures allowed (Answers c) :=
  h.mono fun _ _ hadvances => hadvances.1

/-! ## Terminals -/

theorem Text.charAtFront_ne_nil {accepts : Char → Bool} {ahead text : Text}
    (h : Text.charAtFront accepts ahead = some text) : text ≠ [] := by
  obtain ⟨ch, rest, -, -, rfl⟩ := Text.charAtFront_eq_some_iff.1 h
  exact List.cons_ne_nil ch []

/-- The only empty lexeme is that of the empty keyword. -/
theorem Terminal.eq_keyword_of_lexeme_nil {terminal : Terminal} {settings : Settings} {ahead : Text}
    (h : terminal.lexeme? settings ahead = some []) : terminal = .keyword "" := by
  cases terminal with
  | digit => exact absurd rfl (Text.charAtFront_ne_nil h)
  | letter => exact absurd rfl (Text.charAtFront_ne_nil h)
  | blank => exact absurd rfl (Text.charAtFront_ne_nil h)
  | char ch => exact absurd rfl (Text.charAtFront_ne_nil h)
  | keyword keyword =>
      simp only [Terminal.lexeme?, Settings.keywordAtFront] at h
      split at h
      · have hempty : keyword.toList = [] := by simpa using h
        rw [String.toList_eq_nil_iff.1 hempty]
      · simp at h

theorem Terminal.progresses_read (g : Grammar) (terminal : Terminal) (c : Cursor) :
    Progresses g (.terminal terminal) c (terminal.read c).1 (terminal.read c).2 := by
  have hentry := (terminal.passes_entry c).offset_le
  cases hlexeme : terminal.lexeme? c.settings (terminal.entry c).ahead with
  | some text =>
      obtain ⟨stop, hread, hpass⟩ := read_of_lexeme hlexeme
      rw [hread]
      intro hoffset
      have hstill : stop.offset = (terminal.entry c).offset := by
        have hle := hpass.offset_le
        dsimp only at hoffset
        omega
      obtain rfl : text = [] := hpass.run_eq_nil hstill
      rw [Terminal.eq_keyword_of_lexeme_nil hlexeme]
      exact .keyword
  | none =>
      obtain ⟨failure, hread⟩ := read_of_no_lexeme hlexeme
      rw [hread]
      exact trivial

/-! ## Constructs -/

section Constructs

variable {g : Grammar} {self : Rule → Matching} {allowed : Fault → Prop}

/-- A repetition that has matched its body and stands where it started has matched it there. -/
theorem repeated_progresses {body : Rule}
    (hself : ∀ c, (self body c).Ensures allowed (Advances g body c)) (bound : Nat) (c : Cursor) :
    (repeated self body bound c).Ensures allowed fun count stop =>
      count ≠ 0 → stop.offset = c.offset → g.Nullable body := by
  cases bound with
  | zero => exact trivial
  | succ bound =>
      unfold repeated
      apply (hself c).andThen
      rintro verdict stop ⟨hanswer, hprogress⟩
      obtain ⟨run, hrun⟩ := hanswer.passes
      cases verdict with
      | ok text =>
          dsimp only
          split
          · next hstill => exact fun _ _ => hprogress hstill
          · next hmoved =>
              have hanswers : ∀ d, (self body d).Ensures allowed (Answers d) := fun d =>
                (hself d).answers
              -- Once the cursor has moved, no later round takes it back.
              apply (repeated_ensures hanswers bound stop).andThen
              rintro count last ⟨more, hmore⟩ _ hoffset
              have hfirst := hrun.offset_le
              have hrest := hmore.offset_le
              omega
      | error failure => exact fun hcount => absurd rfl hcount

theorem firstMatch_progresses {rules : List Rule} {c : Cursor}
    (hself : ∀ rule ∈ rules, (self rule c).Ensures allowed (Advances g rule c)) (mark index : Nat) :
    (firstMatch self mark index rules c).Ensures allowed fun found stop =>
      found ≠ none → stop.offset = c.offset → ∃ rule ∈ rules, g.Nullable rule := by
  induction rules generalizing index with
  | nil => exact fun hfound => absurd rfl hfound
  | cons rule rules ih =>
      obtain ⟨hrule, hrules⟩ := List.forall_mem_cons.1 hself
      unfold firstMatch
      apply hrule.andThen
      rintro verdict stop ⟨hanswer, hprogress⟩
      cases verdict with
      | ok text => exact fun _ hstill => ⟨rule, List.mem_cons_self, hprogress hstill⟩
      | error failure =>
          obtain rfl : stop = c := hanswer
          rw [Outcome.ensures_after]
          apply (ih hrules (index + 1)).mono
          intro found last hrest hfound hstill
          obtain ⟨r, hr, hnullable⟩ := hrest hfound hstill
          exact ⟨r, List.mem_cons_of_mem rule hr, hnullable⟩

/-- A later part that ends where the part before it ended is nullable. -/
theorem laterPart_progresses {part : Rule}
    (hself : ∀ c, (self part c).Ensures allowed (Advances g part c)) (spacing : Spacing) (c : Cursor) :
    (laterPart self spacing part c).Ensures allowed (Progresses g part c) := by
  cases spacing with
  | spaced =>
      apply (hself c.skipBlanks.2).mono
      rintro verdict stop ⟨hanswer, hprogress⟩
      obtain ⟨run, hrun⟩ := hanswer.passes
      have hgap := (Cursor.passes_skipBlanks c).offset_le
      have hpart := hrun.offset_le
      cases verdict with
      | ok text => exact fun hoffset => hprogress (by omega)
      | error failure => exact trivial
  | adjacent =>
      apply (hself c.pin).andThen
      rintro verdict stop ⟨-, hprogress⟩
      exact hprogress

theorem laterParts_progresses {parts : List Rule}
    (hself : ∀ part ∈ parts, ∀ c, (self part c).Ensures allowed (Advances g part c))
    (spacing : Spacing) {start c : Cursor} {skipped text : Text}
    (hstart : start.Passes (skipped ++ text) c) (index : Nat) :
    (laterParts self spacing start.offset (start.offset + Text.byteLength skipped) index parts c).Ensures
      allowed fun verdict stop =>
        match verdict with
        | .ok _ => stop.offset = c.offset → ∀ part ∈ parts, g.Nullable part
        | .error _ => True := by
  induction parts generalizing index c text with
  | nil =>
      rw [laterParts, Matching.upTo_eq hstart]
      intro _ part hpart
      simp at hpart
  | cons part parts ih =>
      obtain ⟨hpart, hparts⟩ := List.forall_mem_cons.1 hself
      rw [laterParts_cons (fun d => (hpart d).answers) spacing hstart.frame]
      apply ((laterPart_ensures (fun d => (hpart d).answers) spacing c).and
        (laterPart_progresses hpart spacing c)).andThen
      rintro verdict stop ⟨⟨run, hrun⟩, hprogress⟩
      have hstop : start.Passes (skipped ++ (text ++ run)) stop := hstart.trans_text hrun
      cases verdict with
      | ok partText =>
          have hrest := (laterParts_ensures (fun p hp d => (hparts p hp d).answers) spacing hstop
            (index + 1)).and (ih hparts hstop (index + 1))
          apply hrest.mono
          rintro verdict last ⟨hlast, hothers⟩
          cases verdict with
          | ok whole =>
              obtain ⟨more, -, hmore⟩ := hlast
              have hbefore : c.offset ≤ stop.offset := hrun.offset_le
              have hend : stop.offset ≤ last.offset := hmore.offset_le
              -- The cursor is still at `c`, so neither the part nor those behind it have moved it.
              intro hoffset p hp
              rcases List.mem_cons.1 hp with rfl | hp
              · exact hprogress (by omega)
              · exact hothers (by omega) p hp
          | error cause => exact trivial
      | error cause => exact trivial

theorem matchSeries_progresses {parts : List Rule}
    (hself : ∀ part ∈ parts, ∀ c, (self part c).Ensures allowed (Advances g part c))
    (spacing : Spacing) (c : Cursor) :
    (matchSeries self spacing parts c).Ensures allowed (Progresses g (.series spacing parts) c) := by
  cases parts with
  | nil =>
      rw [matchSeries, Matching.upTo_offset (Cursor.Passes.refl c)]
      exact fun _ => .series (by simp)
  | cons first others =>
      obtain ⟨hfirst, hothers⟩ := List.forall_mem_cons.1 hself
      rw [matchSeries_cons (hfirst c).answers]
      apply (hfirst c).andThen
      rintro verdict stop ⟨hanswer, hprogress⟩
      cases verdict with
      | ok text =>
          obtain ⟨skipped, -, hpass⟩ := hanswer
          dsimp only
          rw [hpass.textStart_eq.2]
          have hrest := (laterParts_ensures (fun p hp d => (hothers p hp d).answers) spacing hpass 1).and
            (laterParts_progresses hothers spacing hpass 1)
          apply hrest.mono
          rintro verdict last ⟨hlast, hnullable⟩
          cases verdict with
          | ok whole =>
              obtain ⟨more, -, hmore⟩ := hlast
              have hbefore : c.offset ≤ stop.offset := hpass.offset_le
              have hend : stop.offset ≤ last.offset := hmore.offset_le
              intro hoffset
              apply Grammar.Nullable.series
              intro p hp
              rcases List.mem_cons.1 hp with rfl | hp
              · exact hprogress (by omega)
              · exact hnullable (by omega) p hp
          | error cause => exact trivial
      | error cause => exact trivial

end Constructs

/-! ## Rules -/

namespace Grammar

variable {g : Grammar} {allowed : Fault → Prop}

/-- An attempt moves the cursor if its callees do. -/
theorem attempt_progresses {self : Rule → Matching} {rule : Rule}
    (hself : ∀ callee ∈ g.callees rule, ∀ c, (self callee c).Ensures allowed (Advances g callee c))
    (hfault : ∀ cell, rule = .ref cell → g.definition? cell = none →
      allowed (.undefinedRule cell.name)) (bound : Nat) (c : Cursor) :
    (g.attempt bound self rule c).Ensures allowed (Progresses g rule c) := by
  cases rule with
  | terminal t => exact t.progresses_read g c
  | named name body =>
      apply (hself body (by simp) c).mono
      rintro verdict stop ⟨-, hprogress⟩
      cases verdict with
      | ok text => exact fun hstill => .named (hprogress hstill)
      | error failure => exact trivial
  | oneOrMore body =>
      have hbody := hself body (by simp)
      have hanswers : ∀ d, (self body d).Ensures allowed (Answers d) := fun d => (hbody d).answers
      apply ((repeated_ensures hanswers bound c).and (repeated_progresses hbody bound c)).andThen
      rintro count stop ⟨⟨run, hrun⟩, hprogress⟩
      split
      · exact trivial
      · next hcount =>
          rw [Matching.upTo_offset hrun]
          exact fun hstill => .oneOrMore (hprogress hcount hstill)
  | zeroOrMore body =>
      have hanswers : ∀ d, (self body d).Ensures allowed (Answers d) := fun d =>
        (hself body (by simp) d).answers
      apply (repeated_ensures hanswers bound c).andThen
      rintro count stop ⟨run, hrun⟩
      rw [Matching.upTo_offset hrun]
      exact fun _ => .zeroOrMore body
  | optional body =>
      apply (hself body (by simp) c).andThen
      intro verdict stop _
      cases verdict with
      | ok text => exact fun _ => .optional body
      | error failure => exact fun _ => .optional body
  | oneOf alternatives =>
      apply (firstMatch_progresses (fun r hr => hself r hr c) c.offset 0).andThen
      intro found stop hfound
      cases found with
      | some text =>
          intro hstill
          obtain ⟨alternative, hmem, hnullable⟩ := hfound (by simp) hstill
          exact .oneOf hmem hnullable
      | none => exact trivial
  | series spacing parts => exact matchSeries_progresses hself spacing c
  | ref cell =>
      cases hdef : g.definition? cell with
      | some definition =>
          simp only [attempt, require_eq_ok hdef]
          apply (hself definition (by simp [hdef]) c).mono
          rintro verdict stop ⟨-, hprogress⟩
          cases verdict with
          | ok text => exact fun hstill => .ref hdef (hprogress hstill)
          | error failure => exact trivial
      | none =>
          simp only [attempt, require_eq_error hdef]
          exact hfault cell rfl hdef

/-- Every match answers, and moves the cursor unless its rule is nullable. -/
theorem matchWithin_advances (bound : Nat) (rule : Rule) (c : Cursor) :
    (g.matchWithin bound rule c).Ensures (fun fault => ∃ name, fault = .undefinedRule name)
      (Advances g rule c) := by
  induction bound generalizing rule c with
  | zero => exact trivial
  | succ bound ih =>
      apply (g.matchWithin_ensures (bound + 1) rule c).and
      apply Matching.restoring_ensures_of
      · exact attempt_ensures_attempts (g.matchWithin_ensures bound) bound rule c
      · have hprogresses := attempt_progresses (fun callee _ d => ih callee d)
          (fun cell (_ : rule = .ref cell) _ => ⟨cell.name, rfl⟩) bound c
        exact hprogresses.mono fun _ _ hprogress _ _ => hprogress
      · intro failure
        exact trivial

theorem matchAt_advances (rule : Rule) (c : Cursor) :
    (g.matchAt rule c).Ensures (fun fault => ∃ name, fault = .undefinedRule name)
      (Advances g rule c) :=
  g.matchWithin_advances (g.budget rule c) rule c

theorem offset_lt_of_matchAt (hrule : ¬ g.Nullable rule) {c stop : Cursor} {text : Text} {log : List Event}
    (h : g.matchAt rule c = .finished (.ok text) stop log) : c.offset < stop.offset := by
  have hadvances := g.matchAt_advances rule c
  rw [h] at hadvances
  obtain ⟨hanswer, hprogress⟩ := hadvances
  obtain ⟨run, hrun⟩ := hanswer.passes
  have hne : stop.offset ≠ c.offset := fun hoffset => hrule (hprogress hoffset)
  exact Nat.lt_of_le_of_ne hrun.offset_le hne.symm

end Grammar

end RuleMatch
