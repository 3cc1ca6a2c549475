import RuleMatch.Proofs.Alternatives
import RuleMatch.Proofs.Exactness
import RuleMatch.Proofs.WordLists

/-!
# What the log says last

Looking ahead writes nothing into the log.  A match writes whatever the matches of its parts do, and an entry of
its own where a repetition stops, where an alternative fails or a whole choice does, and where a part makes a
series fail.  Between these entries there may stand any number of those of parts that have matched.

Still, once a match has failed, its log ends with the entry of the construct that the failure is about
(`log_ends_with_failure`).  A terminal fails without an entry, and a rule under a name and a cell hand on what
the rule they stand for has answered and written; every other construct has its entry written last, just before
it answers.
-/

namespace RuleMatch

/-- An entry as it is written: its level and its text. -/
def Event.line (event : Event) : Level × String :=
  (event.level, event.message)

/-- What the lines of a log end with, if a match from the offset `start` has written them and come to the
failure. -/
def Failure.EndsLog (start : Nat) (lines : List (Level × String)) : Failure → Prop
  | .endOfInput _ _ => lines = []
  | .wrongChar _ _ _ => lines = []
  | .wrongKeyword _ _ _ => lines = []
  | .noneRepeated rule offset =>
      ∃ why, [(.trace, "repetition of " ++ rule ++ " stopped at offset " ++ toString offset ++ ": " ++ why)]
        <:+ lines
  | .noAlternative tried offset =>
      [(.debug, "no alternative matched at offset " ++ toString offset)] <:+ lines ∧
        ∀ last, tried.getLast? = some last → ∃ why,
          [(.trace, "alternative " ++ toString (tried.length - 1) ++ " (" ++ last ++ ") failed at offset "
              ++ toString offset ++ ": " ++ why),
            (.debug, "no alternative matched at offset " ++ toString offset)] <:+ lines
  | .partFailed index _ =>
      ∃ part, [(.trace, "sequence element " ++ toString index ++ " (" ++ part
        ++ ") failed, rewinding to offset " ++ toString start)] <:+ lines
  | .undefinedRule _ => False

/-! ## Outcomes and their logs -/

namespace Outcome

variable {α β : Type}

/-- If an outcome is finished, its value and its log satisfy `post`. -/
def Writes (outcome : Outcome α) (post : α → List Event → Prop) : Prop :=
  match outcome with
  | .finished value _ log => post value log
  | .faulted _ _ => True
  | .unfinished => True

theorem writes_true (outcome : Outcome α) : outcome.Writes fun _ _ => True := by
  cases outcome <;> exact trivial

theorem writes_after {outcome : Outcome α} {post : α → List Event → Prop} {log : List Event} :
    (outcome.after log).Writes post ↔ outcome.Writes fun value rest => post value (log ++ rest) := by
  cases outcome <;> exact Iff.rfl

/-- The second piece writes behind what the first has written. -/
theorem Writes.andThen {outcome : Outcome α} {post : α → List Event → Prop} {goOn : α → Cursor → Outcome β}
    {post' : β → List Event → Prop} (h : outcome.Writes post)
    (hgoOn : ∀ value stop log, post value log →
      (goOn value stop).Writes fun value' rest => post' value' (log ++ rest)) :
    (outcome.andThen goOn).Writes post' := by
  cases outcome with
  | finished value stop log => exact writes_after.2 (hgoOn value stop log h)
  | faulted fault log => exact trivial
  | unfinished => exact trivial

/-- Two silent pieces make a silent whole. -/
theorem log_andThen_eq_nil {outcome : Outcome α} {goOn : α → Cursor → Outcome β} (h : outcome.log = [])
    (hgoOn : ∀ value stop, (goOn value stop).log = []) : (outcome.andThen goOn).log = [] := by
  cases outcome with
  | finished value stop log =>
      obtain rfl : log = [] := h
      rw [finished_andThen, after_nil]
      exact hgoOn value stop
  | faulted fault log => exact h
  | unfinished => rfl

end Outcome

/-- Whatever failure is answered, the log ends with what is written about it. -/
def AgreesWithLog (start : Nat) (verdict : Verdict) (log : List Event) : Prop :=
  ∀ failure, verdict = .error failure → failure.EndsLog start (log.map Event.line)

theorem AgreesWithLog.of_ok (start : Nat) (text : Text) (log : List Event) :
    AgreesWithLog start (.ok text) log := by
  rintro failure ⟨⟩

theorem Outcome.Succeeds.agreesWithLog {outcome : Outcome Verdict} (h : outcome.Succeeds) (start : Nat)
    (before : List Event) : outcome.Writes fun verdict log => AgreesWithLog start verdict (before ++ log) := by
  cases outcome with
  | finished verdict stop log =>
      obtain ⟨text, rfl⟩ := h
      exact AgreesWithLog.of_ok start text (before ++ log)
  | faulted fault log => exact trivial
  | unfinished => exact trivial

/-! ## Failures and their entries -/

theorem Failure.endsLog_ofRead (start : Nat) (expected : String) (failure : ReadFailure) :
    (Failure.ofRead expected failure).EndsLog start [] := by
  cases failure <;> rfl

/-- The failure of a choice, behind the entry of its last alternative and that of its own. -/
theorem Failure.endsLog_noAlternative (start offset : Nat) (rules : List Rule) (last : Rule) (cause : Failure)
    (earlier : List Event) :
    (Failure.noAlternative (Rule.describeAll (rules ++ [last])) offset).EndsLog start
      ((earlier ++ [Event.alternativeFailed rules.length last offset cause] ++ [Event.choiceFailed offset]).map
        Event.line) := by
  have hlast : [Event.choiceFailed offset]
      <:+ earlier ++ [.alternativeFailed rules.length last offset cause] ++ [.choiceFailed offset] :=
    List.suffix_append _ _
  have hlastTwo : [Event.alternativeFailed rules.length last offset cause, .choiceFailed offset]
      <:+ earlier ++ [.alternativeFailed rules.length last offset cause] ++ [.choiceFailed offset] := by
    rw [List.append_assoc]
    exact List.suffix_append _ _
  refine ⟨hlast.map Event.line, ?_⟩
  intro description hdescription
  rw [Rule.describeAll_append] at hdescription ⊢
  obtain rfl : last.describe = description := by
    simpa [Rule.describeAll] using hdescription
  have hcount : (Rule.describeAll rules ++ Rule.describeAll [last]).length - 1 = rules.length := by
    simp [Rule.describeAll, Rule.length_describeAll]
  refine ⟨cause.message, ?_⟩
  rw [hcount]
  exact hlastTwo.map Event.line

/-! ## Terminals -/

theorem Cursor.readChar_agreesWithLog (c : Cursor) (expected : String) (accepts : Char → Bool) (start : Nat) :
    AgreesWithLog start (c.readChar expected accepts).1 [] := by
  unfold readChar
  cases c.readIf accepts with
  | ok read => exact AgreesWithLog.of_ok start _ []
  | error failure =>
      rintro _ ⟨⟩
      exact Failure.endsLog_ofRead start expected failure

theorem Cursor.readKeyword_agreesWithLog (c : Cursor) (keyword : String) (start : Nat) :
    AgreesWithLog start (c.readKeyword keyword).1 [] := by
  have hrefused : AgreesWithLog start
      (.error (.wrongKeyword keyword (c.context keyword.toList.length) c.offset)) [] := by
    rintro _ ⟨⟩
    rfl
  unfold readKeyword
  dsimp only
  split
  · cases c.advance keyword.toList.length with
    | error failure =>
        rintro _ ⟨⟩
        exact Failure.endsLog_ofRead start keyword failure
    | ok stop =>
        dsimp only
        split
        · exact hrefused
        · exact AgreesWithLog.of_ok start _ []
  · exact hrefused

/-- A terminal that fails has written nothing. -/
theorem Terminal.read_agreesWithLog (terminal : Terminal) (c : Cursor) (start : Nat) :
    AgreesWithLog start (terminal.read c).1 [] := by
  cases terminal with
  | digit => exact c.readChar_agreesWithLog _ _ start
  | letter => exact c.readChar_agreesWithLog _ _ start
  | blank => exact c.readChar_agreesWithLog _ _ start
  | char ch => exact c.skipBlanks.2.readChar_agreesWithLog _ _ start
  | keyword keyword => exact c.skipBlanks.2.readKeyword_agreesWithLog keyword start

/-! ## Constructs

Nothing has to be known of how the parts are matched and what that writes. -/

section Constructs

variable (self : Rule → Matching)

/-- A repetition that has counted no match has stopped where it started, and this is written last. -/
theorem repeated_writes (body : Rule) (bound : Nat) (c : Cursor) :
    (repeated self body bound c).Writes fun count log =>
      count = 0 → ∃ cause, [.repetitionStopped body c.offset cause] <:+ log := by
  cases bound with
  | zero => exact trivial
  | succ bound =>
      unfold repeated
      apply (self body c).writes_true.andThen
      intro verdict stop log _
      cases verdict with
      | error failure => exact fun _ => ⟨failure, List.suffix_append _ _⟩
      | ok text =>
          dsimp only
          split
          · exact fun hcount => absurd hcount Nat.one_ne_zero
          · apply (repeated self body bound stop).writes_true.andThen
            intro count last rest _ hcount
            exact absurd hcount (Nat.succ_ne_zero count)

theorem matchOneOrMore_agreesWithLog (bound : Nat) (body : Rule) (c : Cursor) :
    (matchOneOrMore self bound body c).Writes (AgreesWithLog c.offset) := by
  apply (repeated_writes self body bound c).andThen
  intro count stop log hstopped
  split
  · next hcount =>
      obtain ⟨cause, hlast⟩ := hstopped hcount
      rintro _ ⟨⟩
      rw [List.append_nil]
      exact ⟨cause.message, hlast.map Event.line⟩
  · exact (Matching.upTo_succeeds c.offset stop).agreesWithLog c.offset log

/-- If all of some alternatives fail, the failure of the last one is written last. -/
theorem firstMatch_writes (mark : Nat) (rules : List Rule) (last : Rule) (c : Cursor) :
    (firstMatch self mark 0 (rules ++ [last]) c).Writes fun found log =>
      found = none → ∃ cause, [.alternativeFailed rules.length last mark cause] <:+ log := by
  rw [firstMatch_append, Nat.zero_add]
  apply (firstMatch self mark 0 rules c).writes_true.andThen
  intro found stop log _
  cases found with
  | some text => rintro ⟨⟩
  | none =>
      apply (self last stop).writes_true.andThen
      intro verdict stop' log' _
      cases verdict with
      | ok text => rintro ⟨⟩
      | error failure =>
          intro _
          refine ⟨failure, ?_⟩
          show _ <:+ log ++ (log' ++ [.alternativeFailed rules.length last mark failure])
          rw [← List.append_assoc]
          exact List.suffix_append _ _

theorem matchOneOf_agreesWithLog (alternatives : List Rule) (c : Cursor) :
    (matchOneOf self alternatives c).Writes (AgreesWithLog c.offset) := by
  rcases List.eq_nil_or_concat alternatives with rfl | ⟨rules, last, rfl⟩
  · rintro _ ⟨⟩
    exact ⟨List.suffix_rfl, by rintro _ ⟨⟩⟩
  · rw [List.concat_eq_append]
    apply (firstMatch_writes self c.offset rules last c).andThen
    intro found stop log hfailed
    cases found with
    | some text => exact AgreesWithLog.of_ok c.offset text _
    | none =>
        obtain ⟨cause, earlier, rfl⟩ := hfailed rfl
        rintro _ ⟨⟩
        exact Failure.endsLog_noAlternative c.offset c.offset rules last cause earlier

/-- A series is given up with an entry that says which part has failed and where the series started. -/
theorem abandon_agreesWithLog (mark index : Nat) (part : Rule) (cause : Failure) (stop : Cursor)
    (before : List Event) :
    (abandon mark index part cause stop).Writes fun verdict log => AgreesWithLog mark verdict (before ++ log) := by
  unfold abandon
  rw [Outcome.writes_after]
  cases stop.moveTo mark with
  | error fault => exact trivial
  | ok start =>
      rintro _ ⟨⟩
      exact ⟨part.describe, (List.suffix_append before [Event.partFailed index part mark]).map Event.line⟩

theorem laterParts_agreesWithLog (spacing : Spacing) (mark textStart index : Nat) (parts : List Rule) (c : Cursor)
    (before : List Event) :
    (laterParts self spacing mark textStart index parts c).Writes fun verdict log =>
      AgreesWithLog mark verdict (before ++ log) := by
  induction parts generalizing index c before with
  | nil => exact (Matching.upTo_succeeds textStart c).agreesWithLog mark before
  | cons part parts ih =>
      unfold laterParts
      apply (laterPart self spacing part c).writes_true.andThen
      intro verdict stop log _
      simp only [← List.append_assoc]
      cases verdict with
      | ok text => exact ih (index + 1) stop (before ++ log)
      | error cause => exact abandon_agreesWithLog mark index part cause stop (before ++ log)

theorem matchSeries_agreesWithLog (spacing : Spacing) (parts : List Rule) (c : Cursor) :
    (matchSeries self spacing parts c).Writes (AgreesWithLog c.offset) := by
  cases parts with
  | nil => exact (Matching.upTo_succeeds c.offset c).agreesWithLog c.offset []
  | cons first others =>
      apply (self first c).writes_true.andThen
      intro verdict stop log _
      cases verdict with
      | ok text =>
          dsimp only
          split
          · exact laterParts_agreesWithLog self spacing c.offset _ 1 others stop log
          · exact trivial
      | error cause => exact abandon_agreesWithLog c.offset 0 first cause stop log

end Constructs

/-! ## Rules -/

theorem Matching.restoring_agreesWithLog {attempt : Matching} {c : Cursor}
    (h : (attempt c).Writes (AgreesWithLog c.offset)) :
    (Matching.restoring attempt c).Writes (AgreesWithLog c.offset) := by
  apply h.andThen
  intro verdict stop log hagrees
  cases verdict with
  | ok text => exact AgreesWithLog.of_ok c.offset text _
  | error failure =>
      dsimp only
      cases stop.moveTo c.offset with
      | error fault => exact trivial
      | ok start =>
          show AgreesWithLog c.offset (.error failure) (log ++ [])
          rw [List.append_nil]
          exact hagrees

namespace Grammar

variable (g : Grammar)

/-- Only the rule under a name and the definition of a cell have to agree with the log by themselves. -/
theorem attempt_agreesWithLog {self : Rule → Matching} {c : Cursor}
    (hself : ∀ rule, (self rule c).Writes (AgreesWithLog c.offset)) (bound : Nat) (rule : Rule) :
    (g.attempt bound self rule c).Writes (AgreesWithLog c.offset) := by
  cases rule with
  | terminal t => exact t.read_agreesWithLog c c.offset
  | named name body => exact hself body
  | oneOrMore body => exact matchOneOrMore_agreesWithLog self bound body c
  | zeroOrMore body => exact (matchZeroOrMore_succeeds self bound body c).agreesWithLog c.offset []
  | optional body => exact (matchOptional_succeeds self body c).agreesWithLog c.offset []
  | oneOf alternatives => exact matchOneOf_agreesWithLog self alternatives c
  | series spacing parts => exact matchSeries_agreesWithLog self spacing parts c
  | ref cell =>
      rw [attempt]
      cases g.require cell with
      | ok definition => exact hself definition
      | error fault => exact trivial

theorem matchWithin_agreesWithLog (bound : Nat) (rule : Rule) (c : Cursor) :
    (g.matchWithin bound rule c).Writes (AgreesWithLog c.offset) := by
  induction bound generalizing rule with
  | zero => exact trivial
  | succ bound ih => exact Matching.restoring_agreesWithLog (g.attempt_agreesWithLog ih bound rule)

/-! ## Looking ahead -/

theorem anyCan_silent {looks : Rule → Looking} (hlooks : ∀ rule c, (looks rule c).log = [])
    (rules : List Rule) (c : Cursor) : (anyCan looks rules c).log = [] := by
  induction rules generalizing c with
  | nil => rfl
  | cons rule rules ih =>
      apply Outcome.log_andThen_eq_nil (hlooks rule c)
      intro can stop
      cases can with
      | true => rfl
      | false => exact ih stop

theorem look_silent {looks : Rule → Looking} (hlooks : ∀ rule c, (looks rule c).log = []) (rule : Rule)
    (c : Cursor) : (g.look looks rule c).log = [] := by
  cases rule with
  | terminal t =>
      rw [look, t.canRead_eq]
      rfl
  | named name body => exact hlooks body c
  | oneOrMore body => exact hlooks body c
  | zeroOrMore body => rfl
  | optional body => rfl
  | oneOf alternatives => exact anyCan_silent hlooks alternatives c
  | series spacing parts =>
      cases parts with
      | nil => rfl
      | cons first others => exact hlooks first c
  | ref cell =>
      rw [look]
      cases g.require cell with
      | ok definition => exact hlooks definition c
      | error fault => rfl

theorem mayMatchWithin_silent (bound : Nat) (rule : Rule) (c : Cursor) :
    (g.mayMatchWithin bound rule c).log = [] := by
  induction bound generalizing rule c with
  | zero => rfl
  | succ bound ih => exact g.look_silent ih rule c

/-- Looking ahead writes nothing, whatever it comes to.  If a match fails, then the lines that it has written end
as the failure says. -/
theorem log_ends_with_failure (g : Grammar) (rule : Rule) (c : Cursor) :
    (g.mayMatch rule c).log = [] ∧
      ∀ failure stop log, g.matchAt rule c = .finished (.error failure) stop log →
        failure.EndsLog c.offset (log.map Event.line) := by
  constructor
  · exact g.mayMatchWithin_silent (g.budget rule c) rule c
  · intro failure stop log hfailed
    have hwrites := g.matchWithin_agreesWithLog (g.budget rule c) rule c
    rw [show g.matchWithin (g.budget rule c) rule c = .finished (.error failure) stop log from hfailed]
      at hwrites
    exact hwrites failure rfl

/-- A list whose parenthesis is not closed, behind a letter of two bytes, and a choice between a letter and some
digits: what has gone wrong stands at the end of the log. -/
theorem last_lines_of_list_and_choice :
    (∃ stop log, WordLists.grammar.matchAt WordLists.bracketed
        ((Cursor.start ['é', '(', 'a', ',', 'b'] {}).pass 'é' ['(', 'a', ',', 'b'])
          = .finished (.error (.partFailed 2 (.endOfInput "')'" 6))) stop log ∧
        ∃ part, [(.trace, "sequence element " ++ toString 2 ++ " (" ++ part ++ ") failed, rewinding to offset "
          ++ toString 2)] <:+ log.map Event.line) ∧
      ∃ stop log, matchAt {} (.oneOf [.letter, .named "digits" (.oneOrMore .digit)]) (Cursor.start ['é'] {})
          = .finished (.error (.noAlternative ["[a-zA-Z]", "digits"] 0)) stop log ∧
        ∃ why, [(.trace, "alternative " ++ toString 1 ++ " (" ++ "digits" ++ ") failed at offset " ++ toString 0
            ++ ": " ++ why), (.debug, "no alternative matched at offset " ++ toString 0)]
          <:+ log.map Event.line := by
  constructor
  · have hvalue : (WordLists.grammar.matchAt WordLists.bracketed
        ((Cursor.start ['é', '(', 'a', ',', 'b'] {}).pass 'é' ['(', 'a', ',', 'b'])).value?
          = some (.error (.partFailed 2 (.endOfInput "')'" 6))) := by
      decide +kernel
    obtain ⟨stop, log, hfailed⟩ := Outcome.value?_eq_some_iff.1 hvalue
    exact ⟨stop, log, hfailed, (log_ends_with_failure _ _ _).2 _ stop log hfailed⟩
  · have hvalue : (matchAt {} (.oneOf [.letter, .named "digits" (.oneOrMore .digit)])
        (Cursor.start ['é'] {})).value? = some (.error (.noAlternative ["[a-zA-Z]", "digits"] 0)) := by
      decide +kernel
    obtain ⟨stop, log, hfailed⟩ := Outcome.value?_eq_some_iff.1 hvalue
    obtain ⟨-, hlast⟩ := (log_ends_with_failure _ _ _).2 _ stop log hfailed
    exact ⟨stop, log, hfailed, hlast "digits" rfl⟩

end Grammar

end RuleMatch
