import RuleMatch.Proofs.Budget
import RuleMatch.Proofs.Exactness
import RuleMatch.Proofs.WordLists

/-!
# The part that fails a series

If a series fails, one of its parts is to blame, and the failure says which and why (`failing_part_of_series`).
The parts before it make a series that matches, and what comes behind it makes no difference.

A series that goes on behind others is matched as they are, and then, if they matched, from where they have
ended (`matchSeries_append`).  So of two series that begin alike, the longer one is known as soon as the
shorter one has failed (`matchAt_series_append`), and a part that is added to a series that matches is tried
behind it, where its spacing says (`matchAt_series_concat`).
-/

namespace RuleMatch

/-- Where a part of a series is matched, by its number, if the parts before it have ended at `reached`. -/
def partEntry (spacing : Spacing) (index : Nat) (reached : Cursor) : Cursor :=
  match index, spacing with
  | 0, _ => reached
  | _ + 1, .spaced => reached.skipBlanks.2
  | _ + 1, .adjacent => reached.pin

/-- Goes on with a series if its parts so far have matched. -/
def unlessFailed (goOn : Text → Matching) (verdict : Verdict) (stop : Cursor) : Outcome Verdict :=
  match verdict with
  | .ok text => goOn text stop
  | .error failure => .finished (.error failure) stop []

/-- The outcome of a match that ends with a matched text. -/
def Outcome.IsMatch (outcome : Outcome Verdict) : Prop :=
  ∃ text stop log, outcome = .finished (.ok text) stop log

section Constructs

variable {self : Rule → Matching} {allowed : Fault → Prop}

/-- The series started at `start`, has skipped `skipped` and has matched `text` so far. -/
theorem laterParts_append (hself : ∀ rule c, (self rule c).Ensures allowed (Answers c))
    (spacing : Spacing) {start c : Cursor} {skipped text : Text} (hstart : start.Passes (skipped ++ text) c)
    (index : Nat) (parts more : List Rule) :
    laterParts self spacing start.offset (start.offset + Text.byteLength skipped) index (parts ++ more) c
      = (laterParts self spacing start.offset (start.offset + Text.byteLength skipped) index parts c).andThen
          (unlessFailed fun _ => laterParts self spacing start.offset
            (start.offset + Text.byteLength skipped) (index + parts.length) more) := by
  induction parts generalizing c text index with
  | nil =>
      rw [List.nil_append]
      show _ = (Matching.upTo (start.offset + Text.byteLength skipped) c).andThen _
      rw [Matching.upTo_eq hstart]
      exact (Outcome.after_nil _).symm
  | cons part parts ih =>
      have hindex : index + (part :: parts).length = index + 1 + parts.length := by
        rw [List.length_cons]
        omega
      rw [List.cons_append, laterParts_cons (hself part) spacing hstart.frame,
        laterParts_cons (hself part) spacing hstart.frame, Outcome.andThen_assoc, hindex]
      refine (laterPart_ensures (hself part) spacing c).andThen_congr ?_
      rintro verdict stop ⟨run, hrun⟩
      cases verdict with
      | ok partText => exact ih (hstart.trans_text hrun) (index + 1)
      | error cause => rfl

/-- The parts behind the first few are matched from where these have ended, and the text still starts where
theirs does. -/
theorem matchSeries_append (hself : ∀ rule c, (self rule c).Ensures allowed (Answers c))
    (spacing : Spacing) (first : Rule) (others more : List Rule) (c : Cursor) :
    matchSeries self spacing (first :: others ++ more) c
      = (matchSeries self spacing (first :: others) c).andThen
          (unlessFailed fun text reached => laterParts self spacing c.offset
            (reached.offset - Text.byteLength text) (first :: others).length more reached) := by
  have hcount : (first :: others).length = 1 + others.length := by
    rw [List.length_cons, Nat.add_comm]
  rw [List.cons_append, matchSeries_cons (hself first c), matchSeries_cons (hself first c),
    Outcome.andThen_assoc, hcount]
  refine (hself first c).andThen_congr ?_
  intro verdict behind hanswer
  cases verdict with
  | ok head =>
      obtain ⟨skipped, -, hpass⟩ := hanswer
      dsimp only
      rw [hpass.textStart_eq.2, laterParts_append hself spacing hpass]
      refine (laterParts_ensures (fun part _ => hself part) spacing hpass 1).andThen_congr ?_
      intro verdict reached hreached
      cases verdict with
      | ok text =>
          obtain ⟨run, rfl, hrun⟩ := hreached
          have hwhole : c.Passes (skipped ++ (head ++ run)) reached := hpass.trans_text hrun
          rw [unlessFailed, unlessFailed, hwhole.textStart_eq.2]
      | error failure => rfl
  | error cause => rfl

end Constructs

namespace Grammar

variable {g : Grammar} {spacing : Spacing} {c : Cursor}

/-- A series of no parts matches. -/
theorem matchAt_series_nil (g : Grammar) (spacing : Spacing) (c : Cursor) :
    g.matchAt (.series spacing []) c = .finished (.ok []) c [] := by
  rw [g.matchAt_series, matchSeries, Matching.upTo_offset (Cursor.Passes.refl c)]

/-- Whatever else a series comes to than a match, it comes to the same with more parts. -/
theorem matchAt_series_append {parts : List Rule} (h : ¬ (g.matchAt (.series spacing parts) c).IsMatch)
    (more : List Rule) :
    g.matchAt (.series spacing (parts ++ more)) c = g.matchAt (.series spacing parts) c := by
  cases parts with
  | nil => exact absurd ⟨[], c, [], g.matchAt_series_nil spacing c⟩ h
  | cons first others =>
      rw [g.matchAt_series] at h
      rw [g.matchAt_series, g.matchAt_series, matchSeries_append g.matchAt_ensures]
      cases hseries : matchSeries g.matchAt spacing (first :: others) c with
      | finished verdict stop log =>
          cases verdict with
          | ok text => exact absurd ⟨text, stop, log, hseries⟩ h
          | error failure =>
              show Outcome.finished _ stop (log ++ []) = _
              rw [List.append_nil]
      | faulted fault log => rfl
      | unfinished => rfl

/-- A later part is tried where its spacing says. -/
theorem laterPart_ensures_entry (spacing : Spacing) (part : Rule) (reached : Cursor) (index : Nat) :
    (laterPart g.matchAt spacing part reached).Ensures (fun _ => True) fun verdict _ =>
      ∀ cause, verdict = .error cause → ∃ log,
        g.matchAt part (partEntry spacing (index + 1) reached)
          = .finished (.error cause) (partEntry spacing (index + 1) reached) log := by
  cases spacing with
  | spaced => exact g.matchAt_ensures_start part reached.skipBlanks.2
  | adjacent => exact (g.matchAt_ensures_start part reached.pin).andThen fun _ _ h => h

/-- The last part of a series makes it fail if it fails itself, and in no other way. -/
theorem lastPart_ensures {outcome : Outcome Verdict} {fails : Failure → Prop}
    (h : outcome.Ensures (fun _ => True) fun verdict _ => ∀ cause, verdict = .error cause → fails cause)
    (mark : Text → Cursor → Nat) (index : Nat) (start : Cursor) (log : List Event) :
    (outcome.andThen fun verdict stop =>
        match verdict with
        | .ok text => Matching.upTo (mark text stop) stop
        | .error cause => .finished (.error (.partFailed index cause)) start log).Ensures (fun _ => True)
      fun verdict _ => ∀ failure, verdict = .error failure →
        ∃ cause, failure = .partFailed index cause ∧ fails cause := by
  apply h.andThen
  intro verdict stop hfails
  cases verdict with
  | ok text =>
      apply (Matching.upTo_succeeds (mark text stop) stop).mono
      rintro _ _ ⟨whole, rfl⟩ failure hfailure
      exact absurd hfailure (by simp)
  | error cause =>
      rintro failure ⟨⟩
      exact ⟨cause, rfl, hfails cause rfl⟩

/-- If a series matches but not with one part more, then this part has failed where it was tried. -/
theorem matchAt_series_concat {parts : List Rule} {text : Text} {reached : Cursor} {log : List Event}
    (h : g.matchAt (.series spacing parts) c = .finished (.ok text) reached log) (part : Rule) :
    (g.matchAt (.series spacing (parts ++ [part])) c).Ensures (fun _ => True) fun verdict _ =>
      ∀ failure, verdict = .error failure →
        ∃ cause, failure = .partFailed parts.length cause ∧
          ∃ log', g.matchAt part (partEntry spacing parts.length reached)
            = .finished (.error cause) (partEntry spacing parts.length reached) log' := by
  cases parts with
  | nil =>
      -- The part is the first one, and is tried where the series starts.
      obtain rfl : c = reached := by
        rw [matchAt_series_nil] at h
        exact (Outcome.finished.inj h).2.1
      show (g.matchAt (.series spacing [part]) c).Ensures _ _
      rw [g.matchAt_series, matchSeries_cons (g.matchAt_ensures part c)]
      exact lastPart_ensures (g.matchAt_ensures_start part c)
        (fun head stop => stop.offset - Text.byteLength head) 0 c _
  | cons first others =>
      have hframe : Cursor.SameFrame c reached := by
        have hensures := g.matchAt_ensures (.series spacing (first :: others)) c
        rw [h] at hensures
        have hanswer : Answers c (.ok text) reached := hensures
        exact hanswer.attempts.sameFrame
      rw [g.matchAt_series] at h
      rw [g.matchAt_series, matchSeries_append g.matchAt_ensures, h, Outcome.finished_andThen,
        Outcome.ensures_after, unlessFailed, laterParts_cons (g.matchAt_ensures part) spacing hframe]
      exact lastPart_ensures (laterPart_ensures_entry spacing part reached others.length)
        (fun _ _ => reached.offset - Text.byteLength text) (first :: others).length c _

/-- If the first few parts of a series do not match, then no more of them come to anything else. -/
theorem matchAt_series_take {parts : List Rule} {few many : Nat} (hle : few ≤ many)
    (h : ¬ (g.matchAt (.series spacing (parts.take few)) c).IsMatch) :
    g.matchAt (.series spacing (parts.take many)) c = g.matchAt (.series spacing (parts.take few)) c := by
  obtain ⟨more, hmore⟩ : parts.take few <+: parts.take many := List.take_prefix_take_left hle
  rw [← hmore]
  exact matchAt_series_append h more

/-- A series that does not match has a first part with which it does not. -/
theorem exists_last_match {parts : List Rule} (h : ¬ (g.matchAt (.series spacing parts) c).IsMatch) :
    ∃ index < parts.length, (g.matchAt (.series spacing (parts.take index)) c).IsMatch ∧
      ¬ (g.matchAt (.series spacing (parts.take (index + 1))) c).IsMatch := by
  classical
  have hall : ¬ (g.matchAt (.series spacing (parts.take parts.length)) c).IsMatch := by
    rwa [List.take_length]
  have hexists : ∃ count, ¬ (g.matchAt (.series spacing (parts.take count)) c).IsMatch :=
    ⟨parts.length, hall⟩
  have hleast := Nat.find_spec hexists
  have hle : Nat.find hexists ≤ parts.length := Nat.find_min' hexists hall
  cases hcount : Nat.find hexists with
  | zero =>
      rw [hcount] at hleast
      exact absurd ⟨[], c, [], g.matchAt_series_nil spacing c⟩ hleast
  | succ index =>
      have hlt : index < Nat.find hexists := by
        rw [hcount]
        exact Nat.lt_succ_self index
      have hbefore := Nat.find_min hexists hlt
      rw [hcount] at hleast hle
      exact ⟨index, hle, not_not.1 hbefore, hleast⟩

/-- A series that fails does so because of one of its parts.  The parts in front of it make series that match,
more parts make series that fail just like the whole, and the part itself fails behind those before it,
with the cause that the failure of the series gives. -/
theorem failing_part_of_series {parts : List Rule} {failure : Failure} {stop : Cursor} {log : List Event}
    (h : g.matchAt (.series spacing parts) c = .finished (.error failure) stop log) :
    ∃ index, ∃ hindex : index < parts.length, ∃ cause,
      failure = .partFailed index cause ∧
        (∀ count ≤ index, (g.matchAt (.series spacing (parts.take count)) c).IsMatch) ∧
        (∀ count > index,
          g.matchAt (.series spacing (parts.take count)) c = g.matchAt (.series spacing parts) c) ∧
        ∃ text reached log' partLog,
          g.matchAt (.series spacing (parts.take index)) c = .finished (.ok text) reached log' ∧
            g.matchAt parts[index] (partEntry spacing index reached)
              = .finished (.error cause) (partEntry spacing index reached) partLog := by
  have hwhole : ¬ (g.matchAt (.series spacing parts) c).IsMatch := by
    rintro ⟨text, reached, log', hok⟩
    rw [h] at hok
    simp at hok
  obtain ⟨index, hindex, hbefore, hfails⟩ := exists_last_match hwhole
  have hlonger : ∀ count > index,
      g.matchAt (.series spacing (parts.take count)) c = g.matchAt (.series spacing parts) c := by
    intro count hcount
    have hparts := matchAt_series_take (Nat.succ_le_of_lt hindex) hfails
    rw [List.take_length] at hparts
    rw [matchAt_series_take (Nat.succ_le_of_lt hcount) hfails, hparts]
  have hshorter : ∀ count ≤ index, (g.matchAt (.series spacing (parts.take count)) c).IsMatch := by
    intro count hcount
    by_contra hno
    rw [matchAt_series_take hcount hno] at hbefore
    exact hno hbefore
  obtain ⟨text, reached, log', hreached⟩ := hbefore
  have hpart := matchAt_series_concat hreached parts[index]
  rw [List.take_append_getElem hindex, hlonger (index + 1) (Nat.lt_succ_self index), h] at hpart
  obtain ⟨cause, hcause, partLog, hmatch⟩ := hpart failure rfl
  rw [List.length_take_of_le hindex.le] at hcause hmatch
  exact ⟨index, hindex, cause, hcause, hshorter, hlonger, text, reached, log', partLog, hreached, hmatch⟩

/-- Where a comma is not followed by a list, a bracketed list fails in front of the comma, for want of its
closing parenthesis. -/
theorem closing_parenthesis_fails_brackets :
    ∃ stop log, WordLists.grammar.matchAt WordLists.bracketed (Cursor.start ['(', 'a', ' ', ',', ')'] {})
        = .finished (.error (.partFailed 2 (.wrongChar "')'" ',' 3))) stop log ∧
      ∃ text reached log' partLog,
        WordLists.grammar.matchAt (.series .spaced [.char '(', .ref WordLists.list])
            (Cursor.start ['(', 'a', ' ', ',', ')'] {}) = .finished (.ok text) reached log' ∧
          WordLists.grammar.matchAt (.char ')') reached.skipBlanks.2
            = .finished (.error (.wrongChar "')'" ',' 3)) reached.skipBlanks.2 partLog := by
  have hvalue : (WordLists.grammar.matchAt WordLists.bracketed
      (Cursor.start ['(', 'a', ' ', ',', ')'] {})).value?
        = some (.error (.partFailed 2 (.wrongChar "')'" ',' 3))) := by
    decide +kernel
  obtain ⟨stop, log, h⟩ := Outcome.value?_eq_some_iff.1 hvalue
  obtain ⟨index, hindex, cause, hcause, -, -, hfails⟩ := failing_part_of_series h
  obtain ⟨rfl, rfl⟩ := Failure.partFailed.inj hcause
  exact ⟨stop, log, h, hfails⟩

end Grammar

end RuleMatch
