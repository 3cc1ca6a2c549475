import RuleMatch.Proofs.FailingPart
import RuleMatch.Proofs.FirstMatch

/-!
# Repetitions of repetitions

Repetitions and optional rules may be put into each other in many ways that all come to the same, however
their loops nest and whatever ends them (`nested_repetitions_read_alike`).  What is compared is the reading:
the logs differ, and so do the words of a failure.

A repetition takes all that it can at once, and another match right behind it passes nothing.  So a repetition
of such a rule makes one round that counts, or none (`TakesAll.oneRound`), and that settles the repetitions of
repetitions.  A body that is made optional is a different matter: it ends the rounds by matching nothing where
it ended them by failing before (`repeated_optional`).
-/

namespace RuleMatch

/-- Two verdicts with the same text at the same place, or two failures. -/
inductive SameText : Verdict → Cursor → Verdict → Cursor → Prop
  | ok (text : Text) (stop : Cursor) : SameText (.ok text) stop (.ok text) stop
  | error (failure failure' : Failure) (stop stop' : Cursor) :
      SameText (.error failure) stop (.error failure') stop'

theorem Outcome.Related.reading_eq {outcome outcome' : Outcome Verdict}
    (h : outcome.Related SameText outcome') : outcome.reading = outcome'.reading := by
  cases h with
  | finished hsame log log' =>
      cases hsame with
      | ok text stop => rfl
      | error failure failure' stop stop' => rfl
  | faulted fault log log' => rfl
  | unfinished => rfl

namespace Grammar

/-- Wherever the rule matches, its text is all that it has passed, and it stands still behind it. -/
def TakesAll (g : Grammar) (rule : Rule) : Prop :=
  ∀ c, (g.matchAt rule c).Ensures (fun _ => True) fun verdict stop =>
    ∀ text, verdict = .ok text → c.Passes text stop ∧ g.StandsStill rule stop

variable {g : Grammar}

/-! ## Rules that take all -/

theorem takesAll_zeroOrMore (g : Grammar) (body : Rule) : g.TakesAll (.zeroOrMore body) := by
  intro c
  apply (g.matchAt_zeroOrMore_ensures_rounds body c).mono
  rintro _ stop ⟨run, rfl, hrun, -, hstill⟩ text ⟨⟩
  exact ⟨hrun, .inr ⟨[], matchAt_zeroOrMore_of_standsStill hstill⟩⟩

/-- Where its body stands still, a repetition of at least one match stands still as well. -/
theorem standsStill_oneOrMore {body : Rule} {c : Cursor} (h : g.StandsStill body c) :
    g.StandsStill (.oneOrMore body) c := by
  obtain ⟨count, log, hrounds⟩ := repeated_of_standsStill h c.ahead.length
  rw [StandsStill, FailsAt, g.matchAt_oneOrMore, matchOneOrMore, hrounds, Outcome.finished_andThen]
  by_cases hzero : count = 0
  · left
    rw [if_pos hzero]
    exact ⟨_, _, rfl⟩
  · right
    rw [if_neg hzero, Matching.upTo_offset (Cursor.Passes.refl c)]
    exact ⟨_, _, rfl⟩

theorem takesAll_oneOrMore (g : Grammar) (body : Rule) : g.TakesAll (.oneOrMore body) := by
  intro c
  apply (g.matchAt_oneOrMore_ensures_rounds body c).mono
  rintro _ stop hrounds text rfl
  obtain ⟨-, hrun, -, hstill⟩ := hrounds
  exact ⟨hrun, standsStill_oneOrMore hstill⟩

namespace TakesAll

variable {rule : Rule}

/-- The rounds of a rule that takes all come to a single match of it, or to none where it fails. -/
theorem oneRound (h : g.TakesAll rule) (c : Cursor) :
    (repeated g.matchAt rule (c.ahead.length + 1) c).Related
      (fun count stop verdict stop' => stop' = stop ∧
        match verdict with
        | .ok text => count ≠ 0 ∧ c.Passes text stop
        | .error _ => count = 0 ∧ stop = c)
      (g.matchAt rule c) := by
  rw [repeated, ← Outcome.andThen_finished (g.matchAt rule c), Outcome.andThen_assoc]
  apply ((h c).and (g.matchAt_ensures rule c)).andThen_related
  rintro verdict stop ⟨htakes, hanswer⟩
  rw [Outcome.finished_andThen, Outcome.after_nil]
  cases verdict with
  | ok text =>
      obtain ⟨hpass, hstill⟩ := htakes text rfl
      by_cases hoffset : stop.offset = c.offset
      · dsimp only
        rw [if_pos hoffset]
        exact .finished ⟨rfl, Nat.one_ne_zero, hpass⟩ _ _
      · -- The match has taken a character at least, so the bound allows for another round.
        have hshorter := hpass.length_lt hoffset
        obtain ⟨left, hleft⟩ : ∃ left, c.ahead.length = left + 1 :=
          Nat.exists_eq_add_of_lt hshorter |>.imp' (stop.ahead.length + ·) fun _ hk => hk
        obtain ⟨count, log, hrounds⟩ := repeated_of_standsStill hstill left
        dsimp only
        rw [if_neg hoffset, hleft, hrounds, Outcome.finished_andThen]
        exact .finished ⟨rfl, Nat.succ_ne_zero count, hpass⟩ _ _
  | error failure =>
      obtain rfl : stop = c := hanswer
      exact .finished ⟨rfl, rfl, rfl⟩ _ _

theorem reading_zeroOrMore (h : g.TakesAll rule) (c : Cursor) :
    (g.matchAt (.zeroOrMore rule) c).reading = (g.matchAt (.optional rule) c).reading := by
  rw [g.matchAt_zeroOrMore, g.matchAt_optional]
  apply Outcome.Related.reading_eq
  refine (h.oneRound c).andThen ?_
  rintro count stop verdict _ ⟨rfl, hround⟩
  cases verdict with
  | ok text =>
      rw [Matching.upTo_offset hround.2]
      exact .finished (.ok text _) [] []
  | error failure =>
      obtain ⟨-, rfl⟩ := hround
      rw [Matching.upTo_offset (Cursor.Passes.refl _)]
      exact .finished (.ok [] _) [] []

theorem reading_oneOrMore (h : g.TakesAll rule) (c : Cursor) :
    (g.matchAt (.oneOrMore rule) c).reading = (g.matchAt rule c).reading := by
  rw [g.matchAt_oneOrMore, ← Outcome.andThen_finished (g.matchAt rule c)]
  apply Outcome.Related.reading_eq
  refine (h.oneRound c).andThen ?_
  rintro count stop verdict _ ⟨rfl, hround⟩
  cases verdict with
  | ok text =>
      rw [if_neg hround.1, Matching.upTo_offset hround.2]
      exact .finished (.ok text _) [] []
  | error failure =>
      rw [if_pos hround.1]
      exact .finished (.error _ failure _ _) [] []

end TakesAll

/-! ## Optional rules -/

variable {body : Rule}

/-- A body that is made optional ends the rounds at the same place. -/
theorem repeated_optional (g : Grammar) (body : Rule) (bound : Nat) (c : Cursor) :
    (repeated g.matchAt (.optional body) bound c).Related (fun _ stop _ stop' => stop' = stop)
      (repeated g.matchAt body bound c) := by
  induction bound generalizing c with
  | zero => exact .unfinished
  | succ bound ih =>
      rw [repeated, repeated, g.matchAt_optional, matchOptional, Outcome.andThen_assoc]
      apply (g.matchAt_ensures body c).andThen_related
      intro verdict stop hanswer
      cases verdict with
      | ok text =>
          rw [Outcome.finished_andThen, Outcome.after_nil]
          by_cases hoffset : stop.offset = c.offset
          · simp only [if_pos hoffset]
            exact .finished rfl [] []
          · simp only [if_neg hoffset]
            refine (ih stop).andThen ?_
            rintro count last count' _ rfl
            exact .finished rfl [] []
      | error failure =>
          -- Here the one matches nothing, and the other fails.
          obtain rfl : stop = c := hanswer
          rw [Outcome.finished_andThen, Outcome.after_nil]
          dsimp only
          rw [if_pos rfl]
          exact .finished rfl _ _

theorem reading_zeroOrMore_optional (g : Grammar) (body : Rule) (c : Cursor) :
    (g.matchAt (.zeroOrMore (.optional body)) c).reading = (g.matchAt (.zeroOrMore body) c).reading := by
  have hrepeated := (g.repeated_optional body (c.ahead.length + 1) c).and_ensures
    (repeated_ensures (g.matchAt_ensures (.optional body)) (c.ahead.length + 1) c)
  rw [g.matchAt_zeroOrMore, g.matchAt_zeroOrMore]
  apply Outcome.Related.reading_eq
  refine hrepeated.andThen ?_
  rintro count stop count' _ ⟨rfl, run, hrun⟩
  rw [Matching.upTo_offset hrun]
  exact .finished (.ok run _) [] []

theorem reading_optional_oneOrMore (g : Grammar) (body : Rule) (c : Cursor) :
    (g.matchAt (.optional (.oneOrMore body)) c).reading = (g.matchAt (.zeroOrMore body) c).reading := by
  rw [g.matchAt_optional, matchOptional, g.matchAt_oneOrMore, matchOneOrMore, Outcome.andThen_assoc,
    g.matchAt_zeroOrMore]
  apply Outcome.Related.reading_eq
  apply ((repeated_ensures_of_zero (g.matchAt_ensures body) (c.ahead.length + 1) c).and
    (repeated_ensures (g.matchAt_ensures body) (c.ahead.length + 1) c)).andThen_related
  rintro count stop ⟨hstay, run, hrun⟩
  by_cases hzero : count = 0
  · obtain rfl := hstay hzero
    rw [if_pos hzero, Matching.upTo_offset (Cursor.Passes.refl stop)]
    exact .finished (.ok [] stop) [] []
  · rw [if_neg hzero, Matching.upTo_offset hrun]
    exact .finished (.ok run stop) [] []

/-- Another way to make a rule optional. -/
theorem reading_oneOf_empty_series (g : Grammar) (rule : Rule) (spacing : Spacing) (c : Cursor) :
    (g.matchAt (.oneOf [rule, .series spacing []]) c).reading = (g.matchAt (.optional rule) c).reading := by
  rw [g.matchAt_oneOf, matchOneOf, firstMatch, Outcome.andThen_assoc, g.matchAt_optional]
  apply Outcome.Related.reading_eq
  apply (g.matchAt_ensures rule c).andThen_related
  intro verdict stop hanswer
  cases verdict with
  | ok text => exact .finished (.ok text stop) [] []
  | error failure =>
      obtain rfl : stop = c := hanswer
      dsimp only
      rw [firstMatch, g.matchAt_series_nil]
      exact .finished (.ok [] stop) _ _

/-- Nothing is gained by making a rule optional that does not fail. -/
theorem matchAt_optional_of_succeeds {rule : Rule} {c : Cursor} (h : (g.matchAt rule c).Succeeds) :
    g.matchAt (.optional rule) c = g.matchAt rule c := by
  rw [g.matchAt_optional, matchOptional]
  nth_rewrite 2 [← Outcome.andThen_finished (g.matchAt rule c)]
  apply h.andThen_congr
  rintro _ stop ⟨text, rfl⟩
  rfl

/-- A match of a body that does not fail need not be asked for. -/
theorem matchAt_oneOrMore_of_succeeds {c : Cursor} (h : (g.matchAt body c).Succeeds) :
    g.matchAt (.oneOrMore body) c = g.matchAt (.zeroOrMore body) c := by
  rw [g.matchAt_oneOrMore, g.matchAt_zeroOrMore]
  apply (repeated_ensures_ne_zero h (c.ahead.length + 1)).andThen_congr
  intro count stop hcount
  exact if_neg hcount

/-! ## The identities -/

/-- Any number of matches may be asked for in seven ways, which all match the same text up to the same
offset and never fail, unless they all meet the same fault or do not end.  To ask for one match or more twice
over comes to the same as to ask once. -/
theorem nested_repetitions_read_alike (g : Grammar) (body : Rule) (c : Cursor) :
    (g.matchAt (.zeroOrMore body) c).Succeeds ∧
      (∀ rule ∈ [.optional (.oneOrMore body), .zeroOrMore (.optional body), .zeroOrMore (.zeroOrMore body),
          .zeroOrMore (.oneOrMore body), .oneOrMore (.optional body),
          .oneOf [.oneOrMore body, .series .spaced []]],
        (g.matchAt rule c).reading = (g.matchAt (.zeroOrMore body) c).reading) ∧
      (g.matchAt (.oneOrMore (.oneOrMore body)) c).reading = (g.matchAt (.oneOrMore body) c).reading := by
  have hnever : (g.matchAt (.zeroOrMore body) c).Succeeds := matchAt_succeeds rfl c
  have hoptional : (g.matchAt (.optional body) c).Succeeds := matchAt_succeeds rfl c
  have honce := g.reading_optional_oneOrMore body c
  have hany := g.reading_zeroOrMore_optional body c
  refine ⟨hnever, ?_, (g.takesAll_oneOrMore body).reading_oneOrMore c⟩
  simp only [List.forall_mem_cons, List.not_mem_nil, false_imp_iff, implies_true, and_true]
  refine ⟨honce, hany, ?_, ?_, ?_, ?_⟩
  · rw [(g.takesAll_zeroOrMore body).reading_zeroOrMore, matchAt_optional_of_succeeds hnever]
  · rw [(g.takesAll_oneOrMore body).reading_zeroOrMore, honce]
  · rw [matchAt_oneOrMore_of_succeeds hoptional, hany]
  · rw [g.reading_oneOf_empty_series, honce]

/-- Two keywords with a blank in between are matched by repetitions of repetitions as by one repetition. -/
theorem keywords_repeated_twice_over :
    (matchAt {} (.zeroOrMore (.oneOrMore (.keyword "ab")))
        (Cursor.start ['a', 'b', ' ', 'a', 'b', ';'] {})).reading = .matched ['a', 'b', ' ', 'a', 'b'] 5 ∧
      (matchAt {} (.oneOrMore (.oneOrMore (.keyword "ab")))
        (Cursor.start ['a', 'b', ' ', 'a', 'b', ';'] {})).reading = .matched ['a', 'b', ' ', 'a', 'b'] 5 := by
  obtain ⟨-, halike, htwice⟩ :=
    nested_repetitions_read_alike {} (.keyword "ab") (Cursor.start ['a', 'b', ' ', 'a', 'b', ';'] {})
  rw [halike _ (by simp), htwice]
  decide +kernel

end Grammar

end RuleMatch
