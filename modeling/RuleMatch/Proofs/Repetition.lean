import RuleMatch.Proofs.Budget
import RuleMatch.Proofs.Nullable

/-!
# What a repetition comes to

A repetition takes as much as it can: it goes on in rounds, each of them a match of its body that moves the
cursor, up to where the body fails or matches without moving (`repetition_is_maximal`).  There it stands
still, so a second repetition behind the first takes nothing.  The other way round, rounds up to such a place
are what a repetition matches (`matchAt_zeroOrMore_of_rounds`).

A repetition of at least one match is the same repetition with a count.  It fails where the body fails at
once, and nowhere else: a match that does not move the cursor ends the rounds, but it counts as one.
-/

namespace RuleMatch

namespace Grammar

/-- Matches of a body one after the other, each of which moves the cursor. -/
inductive Rounds (g : Grammar) (body : Rule) : Cursor → Cursor → Prop
  | stay (c : Cursor) : Rounds g body c c
  | round {c next stop : Cursor} {text : Text} {log : List Event}
      (hmatch : g.matchAt body c = .finished (.ok text) next log) (hmoves : c.offset < next.offset)
      (hrest : g.Rounds body next stop) : Rounds g body c stop

variable (g : Grammar) (body : Rule)

/-- A rule fails where the cursor stands. -/
def FailsAt (c : Cursor) : Prop :=
  ∃ failure log, g.matchAt body c = .finished (.error failure) c log

/-- A rule does not take the cursor any further: it fails, or it matches where the cursor stands. -/
def StandsStill (c : Cursor) : Prop :=
  g.FailsAt body c ∨ ∃ text log, g.matchAt body c = .finished (.ok text) c log

variable {g body}

theorem not_failsAt_of_ok {c stop : Cursor} {text : Text} {log : List Event}
    (h : g.matchAt body c = .finished (.ok text) stop log) : ¬ g.FailsAt body c := by
  rintro ⟨failure, log', hfails⟩
  rw [h] at hfails
  simp at hfails

/-- A rule that never matches without moving the cursor stands still only where it fails. -/
theorem StandsStill.failsAt {c : Cursor} (h : g.StandsStill body c) (hbody : ¬ g.Nullable body) :
    g.FailsAt body c := by
  rcases h with hfails | ⟨text, log, hmatch⟩
  · exact hfails
  · exact absurd (offset_lt_of_matchAt hbody hmatch) (Nat.lt_irrefl c.offset)

/-- Where rounds end, the last of them ends, unless there are none. -/
theorem Rounds.last {c stop : Cursor} (h : g.Rounds body c stop) :
    stop = c ∨ ∃ d run text log, c.Passes run d ∧ g.matchAt body d = .finished (.ok text) stop log := by
  induction h with
  | stay c => exact .inl rfl
  | @round c next stop text log hmatch _ _ ih =>
      right
      rcases ih with rfl | ⟨d, run, last, log', hrun, hlast⟩
      · exact ⟨c, [], text, log, Cursor.Passes.refl c, hmatch⟩
      · obtain ⟨first, hfirst⟩ := (answers_of_matchAt hmatch).passes
        exact ⟨d, first ++ run, last, log', hfirst.trans hrun, hlast⟩

/-- The rounds of a repetition.  None of them is counted only if the body fails at once. -/
theorem repeated_ensures_rounds (g : Grammar) (body : Rule) (bound : Nat) (c : Cursor) :
    (repeated g.matchAt body bound c).Ensures (fun _ => True) fun count stop =>
      g.Rounds body c stop ∧ g.StandsStill body stop ∧ (count = 0 ↔ g.FailsAt body c) := by
  induction bound generalizing c with
  | zero => exact trivial
  | succ bound ih =>
      unfold repeated
      apply ((g.matchAt body c).ensures_self.and (g.matchAt_ensures body c)).andThen
      rintro verdict stop ⟨⟨log, hmatch⟩, hanswer⟩
      cases verdict with
      | ok text =>
          obtain ⟨run, hrun⟩ := hanswer.passes
          have hnofail := not_failsAt_of_ok hmatch
          dsimp only
          split
          · next hoffset =>
              -- A match that has not moved the offset has not moved the cursor.
              rw [hrun.run_eq_nil hoffset] at hrun
              obtain rfl : stop = c := hrun.eq_of_nil
              exact ⟨.stay stop, .inr ⟨text, log, hmatch⟩, fun hone => absurd hone Nat.one_ne_zero,
                fun hfails => absurd hfails hnofail⟩
          · next hoffset =>
              have hmoves : c.offset < stop.offset :=
                Nat.lt_of_le_of_ne hrun.offset_le (Ne.symm hoffset)
              apply (ih stop).andThen
              rintro count last ⟨hrounds, hstill, -⟩
              exact ⟨.round hmatch hmoves hrounds, hstill,
                fun hcount => absurd hcount (Nat.succ_ne_zero count), fun hfails => absurd hfails hnofail⟩
      | error failure =>
          obtain rfl : stop = c := hanswer
          have hfails : g.FailsAt body stop := ⟨failure, log, hmatch⟩
          exact ⟨.stay stop, .inl hfails, fun _ => hfails, fun _ => rfl⟩

/-- Where its body stands still, a repetition makes no round that moves the cursor. -/
theorem repeated_of_standsStill {c : Cursor} (h : g.StandsStill body c) (bound : Nat) :
    ∃ count log, repeated g.matchAt body (bound + 1) c = .finished count c log := by
  rw [repeated]
  rcases h with ⟨failure, log, hfails⟩ | ⟨text, log, hmatch⟩
  · rw [hfails, Outcome.finished_andThen]
    exact ⟨_, _, rfl⟩
  · rw [hmatch, Outcome.finished_andThen]
    dsimp only
    rw [if_pos rfl]
    exact ⟨_, _, rfl⟩

/-- A repetition makes rounds for as long as it can.  The bound allows for one in front of each character, and
for the one that ends them. -/
theorem repeated_of_rounds {c stop : Cursor} (hrounds : g.Rounds body c stop)
    (hstill : g.StandsStill body stop) {bound : Nat} (hbound : c.ahead.length < bound) :
    ∃ count log, repeated g.matchAt body bound c = .finished count stop log := by
  induction hrounds generalizing bound with
  | stay c =>
      obtain ⟨left, rfl⟩ := Nat.exists_eq_succ_of_ne_zero (Nat.ne_zero_of_lt hbound)
      exact repeated_of_standsStill hstill left
  | @round c next stop text log hmatch hmoves _ ih =>
      obtain ⟨left, rfl⟩ := Nat.exists_eq_succ_of_ne_zero (Nat.ne_zero_of_lt hbound)
      have hoffset : next.offset ≠ c.offset := Nat.ne_of_gt hmoves
      obtain ⟨run, hrun⟩ := (answers_of_matchAt hmatch).passes
      have hshorter := hrun.length_lt hoffset
      obtain ⟨count, log', hrest⟩ := ih hstill (by omega : next.ahead.length < left)
      rw [repeated, hmatch, Outcome.finished_andThen]
      dsimp only
      rw [if_neg hoffset, hrest]
      exact ⟨_, _, rfl⟩

/-- Rounds up to where the body stands still are what a repetition matches. -/
theorem matchAt_zeroOrMore_of_rounds {c stop : Cursor} {text : Text} (hrounds : g.Rounds body c stop)
    (hstill : g.StandsStill body stop) (hpass : c.Passes text stop) :
    ∃ log, g.matchAt (.zeroOrMore body) c = .finished (.ok text) stop log := by
  obtain ⟨count, log, hrepeated⟩ := repeated_of_rounds hrounds hstill (Nat.lt_succ_self c.ahead.length)
  rw [g.matchAt_zeroOrMore, matchZeroOrMore, hrepeated, Outcome.finished_andThen, Matching.upTo_offset hpass]
  exact ⟨_, rfl⟩

theorem matchAt_oneOrMore_of_rounds {c stop : Cursor} {text : Text} (hmatches : ¬ g.FailsAt body c)
    (hrounds : g.Rounds body c stop) (hstill : g.StandsStill body stop) (hpass : c.Passes text stop) :
    ∃ log, g.matchAt (.oneOrMore body) c = .finished (.ok text) stop log := by
  obtain ⟨count, log, hrepeated⟩ := repeated_of_rounds hrounds hstill (Nat.lt_succ_self c.ahead.length)
  have hcount := g.repeated_ensures_rounds body (c.ahead.length + 1) c
  rw [hrepeated] at hcount
  have hsome : count ≠ 0 := fun hzero => hmatches (hcount.2.2.1 hzero)
  rw [g.matchAt_oneOrMore, matchOneOrMore, hrepeated, Outcome.finished_andThen, if_neg hsome,
    Matching.upTo_offset hpass]
  exact ⟨_, rfl⟩

/-- A repetition matches what its rounds have passed. -/
theorem matchAt_zeroOrMore_ensures_rounds (g : Grammar) (body : Rule) (c : Cursor) :
    (g.matchAt (.zeroOrMore body) c).Ensures (fun _ => True) fun verdict stop =>
      ∃ text, verdict = .ok text ∧ c.Passes text stop ∧ g.Rounds body c stop ∧ g.StandsStill body stop := by
  rw [g.matchAt_zeroOrMore]
  apply ((g.repeated_ensures_rounds body (c.ahead.length + 1) c).and
    (repeated_ensures (g.matchAt_ensures body) (c.ahead.length + 1) c)).andThen
  rintro count stop ⟨⟨hrounds, hstill, -⟩, run, hrun⟩
  rw [Matching.upTo_offset hrun]
  exact ⟨run, rfl, hrun, hrounds, hstill⟩

/-- A repetition of at least one match is one whose body does not fail at once. -/
theorem matchAt_oneOrMore_ensures_rounds (g : Grammar) (body : Rule) (c : Cursor) :
    (g.matchAt (.oneOrMore body) c).Ensures (fun _ => True) fun verdict stop =>
      match verdict with
      | .ok text => ¬ g.FailsAt body c ∧ c.Passes text stop ∧ g.Rounds body c stop ∧ g.StandsStill body stop
      | .error _ => g.FailsAt body c := by
  rw [g.matchAt_oneOrMore]
  apply ((g.repeated_ensures_rounds body (c.ahead.length + 1) c).and
    (repeated_ensures (g.matchAt_ensures body) (c.ahead.length + 1) c)).andThen
  rintro count stop ⟨⟨hrounds, hstill, hcount⟩, run, hrun⟩
  by_cases hzero : count = 0
  · rw [if_pos hzero]
    exact hcount.1 hzero
  · rw [if_neg hzero, Matching.upTo_offset hrun]
    exact ⟨fun hfails => hzero (hcount.2 hfails), hrun, hrounds, hstill⟩

/-- Where its body stands still, a repetition takes nothing. -/
theorem matchAt_zeroOrMore_of_standsStill {c : Cursor} (h : g.StandsStill body c) :
    ∃ log, g.matchAt (.zeroOrMore body) c = .finished (.ok []) c log :=
  matchAt_zeroOrMore_of_rounds (.stay c) h (Cursor.Passes.refl c)

/-- A repetition matches all that its rounds have passed, up to where its body does not go any further, and
another one would match nothing there.  If at least one match is asked for, it is the same unless the body
fails at once; then the repetition fails there, for want of a match. -/
theorem repetition_is_maximal (g : Grammar) (body : Rule) (c : Cursor) :
    ((g.matchAt (.zeroOrMore body) c).Ensures (fun _ => True) fun verdict stop =>
      ∃ text, verdict = .ok text ∧ c.Passes text stop ∧ g.Rounds body c stop ∧ g.StandsStill body stop ∧
        ∃ log, g.matchAt (.zeroOrMore body) stop = .finished (.ok []) stop log) ∧
      (g.matchAt (.zeroOrMore body) c).Related
        (fun verdict stop verdict' stop' =>
          (g.FailsAt body c → verdict' = .error (.noneRepeated body.describe c.offset) ∧ stop' = c) ∧
            (¬ g.FailsAt body c → verdict' = verdict ∧ stop' = stop))
        (g.matchAt (.oneOrMore body) c) := by
  have hrepeated := (g.repeated_ensures_rounds body (c.ahead.length + 1) c).and
    ((repeated_ensures (g.matchAt_ensures body) (c.ahead.length + 1) c).and
      (repeated_ensures_of_zero (g.matchAt_ensures body) (c.ahead.length + 1) c))
  constructor
  · rw [g.matchAt_zeroOrMore]
    apply hrepeated.andThen
    rintro count stop ⟨⟨hrounds, hstill, -⟩, ⟨run, hrun⟩, -⟩
    rw [Matching.upTo_offset hrun]
    exact ⟨run, rfl, hrun, hrounds, hstill, matchAt_zeroOrMore_of_standsStill hstill⟩
  · rw [g.matchAt_zeroOrMore, g.matchAt_oneOrMore]
    apply hrepeated.andThen_related
    rintro count stop ⟨⟨-, -, hcount⟩, ⟨run, hrun⟩, hstay⟩
    rw [Matching.upTo_offset hrun]
    by_cases hzero : count = 0
    · rw [if_pos hzero]
      exact .finished ⟨fun _ => ⟨rfl, hstay hzero⟩, fun hno => absurd (hcount.1 hzero) hno⟩ _ _
    · rw [if_neg hzero]
      exact .finished ⟨fun hfails => absurd (hcount.2 hfails) hzero, fun _ => ⟨rfl, rfl⟩⟩ _ _

/-- A body that may match nothing ends the rounds by doing so. -/
example :
    (matchAt {} (.zeroOrMore (.optional .digit)) (Cursor.start ['1', '2', 'a'] {})).reading
        = .matched ['1', '2'] 2 ∧
      (matchAt {} (.oneOrMore (.optional .digit)) (Cursor.start ['a'] {})).reading = .matched [] 0 ∧
      (matchAt {} (.oneOrMore .digit) (Cursor.start ['a'] {})).value?
        = some (.error (.noneRepeated "[0-9]" 0)) := by
  decide +kernel

end Grammar

end RuleMatch
