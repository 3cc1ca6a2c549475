import RuleMatch.Proofs.Alternatives
import RuleMatch.Proofs.Exactness
import RuleMatch.Proofs.Repetition

/-!
# The first alternative that matches

A choice matches exactly if one of its alternatives matches where the choice is tried and all in front of it
fail there, and then its match is that of the alternative (`choice_takes_first_match`).  An alternative that
fails is back where it was tried, however far it got, so all of them are tried at the same cursor, and what
one of them comes to does not depend on the others.

So an alternative is redundant if it stands in the list twice: where it is reached for the second time it has
failed already.  And so is whatever stands behind an alternative that never fails.
-/

namespace RuleMatch

namespace Grammar

variable (g : Grammar)

/-- One of these rules matches `text` where the cursor stands, up to `stop`, and all in front of it fail
there. -/
def FirstToMatch (rules : List Rule) (c : Cursor) (text : Text) (stop : Cursor) : Prop :=
  ∃ before rule after, rules = before ++ rule :: after ∧ (∀ other ∈ before, g.FailsAt other c) ∧
    ∃ log, g.matchAt rule c = .finished (.ok text) stop log

/-! ## Trying alternatives -/

/-- Going through alternatives finds the first match among them, or else all of them fail. -/
theorem firstMatch_ensures_first (mark index : Nat) (rules : List Rule) (c : Cursor) :
    (firstMatch g.matchAt mark index rules c).Ensures (fun _ => True) fun found stop =>
      match found with
      | some text => g.FirstToMatch rules c text stop
      | none => stop = c ∧ ∀ rule ∈ rules, g.FailsAt rule c := by
  induction rules generalizing index with
  | nil => exact ⟨rfl, by simp⟩
  | cons rule rules ih =>
      unfold firstMatch
      apply ((g.matchAt rule c).ensures_self.and (g.matchAt_ensures rule c)).andThen
      rintro verdict stop ⟨⟨log, hmatch⟩, hanswer⟩
      cases verdict with
      | ok text => exact ⟨[], rule, rules, rfl, by simp, log, hmatch⟩
      | error failure =>
          -- The others are tried at the very same cursor.
          obtain rfl : stop = c := hanswer
          have hfails : g.FailsAt rule stop := ⟨failure, log, hmatch⟩
          rw [Outcome.ensures_after]
          apply (ih (index + 1)).mono
          intro found last hfound
          cases found with
          | some text =>
              obtain ⟨before, first, after, rfl, hbefore, hfirst⟩ := hfound
              exact ⟨rule :: before, first, after, rfl, List.forall_mem_cons.2 ⟨hfails, hbefore⟩, hfirst⟩
          | none =>
              obtain ⟨hstay, hrules⟩ := hfound
              exact ⟨hstay, List.forall_mem_cons.2 ⟨hfails, hrules⟩⟩

variable {g} {c : Cursor}

/-- Alternatives that fail are passed over. -/
theorem firstMatch_behind_failing {failing : List Rule} (h : ∀ rule ∈ failing, g.FailsAt rule c)
    (mark index mark' index' : Nat) (rules : List Rule) :
    (firstMatch g.matchAt mark index (failing ++ rules) c).SameButLog
      (firstMatch g.matchAt mark' index' rules c) := by
  induction failing generalizing index with
  | nil => exact firstMatch_renumbered mark index mark' index' rules c
  | cons rule failing ih =>
      obtain ⟨⟨failure, log, hfails⟩, hfailing⟩ := List.forall_mem_cons.1 h
      rw [List.cons_append, firstMatch, hfails, Outcome.finished_andThen, ← Outcome.after_append]
      have hrest := (ih hfailing (index + 1)).after (log ++ [.alternativeFailed index rule mark failure]) []
      rw [Outcome.after_nil] at hrest
      exact hrest

/-- An alternative that stands in front already is passed over. -/
theorem firstMatch_repeated {before : List Rule} {rule : Rule} (h : rule ∈ before) (mark index : Nat)
    (after : List Rule) :
    (firstMatch g.matchAt mark index (before ++ [rule] ++ after) c).SameButLog
      (firstMatch g.matchAt mark index (before ++ after) c) := by
  rw [List.append_assoc, firstMatch_append, firstMatch_append]
  apply (g.firstMatch_ensures_first mark index before c).andThen_related
  intro found stop hfound
  cases found with
  | some text => exact Outcome.SameButLog.refl (.finished (some text) stop [])
  | none =>
      obtain ⟨rfl, hbefore⟩ := hfound
      have hrule : ∀ other ∈ [rule], g.FailsAt other stop := by
        simpa using hbefore rule h
      exact firstMatch_behind_failing hrule mark _ mark _ after

/-- Behind alternatives among which a match is found, no other is tried. -/
theorem firstMatch_append_of_found {mark index : Nat} {rules : List Rule}
    (h : (firstMatch g.matchAt mark index rules c).Ensures (fun _ => True) fun found _ =>
      ∃ text, found = some text) (after : List Rule) :
    firstMatch g.matchAt mark index (rules ++ after) c = firstMatch g.matchAt mark index rules c := by
  rw [firstMatch_append]
  nth_rewrite 2 [← Outcome.andThen_finished (firstMatch g.matchAt mark index rules c)]
  apply h.andThen_congr
  rintro _ stop ⟨text, rfl⟩
  rfl

/-! ## Choices -/

theorem not_failsAt_of_succeeds {rule : Rule} (h : (g.matchAt rule c).Succeeds) : ¬ g.FailsAt rule c := by
  rintro ⟨failure, log, hfails⟩
  rw [hfails] at h
  obtain ⟨text, htext⟩ := h
  simp at htext

/-- A rule that never fails matches if its match ends at all. -/
theorem matchAt_succeeds {rule : Rule} (h : rule.neverFails = true) (c : Cursor) :
    (g.matchAt rule c).Succeeds :=
  matchWithin_succeeds h (g.budget rule c) c

/-- A choice among rules one of which does not fail finds a match. -/
theorem firstMatch_ensures_found {rules : List Rule} {rule : Rule} (hmem : rule ∈ rules)
    (h : (g.matchAt rule c).Succeeds) (mark index : Nat) :
    (firstMatch g.matchAt mark index rules c).Ensures (fun _ => True) fun found _ =>
      ∃ text, found = some text := by
  apply (g.firstMatch_ensures_first mark index rules c).mono
  intro found stop hfound
  cases found with
  | some text => exact ⟨text, rfl⟩
  | none => exact absurd (hfound.2 rule hmem) (not_failsAt_of_succeeds h)

/-- A choice takes the first match among its alternatives, and fails only if all of them fail. -/
theorem matchAt_oneOf_ensures_first (g : Grammar) (rules : List Rule) (c : Cursor) :
    (g.matchAt (.oneOf rules) c).Ensures (fun _ => True) fun verdict stop =>
      match verdict with
      | .ok text => g.FirstToMatch rules c text stop
      | .error _ => ∀ rule ∈ rules, g.FailsAt rule c := by
  rw [g.matchAt_oneOf, matchOneOf]
  apply (g.firstMatch_ensures_first c.offset 0 rules c).andThen
  intro found stop hfound
  cases found with
  | some text => exact hfound
  | none => exact hfound.2

theorem matchAt_oneOf_of_firstToMatch {rules : List Rule} {text : Text} {stop : Cursor}
    (h : g.FirstToMatch rules c text stop) :
    ∃ log, g.matchAt (.oneOf rules) c = .finished (.ok text) stop log := by
  obtain ⟨before, rule, after, rfl, hbefore, log, hmatch⟩ := h
  have hskip := firstMatch_behind_failing hbefore c.offset 0 c.offset 0 (rule :: after)
  rw [firstMatch, hmatch, Outcome.finished_andThen] at hskip
  obtain ⟨log', hfirst⟩ := hskip.exists_finished
  rw [g.matchAt_oneOf, matchOneOf, hfirst, Outcome.finished_andThen]
  exact ⟨_, rfl⟩

theorem failsAt_oneOf_of_all {rules : List Rule} (h : ∀ rule ∈ rules, g.FailsAt rule c) :
    g.FailsAt (.oneOf rules) c := by
  have hskip := firstMatch_behind_failing h c.offset 0 c.offset 0 []
  rw [List.append_nil, firstMatch] at hskip
  obtain ⟨log, hfirst⟩ := hskip.exists_finished
  rw [FailsAt, g.matchAt_oneOf, matchOneOf, hfirst, Outcome.finished_andThen]
  exact ⟨_, _, rfl⟩

/-- A choice matches as the first of its alternatives that does not fail matches by itself, and fails if all
of them do.  An alternative that stands further in front as well may be left out, and nothing is changed but
the log and the list of what was tried.  If an alternative never fails, the choice does not fail either, and
all that stands behind may be left out. -/
theorem choice_takes_first_match (g : Grammar) (c : Cursor) :
    (∀ rules text stop, (∃ log, g.matchAt (.oneOf rules) c = .finished (.ok text) stop log) ↔
      g.FirstToMatch rules c text stop) ∧
      (∀ rules, g.FailsAt (.oneOf rules) c ↔ ∀ rule ∈ rules, g.FailsAt rule c) ∧
      (∀ before rule after, rule ∈ before →
        (g.matchAt (.oneOf (before ++ [rule] ++ after)) c).Related
          (SameChoice c (Rule.describeAll (before ++ [rule] ++ after)) (Rule.describeAll (before ++ after)))
          (g.matchAt (.oneOf (before ++ after)) c)) ∧
      ∀ before rule after, rule.neverFails = true →
        (g.matchAt (.oneOf (before ++ [rule] ++ after)) c).Succeeds ∧
          g.matchAt (.oneOf (before ++ [rule] ++ after)) c = g.matchAt (.oneOf (before ++ [rule])) c := by
  refine ⟨?_, ?_, ?_, ?_⟩
  · intro rules text stop
    constructor
    · rintro ⟨log, hmatch⟩
      have hfirst := g.matchAt_oneOf_ensures_first rules c
      rw [hmatch] at hfirst
      exact hfirst
    · exact matchAt_oneOf_of_firstToMatch
  · intro rules
    constructor
    · rintro ⟨failure, log, hfails⟩
      have hall := g.matchAt_oneOf_ensures_first rules c
      rw [hfails] at hall
      exact hall
    · exact failsAt_oneOf_of_all
  · intro before rule after hmem
    exact sameChoice_of_firstMatch (firstMatch_repeated hmem c.offset 0 after)
  · intro before rule after hnever
    have hsucceeds : (g.matchAt rule c).Succeeds := matchAt_succeeds hnever c
    have hmem : rule ∈ before ++ [rule] := List.mem_append_right before List.mem_cons_self
    have hfound := firstMatch_ensures_found hmem hsucceeds c.offset 0
    have hsame : g.matchAt (.oneOf (before ++ [rule] ++ after)) c = g.matchAt (.oneOf (before ++ [rule])) c := by
      rw [g.matchAt_oneOf, g.matchAt_oneOf, matchOneOf, matchOneOf, firstMatch_append_of_found hfound]
      apply hfound.andThen_congr
      rintro _ stop ⟨text, rfl⟩
      rfl
    refine ⟨?_, hsame⟩
    rw [hsame, g.matchAt_oneOf, matchOneOf]
    apply hfound.andThen
    rintro _ stop ⟨text, rfl⟩
    exact ⟨text, rfl⟩

/-- Where a letter stands, it is found between two digits, and the second of them makes no difference.  Blanks
that may be missing keep a letter behind them from being tried. -/
theorem first_match_at_letter :
    (∃ stop, FirstToMatch {} [.digit, .letter, .digit, .blank] (Cursor.start ['a'] {}) ['a'] stop) ∧
      (({} : Grammar).matchAt (.oneOf [.digit, .letter, .digit, .blank]) (Cursor.start ['a'] {})).Related
        (SameChoice (Cursor.start ['a'] {}) (Rule.describeAll [.digit, .letter, .digit, .blank])
          (Rule.describeAll [.digit, .letter, .blank]))
        (({} : Grammar).matchAt (.oneOf [.digit, .letter, .blank]) (Cursor.start ['a'] {})) ∧
      ({} : Grammar).matchAt (.oneOf [.digit, .optional .blank, .letter]) (Cursor.start ['a'] {})
        = ({} : Grammar).matchAt (.oneOf [.digit, .optional .blank]) (Cursor.start ['a'] {}) := by
  obtain ⟨hmatch, -, hrepeated, hnever⟩ := choice_takes_first_match {} (Cursor.start ['a'] {})
  have hreading : (({} : Grammar).matchAt (.oneOf [.digit, .letter, .digit, .blank])
      (Cursor.start ['a'] {})).reading = .matched ['a'] 1 := by
    decide +kernel
  obtain ⟨stop, log, hok, -⟩ := Outcome.reading_eq_matched_iff.1 hreading
  have hdigit : Rule.digit ∈ [Rule.digit, .letter] := List.mem_cons_self
  have hblank : (Rule.optional .blank).neverFails = true := rfl
  exact ⟨⟨stop, (hmatch _ ['a'] stop).1 ⟨log, hok⟩⟩, hrepeated [.digit, .letter] .digit [.blank] hdigit,
    (hnever [.digit] (.optional .blank) [.letter] hblank).2⟩

end Grammar

end RuleMatch
