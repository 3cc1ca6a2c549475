import RuleMatch.Proofs.Faults
import RuleMatch.Proofs.Foresight

/-!
# When a look ahead is exact

A no of the look ahead is right whatever the rule (`mayMatch_foretells`).  A yes may be wrong for one reason
only: a series is judged by its first part, and fails if another part does.  If no part behind the first of a
series can fail, in the rule or in anything that is reached from it, then the look ahead says yes exactly
where the rule matches (`look_ahead_is_exact`).

Both answers are needed for a choice.  The alternatives in front of the first that is expected to match have
to fail, or the match would be theirs; then the match comes to that alternative, and it has to match.
-/

namespace RuleMatch

namespace Rule

/-- Whether the rule matches nothing rather than fail. -/
def neverFails : Rule → Bool
  | .optional _ => true
  | .zeroOrMore _ => true
  | _ => false

/-- Whether the rule is no series that can fail behind its first part. -/
def decidedByFirst : Rule → Bool
  | .series _ (_ :: others) => others.all neverFails
  | _ => true

end Rule

namespace Outcome

/-- The match succeeds if it comes to a verdict at all. -/
def Succeeds (outcome : Outcome Verdict) : Prop :=
  outcome.Ensures (fun _ => True) fun verdict _ => ∃ text, verdict = .ok text

/-- A yes of the look ahead is borne out by the match. -/
def ConfirmedBy (look : Outcome Bool) (outcome : Outcome Verdict) : Prop :=
  look.value? = some true → outcome.Succeeds

end Outcome

/-! ## Constructs -/

section Constructs

variable {looks : Rule → Looking} {self : Rule → Matching} {allowed allowed' : Fault → Prop} {c : Cursor}

theorem Matching.upTo_succeeds (mark : Nat) (c : Cursor) : (Matching.upTo mark c).Succeeds := by
  unfold Matching.upTo
  cases c.textFrom mark with
  | ok text => exact ⟨text, rfl⟩
  | error fault => exact trivial

theorem Matching.restoring_succeeds {attempt : Matching} (h : (attempt c).Succeeds) :
    (Matching.restoring attempt c).Succeeds := by
  apply h.andThen
  rintro _ stop ⟨text, rfl⟩
  exact ⟨text, rfl⟩

theorem matchZeroOrMore_succeeds (self : Rule → Matching) (bound : Nat) (body : Rule) (c : Cursor) :
    (matchZeroOrMore self bound body c).Succeeds :=
  (repeated self body bound c).ensures_true.andThen fun _ stop _ => Matching.upTo_succeeds c.offset stop

theorem matchOptional_succeeds (self : Rule → Matching) (body : Rule) (c : Cursor) :
    (matchOptional self body c).Succeeds := by
  apply (self body c).ensures_true.andThen
  intro verdict stop _
  cases verdict with
  | ok text => exact ⟨text, rfl⟩
  | error failure => exact ⟨[], rfl⟩

/-- A body that matches is counted, whatever comes of the next round. -/
theorem repeated_ensures_ne_zero {body : Rule} (h : (self body c).Succeeds) (bound : Nat) :
    (repeated self body bound c).Ensures (fun _ => True) fun count _ => count ≠ 0 := by
  cases bound with
  | zero => exact trivial
  | succ bound =>
      unfold repeated
      apply h.andThen
      rintro _ stop ⟨text, rfl⟩
      dsimp only
      split
      · exact Nat.one_ne_zero
      · apply (repeated self body bound stop).ensures_true.andThen
        intro count last _
        exact Nat.succ_ne_zero count

theorem matchOneOrMore_succeeds {body : Rule} (h : (self body c).Succeeds) (bound : Nat) :
    (matchOneOrMore self bound body c).Succeeds := by
  apply (repeated_ensures_ne_zero h bound).andThen
  intro count stop hcount
  rw [if_neg hcount]
  exact Matching.upTo_succeeds c.offset stop

/-- The alternatives that are not expected to match fail, and the first that is matches. -/
theorem firstMatch_confirmed {alternatives : List Rule}
    (hlooks : ∀ rule ∈ alternatives, (looks rule c).Ensures allowed' fun _ stop => stop = c)
    (hself : ∀ rule ∈ alternatives, (self rule c).Ensures allowed (Answers c))
    (hno : ∀ rule ∈ alternatives, (looks rule c).Foretells (self rule c))
    (hyes : ∀ rule ∈ alternatives, (looks rule c).ConfirmedBy (self rule c)) (mark index : Nat)
    (hcan : (anyCan looks alternatives c).value? = some true) :
    (firstMatch self mark index alternatives c).Ensures (fun _ => True)
      fun found _ => ∃ text, found = some text := by
  induction alternatives generalizing index with
  | nil => simp [anyCan, Outcome.value?] at hcan
  | cons rule rules ih =>
      obtain ⟨hlook, hlooks⟩ := List.forall_mem_cons.1 hlooks
      obtain ⟨hrule, hrules⟩ := List.forall_mem_cons.1 hself
      obtain ⟨hfails, hno⟩ := List.forall_mem_cons.1 hno
      obtain ⟨hmatches, hyes⟩ := List.forall_mem_cons.1 hyes
      rw [anyCan] at hcan
      cases hfirst : looks rule c with
      | finished can stop log =>
          rw [hfirst] at hlook hfails hmatches hcan
          obtain rfl : stop = c := hlook
          cases can with
          | true =>
              have hok : (self rule stop).Succeeds := hmatches rfl
              rw [firstMatch]
              apply hok.andThen
              rintro _ last ⟨text, rfl⟩
              exact ⟨text, rfl⟩
          | false =>
              obtain ⟨log', hrefused⟩ := firstMatch_refused hrule hfails rules mark index
              have hrest : (anyCan looks rules stop).value? = some true := by
                simpa using hcan
              rw [hrefused, Outcome.ensures_after]
              exact ih hlooks hrules hno hyes (index + 1) hrest
      | faulted fault log => simp [hfirst, Outcome.value?] at hcan
      | unfinished => simp [hfirst, Outcome.value?] at hcan

theorem laterPart_succeeds {part : Rule} (h : ∀ d, (self part d).Succeeds) (spacing : Spacing)
    (c : Cursor) : (laterPart self spacing part c).Succeeds := by
  cases spacing with
  | spaced => exact h c.skipBlanks.2
  | adjacent =>
      apply (h c.pin).andThen
      rintro _ stop ⟨text, rfl⟩
      exact ⟨text, rfl⟩

theorem laterParts_succeeds {parts : List Rule} (h : ∀ part ∈ parts, ∀ d, (self part d).Succeeds)
    (spacing : Spacing) (mark textStart index : Nat) (c : Cursor) :
    (laterParts self spacing mark textStart index parts c).Succeeds := by
  induction parts generalizing index c with
  | nil => exact Matching.upTo_succeeds textStart c
  | cons part parts ih =>
      obtain ⟨hpart, hparts⟩ := List.forall_mem_cons.1 h
      unfold laterParts
      apply (laterPart_succeeds hpart spacing c).andThen
      rintro _ stop ⟨text, rfl⟩
      exact ih hparts (index + 1) stop

/-- A series matches if its first part does and the others cannot fail. -/
theorem matchSeries_succeeds {first : Rule} {others : List Rule} (hfirst : (self first c).Succeeds)
    (hothers : ∀ part ∈ others, ∀ d, (self part d).Succeeds) (spacing : Spacing) :
    (matchSeries self spacing (first :: others) c).Succeeds := by
  apply hfirst.andThen
  rintro _ stop ⟨text, rfl⟩
  dsimp only
  split
  · exact laterParts_succeeds hothers spacing _ _ 1 stop
  · exact trivial

end Constructs

/-! ## Rules -/

theorem Terminal.canRead_confirmed (terminal : Terminal) (c : Cursor) (log : List Event) :
    (terminal.canRead c).ConfirmedBy (.finished (terminal.read c).1 (terminal.read c).2 log) := by
  rw [canRead_eq]
  cases hread : (terminal.read c).1 with
  | ok text => exact fun _ => ⟨text, rfl⟩
  | error failure =>
      rintro ⟨⟩

namespace Grammar

variable {g : Grammar} {root rule : Rule} {allowed allowed' : Fault → Prop}

theorem matchWithin_succeeds (h : rule.neverFails = true) (bound : Nat) (c : Cursor) :
    (g.matchWithin bound rule c).Succeeds := by
  cases bound with
  | zero => exact trivial
  | succ bound =>
      apply Matching.restoring_succeeds
      cases rule with
      | optional body => exact matchOptional_succeeds _ body c
      | zeroOrMore body => exact matchZeroOrMore_succeeds _ bound body c
      | _ => simp [Rule.neverFails] at h

/-- A yes is borne out by an attempt if it is by the calls that both begin with. -/
theorem look_confirmed {looks : Rule → Looking} {self : Rule → Matching} {c : Cursor}
    (hlooks : ∀ callee ∈ g.callees rule, (looks callee c).Ensures allowed' fun _ stop => stop = c)
    (hself : ∀ callee ∈ g.callees rule, (self callee c).Ensures allowed (Answers c))
    (hno : ∀ callee ∈ g.callees rule, (looks callee c).Foretells (self callee c))
    (hyes : ∀ callee ∈ g.callees rule, (looks callee c).ConfirmedBy (self callee c))
    (hrule : rule.decidedByFirst = true)
    (hnever : ∀ part : Rule, part.neverFails = true → ∀ d, (self part d).Succeeds) (bound : Nat) :
    (g.look looks rule c).ConfirmedBy (g.attempt bound self rule c) := by
  cases rule with
  | terminal t => exact t.canRead_confirmed c []
  | named name body => exact hyes body (by simp)
  | oneOrMore body =>
      intro hcan
      exact matchOneOrMore_succeeds (hyes body (by simp) hcan) bound
  | zeroOrMore body => exact fun _ => matchZeroOrMore_succeeds self bound body c
  | optional body => exact fun _ => matchOptional_succeeds self body c
  | oneOf alternatives =>
      intro hcan
      apply (firstMatch_confirmed hlooks hself hno hyes c.offset 0 hcan).andThen
      rintro _ stop ⟨text, rfl⟩
      exact ⟨text, rfl⟩
  | series spacing parts =>
      cases parts with
      | nil => exact fun _ => Matching.upTo_succeeds c.offset c
      | cons first others =>
          intro hcan
          refine matchSeries_succeeds (hyes first (by simp) hcan) ?_ spacing
          intro part hpart
          exact hnever part (List.all_eq_true.1 hrule part hpart)
  | ref cell =>
      cases hdef : g.definition? cell with
      | some definition =>
          simp only [look, attempt, require_eq_ok hdef]
          exact hyes definition (by simp [hdef])
      | none =>
          simp only [look, require_eq_error hdef]
          rintro ⟨⟩

theorem mayMatchWithin_confirmed (h : ∀ inner, g.Reaches root inner → inner.decidedByFirst = true)
    (bound : Nat) (hrule : g.Reaches root rule) (c : Cursor) :
    (g.mayMatchWithin bound rule c).ConfirmedBy (g.matchWithin bound rule c) := by
  induction bound generalizing rule c with
  | zero =>
      rintro ⟨⟩
  | succ bound ih =>
      intro hcan
      apply Matching.restoring_succeeds
      refine look_confirmed (fun callee _ => g.mayMatchWithin_ensures bound callee c)
        (fun callee _ => g.matchWithin_ensures bound callee c)
        (fun callee _ => mayMatchWithin_foretells bound callee c) ?_ (h rule hrule)
        (fun part hpart d => matchWithin_succeeds hpart bound d) bound hcan
      intro callee hcallee
      exact ih (hrule.callee hcallee) c

/-- Suppose that behind its first part a series has only parts that match nothing rather than fail, for every
series in the rule and in the definitions that are reached from it.  Wherever the match comes to a verdict,
the look ahead comes to an answer, and it is yes if and only if the rule matches. -/
theorem look_ahead_is_exact {c stop : Cursor} {verdict : Verdict} {log : List Event}
    (h : ∀ inner, g.Reaches rule inner → inner.decidedByFirst = true)
    (hmatch : g.matchAt rule c = .finished verdict stop log) :
    ∃ can log', g.mayMatch rule c = .finished can c log' ∧ (can = true ↔ ∃ text, verdict = .ok text) := by
  have hno := mayMatch_foretells (g := g) rule c
  have hyes : (g.mayMatch rule c).ConfirmedBy (g.matchAt rule c) :=
    mayMatchWithin_confirmed h (g.budget rule c) (Reaches.self g rule) c
  have hstay := g.mayMatch_ensures rule c
  rw [hmatch] at hno hyes
  cases hlook : g.mayMatch rule c with
  | finished can last log' =>
      rw [hlook] at hno hyes hstay
      obtain rfl : last = c := hstay
      refine ⟨can, log', rfl, ?_⟩
      cases can with
      | true => exact iff_of_true rfl (hyes rfl)
      | false =>
          obtain ⟨failure, _, _, hfailed⟩ := hno.exists_error
          obtain ⟨rfl, -, -⟩ := Outcome.finished.inj hfailed
          simp
  | faulted fault log' =>
      rw [hlook] at hno
      obtain ⟨_, hfaulted⟩ := hno.exists_faulted
      cases hfaulted
  | unfinished =>
      rw [hlook] at hno
      cases hno.eq_unfinished

end Grammar

namespace Signs

/-- The cell of a run of signs. -/
def signs : Cell := ⟨0, "signs"⟩

/-- A minus or a negation, and perhaps more signs. -/
def definition : Rule :=
  .series .spaced [.oneOf [.char '-', .keyword "not"], .optional (.ref signs)]

/-- The grammar whose only cell is that of a run of signs. -/
def grammar : Grammar := ⟨#[some definition]⟩

/-- A word that only starts like a negation is no sign.  In place of one it is refused by the look ahead, and
behind a minus it does no harm. -/
theorem look_ahead_at_signs :
    (∃ log, grammar.mayMatch (.ref signs) (Cursor.start [' ', '-', ' ', 'n', 'o', 't', 'e'] {})
        = .finished true (Cursor.start [' ', '-', ' ', 'n', 'o', 't', 'e'] {}) log) ∧
      ∃ log, grammar.mayMatch (.ref signs) (Cursor.start ['n', 'o', 't', 'e'] {})
        = .finished false (Cursor.start ['n', 'o', 't', 'e'] {}) log := by
  have hdecided : ∀ inner, grammar.Reaches (.ref signs) inner → inner.decidedByFirst = true := by
    have hall : ∀ inner ∈ grammar.reachable (.ref signs), inner.decidedByFirst = true := by
      decide
    intro inner hinner
    exact hall inner hinner.mem_reachable
  constructor
  · have hreading : (grammar.matchAt (.ref signs)
        (Cursor.start [' ', '-', ' ', 'n', 'o', 't', 'e'] {})).reading = .matched ['-', ' '] 3 := by
      decide +kernel
    obtain ⟨stop, log, hmatch, -⟩ := Outcome.reading_eq_matched_iff.1 hreading
    obtain ⟨can, log', hlook, hcan⟩ := Grammar.look_ahead_is_exact hdecided hmatch
    obtain rfl : can = true := hcan.2 ⟨_, rfl⟩
    exact ⟨log', hlook⟩
  · have hreading : (grammar.matchAt (.ref signs)
        (Cursor.start ['n', 'o', 't', 'e'] {})).reading = .failed := by
      decide +kernel
    obtain ⟨failure, stop, log, hmatch⟩ := Outcome.reading_eq_failed_iff.1 hreading
    obtain ⟨can, log', hlook, hcan⟩ := Grammar.look_ahead_is_exact hdecided hmatch
    obtain rfl : can = false := by simpa using hcan
    exact ⟨log', hlook⟩

end Signs

end RuleMatch
