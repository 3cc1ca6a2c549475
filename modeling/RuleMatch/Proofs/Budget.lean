import Mathlib.Data.Fintype.Card
import Mathlib.Order.Interval.Finset.Nat
import Mathlib.Tactic.Ring
import RuleMatch.Proofs.Agreement

/-!
# The budget is large enough

`Grammar.matchAt` goes by a bound, `Grammar.budget`.  Here it is shown that no bound does more: a match that
ends under any bound ends under the budget, with the same outcome (`matchWithin_extends_matchAt`).  So an
unfinished `matchAt` means that the match does not end at all, and `matchAt` satisfies the equation whose
knot the bound is there to tie (`matchAt_eq`).  The same holds of looking ahead.

The argument counts calls.  Suppose that a match ends under one bound and not under the bound before.  Then
it makes a call of which the same is true one bound lower, and so on down: a chain of calls that never
repeats a bound, and so never repeats a call.  A call is a rule at a cursor.  There are as many rules as
`Grammar.reachable` lists, and along a chain the cursor is in ever lower phases, where a phase is given by
the number of characters ahead and by whether the cursor is pinned.  So the chain is no longer than the
number of phases times the number of rules.
-/

namespace RuleMatch

namespace Cursor

/-- Calls go on to lower phases, or stay at the same cursor. -/
def phase (c : Cursor) : Nat :=
  2 * c.ahead.length + if c.maySkip then 2 else 1

theorem phase_pos (c : Cursor) : 0 < c.phase := by
  unfold phase
  split <;> omega

theorem phase_le (c : Cursor) : c.phase ≤ 2 * (c.ahead.length + 1) := by
  unfold phase
  split <;> omega

theorem pin_of_not_maySkip {c : Cursor} (h : ¬ c.maySkip = true) : c.pin = c := by
  have hpinned : c.pinned = some c.offset := by simpa [maySkip] using h
  apply Cursor.ext
  · rfl
  · rfl
  · rfl
  · exact hpinned.symm
  · rfl

/-- A call at another cursor is a call in a lower phase. -/
theorem MayCall.phase_lt {c d : Cursor} (h : c.MayCall d) (hne : d ≠ c) : d.phase < c.phase := by
  rcases h with rfl | rfl | hshorter
  · exact absurd rfl hne
  · have hskip : c.maySkip = true := by
      by_contra hno
      exact hne (pin_of_not_maySkip hno)
    have hpinned : c.pin.maySkip = false := by simp [maySkip, pin]
    have hlength : c.pin.ahead.length = c.ahead.length := rfl
    simp only [phase, hskip, hpinned, hlength, if_true]
    simp
  · have hlower : d.phase ≤ 2 * (d.ahead.length + 1) := d.phase_le
    have hupper : 2 * c.ahead.length + 1 ≤ c.phase := by
      unfold phase
      split <;> omega
    omega

end Cursor

/-! ## Counting calls -/

/-- A way to evaluate rules under a bound, for which a smaller bound may only leave outcomes unfinished and
every call that needs a bound is made for the sake of a callee that needs one less. -/
structure Bounded {α : Type} (run : Nat → Rule → Cursor → Outcome α) (rules : List Rule) : Prop where
  extends_succ : ∀ bound rule c, (run bound rule c).Extends (run (bound + 1) rule c)
  extends_pred : ∀ bound, ∀ rule ∈ rules, ∀ c, c.ahead.length < bound →
    (∀ callee ∈ rules, ∀ d, c.MayCall d →
      (run (bound + 1) callee d).Extends (run bound callee d)) →
    (run (bound + 2) rule c).Extends (run (bound + 1) rule c)

namespace Bounded

variable {α : Type} {run : Nat → Rule → Cursor → Outcome α} {rules : List Rule}

theorem extends_of_le (h : Bounded run rules) {bound bound' : Nat} (hle : bound ≤ bound')
    (rule : Rule) (c : Cursor) : (run bound rule c).Extends (run bound' rule c) := by
  induction bound', hle using Nat.le_induction with
  | base => exact Outcome.Extends.refl _
  | succ bound' _ ih => exact ih.trans (h.extends_succ bound' rule c)

/-- The evaluation is unfinished under this bound and finished under the next. -/
def LastUnfinished (run : Nat → Rule → Cursor → Outcome α) (bound : Nat) (rule : Rule)
    (c : Cursor) : Prop :=
  run bound rule c = .unfinished ∧ run (bound + 1) rule c ≠ .unfinished

theorem LastUnfinished.bound_eq (h : Bounded run rules) {bound bound' : Nat} {rule : Rule}
    {c : Cursor} (hlast : LastUnfinished run bound rule c)
    (hlast' : LastUnfinished run bound' rule c) : bound = bound' := by
  have hno : ∀ {m n : Nat}, LastUnfinished run m rule c → LastUnfinished run n rule c → ¬ m < n := by
    -- A finished outcome stays under larger bounds, and `n` is one of them.
    intro m n hm hn hlt
    have hsame := h.extends_of_le (Nat.succ_le_of_lt hlt) rule c hm.2
    exact hm.2 (hsame ▸ hn.1)
  have hle := hno hlast hlast'
  have hge := hno hlast' hlast
  omega

/-- Between a bound that does not suffice and one that does lies the last that does not. -/
theorem exists_lastUnfinished {bound bound' : Nat} {rule : Rule} {c : Cursor} (hle : bound ≤ bound')
    (hunfinished : run bound rule c = .unfinished) (hends : run bound' rule c ≠ .unfinished) :
    ∃ last, bound ≤ last ∧ LastUnfinished run last rule c := by
  induction bound', hle using Nat.le_induction with
  | base => exact absurd hunfinished hends
  | succ bound' hle ih =>
      by_cases hbefore : run bound' rule c = .unfinished
      · exact ⟨bound', hle, hbefore, hends⟩
      · exact ih hbefore

/-- A bound that just does not suffice fails a callee, for which it is one too large. -/
theorem exists_callee (h : Bounded run rules) {bound : Nat} {rule : Rule} (hrule : rule ∈ rules)
    {c : Cursor} (hbound : c.ahead.length < bound)
    (hlast : LastUnfinished run (bound + 1) rule c) :
    ∃ callee ∈ rules, ∃ d, c.MayCall d ∧ LastUnfinished run bound callee d := by
  -- If it failed no callee, the two bounds would agree on all calls, and so on the rule.
  by_contra hno
  push Not at hno
  have hagree : ∀ callee ∈ rules, ∀ d, c.MayCall d →
      (run (bound + 1) callee d).Extends (run bound callee d) := by
    intro callee hcallee d hcall hends
    have hfinished : run bound callee d ≠ .unfinished := fun hunfinished =>
      hno callee hcallee d hcall ⟨hunfinished, hends⟩
    exact (h.extends_succ bound callee d hfinished).symm
  have hsame := h.extends_pred bound rule hrule c hbound hagree hlast.2
  exact hlast.2 (hsame ▸ hlast.1)

/-- Rules that need different bounds at one cursor are different rules. -/
theorem length_le_of_all_needed (h : Bounded run rules) {c : Cursor} {low high : Nat}
    (hneeded : ∀ bound, low < bound → bound ≤ high →
      ∃ rule ∈ rules, LastUnfinished run bound rule c) :
    high ≤ low + rules.length := by
  have hindex : ∀ bound : Finset.Ioc low high,
      ∃ i : Fin rules.length, LastUnfinished run bound rules[i] c := by
    rintro ⟨bound, hbound⟩
    obtain ⟨hlow, hhigh⟩ := Finset.mem_Ioc.1 hbound
    obtain ⟨rule, hrule, hlast⟩ := hneeded bound hlow hhigh
    obtain ⟨i, hi, rfl⟩ := List.getElem_of_mem hrule
    exact ⟨⟨i, hi⟩, hlast⟩
  choose index hlast using hindex
  have hinjective : Function.Injective index := by
    intro m n hmn
    apply Subtype.ext
    exact LastUnfinished.bound_eq h (hlast m) (hmn ▸ hlast n)
  have hcard := Fintype.card_le_of_injective index hinjective
  rw [Fintype.card_coe, Nat.card_Ioc, Fintype.card_fin] at hcard
  omega

/-- No call needs more than a bound for each rule in each phase, and some for the rounds of its own
repetition. -/
theorem lastUnfinished_le (h : Bounded run rules) {bound : Nat} {rule : Rule} (hrule : rule ∈ rules)
    {c : Cursor} (hlast : LastUnfinished run bound rule c) :
    bound ≤ c.phase * rules.length + c.ahead.length + 1 := by
  -- The induction is on the phase.  What lower phases need is at most `low`; above it, the chain of
  -- calls stays at one cursor, where it can only go from rule to rule.
  induction hphase : c.phase using Nat.strong_induction_on generalizing bound rule c with
  | _ phase ih =>
      obtain ⟨lower, rfl⟩ : ∃ lower, phase = lower + 1 :=
        Nat.exists_eq_add_of_lt (hphase ▸ c.phase_pos) |>.imp fun _ hk => by omega
      let low := lower * rules.length + c.ahead.length + 1
      have hlower : ∀ {m : Nat} {callee : Rule} {d : Cursor}, callee ∈ rules → c.MayCall d → d ≠ c →
          LastUnfinished run m callee d → m ≤ low := by
        intro m callee d hcallee hcall hne hm
        have hlt : d.phase < lower + 1 := hphase ▸ hcall.phase_lt hne
        have hm := ih d.phase hlt hcallee hm rfl
        have hmul : d.phase * rules.length ≤ lower * rules.length :=
          Nat.mul_le_mul_right _ (Nat.le_of_lt_succ hlt)
        have hlength := hcall.length_le
        show m ≤ lower * rules.length + c.ahead.length + 1
        omega
      have hneeded : ∀ steps m, m + steps = bound → low < m →
          ∃ r ∈ rules, LastUnfinished run m r c := by
        intro steps
        induction steps with
        | zero =>
            rintro m rfl _
            exact ⟨rule, hrule, hlast⟩
        | succ steps ihsteps =>
            intro m hm hlow
            obtain ⟨r, hr, hrlast⟩ := ihsteps (m + 1) (by omega) (by omega)
            have hlength : c.ahead.length < m := by
              have hle : c.ahead.length < low := by
                show c.ahead.length < lower * rules.length + c.ahead.length + 1
                omega
              omega
            obtain ⟨callee, hcallee, d, hcall, hdlast⟩ := h.exists_callee hr hlength hrlast
            by_cases hd : d = c
            · exact ⟨callee, hcallee, hd ▸ hdlast⟩
            · have hle := hlower hcallee hcall hd hdlast
              omega
      have hcount : bound ≤ low + rules.length :=
        h.length_le_of_all_needed fun m hlow hhigh => hneeded (bound - m) m (by omega) hlow
      show bound ≤ (lower + 1) * rules.length + c.ahead.length + 1
      rw [Nat.add_mul, Nat.one_mul]
      have hlow : low = lower * rules.length + c.ahead.length + 1 := rfl
      omega

/-- A bound for each rule in each phase, and for the rounds of a repetition, is large enough. -/
theorem extends_of_phase (h : Bounded run rules) {rule : Rule} (hrule : rule ∈ rules) (c : Cursor)
    {enough : Nat} (henough : c.phase * rules.length + c.ahead.length + 2 ≤ enough) (bound : Nat) :
    (run bound rule c).Extends (run enough rule c) := by
  intro hends
  rcases Nat.le_total bound enough with hle | hge
  · exact h.extends_of_le hle rule c hends
  · have hfinished : run enough rule c ≠ .unfinished := by
      intro hunfinished
      obtain ⟨last, hlast, hneeded⟩ := exists_lastUnfinished hge hunfinished hends
      have hle := h.lastUnfinished_le hrule hneeded
      omega
    exact (h.extends_of_le hge rule c hfinished).symm

end Bounded

namespace Grammar

variable (g : Grammar)

theorem matchWithin_bounded (root : Rule) : Bounded g.matchWithin (g.reachable root) where
  extends_succ bound rule c := matchWithin_extends (Nat.le_succ bound) rule c
  extends_pred bound rule hrule c hbound hagree := by
    apply Matching.restoring_extends
    apply attempt_extends (fun callee _ d => g.matchWithin_ensures (bound + 1) callee d) _
      (.inr hbound)
    intro callee hcallee d hcall
    exact hagree callee (callee_mem_reachable hrule hcallee) d hcall

theorem mayMatchWithin_bounded (root : Rule) : Bounded g.mayMatchWithin (g.reachable root) where
  extends_succ bound rule c := mayMatchWithin_extends (Nat.le_succ bound) rule c
  extends_pred bound rule hrule c _ hagree := by
    apply look_extends fun callee _ d => g.mayMatchWithin_ensures (bound + 1) callee d
    intro callee hcallee
    exact hagree callee (callee_mem_reachable hrule hcallee) c (Cursor.MayCall.refl c)

/-- The budget allows for every reachable rule in every phase. -/
theorem phase_le_budget (rule : Rule) (c : Cursor) :
    c.phase * (g.reachable rule).length + c.ahead.length + 2 ≤ g.budget rule c := by
  have hphase : c.phase * (rule.size + g.size) ≤ 2 * (c.ahead.length + 1) * (rule.size + g.size) :=
    Nat.mul_le_mul_right _ c.phase_le
  have hbudget : g.budget rule c
      = 2 * (c.ahead.length + 1) * (rule.size + g.size) + (c.ahead.length + 1) + 1 := by
    unfold budget
    ring
  rw [length_reachable, hbudget]
  omega

/-- Whatever a match comes to under some bound, `matchAt` says. -/
theorem matchWithin_extends_matchAt (bound : Nat) (rule : Rule) (c : Cursor) :
    (g.matchWithin bound rule c).Extends (g.matchAt rule c) :=
  (g.matchWithin_bounded rule).extends_of_phase (self_mem_reachable rule) c (g.phase_le_budget rule c)
    bound

/-- Whatever looking ahead comes to under some bound, `mayMatch` says. -/
theorem mayMatchWithin_extends_mayMatch (bound : Nat) (rule : Rule) (c : Cursor) :
    (g.mayMatchWithin bound rule c).Extends (g.mayMatch rule c) :=
  (g.mayMatchWithin_bounded rule).extends_of_phase (self_mem_reachable rule) c
    (g.phase_le_budget rule c) bound

variable {g} {rule : Rule} {c : Cursor} {bound : Nat}

theorem matchWithin_eq_matchAt (h : g.budget rule c ≤ bound) :
    g.matchWithin bound rule c = g.matchAt rule c :=
  (matchWithin_extends h rule c).antisymm (g.matchWithin_extends_matchAt bound rule c)

theorem mayMatchWithin_eq_mayMatch (h : g.budget rule c ≤ bound) :
    g.mayMatchWithin bound rule c = g.mayMatch rule c :=
  (mayMatchWithin_extends h rule c).antisymm (g.mayMatchWithin_extends_mayMatch bound rule c)

/-- One bound is enough for all calls that a match makes. -/
theorem exists_bound_for_callees (g : Grammar) (rule : Rule) (c : Cursor) :
    ∃ enough, c.ahead.length < enough ∧ g.budget rule c ≤ enough + 1 ∧
      ∀ callee ∈ g.callees rule, ∀ d, c.MayCall d → g.budget callee d ≤ enough := by
  let calls := (c.ahead.length + 1) * (2 * (Rule.sizeAll (g.callees rule) + g.size) + 1) + 1
  have hcalls : c.ahead.length < calls := by
    have hmul : (c.ahead.length + 1) * 1
        ≤ (c.ahead.length + 1) * (2 * (Rule.sizeAll (g.callees rule) + g.size) + 1) :=
      Nat.mul_le_mul_left _ (Nat.le_add_left 1 _)
    show c.ahead.length < (c.ahead.length + 1) * (2 * (Rule.sizeAll (g.callees rule) + g.size) + 1) + 1
    omega
  refine ⟨calls + g.budget rule c, by omega, by omega, ?_⟩
  intro callee hcallee d hcall
  have hlength := hcall.length_le
  have hsize := Rule.size_le_sizeAll hcallee
  have hmul : (d.ahead.length + 1) * (2 * (callee.size + g.size) + 1)
      ≤ (c.ahead.length + 1) * (2 * (Rule.sizeAll (g.callees rule) + g.size) + 1) :=
    Nat.mul_le_mul (by omega) (by omega)
  have hbudget : g.budget callee d ≤ calls := Nat.succ_le_succ hmul
  omega

/-- Matching a rule is an attempt that calls for matching, with as many rounds of a repetition as there
are characters ahead and one. -/
theorem matchAt_eq (h : c.ahead.length < bound) :
    g.matchAt rule c = Matching.restoring (g.attempt bound g.matchAt rule) c := by
  -- Under a bound that is enough for every callee, the calls are what `matchAt` says of them.
  obtain ⟨enough, henough, hbudget, hcallees⟩ := g.exists_bound_for_callees rule c
  have hwithin : g.matchAt rule c
      = Matching.restoring (g.attempt enough (g.matchWithin enough) rule) c :=
    (matchWithin_eq_matchAt hbudget).symm
  have hforth : (g.attempt enough (g.matchWithin enough) rule c).Extends
      (g.attempt bound g.matchAt rule c) := by
    apply attempt_extends (fun callee _ d => g.matchWithin_ensures enough callee d) _ (.inr h)
    intro callee _ d _
    exact g.matchWithin_extends_matchAt enough callee d
  have hback : (g.attempt bound g.matchAt rule c).Extends
      (g.attempt enough (g.matchWithin enough) rule c) := by
    apply attempt_extends (fun callee _ d => g.matchAt_ensures callee d) _ (.inr henough)
    intro callee hcallee d hcall
    rw [matchWithin_eq_matchAt (hcallees callee hcallee d hcall)]
    exact Outcome.Extends.refl _
  rw [hwithin, Matching.restoring, Matching.restoring, hforth.antisymm hback]

/-- Where a terminal is read, it is matched. -/
theorem matchAt_terminal_of_ok {terminal : Terminal} {stop : Cursor} {text : Text}
    (h : terminal.read c = (.ok text, stop)) :
    g.matchAt (.terminal terminal) c = .finished (.ok text) stop [] := by
  have hattempt : g.attempt (c.ahead.length + 1) g.matchAt (.terminal terminal) c
      = .finished (.ok text) stop [] := by
    simp only [attempt, h]
  rw [matchAt_eq (Nat.lt_succ_self c.ahead.length), Matching.restoring, hattempt]
  rfl

/-- A terminal that cannot be read is given up where it was tried. -/
theorem matchAt_terminal_of_error {terminal : Terminal} {stop : Cursor} {failure : Failure}
    (h : terminal.read c = (.error failure, stop)) :
    g.matchAt (.terminal terminal) c = .finished (.error failure) c [] := by
  have hattempt : g.attempt (c.ahead.length + 1) g.matchAt (.terminal terminal) c
      = .finished (.error failure) stop [] := by
    simp only [attempt, h]
  have hframe : Cursor.SameFrame c stop := by
    have hread := (terminal.attempts_read c).sameFrame
    rw [h] at hread
    exact hread
  rw [matchAt_eq (Nat.lt_succ_self c.ahead.length), Matching.restoring, hattempt,
    Outcome.finished_andThen, Outcome.after_nil]
  dsimp only
  rw [Cursor.moveTo_offset hframe]
  rfl

/-- A terminal whose lexeme stands at its place is matched. -/
theorem matchAt_terminal_of_lexeme {terminal : Terminal} {text : Text}
    (h : terminal.lexeme? c.settings (terminal.entry c).ahead = some text) :
    ∃ stop, g.matchAt (.terminal terminal) c = .finished (.ok text) stop [] ∧
      (terminal.entry c).Passes text stop := by
  obtain ⟨stop, hread, hpass⟩ := Terminal.read_of_lexeme h
  exact ⟨stop, matchAt_terminal_of_ok hread, hpass⟩

/-- A terminal whose lexeme does not stand at its place fails. -/
theorem matchAt_terminal_of_no_lexeme {terminal : Terminal}
    (h : terminal.lexeme? c.settings (terminal.entry c).ahead = none) :
    ∃ failure, g.matchAt (.terminal terminal) c = .finished (.error failure) c [] := by
  obtain ⟨failure, hread⟩ := Terminal.read_of_no_lexeme h
  exact ⟨failure, matchAt_terminal_of_error hread⟩

/-- A terminal that is matched has read its lexeme at its place. -/
theorem lexeme_of_matchAt_terminal {terminal : Terminal} {stop : Cursor} {text : Text} {log : List Event}
    (h : g.matchAt (.terminal terminal) c = .finished (.ok text) stop log) :
    terminal.lexeme? c.settings (terminal.entry c).ahead = some text ∧
      (terminal.entry c).Passes text stop := by
  cases hlexeme : terminal.lexeme? c.settings (terminal.entry c).ahead with
  | some lexeme =>
      obtain ⟨behind, hmatch, hpass⟩ := matchAt_terminal_of_lexeme (g := g) hlexeme
      rw [hmatch] at h
      simp only [Outcome.finished.injEq, Except.ok.injEq] at h
      obtain ⟨rfl, rfl, -⟩ := h
      exact ⟨rfl, hpass⟩
  | none =>
      obtain ⟨failure, hfails⟩ := matchAt_terminal_of_no_lexeme (g := g) hlexeme
      rw [hfails] at h
      simp at h

/-- A character that was matched stands behind the gap. -/
theorem char_of_matchAt_ok {ch : Char} {stop : Cursor} {text : Text} {log : List Event}
    (h : g.matchAt (.char ch) c = .finished (.ok text) stop log) :
    text = [ch] ∧ c.Passes (c.gap ++ [ch]) stop := by
  obtain ⟨hlexeme, hpass⟩ := lexeme_of_matchAt_terminal h
  obtain ⟨next, rest, -, hnext, rfl⟩ := Text.charAtFront_eq_some_iff.1 hlexeme
  obtain rfl : next = ch := beq_iff_eq.1 hnext
  exact ⟨rfl, (Cursor.passes_skipBlanks c).trans hpass⟩

/-- A letter that was matched stands where the cursor stood. -/
theorem letter_of_matchAt_ok {stop : Cursor} {text : Text} {log : List Event}
    (h : g.matchAt .letter c = .finished (.ok text) stop log) :
    ∃ ch, ch.isAlpha = true ∧ text = [ch] ∧ c.Passes [ch] stop := by
  obtain ⟨hlexeme, hpass⟩ := lexeme_of_matchAt_terminal h
  obtain ⟨ch, rest, -, hletter, rfl⟩ := Text.charAtFront_eq_some_iff.1 hlexeme
  exact ⟨ch, hletter, rfl, hpass⟩

/-- Every other rule fails where it started, so there is nothing to take back. -/
theorem matchAt_eq_attempt (g : Grammar) {rule : Rule} (hrule : rule.isTerminal = false) (c : Cursor) :
    g.matchAt rule c = g.attempt (c.ahead.length + 1) g.matchAt rule c := by
  rw [matchAt_eq (Nat.lt_succ_self c.ahead.length)]
  exact Matching.restoring_eq_self (attempt_answers hrule (fun callee _ d => g.matchAt_ensures callee d)
    (fun cell _ _ => ⟨cell.name, rfl⟩) (c.ahead.length + 1) c)

theorem matchAt_series (g : Grammar) (spacing : Spacing) (parts : List Rule) (c : Cursor) :
    g.matchAt (.series spacing parts) c = matchSeries g.matchAt spacing parts c :=
  g.matchAt_eq_attempt rfl c

theorem matchAt_oneOf (g : Grammar) (alternatives : List Rule) (c : Cursor) :
    g.matchAt (.oneOf alternatives) c = matchOneOf g.matchAt alternatives c :=
  g.matchAt_eq_attempt rfl c

theorem matchAt_zeroOrMore (g : Grammar) (body : Rule) (c : Cursor) :
    g.matchAt (.zeroOrMore body) c = matchZeroOrMore g.matchAt (c.ahead.length + 1) body c :=
  g.matchAt_eq_attempt rfl c

theorem matchAt_oneOrMore (g : Grammar) (body : Rule) (c : Cursor) :
    g.matchAt (.oneOrMore body) c = matchOneOrMore g.matchAt (c.ahead.length + 1) body c :=
  g.matchAt_eq_attempt rfl c

theorem matchAt_optional (g : Grammar) (body : Rule) (c : Cursor) :
    g.matchAt (.optional body) c = matchOptional g.matchAt body c :=
  g.matchAt_eq_attempt rfl c

/-- A cell is matched as its definition is. -/
theorem matchAt_ref {cell : Cell} {definition : Rule} (h : g.definition? cell = some definition)
    (c : Cursor) : g.matchAt (.ref cell) c = g.matchAt definition c := by
  rw [matchAt_eq_attempt g rfl c, attempt, require_eq_ok h]

/-- A rule under a name is matched as without it, one bound below. -/
theorem matchWithin_named (bound : Nat) (name : String) (body : Rule) (c : Cursor) :
    g.matchWithin (bound + 1) (.named name body) c = g.matchWithin bound body c :=
  Matching.restoring_eq_self (g.matchWithin_ensures bound body c)

theorem matchAt_named (name : String) (body : Rule) (c : Cursor) :
    g.matchAt (.named name body) c = g.matchAt body c :=
  g.matchAt_eq_attempt rfl c

/-- Looking ahead for a rule looks ahead for what it asks. -/
theorem mayMatch_eq : g.mayMatch rule c = g.look g.mayMatch rule c := by
  obtain ⟨enough, -, hbudget, hcallees⟩ := g.exists_bound_for_callees rule c
  have hwithin : g.mayMatch rule c = g.look (g.mayMatchWithin enough) rule c :=
    (mayMatchWithin_eq_mayMatch hbudget).symm
  have hforth : (g.look (g.mayMatchWithin enough) rule c).Extends (g.look g.mayMatch rule c) := by
    apply look_extends fun callee _ d => g.mayMatchWithin_ensures enough callee d
    intro callee _
    exact g.mayMatchWithin_extends_mayMatch enough callee c
  have hback : (g.look g.mayMatch rule c).Extends (g.look (g.mayMatchWithin enough) rule c) := by
    apply look_extends fun callee _ d => g.mayMatch_ensures callee d
    intro callee hcallee
    rw [mayMatchWithin_eq_mayMatch (hcallees callee hcallee c (Cursor.MayCall.refl c))]
    exact Outcome.Extends.refl _
  rw [hwithin, hforth.antisymm hback]

end Grammar

end RuleMatch
