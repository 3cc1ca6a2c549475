import RuleMatch.Proofs.Budget
import RuleMatch.Proofs.Foresight
import RuleMatch.Proofs.WordLists

/-!
# Looking ahead misses no match

A rule that matches is never missed by the look ahead for it, and the look ahead ends without a fault wherever
the match does (`looking_ahead_misses_no_match`).  Nor does it ask for more than the match: it touches no cell
that the match does not touch.

A run touches a cell if its outcome depends on what the cell stands for.  Two changes to the cell tell all.  If
the cell stands for nothing, a run that touches it ends in a fault there; if the cell stands for itself, such a
run does not end.  A look ahead that is not stuck in one of these ways has not met the cell and is the same
whatever the cell stands for (`mayMatch_eq_or_stuck`).
-/

namespace RuleMatch

namespace Grammar

variable {g : Grammar} {allowed : Fault → Prop}

/-! ## Touching cells -/

/-- The grammar in which a cell stands for something else, or for nothing. -/
def redefine (g : Grammar) (cell : Cell) (definition : Option Rule) : Grammar :=
  ⟨Array.ofFn fun id : Fin (max g.definitions.size (cell.id + 1)) =>
    if id.val = cell.id then definition else g.definitions[id.val]?.join⟩

theorem definition?_redefine (g : Grammar) (cell other : Cell) (definition : Option Rule) :
    (g.redefine cell definition).definition? other
      = if other.id = cell.id then definition else g.definition? other := by
  simp only [definition?, redefine, Array.getElem?_ofFn]
  split
  · split <;> rfl
  · next hout =>
      have hne : other.id ≠ cell.id := by omega
      rw [if_neg hne, Array.getElem?_eq_none (by omega)]

/-- A run touches a cell if what it comes to depends on what the cell stands for.  A run that looks the cell
up ends in a fault if the cell stands for nothing, and does not end if the cell stands for itself; so at least
one of the two changes its outcome. -/
def Touches {α : Type} (run : Grammar → Outcome α) (g : Grammar) (cell : Cell) : Prop :=
  ∃ definition, run (g.redefine cell definition) ≠ run g

/-- The second grammar is the first, but for what one cell stands for. -/
def AgreeBut (cell : Cell) (g h : Grammar) : Prop :=
  ∀ other : Cell, other.id ≠ cell.id → h.definition? other = g.definition? other

theorem agreeBut_redefine {cell : Cell} {h : Grammar} (hagree : AgreeBut cell g h)
    (definition : Option Rule) : AgreeBut cell (g.redefine cell definition) h := by
  intro other hid
  rw [definition?_redefine, if_neg hid]
  exact hagree other hid

theorem agreeBut_self_redefine (g : Grammar) (cell : Cell) (definition : Option Rule) :
    AgreeBut cell g (g.redefine cell definition) := by
  intro other hid
  rw [definition?_redefine, if_neg hid]

section Touching

variable {h : Grammar} {cell : Cell} {stuck : Outcome Bool → Prop}

/-- A kind of outcome that is not got out of by going on. -/
structure Sticks (stuck : Outcome Bool → Prop) : Prop where
  andThen : ∀ outcome goOn, stuck outcome → stuck (outcome.andThen goOn)
  after : ∀ outcome log, stuck outcome → stuck (outcome.after log)

theorem Sticks.unfinished : Sticks (· = .unfinished) where
  andThen := by
    rintro _ goOn rfl
    rfl
  after := by
    rintro _ log rfl
    rfl

theorem Sticks.faulted : Sticks fun outcome => ∃ fault log, outcome = .faulted fault log where
  andThen := by
    rintro _ goOn ⟨fault, log, rfl⟩
    exact ⟨fault, log, rfl⟩
  after := by
    rintro _ log ⟨fault, rest, rfl⟩
    exact ⟨fault, log ++ rest, rfl⟩

/-- Two runs that are the same unless the first sticks go on to runs of which that is true as well. -/
theorem Sticks.andThen_eq_or (hstuck : Sticks stuck) {outcome outcome' : Outcome Bool}
    {goOn goOn' : Bool → Cursor → Outcome Bool} {post : Bool → Cursor → Prop}
    (hfirst : outcome' = outcome ∨ stuck outcome) (hpost : outcome.Ensures allowed post)
    (hgoOn : ∀ can stop, post can stop → goOn' can stop = goOn can stop ∨ stuck (goOn can stop)) :
    outcome'.andThen goOn' = outcome.andThen goOn ∨ stuck (outcome.andThen goOn) := by
  rcases hfirst with rfl | hsticks
  · cases outcome' with
    | finished can stop log =>
        rw [Outcome.finished_andThen, Outcome.finished_andThen]
        rcases hgoOn can stop hpost with hsame | hsticks
        · exact .inl (by rw [hsame])
        · exact .inr (hstuck.after _ log hsticks)
    | faulted fault log => exact .inl rfl
    | unfinished => exact .inl rfl
  · exact .inr (hstuck.andThen outcome goOn hsticks)

theorem anyCan_eq_or_stuck (hstuck : Sticks stuck) {looks looks' : Rule → Looking}
    {alternatives : List Rule} {c : Cursor}
    (hlooks : ∀ rule ∈ alternatives, (looks rule c).Ensures allowed fun _ stop => stop = c)
    (hagree : ∀ rule ∈ alternatives, looks' rule c = looks rule c ∨ stuck (looks rule c)) :
    anyCan looks' alternatives c = anyCan looks alternatives c ∨ stuck (anyCan looks alternatives c) := by
  induction alternatives with
  | nil => exact .inl rfl
  | cons rule rules ih =>
      obtain ⟨hlook, hlooks⟩ := List.forall_mem_cons.1 hlooks
      obtain ⟨hfirst, hrest⟩ := List.forall_mem_cons.1 hagree
      rw [anyCan, anyCan]
      apply hstuck.andThen_eq_or hfirst hlook
      rintro can stop rfl
      split
      · exact .inl rfl
      · exact ih hlooks hrest

/-- Two grammars that differ in one cell give the same look ahead, unless it sticks in the first grammar,
where every look ahead for that cell does. -/
theorem mayMatchWithin_eq_or_stuck (hstuck : Sticks stuck) (hagree : AgreeBut cell g h)
    (hcell : ∀ other : Cell, other.id = cell.id → ∀ bound d,
      stuck (g.mayMatchWithin (bound + 1) (.ref other) d))
    (bound : Nat) (rule : Rule) (c : Cursor) :
    h.mayMatchWithin bound rule c = g.mayMatchWithin bound rule c ∨
      stuck (g.mayMatchWithin bound rule c) := by
  induction bound generalizing rule c with
  | zero => exact .inl rfl
  | succ bound ih =>
      cases rule with
      | terminal t => exact .inl rfl
      | named name body => exact ih body c
      | oneOrMore body => exact ih body c
      | zeroOrMore body => exact .inl rfl
      | optional body => exact .inl rfl
      | oneOf alternatives =>
          exact anyCan_eq_or_stuck hstuck (fun r _ => g.mayMatchWithin_ensures bound r c) fun r _ => ih r c
      | series spacing parts =>
          cases parts with
          | nil => exact .inl rfl
          | cons first others => exact ih first c
      | ref other =>
          by_cases hid : other.id = cell.id
          · exact .inr (hcell other hid bound c)
          · rw [mayMatchWithin, mayMatchWithin]
            cases hdef : g.definition? other with
            | some definition =>
                have hdef' : h.definition? other = some definition := (hagree other hid).trans hdef
                simp only [look, require_eq_ok hdef, require_eq_ok hdef']
                exact ih definition c
            | none =>
                have hdef' : h.definition? other = none := (hagree other hid).trans hdef
                exact .inl (by simp only [look, require_eq_error hdef, require_eq_error hdef'])

theorem mayMatch_eq_or_stuck (hstuck : Sticks stuck) (hagree : AgreeBut cell g h)
    (hcell : ∀ other : Cell, other.id = cell.id → ∀ bound d,
      stuck (g.mayMatchWithin (bound + 1) (.ref other) d))
    (rule : Rule) (c : Cursor) :
    h.mayMatch rule c = g.mayMatch rule c ∨ stuck (g.mayMatch rule c) := by
  have hg : g.mayMatchWithin (g.budget rule c + h.budget rule c) rule c = g.mayMatch rule c :=
    mayMatchWithin_eq_mayMatch (Nat.le_add_right _ _)
  have hh : h.mayMatchWithin (g.budget rule c + h.budget rule c) rule c = h.mayMatch rule c :=
    mayMatchWithin_eq_mayMatch (Nat.le_add_left _ _)
  rw [← hg, ← hh]
  exact mayMatchWithin_eq_or_stuck hstuck hagree hcell _ rule c

/-- If what a cell stands for matters to a look ahead, then the look ahead sticks wherever every look ahead
for the cell does. -/
theorem stuck_of_touches (hstuck : Sticks stuck) {rule : Rule} {c : Cursor}
    (htouch : Touches (fun g => g.mayMatch rule c) g cell) (definition : Option Rule)
    (hcell : ∀ other : Cell, other.id = cell.id → ∀ bound d,
      stuck ((g.redefine cell definition).mayMatchWithin (bound + 1) (.ref other) d)) :
    stuck ((g.redefine cell definition).mayMatch rule c) := by
  obtain ⟨changed, hdiffers⟩ := htouch
  by_contra hno
  have hsame : ∀ h, AgreeBut cell g h →
      h.mayMatch rule c = (g.redefine cell definition).mayMatch rule c := by
    intro h hagree
    have heither := mayMatch_eq_or_stuck hstuck (agreeBut_redefine hagree definition) hcell rule c
    exact heither.resolve_right hno
  have hbefore := hsame g fun _ _ => rfl
  have hafter := hsame (g.redefine cell changed) (agreeBut_self_redefine g cell changed)
  exact hdiffers (hafter.trans hbefore.symm)

theorem mayMatchWithin_ref_undefined (hdef : g.definition? cell = none) (bound : Nat) (c : Cursor) :
    g.mayMatchWithin (bound + 1) (.ref cell) c = .faulted (.undefinedRule cell.name) [] := by
  rw [mayMatchWithin, look, require_eq_error hdef]

/-- A cell that stands for itself is never answered. -/
theorem mayMatchWithin_ref_self
    (hdef : ∀ other : Cell, other.id = cell.id → g.definition? other = some (.ref cell)) (bound : Nat)
    {other : Cell} (hid : other.id = cell.id) (c : Cursor) :
    g.mayMatchWithin bound (.ref other) c = .unfinished := by
  induction bound generalizing other with
  | zero => rfl
  | succ bound ih =>
      rw [mayMatchWithin, look, require_eq_ok (hdef other hid)]
      exact ih rfl

/-- A match touches every cell that the look ahead for it touches. -/
theorem touches_of_mayMatch_touches {rule : Rule} {c : Cursor}
    (htouch : Touches (fun g => g.mayMatch rule c) g cell) :
    Touches (fun g => g.matchAt rule c) g cell := by
  have hloops : (g.redefine cell (some (.ref cell))).mayMatch rule c = .unfinished := by
    apply stuck_of_touches .unfinished htouch
    have hself : ∀ other : Cell, other.id = cell.id →
        (g.redefine cell (some (.ref cell))).definition? other = some (.ref cell) := by
      intro other hid
      rw [definition?_redefine, if_pos hid]
    intro other hid bound d
    exact mayMatchWithin_ref_self hself (bound + 1) hid d
  have hfaults : ∃ fault log, (g.redefine cell none).mayMatch rule c = .faulted fault log := by
    apply stuck_of_touches .faulted htouch
    intro other hid bound d
    have hnone : (g.redefine cell none).definition? other = none := by
      rw [definition?_redefine, if_pos hid]
    exact ⟨_, _, mayMatchWithin_ref_undefined hnone bound d⟩
  -- The match comes to the same as the look ahead in both grammars, so it is not the same in both.
  have hforetold := (g.redefine cell (some (.ref cell))).mayMatch_foretells rule c
  have hforetold' := (g.redefine cell none).mayMatch_foretells rule c
  obtain ⟨fault, log, hfaults⟩ := hfaults
  rw [hloops] at hforetold
  rw [hfaults] at hforetold'
  have hmatch := hforetold.eq_unfinished
  obtain ⟨log', hmatch'⟩ := hforetold'.exists_faulted
  by_contra hno
  have hsame : ∀ definition, (g.redefine cell definition).matchAt rule c = g.matchAt rule c := by
    simpa [Touches] using hno
  rw [hsame] at hmatch hmatch'
  rw [hmatch] at hmatch'
  simp at hmatch'

end Touching

/-! ## No match is missed -/

/-- Where a match finishes, the look ahead for it finishes as well, and with a yes if the rule matches.
Where the look ahead finishes with a no, the match fails.  Every cell that the look ahead touches is touched
by the match. -/
theorem looking_ahead_misses_no_match (g : Grammar) (rule : Rule) (c : Cursor) :
    (∀ verdict stop log, g.matchAt rule c = .finished verdict stop log →
      ∃ can stop' log', g.mayMatch rule c = .finished can stop' log' ∧
        (verdict.isOk = true → can = true)) ∧
    (∀ stop log, g.mayMatch rule c = .finished false stop log →
      ∃ failure stop' log', g.matchAt rule c = .finished (.error failure) stop' log') ∧
    ∀ cell, Touches (fun g => g.mayMatch rule c) g cell → Touches (fun g => g.matchAt rule c) g cell := by
  have hforetold := g.mayMatch_foretells rule c
  refine ⟨?_, ?_, fun cell => touches_of_mayMatch_touches⟩
  · intro verdict stop log hmatch
    rw [hmatch] at hforetold
    rcases hlook : g.mayMatch rule c with ⟨_ | _, stop', log'⟩ | ⟨fault, log'⟩ | _
    · rw [hlook] at hforetold
      obtain ⟨failure, _, _, herror⟩ := hforetold.exists_error
      obtain ⟨rfl, -, -⟩ := Outcome.finished.inj herror
      exact ⟨false, stop', log', rfl, fun hok => absurd hok (by simp [Except.isOk, Except.toBool])⟩
    · exact ⟨true, stop', log', rfl, fun _ => rfl⟩
    · rw [hlook] at hforetold
      exact hforetold.elim
    · rw [hlook] at hforetold
      exact hforetold.elim
  · intro stop log hlook
    rw [hlook] at hforetold
    exact hforetold.exists_error

/-- A bracketed list that matches is expected to match; a list that is not expected to match fails; and the
cell of a list is touched by the match of a list, because it is touched by the look ahead for it. -/
theorem looking_ahead_at_lists :
    (∃ stop log, WordLists.grammar.mayMatch WordLists.bracketed
        (Cursor.start ['(', 'a', ',', ' ', 'b', ')'] {}) = .finished true stop log) ∧
      (∃ failure stop log, WordLists.grammar.matchAt (.ref WordLists.list) (Cursor.start [')'] {})
        = .finished (.error failure) stop log) ∧
      Touches (fun g => g.matchAt (.ref WordLists.list) (Cursor.start ['a'] {})) WordLists.grammar
        WordLists.list := by
  have hreading : (WordLists.grammar.matchAt WordLists.bracketed
      (Cursor.start ['(', 'a', ',', ' ', 'b', ')'] {})).reading
        = .matched ['(', 'a', ',', ' ', 'b', ')'] 6 := by
    decide +kernel
  have hvalue : (WordLists.grammar.mayMatch (.ref WordLists.list) (Cursor.start [')'] {})).value?
      = some false := by
    decide +kernel
  refine ⟨?_, ?_, ?_⟩
  · obtain ⟨stop, log, hmatch, -⟩ := Outcome.reading_eq_matched_iff.1 hreading
    obtain ⟨can, stop', log', hlook, hcan⟩ :=
      (looking_ahead_misses_no_match WordLists.grammar WordLists.bracketed _).1 _ stop log hmatch
    obtain rfl : can = true := hcan rfl
    exact ⟨stop', log', hlook⟩
  · obtain ⟨stop, log, hlook⟩ := Outcome.value?_eq_some_iff.1 hvalue
    exact (looking_ahead_misses_no_match WordLists.grammar (.ref WordLists.list) _).2.1 stop log hlook
  · apply (looking_ahead_misses_no_match WordLists.grammar (.ref WordLists.list) _).2.2
    refine ⟨none, fun hsame => ?_⟩
    have hbefore : (WordLists.grammar.mayMatch (.ref WordLists.list) (Cursor.start ['a'] {})).value?
        = some true := by
      decide +kernel
    have hafter : ((WordLists.grammar.redefine WordLists.list none).mayMatch (.ref WordLists.list)
        (Cursor.start ['a'] {})).value? = none := by
      decide +kernel
    have hanswers := hafter.symm.trans ((congrArg Outcome.value? hsame).trans hbefore)
    simp at hanswers

end Grammar

end RuleMatch
