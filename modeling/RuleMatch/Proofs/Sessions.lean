import RuleMatch.Match.Operation
import RuleMatch.Proofs.Calls
import RuleMatch.Proofs.WordLists

/-!
# Sessions

A session is a list of operations on one cursor, each with the grammar that its rules are to be read in.  The
marks and pins that a session hands over need not come from its own text: any number will do.

Whatever is done, the cursor that is left stands in the text that it was made for (`performAll_ensures`).  So
the byte of its offset is one at which the text can be cut, and what lies ahead of the cursor is the second
half (`Cursor.splitAt_offset`).  An operation that goes by nothing but this half meets no fault
(`perform_of_isLocal`), and of the two that are given a mark it can be said which marks they refuse.
-/

namespace RuleMatch

namespace Text

/-! ## Cutting a text in two -/

/-- The two halves of a text around a byte, if no character lies across it. -/
def splitAt? : (n : Nat) → Text → Option (Text × Text)
  | 0, text => some ([], text)
  | _ + 1, [] => none
  | n + 1, ch :: text =>
      if ch.utf8Size ≤ n + 1 then
        (splitAt? (n + 1 - ch.utf8Size) text).map fun halves => (ch :: halves.1, halves.2)
      else none

theorem splitAt?_append (before after : Text) :
    splitAt? (byteLength before) (before ++ after) = some (before, after) := by
  induction before with
  | nil => simp [splitAt?]
  | cons ch before ih =>
      have hpos := ch.utf8Size_pos
      obtain ⟨n, hn⟩ : ∃ n, byteLength (ch :: before) = n + 1 :=
        ⟨ch.utf8Size + byteLength before - 1, by rw [byteLength_cons]; omega⟩
      have hfits : ch.utf8Size ≤ n + 1 := by
        rw [← hn, byteLength_cons]
        omega
      have hrest : n + 1 - ch.utf8Size = byteLength before := by
        rw [← hn, byteLength_cons, Nat.add_sub_cancel_left]
      rw [hn, List.cons_append, splitAt?, if_pos hfits, hrest, ih]
      rfl

theorem append_of_splitAt? {n : Nat} {text before after : Text}
    (h : splitAt? n text = some (before, after)) : text = before ++ after ∧ byteLength before = n := by
  induction text generalizing n before with
  | nil =>
      cases n with
      | zero =>
          simp only [splitAt?, Option.some.injEq, Prod.mk.injEq] at h
          obtain ⟨rfl, rfl⟩ := h
          exact ⟨rfl, rfl⟩
      | succ n => simp [splitAt?] at h
  | cons ch text ih =>
      cases n with
      | zero =>
          simp only [splitAt?, Option.some.injEq, Prod.mk.injEq] at h
          obtain ⟨rfl, rfl⟩ := h
          exact ⟨rfl, rfl⟩
      | succ n =>
          simp only [splitAt?] at h
          split at h
          · next hfits =>
              simp only [Option.map_eq_some_iff, Prod.mk.injEq] at h
              obtain ⟨⟨before, rest⟩, hsplit, rfl, rfl⟩ := h
              obtain ⟨rfl, hwidth⟩ := ih hsplit
              refine ⟨rfl, ?_⟩
              rw [byteLength_cons, hwidth]
              omega
          · simp at h

/-- A text can be cut at its boundaries and nowhere else. -/
theorem isSome_splitAt?_iff {n : Nat} {text : Text} :
    (splitAt? n text).isSome = true ↔ IsBoundary n text := by
  constructor
  · intro h
    obtain ⟨⟨before, after⟩, hsplit⟩ := Option.isSome_iff_exists.1 h
    obtain ⟨htext, hwidth⟩ := append_of_splitAt? hsplit
    exact ⟨before, after, htext, hwidth⟩
  · rintro ⟨before, after, rfl, rfl⟩
    rw [splitAt?_append]
    rfl

instance (n : Nat) (text : Text) : Decidable (IsBoundary n text) :=
  decidable_of_iff _ isSome_splitAt?_iff

end Text

namespace Cursor

theorem splitAt_offset (c : Cursor) : Text.splitAt? c.offset c.input = some (c.behind.reverse, c.ahead) := by
  rw [← c.byteLength_reverse_behind, input, Text.splitAt?_append]

/-- No more can be added to the offset by passing what lies ahead than the text is wide. -/
theorem offset_add_take_le (c : Cursor) (count : Nat) :
    c.offset + Text.byteLength (c.ahead.take count) ≤ Text.byteLength c.input := by
  have hahead : Text.byteLength c.ahead
      = Text.byteLength (c.ahead.take count) + Text.byteLength (c.ahead.drop count) := by
    rw [← Text.byteLength_append, List.take_append_drop]
  rw [c.byteLength_input, hahead]
  omega

/-- Two cursors in the same text, with the same settings and any pins. -/
structure SameText (c d : Cursor) : Prop where
  input_eq : d.input = c.input
  settings_eq : d.settings = c.settings

namespace SameText

variable {c d e : Cursor}

theorem refl (c : Cursor) : c.SameText c := ⟨rfl, rfl⟩

theorem trans (h : c.SameText d) (h' : d.SameText e) : c.SameText e :=
  ⟨h'.input_eq.trans h.input_eq, h'.settings_eq.trans h.settings_eq⟩

end SameText

theorem SameFrame.sameText {c d : Cursor} (h : SameFrame c d) : c.SameText d :=
  ⟨h.input_eq, h.settings_eq⟩

/-- The cursor `stop` is in the text of `c`, and not before it. -/
def GoesOnTo (c stop : Cursor) : Prop :=
  c.SameText stop ∧ c.offset ≤ stop.offset

theorem GoesOnTo.refl (c : Cursor) : c.GoesOnTo c :=
  ⟨SameText.refl c, Nat.le_refl _⟩

theorem Passes.goesOnTo {c stop : Cursor} {run : Text} (h : c.Passes run stop) : c.GoesOnTo stop :=
  ⟨h.frame.sameText, h.offset_le⟩

end Cursor

namespace Operation

/-! ## Single operations -/

/-- Whether an operation goes by nothing but what lies ahead: it is given neither a mark nor a rule. -/
def isLocal : Operation → Bool
  | .moveTo _ | .textFrom _ => false
  | .mayMatch _ | .mayMatchCell _ | .matchRule _ | .matchCell _ => false
  | _ => true

/-- A read that passes what it read is finished, and so is one that failed. -/
theorem finished_ofRead {α : Type} {c : Cursor} {read : Except ReadFailure (α × Cursor)}
    (h : ∀ value stop, read = .ok (value, stop) → ∃ run, c.Passes run stop) :
    ∃ answer stop, ofRead c read = .finished answer stop [] ∧ c.GoesOnTo stop := by
  cases read with
  | ok moved =>
      obtain ⟨value, stop⟩ := moved
      obtain ⟨run, hrun⟩ := h value stop rfl
      exact ⟨.ok value, stop, rfl, hrun.goesOnTo⟩
  | error failure => exact ⟨.error failure, c, rfl, Cursor.GoesOnTo.refl c⟩

/-- An operation that goes by what lies ahead meets no fault, writes no log and does not go back. -/
theorem perform_of_isLocal {operation : Operation} (h : operation.isLocal = true) (g : Grammar)
    (c : Cursor) :
    ∃ answer stop, operation.perform g c = .finished answer stop [] ∧ c.GoesOnTo stop := by
  cases operation with
  | peek | peekAt _ | peekPastBlanks | startsWith _ | mark =>
      exact ⟨_, c, rfl, Cursor.GoesOnTo.refl c⟩
  | advance count =>
      apply finished_ofRead
      intro value stop hread
      cases hadvance : c.advance count with
      | ok moved =>
          obtain rfl : moved = stop := by simpa [hadvance, Except.map] using hread
          exact ⟨_, Cursor.passes_advance hadvance⟩
      | error failure => simp [hadvance, Except.map] at hread
  | read =>
      apply finished_ofRead
      intro ch stop hread
      exact ⟨[ch], (Cursor.readIf_eq_ok_iff.1 hread).2⟩
  | readIf accepts =>
      apply finished_ofRead
      intro ch stop hread
      exact ⟨[ch], (Cursor.readIf_eq_ok_iff.1 hread).2⟩
  | pin => exact ⟨_, c.pin, rfl, ⟨rfl, rfl⟩, Nat.le_refl _⟩
  | repin previous => exact ⟨_, c.repin previous, rfl, ⟨rfl, rfl⟩, Nat.le_refl _⟩
  | skipBlanks => exact ⟨_, _, rfl, (Cursor.passes_skipBlanks c).goesOnTo⟩
  | moveTo _ | textFrom _ | mayMatch _ | mayMatchCell _ | matchRule _ | matchCell _ =>
      simp [isLocal] at h

/-- A match stays in the text, wherever it ends. -/
theorem matchAt_ensures_sameText (g : Grammar) (rule : Rule) (c : Cursor) :
    (g.matchAt rule c).Ensures (fun _ => True) fun _ stop => c.SameText stop := by
  apply ((g.matchAt rule c).ensures_true.and (g.matchAt_ensures rule c)).mono
  intro verdict stop hanswer
  exact hanswer.2.attempts.sameFrame.sameText

theorem mayMatch_ensures_sameText (g : Grammar) (rule : Rule) (c : Cursor) :
    (g.mayMatch rule c).Ensures (fun _ => True) fun _ stop => c.SameText stop := by
  apply ((g.mayMatch rule c).ensures_true.and (g.mayMatch_ensures rule c)).mono
  intro can stop hstay
  rw [hstay.2]
  exact Cursor.SameText.refl c

/-- No operation takes the cursor out of its text. -/
theorem perform_ensures (operation : Operation) (g : Grammar) (c : Cursor) :
    (operation.perform g c).Ensures (fun _ => True) fun _ stop => c.SameText stop := by
  by_cases hlocal : operation.isLocal = true
  · obtain ⟨answer, stop, hperform, hstop, -⟩ := perform_of_isLocal hlocal g c
    rw [hperform]
    exact hstop
  cases operation with
  | moveTo target =>
      rw [perform]
      cases hmove : c.moveTo target with
      | ok stop => exact (Cursor.sameFrame_moveTo hmove).1.sameText
      | error fault => exact trivial
  | textFrom start =>
      rw [perform]
      cases c.textFrom start with
      | ok text => exact Cursor.SameText.refl c
      | error fault => exact trivial
  | mayMatch rule => exact mayMatch_ensures_sameText g rule c
  | matchRule rule => exact matchAt_ensures_sameText g rule c
  | mayMatchCell cell =>
      rw [perform, Grammar.mayMatchCell]
      cases g.require cell with
      | ok rule => exact mayMatch_ensures_sameText g rule c
      | error fault => exact trivial
  | matchCell cell =>
      rw [perform, Grammar.matchCellAt]
      cases g.require cell with
      | ok rule => exact matchAt_ensures_sameText g rule c
      | error fault => exact trivial
  | _ => exact absurd rfl hlocal

/-- The marks that a cursor cannot be moved to are those at no boundary of its input. -/
theorem moveTo_faults_iff (g : Grammar) (c : Cursor) (target : Nat) :
    (∃ fault log, (moveTo target).perform g c = .faulted fault log) ↔
      ¬ Text.IsBoundary target c.input := by
  rw [← Cursor.moveTo_eq_error_iff, perform]
  cases hmove : c.moveTo target with
  | ok stop => simp [Outcome.reaching]
  | error fault => simp [Outcome.reaching, Cursor.fault_of_moveTo hmove]

/-- The marks from which no text can be cut out are those ahead and those at no boundary of the input. -/
theorem textFrom_faults_iff (g : Grammar) (c : Cursor) (start : Nat) :
    (∃ fault log, (textFrom start).perform g c = .faulted fault log) ↔
      c.offset < start ∨ ¬ Text.IsBoundary start c.input := by
  rw [← Cursor.textFrom_eq_error_iff, perform]
  cases hcut : c.textFrom start with
  | ok text => simp
  | error fault => simp [Cursor.fault_of_textFrom hcut]

/-! ## Sessions -/

/-- Does one operation after the other, each with a grammar of its own. -/
def performAll : List (Grammar × Operation) → Cursor → Outcome Unit
  | [], c => .finished () c []
  | (g, operation) :: session, c =>
      (operation.perform g c).andThen fun _ stop => performAll session stop

/-- A session keeps the cursor in the text that it started in. -/
theorem performAll_ensures (session : List (Grammar × Operation)) (c : Cursor) :
    (performAll session c).Ensures (fun _ => True) fun _ stop => c.SameText stop := by
  induction session generalizing c with
  | nil => exact Cursor.SameText.refl c
  | cons step session ih =>
      obtain ⟨g, operation⟩ := step
      apply (perform_ensures operation g c).andThen
      intro answer stop hstop
      apply (ih stop).mono
      intro _ last hlast
      exact hstop.trans hlast

/-- Whatever was done with a cursor, as long as no fault was met: the cursor stands between two characters of
the text that it was made for, with the settings that it was made with, and what lies ahead of it is what the
text has from its offset on.  So an operation that goes by what lies ahead is finished, and neither the offset
that it comes to nor any that it counts up to on the way is beyond the end of the text.  A move is refused
exactly at the marks that are no boundaries of the text, and a cut at these and at those ahead. -/
theorem session_stays_in_its_text {input : Text} {settings : Settings}
    {session : List (Grammar × Operation)} {c : Cursor} {log : List Event}
    (h : performAll session (Cursor.start input settings) = .finished () c log) :
    (c.input = input ∧ c.settings = settings) ∧
      (c.offset ≤ Text.byteLength input ∧ Text.IsBoundary c.offset input) ∧
      Text.splitAt? c.offset input = some (c.behind.reverse, c.ahead) ∧
      (∀ count, c.offset + Text.byteLength (c.ahead.take count) ≤ Text.byteLength input) ∧
      (∀ g (operation : Operation), operation.isLocal = true →
        ∃ answer stop, operation.perform g c = .finished answer stop [] ∧
          c.offset ≤ stop.offset ∧ stop.offset ≤ Text.byteLength input) ∧
      (∀ g mark, (∃ fault log, (moveTo mark).perform g c = .faulted fault log) ↔
        ¬ Text.IsBoundary mark input) ∧
      ∀ g mark, (∃ fault log, (textFrom mark).perform g c = .faulted fault log) ↔
        c.offset < mark ∨ ¬ Text.IsBoundary mark input := by
  have hsame : (Cursor.start input settings).SameText c := by
    have hensures := performAll_ensures session (Cursor.start input settings)
    rw [h] at hensures
    exact hensures
  have hinput : c.input = input := hsame.input_eq
  have hlocal : ∀ g (operation : Operation), operation.isLocal = true →
      ∃ answer stop, operation.perform g c = .finished answer stop [] ∧
        c.offset ≤ stop.offset ∧ stop.offset ≤ Text.byteLength c.input := by
    intro g operation hoperation
    obtain ⟨answer, stop, hperform, hstop, hforth⟩ := perform_of_isLocal hoperation g c
    have hinside : stop.offset ≤ Text.byteLength c.input := by
      rw [← hstop.input_eq]
      exact stop.offset_le_byteLength
    exact ⟨answer, stop, hperform, hforth, hinside⟩
  subst hinput
  exact ⟨⟨rfl, hsame.settings_eq⟩, ⟨c.offset_le_byteLength, c.isBoundary_offset⟩, c.splitAt_offset,
    c.offset_add_take_le, hlocal, fun g => moveTo_faults_iff g c, fun g => textFrom_faults_iff g c⟩

/-- A session with a pin in the middle of a character, a step far beyond the end of the text, a match of a
list and a move to a mark that the session never took. -/
def strayingSession : List (Grammar × Operation) :=
  [({}, .repin (some 2)), ({}, .advance 18446744073709551615),
    (WordLists.grammar, .matchRule WordLists.bracketed), ({}, .moveTo 3), ({}, .textFrom 1),
    ({}, .advance 2), ({}, .skipBlanks)]

/-- After a straying session over a list with a wide letter the cursor still reads on, and it refuses a mark
within that letter and no mark beside it. -/
theorem straying_session_stays :
    ∃ c log, performAll strayingSession (Cursor.start ['(', 'é', ',', ' ', 'b', ')'] {})
        = .finished () c log ∧
      c.input = ['(', 'é', ',', ' ', 'b', ')'] ∧ c.offset ≤ 7 ∧
      (∃ answer stop, (advance 18446744073709551615).perform {} c = .finished answer stop [] ∧
        stop.offset ≤ 7) ∧
      (∃ fault log, (moveTo 2).perform {} c = .faulted fault log) ∧
      (¬ ∃ fault log, (moveTo 3).perform {} c = .faulted fault log) ∧
      ∃ fault log, (textFrom 2).perform {} c = .faulted fault log := by
  have hvalue : (performAll strayingSession (Cursor.start ['(', 'é', ',', ' ', 'b', ')'] {})).value?
      = some () := by
    decide +kernel
  obtain ⟨c, log, hrun⟩ := Outcome.value?_eq_some_iff.1 hvalue
  obtain ⟨⟨hinput, -⟩, ⟨hinside, -⟩, -, -, hlocal, hmove, hcut⟩ := session_stays_in_its_text hrun
  obtain ⟨answer, stop, hadvance, -, hstop⟩ := hlocal {} (advance 18446744073709551615) rfl
  refine ⟨c, log, hrun, hinput, hinside, ⟨answer, stop, hadvance, hstop⟩, ?_, ?_, ?_⟩
  · exact (hmove {} 2).2 (by decide +kernel)
  · exact fun hfaulted => (hmove {} 3).1 hfaulted (by decide +kernel)
  · exact (hcut {} 2).2 (.inr (by decide +kernel))

end Operation

end RuleMatch
