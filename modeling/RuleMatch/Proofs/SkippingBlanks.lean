import RuleMatch.Proofs.Passing

/-!
# Skipping blanks

To skip blanks is to read one blank after the other until a read fails (`ReadsBlanks`), unless the cursor is
pinned where it stands.  The pin is looked at once, before the first read, so either all of the blanks ahead are
passed or none is (`skipping_takes_all_blanks_or_none`).  What is passed is counted in characters; a blank is one
byte wide, so the cursor moves by the same number.

One read adds one blank to those that were passed (`PassesBlanks.cons`), and the read that fails shows that no
other follows.  So behind the blanks stands the character that could be seen past them before, and nothing more
is left to skip, wherever the pin is.
-/

namespace RuleMatch

theorem utf8Size_of_isBlank {ch : Char} (h : isBlank ch = true) : ch.utf8Size = 1 := by
  simp only [isBlank, Bool.or_eq_true, beq_iff_eq] at h
  rcases h with ((rfl | rfl) | rfl) | rfl <;> rfl

theorem Text.byteLength_of_blanks {blanks : Text} (h : ∀ ch ∈ blanks, isBlank ch = true) :
    byteLength blanks = blanks.length := by
  induction blanks with
  | nil => rfl
  | cons ch blanks ih =>
      rw [byteLength_cons, List.length_cons, utf8Size_of_isBlank (h ch List.mem_cons_self),
        ih fun later hlater => h later (List.mem_cons_of_mem ch hlater), Nat.add_comm]

namespace Cursor

variable {c next stop : Cursor} {count : Nat} {run : Text}

/-- Blanks are read one after the other, `count` of them, up to the first read that fails. -/
inductive ReadsBlanks : Cursor → Nat → Cursor → Prop
  | done {c : Cursor} {failure : ReadFailure} (h : c.readIf isBlank = .error failure) : ReadsBlanks c 0 c
  | blank {c next stop : Cursor} {ch : Char} {count : Nat} (h : c.readIf isBlank = .ok (ch, next))
      (rest : ReadsBlanks next count stop) : ReadsBlanks c (count + 1) stop

/-- The cursor passes `run`, which are blanks, and no blank comes after it. -/
structure PassesBlanks (c : Cursor) (run : Text) (stop : Cursor) : Prop where
  passes : c.Passes run stop
  blanks : ∀ ch ∈ run, isBlank ch = true
  no_blank : ∀ ch, stop.ahead.head? = some ch → isBlank ch = false

namespace PassesBlanks

/-- A blank that is read in front belongs to the blanks that are passed. -/
theorem cons {ch : Char} (h : c.readIf isBlank = .ok (ch, next)) (hrest : next.PassesBlanks run stop) :
    c.PassesBlanks (ch :: run) stop := by
  obtain ⟨hblank, hpass⟩ := readIf_eq_ok_iff.1 h
  refine ⟨hpass.trans hrest.passes, ?_, hrest.no_blank⟩
  intro later hlater
  rcases List.mem_cons.1 hlater with rfl | hmem
  · exact hblank
  · exact hrest.blanks later hmem

/-- A blank is one byte. -/
theorem offset_eq (h : c.PassesBlanks run stop) : stop.offset = c.offset + run.length := by
  rw [h.passes.offset_eq, Text.byteLength_of_blanks h.blanks]

/-- What comes next behind the blanks could be seen in front of them. -/
theorem peek?_eq (h : c.PassesBlanks run stop) : stop.peek? = c.peekPastBlanks? := by
  have hrun : run.find? (!isBlank ·) = none := by
    apply List.find?_eq_none.2
    intro ch hch
    simp [h.blanks ch hch]
  rw [peekPastBlanks?, h.passes.ahead_eq, List.find?_append, hrun, Option.none_or, peek?]
  cases hahead : stop.ahead with
  | nil => rfl
  | cons ch ahead =>
      have hno : isBlank ch = false := h.no_blank ch (by rw [hahead, List.head?_cons])
      rw [List.head?_cons, List.find?_cons_of_pos (by rw [hno, Bool.not_false])]

end PassesBlanks

/-- Each read adds one blank to those that were passed, and the read that fails shows that no other follows. -/
theorem ReadsBlanks.exists_passesBlanks (h : c.ReadsBlanks count stop) :
    ∃ run : Text, run.length = count ∧ c.PassesBlanks run stop := by
  induction h with
  | @done c failure herror =>
      have hnone := exists_readIf_eq_error_iff.1 ⟨failure, herror⟩
      exact ⟨[], rfl, Passes.refl c, List.forall_mem_nil _, hnone⟩
  | @blank c next stop ch count hread rest ih =>
      obtain ⟨run, hcount, hrun⟩ := ih
      exact ⟨ch :: run, congrArg (· + 1) hcount, hrun.cons hread⟩

theorem readsBlanks_passBlanks {ahead : Text} (h : c.ahead = ahead) :
    c.ReadsBlanks (c.passBlanks ahead).1 (c.passBlanks ahead).2 := by
  induction ahead generalizing c with
  | nil => exact .done (readIf_of_nil h isBlank)
  | cons ch ahead ih =>
      have hread := readIf_of_cons h isBlank
      rw [passBlanks]
      split at hread
      · next hblank =>
          rw [if_pos hblank]
          exact .blank hread (ih rfl)
      · next hblank =>
          rw [if_neg hblank]
          exact .done hread

/-- A pin further on is not looked at. -/
theorem readsBlanks_skipBlanks (h : c.pinned ≠ some c.offset) :
    c.ReadsBlanks c.skipBlanks.1 c.skipBlanks.2 := by
  have hskip : c.maySkip = true := bne_iff_ne.2 h
  rw [skipBlanks, if_pos hskip]
  exact readsBlanks_passBlanks rfl

/-- A cursor that is pinned where it stands skips nothing.  Any other reads one blank after the other up to the first
read that fails: it passes the longest run of blanks, moves by as many bytes as it counts characters, keeps
its text, its pin and its settings, and comes to the character that a peek past the blanks showed before.
In either case, and wherever a pin lies, a second skip counts nothing and leaves the cursor as it is. -/
theorem skipping_takes_all_blanks_or_none (c : Cursor) :
    (c.pinned = some c.offset → c.skipBlanks = (0, c)) ∧
      (c.pinned ≠ some c.offset →
        ∃ run stop, c.skipBlanks = (run.length, stop) ∧ c.ReadsBlanks run.length stop ∧
          SameFrame c stop ∧ c.ahead = run ++ stop.ahead ∧
          (∀ ch ∈ run, isBlank ch = true) ∧
          (∀ ch, stop.ahead.head? = some ch → isBlank ch = false) ∧
          stop.offset = c.offset + run.length ∧
          stop.peek? = c.peekPastBlanks?) ∧
      c.skipBlanks.2.skipBlanks = (0, c.skipBlanks.2) := by
  refine ⟨?_, ?_, c.skipBlanks_skipBlanks⟩
  · intro hpinned
    exact skipBlanks_of_gap_eq_nil (gap_of_pinned hpinned)
  · intro hpinned
    have hreads := readsBlanks_skipBlanks hpinned
    obtain ⟨run, hcount, hrun⟩ := hreads.exists_passesBlanks
    refine ⟨run, c.skipBlanks.2, ?_, ?_, hrun.passes.frame, hrun.passes.ahead_eq, hrun.blanks, hrun.no_blank,
      hrun.offset_eq, hrun.peek?_eq⟩
    · rw [hcount]
    · rw [hcount]
      exact hreads

/-- In front of three blanks and a letter of two bytes, with a pin. -/
def beforeBlanks (pinned : Option Nat) : Cursor :=
  (start [' ', '\t', '\n', 'é'] {}).repin pinned

/-- A pin among the blanks or behind the last of them does not hold the cursor back; one in front of them does. -/
theorem pins_among_blanks :
    (∃ stop, (beforeBlanks (some 1)).skipBlanks = (3, stop) ∧ stop.offset = 3 ∧ stop.peek? = some 'é' ∧
      stop.skipBlanks = (0, stop)) ∧
    (∃ stop, (beforeBlanks (some 3)).skipBlanks = (3, stop) ∧ stop.offset = 3 ∧ stop.peek? = some 'é' ∧
      stop.skipBlanks = (0, stop)) ∧
    (beforeBlanks (some 0)).skipBlanks = (0, beforeBlanks (some 0)) := by
  obtain ⟨-, hamong, hagain⟩ := skipping_takes_all_blanks_or_none (beforeBlanks (some 1))
  obtain ⟨-, hbehind, hagain'⟩ := skipping_takes_all_blanks_or_none (beforeBlanks (some 3))
  obtain ⟨hfront, -⟩ := skipping_takes_all_blanks_or_none (beforeBlanks (some 0))
  refine ⟨?_, ?_, hfront rfl⟩
  · obtain ⟨run, stop, hskip, -, -, -, -, -, hoffset, hpeek⟩ := hamong (by decide)
    have hrun : 3 = run.length := congrArg Prod.fst hskip
    rw [hskip] at hagain
    rw [← hrun] at hskip hoffset
    exact ⟨stop, hskip, hoffset, hpeek, hagain⟩
  · obtain ⟨run, stop, hskip, -, -, -, -, -, hoffset, hpeek⟩ := hbehind (by decide)
    have hrun : 3 = run.length := congrArg Prod.fst hskip
    rw [hskip] at hagain'
    rw [← hrun] at hskip hoffset
    exact ⟨stop, hskip, hoffset, hpeek, hagain'⟩

end Cursor

end RuleMatch
