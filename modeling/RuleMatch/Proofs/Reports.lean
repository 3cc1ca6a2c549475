import RuleMatch.Proofs.Calls
import RuleMatch.Proofs.Evaluation
import RuleMatch.Rule.Combine

/-!
# Failures tell the truth

A failure says at which offset it was met and what stood there.  By the time it is reported the cursor is
back at the start, and the failure may be wrapped in those of the series around it.  Still, what it says is
true of the text (`failure_tells_truth`): its offset is a boundary of the input, not before the start, and
the innermost failure describes the text there.

While a match goes on, a failure is met by a cursor (`Failure.MetAt`), and that cursor is the one where the
match started after some text (`Reports`).  Terminals report where they read, repetitions and choices where
they start, and a series reports what one of its parts does, further on.
-/

namespace RuleMatch

namespace Text

/-- `found` is the front of `ahead` up to the first blank that has at least `count` characters before it, or
all of `ahead` if there is no such blank. -/
structure IsContext (count : Nat) (found ahead : Text) : Prop where
  front : found <+: ahead
  no_blank : ∀ i ch, count ≤ i → found[i]? = some ch → isBlank ch = false
  up_to_blank : ∀ ch, ahead[found.length]? = some ch → count ≤ found.length ∧ isBlank ch = true

namespace IsContext

variable {count : Nat} {found ahead : Text} {ch : Char}

theorem nil (count : Nat) : IsContext count [] [] :=
  ⟨List.prefix_rfl, by simp, by simp⟩

theorem of_blank (h : isBlank ch = true) (ahead : Text) : IsContext 0 [] (ch :: ahead) := by
  refine ⟨List.nil_prefix, by simp, ?_⟩
  intro first hfirst
  obtain rfl : ch = first := by simpa using hfirst
  exact ⟨Nat.le_refl 0, h⟩

/-- One more character in front, which is no blank unless it is one of the characters that are wanted
anyway. -/
theorem cons (h : IsContext (count - 1) found ahead) (hch : count = 0 → isBlank ch = false) :
    IsContext count (ch :: found) (ch :: ahead) := by
  refine ⟨List.cons_prefix_cons.2 ⟨rfl, h.front⟩, ?_, ?_⟩
  · intro i later hi hlater
    cases i with
    | zero =>
        obtain rfl : ch = later := by simpa using hlater
        exact hch (Nat.le_zero.1 hi)
    | succ i => exact h.no_blank i later (by omega) (by simpa using hlater)
  · intro first hfirst
    obtain ⟨hcount, hblank⟩ := h.up_to_blank first (by simpa using hfirst)
    refine ⟨?_, hblank⟩
    rw [List.length_cons]
    omega

end IsContext

/-- That many characters, and whatever follows them up to the next blank. -/
theorem isContext_take_append (count : Nat) (ahead : Text) :
    IsContext count (ahead.take count ++ (ahead.drop count).takeWhile (!isBlank ·)) ahead := by
  induction ahead generalizing count with
  | nil => simpa using IsContext.nil count
  | cons ch ahead ih =>
      cases count with
      | zero =>
          by_cases hblank : isBlank ch = true
          · simpa [List.takeWhile_cons, hblank] using IsContext.of_blank hblank ahead
          · have hrest : IsContext (0 - 1) (ahead.takeWhile (!isBlank ·)) ahead := by simpa using ih 0
            have hcons := hrest.cons fun _ => by simpa using hblank
            simpa [List.takeWhile_cons, hblank] using hcons
      | succ count =>
          have hrest : IsContext (count + 1 - 1) _ ahead := ih count
          exact hrest.cons fun hzero => absurd hzero (Nat.succ_ne_zero count)

end Text

/-! ## What is met and what is said -/

namespace Failure

/-- The failure was met where the cursor stands, and describes what lies ahead. -/
def MetAt (d : Cursor) : Failure → Prop
  | .endOfInput _ offset => offset = d.offset ∧ d.ahead = []
  | .wrongChar _ found offset => offset = d.offset ∧ d.ahead.head? = some found
  | .wrongKeyword expected found offset => offset = d.offset ∧ found = d.context expected.toList.length
  | .noneRepeated _ offset => offset = d.offset
  | .noAlternative _ offset => offset = d.offset
  | .partFailed _ cause => cause.MetAt d
  | .undefinedRule _ => False

/-- What the failure says of a text is true at an offset of it. -/
def TrueAt (input : Text) (offset : Nat) : Failure → Prop
  | .endOfInput _ _ => offset = Text.byteLength input
  | .wrongChar _ found _ => (Text.dropBytes offset input).head? = some found
  | .wrongKeyword expected found _ =>
      if offset = Text.byteLength input then found = "end of input"
      else Text.IsContext expected.toList.length found.toList (Text.dropBytes offset input)
  | .noneRepeated _ _ => True
  | .noAlternative _ _ => True
  | .partFailed _ cause => cause.TrueAt input offset
  | .undefinedRule _ => False

variable {failure : Failure} {d : Cursor}

/-- A pin makes no difference to what lies ahead. -/
theorem MetAt.repin (h : failure.MetAt d) (previous : Option Nat) : failure.MetAt (d.repin previous) := by
  induction failure with
  | partFailed index cause ih => exact ih h
  | _ => exact h

theorem MetAt.offset?_eq (h : failure.MetAt d) : failure.offset? = some d.offset := by
  induction failure with
  | endOfInput expected offset => exact congrArg some h.1
  | wrongChar expected found offset => exact congrArg some h.1
  | wrongKeyword expected found offset => exact congrArg some h.1
  | noneRepeated rule offset => exact congrArg some h
  | noAlternative tried offset => exact congrArg some h
  | partFailed index cause ih => exact ih h
  | undefinedRule name => exact h.elim

theorem MetAt.innermost (h : failure.MetAt d) : failure.innermost.MetAt d := by
  induction failure with
  | partFailed index cause ih => exact ih h
  | _ => exact h

/-- Neither a failure that was met nor one inside it is about a cell. -/
theorem MetAt.ne_undefinedRule (h : failure.MetAt d) {inside : Failure}
    (hinside : inside ∈ failure :: failure.inner) (name : String) : inside ≠ .undefinedRule name := by
  induction failure with
  | partFailed index cause ih =>
      rcases List.mem_cons.1 hinside with rfl | hinner
      · simp
      · exact ih h hinner
  | undefinedRule name' => exact h.elim
  | _ =>
      obtain rfl : inside = _ := by simpa [inner] using hinside
      simp

theorem MetAt.trueAt (h : failure.MetAt d) : failure.TrueAt d.input d.offset := by
  have hend : d.offset = Text.byteLength d.input ↔ d.ahead = [] := by
    rw [d.byteLength_input, ← Text.byteLength_eq_zero]
    omega
  induction failure with
  | endOfInput expected offset => exact hend.2 h.2
  | wrongChar expected found offset =>
      show (Text.dropBytes d.offset d.input).head? = some found
      rw [d.dropBytes_input]
      exact h.2
  | wrongKeyword expected found offset =>
      obtain ⟨-, rfl⟩ := h
      show if d.offset = Text.byteLength d.input then d.context expected.toList.length = "end of input"
        else Text.IsContext expected.toList.length (d.context expected.toList.length).toList
          (Text.dropBytes d.offset d.input)
      rw [d.dropBytes_input]
      by_cases hahead : d.ahead = []
      · rw [if_pos (hend.2 hahead)]
        simp [Cursor.context, Cursor.atEnd, hahead]
      · have hcontext : (d.context expected.toList.length).toList
            = d.ahead.take expected.toList.length
              ++ (d.ahead.drop expected.toList.length).takeWhile (!isBlank ·) := by
          simp [Cursor.context, Cursor.atEnd, hahead]
        rw [if_neg (fun hoffset => hahead (hend.1 hoffset)), hcontext]
        exact Text.isContext_take_append _ d.ahead
  | noneRepeated rule offset => exact trivial
  | noAlternative tried offset => exact trivial
  | partFailed index cause ih => exact ih h
  | undefinedRule name => exact h.elim

end Failure

/-- Whatever failure is answered was met at some place from `c` on. -/
def Reports (c : Cursor) (verdict : Verdict) : Prop :=
  match verdict with
  | .ok _ => True
  | .error failure => ∃ d run, c.Passes run d ∧ failure.MetAt d

theorem Reports.of_passes {c d : Cursor} {run : Text} {verdict : Verdict} (hrun : c.Passes run d)
    (h : Reports d verdict) : Reports c verdict := by
  cases verdict with
  | ok text => exact trivial
  | error failure =>
      obtain ⟨e, more, hmore, hmet⟩ := h
      exact ⟨e, run ++ more, hrun.trans hmore, hmet⟩

theorem Reports.of_pin {c : Cursor} {verdict : Verdict} (h : Reports c.pin verdict) : Reports c verdict := by
  cases verdict with
  | ok text => exact trivial
  | error failure =>
      obtain ⟨d, run, hrun, hmet⟩ := h
      exact ⟨d.repin c.pinned, run, hrun.of_pin, hmet.repin c.pinned⟩

theorem Reports.of_met {c : Cursor} {failure : Failure} (h : failure.MetAt c) :
    Reports c (.error failure) :=
  ⟨c, [], Cursor.Passes.refl c, h⟩

/-! ## Terminals -/

theorem Cursor.readChar_reports (c : Cursor) (expected : String) (accepts : Char → Bool) :
    Reports c (c.readChar expected accepts).1 := by
  unfold readChar readIf
  cases hahead : c.ahead with
  | nil => exact Reports.of_met ⟨rfl, hahead⟩
  | cons ch ahead =>
      by_cases haccepts : accepts ch = true
      · simp only [haccepts, if_true]
        exact trivial
      · simp only [haccepts]
        exact Reports.of_met ⟨rfl, by rw [hahead]; rfl⟩

/-- A keyword that stands ahead can be passed, so what is refused is refused for the text ahead. -/
theorem Cursor.readKeyword_reports (c : Cursor) (keyword : String) :
    Reports c (c.readKeyword keyword).1 := by
  have hrefused : Reports c (.error (.wrongKeyword keyword (c.context keyword.toList.length) c.offset)) :=
    Reports.of_met ⟨rfl, rfl⟩
  unfold readKeyword
  dsimp only
  split
  · next hstarts =>
      obtain ⟨rest, hrest⟩ := List.isPrefixOf_iff_prefix.1 hstarts
      obtain ⟨stop, hadvance, -⟩ := advance_of_append hrest.symm
      rw [hadvance]
      dsimp only
      split
      · exact hrefused
      · exact trivial
  · exact hrefused

theorem Terminal.read_reports (terminal : Terminal) (c : Cursor) : Reports c (terminal.read c).1 := by
  have hblanks := Cursor.passes_skipBlanks c
  cases terminal with
  | digit => exact c.readChar_reports _ _
  | letter => exact c.readChar_reports _ _
  | blank => exact c.readChar_reports _ _
  | char ch => exact (c.skipBlanks.2.readChar_reports _ _).of_passes hblanks
  | keyword keyword => exact (c.skipBlanks.2.readKeyword_reports keyword).of_passes hblanks

/-! ## Constructs -/

section Constructs

variable {self : Rule → Matching} {allowed : Fault → Prop}

/-- A repetition of no match reports where it starts. -/
theorem matchOneOrMore_reports {body : Rule} (hself : ∀ c, (self body c).Ensures allowed (Answers c))
    (bound : Nat) (c : Cursor) :
    (matchOneOrMore self bound body c).Ensures allowed fun verdict _ => Reports c verdict := by
  refine (repeated_ensures hself bound c).andThen ?_
  rintro count stop ⟨run, hrun⟩
  by_cases hcount : count = 0
  · rw [if_pos hcount]
    exact Reports.of_met rfl
  · rw [if_neg hcount, Matching.upTo_offset hrun]
    exact trivial

theorem matchZeroOrMore_reports {body : Rule} (hself : ∀ c, (self body c).Ensures allowed (Answers c))
    (bound : Nat) (c : Cursor) :
    (matchZeroOrMore self bound body c).Ensures allowed fun verdict _ => Reports c verdict := by
  refine (repeated_ensures hself bound c).andThen ?_
  rintro count stop ⟨run, hrun⟩
  rw [Matching.upTo_offset hrun]
  exact trivial

theorem matchOptional_reports {body : Rule} (hself : ∀ c, (self body c).Ensures allowed (Answers c))
    (c : Cursor) : (matchOptional self body c).Ensures allowed fun verdict _ => Reports c verdict := by
  refine (hself c).andThen ?_
  intro verdict stop _
  cases verdict <;> exact trivial

/-- A choice reports where it starts, whatever its alternatives report. -/
theorem matchOneOf_reports {alternatives : List Rule}
    (hself : ∀ rule ∈ alternatives, ∀ c, (self rule c).Ensures allowed (Answers c)) (c : Cursor) :
    (matchOneOf self alternatives c).Ensures allowed fun verdict _ => Reports c verdict := by
  refine (firstMatch_ensures hself c.offset 0 c).andThen ?_
  intro found stop _
  cases found with
  | some text => exact trivial
  | none => exact Reports.of_met rfl

theorem laterPart_reports {part : Rule}
    (hself : ∀ c, (self part c).Ensures allowed fun verdict _ => Reports c verdict) (spacing : Spacing)
    (c : Cursor) : (laterPart self spacing part c).Ensures allowed fun verdict _ => Reports c verdict := by
  cases spacing with
  | spaced =>
      refine (hself c.skipBlanks.2).mono ?_
      intro verdict stop hreports
      exact hreports.of_passes (Cursor.passes_skipBlanks c)
  | adjacent =>
      refine (hself c.pin).andThen ?_
      intro verdict stop hreports
      exact hreports.of_pin

/-- A series reports what its part reports, from where the series started. -/
theorem laterParts_reports {parts : List Rule}
    (hself : ∀ part ∈ parts, ∀ c, (self part c).Ensures allowed (Answers c))
    (hreports : ∀ part ∈ parts, ∀ c, (self part c).Ensures allowed fun verdict _ => Reports c verdict)
    (spacing : Spacing) {start c : Cursor} {skipped text : Text} (hstart : start.Passes (skipped ++ text) c)
    (index : Nat) :
    (laterParts self spacing start.offset (start.offset + Text.byteLength skipped) index parts c).Ensures
      allowed fun verdict _ => Reports start verdict := by
  induction parts generalizing index c text with
  | nil =>
      rw [laterParts, Matching.upTo_eq hstart]
      exact trivial
  | cons part parts ih =>
      obtain ⟨hpart, hparts⟩ := List.forall_mem_cons.1 hself
      obtain ⟨hfirst, hrest⟩ := List.forall_mem_cons.1 hreports
      rw [laterParts_cons hpart spacing hstart.frame]
      refine ((laterPart_ensures hpart spacing c).and (laterPart_reports hfirst spacing c)).andThen ?_
      rintro verdict stop ⟨⟨run, hrun⟩, hverdict⟩
      have hstop : start.Passes (skipped ++ (text ++ run)) stop := hstart.trans_text hrun
      cases verdict with
      | ok partText => exact ih hparts hrest hstop (index + 1)
      | error cause => exact hverdict.of_passes hstart

theorem matchSeries_reports {parts : List Rule}
    (hself : ∀ part ∈ parts, ∀ c, (self part c).Ensures allowed (Answers c))
    (hreports : ∀ part ∈ parts, ∀ c, (self part c).Ensures allowed fun verdict _ => Reports c verdict)
    (spacing : Spacing) (c : Cursor) :
    (matchSeries self spacing parts c).Ensures allowed fun verdict _ => Reports c verdict := by
  cases parts with
  | nil =>
      rw [matchSeries, Matching.upTo_offset (Cursor.Passes.refl c)]
      exact trivial
  | cons first others =>
      obtain ⟨hpart, hparts⟩ := List.forall_mem_cons.1 hself
      obtain ⟨hfirst, hrest⟩ := List.forall_mem_cons.1 hreports
      rw [matchSeries_cons (hpart c)]
      refine ((hpart c).and (hfirst c)).andThen ?_
      rintro verdict stop ⟨hanswer, hverdict⟩
      cases verdict with
      | ok text =>
          obtain ⟨skipped, -, hpass⟩ := hanswer
          dsimp only
          rw [hpass.textStart_eq.2]
          exact laterParts_reports hparts hrest spacing hpass 1
      | error cause => exact hverdict

end Constructs

/-! ## Rules -/

/-- Going back takes nothing from what a failure says. -/
theorem restoring_reports {attempt : Matching} {allowed : Fault → Prop} {c : Cursor}
    (hframe : (attempt c).Ensures allowed (Attempts c))
    (h : (attempt c).Ensures allowed fun verdict _ => Reports c verdict) :
    (Matching.restoring attempt c).Ensures allowed fun verdict _ => Reports c verdict := by
  refine (hframe.and h).andThen ?_
  rintro verdict stop ⟨hattempt, hverdict⟩
  cases verdict with
  | ok text => exact trivial
  | error failure =>
      dsimp only
      rw [Cursor.moveTo_offset hattempt]
      exact hverdict

namespace Grammar

variable {g : Grammar} {allowed : Fault → Prop}

/-- An attempt reports the truth if its callees do. -/
theorem attempt_reports {self : Rule → Matching} {rule : Rule}
    (hself : ∀ callee ∈ g.callees rule, ∀ c, (self callee c).Ensures allowed (Answers c))
    (hreports : ∀ callee ∈ g.callees rule, ∀ c,
      (self callee c).Ensures allowed fun verdict _ => Reports c verdict)
    (hfault : ∀ cell, rule = .ref cell → g.definition? cell = none →
      allowed (.undefinedRule cell.name)) (bound : Nat) (c : Cursor) :
    (g.attempt bound self rule c).Ensures allowed fun verdict _ => Reports c verdict := by
  cases rule with
  | terminal t => exact t.read_reports c
  | named name body => exact hreports body (by simp) c
  | oneOrMore body => exact matchOneOrMore_reports (hself body (by simp)) bound c
  | zeroOrMore body => exact matchZeroOrMore_reports (hself body (by simp)) bound c
  | optional body => exact matchOptional_reports (hself body (by simp)) c
  | oneOf alternatives => exact matchOneOf_reports hself c
  | series spacing parts => exact matchSeries_reports hself hreports spacing c
  | ref cell =>
      cases hdef : g.definition? cell with
      | some definition =>
          rw [attempt, require_eq_ok hdef]
          exact hreports definition (by simp [hdef]) c
      | none =>
          rw [attempt, require_eq_error hdef]
          exact hfault cell rfl hdef

theorem matchWithin_reports (bound : Nat) (rule : Rule) (c : Cursor) :
    (g.matchWithin bound rule c).Ensures (fun fault => ∃ name, fault = .undefinedRule name)
      fun verdict _ => Reports c verdict := by
  induction bound generalizing rule c with
  | zero => exact trivial
  | succ bound ih =>
      refine restoring_reports (attempt_ensures_attempts (g.matchWithin_ensures bound) bound rule c) ?_
      exact attempt_reports (fun callee _ d => g.matchWithin_ensures bound callee d)
        (fun callee _ d => ih callee d) (fun cell _ _ => ⟨cell.name, rfl⟩) bound c

/-- A match that fails names no cell without a definition, at any depth.  Its offset lies between the place
where the match started and the end of the input, at a boundary, and its innermost failure says what is true
of the text there. -/
theorem failure_tells_truth {rule : Rule} {c stop : Cursor} {failure : Failure} {log : List Event}
    (h : g.matchAt rule c = .finished (.error failure) stop log) :
    (∀ inside ∈ failure :: failure.inner, ∀ name, inside ≠ .undefinedRule name) ∧
      ∃ offset, failure.offset? = some offset ∧ c.offset ≤ offset ∧
        offset ≤ Text.byteLength c.input ∧ Text.IsBoundary offset c.input ∧
        failure.innermost.TrueAt c.input offset := by
  have hreports := g.matchWithin_reports (g.budget rule c) rule c
  rw [show g.matchWithin (g.budget rule c) rule c = .finished (.error failure) stop log from h] at hreports
  obtain ⟨d, run, hrun, hmet⟩ := hreports
  have hinput : d.input = c.input := hrun.frame.input_eq
  refine ⟨fun inside hinside => hmet.ne_undefinedRule hinside, d.offset, hmet.offset?_eq, hrun.offset_le,
    ?_, ?_, ?_⟩
  · rw [← hinput]
    exact d.offset_le_byteLength
  · rw [← hinput]
    exact d.isBoundary_offset
  · rw [← hinput]
    exact hmet.innermost.trueAt

/-- A keyword that runs on into a longer word, behind a letter of two bytes and a blank: what was found at
byte three is the whole word. -/
theorem truth_about_longer_word :
    ∃ stop log, ({} : Grammar).matchAt (.char 'é' + .keyword "end")
        (Cursor.start ['é', ' ', 'e', 'n', 'd', 'é', ' ', 'x'] {})
          = .finished (.error (.partFailed 1 (.wrongKeyword "end" "endé" 3))) stop log ∧
      Text.IsBoundary 3 ['é', ' ', 'e', 'n', 'd', 'é', ' ', 'x'] ∧
      (Failure.wrongKeyword "end" "endé" 3).TrueAt ['é', ' ', 'e', 'n', 'd', 'é', ' ', 'x'] 3 := by
  have hvalue : (({} : Grammar).matchAt (.char 'é' + .keyword "end")
      (Cursor.start ['é', ' ', 'e', 'n', 'd', 'é', ' ', 'x'] {})).value?
        = some (.error (.partFailed 1 (.wrongKeyword "end" "endé" 3))) := by
    decide +kernel
  obtain ⟨stop, log, hmatch⟩ := Outcome.value?_eq_some_iff.1 hvalue
  obtain ⟨-, offset, hoffset, -, -, hboundary, htrue⟩ := failure_tells_truth hmatch
  obtain rfl : 3 = offset := by simpa [Failure.offset?] using hoffset
  exact ⟨stop, log, hmatch, hboundary, htrue⟩

end Grammar

end RuleMatch
