import RuleMatch.Proofs.Budget
import RuleMatch.Proofs.WordLists
import RuleMatch.Rule.Combine

/-!
# Splicing a series into a series

A series among the parts of a series of the same spacing may be spliced in without a change to what is
matched (`splicing_changes_no_match`).  The two matches come to the same text and the same place, or they
fail for the same innermost reason; only the log and the wrapping of the failure tell them apart.

Behind its first part, a series passes its parts one after the other, and all that is kept until the end is
whether one of them has failed.  So a list of parts has an effect of its own, `passParts`, and the effect
of two lists in a row is that of the first and then that of the second (`passParts_append`).  A series as a
part has the effect of its own parts: it is entered where its first part would be, and the parts behind
that see to their gaps and pins themselves (`passPart_series`).  In front it is different, for the text of a
series starts where that of its first part does (`finishSeries_front`).

An empty series has no first part to be entered at.  The gap in front of it is skipped for its sake.  That
makes no difference if another part follows (`passParts_empty`), and moves the cursor if none does.
-/

namespace RuleMatch

/-! ## Alike -/

/-- Two failures that are the same but for what they are wrapped in. -/
structure Failure.SameCause (failure failure' : Failure) : Prop where
  innermost_eq : failure.innermost = failure'.innermost
  offset_eq : failure.offset? = failure'.offset?

namespace Failure.SameCause

variable {failure failure' failure'' : Failure}

theorem refl (failure : Failure) : failure.SameCause failure := ⟨rfl, rfl⟩

theorem symm (h : failure.SameCause failure') : failure'.SameCause failure :=
  ⟨h.innermost_eq.symm, h.offset_eq.symm⟩

theorem trans (h : failure.SameCause failure') (h' : failure'.SameCause failure'') :
    failure.SameCause failure'' :=
  ⟨h.innermost_eq.trans h'.innermost_eq, h.offset_eq.trans h'.offset_eq⟩

theorem partFailed (index : Nat) (cause : Failure) : (Failure.partFailed index cause).SameCause cause :=
  ⟨rfl, rfl⟩

end Failure.SameCause

/-- The same matched text, or failures with the same cause. -/
inductive SameAnswer : Verdict → Verdict → Prop
  | ok (text : Text) : SameAnswer (.ok text) (.ok text)
  | error {failure failure' : Failure} (h : failure.SameCause failure') :
      SameAnswer (.error failure) (.error failure')

namespace SameAnswer

variable {verdict verdict' verdict'' : Verdict}

theorem refl (verdict : Verdict) : SameAnswer verdict verdict := by
  cases verdict with
  | ok text => exact .ok text
  | error failure => exact .error (.refl failure)

theorem symm (h : SameAnswer verdict verdict') : SameAnswer verdict' verdict := by
  cases h with
  | ok text => exact .ok text
  | error h => exact .error h.symm

theorem trans (h : SameAnswer verdict verdict') (h' : SameAnswer verdict' verdict'') :
    SameAnswer verdict verdict'' := by
  cases h with
  | ok text => exact h'
  | error h =>
      cases h' with
      | error h' => exact .error (h.trans h')

end SameAnswer

namespace Outcome

/-- Two matches come to the same answer at the same place, or to the same fault, or do not end. -/
def Alike (outcome outcome' : Outcome Verdict) : Prop :=
  outcome.Related (fun verdict stop verdict' stop' => SameAnswer verdict verdict' ∧ stop' = stop) outcome'

namespace Alike

variable {outcome outcome' outcome'' : Outcome Verdict}

theorem refl (outcome : Outcome Verdict) : outcome.Alike outcome :=
  Related.refl (fun verdict _ => ⟨.refl verdict, rfl⟩) outcome

theorem symm (h : outcome.Alike outcome') : outcome'.Alike outcome :=
  Related.symm h fun _ _ _ _ hsame => ⟨hsame.1.symm, hsame.2.symm⟩

theorem trans (h : outcome.Alike outcome') (h' : outcome'.Alike outcome'') : outcome.Alike outcome'' :=
  Related.trans h h' fun _ _ _ _ _ _ hsame hsame' =>
    ⟨hsame.1.trans hsame'.1, hsame'.2.trans hsame.2⟩

theorem of_sameCause {failure failure' : Failure} (h : failure.SameCause failure') (stop : Cursor)
    (log log' : List Event) :
    Alike (.finished (.error failure) stop log) (.finished (.error failure') stop log') :=
  .finished ⟨.error h, rfl⟩ log log'

end Alike

end Outcome

/-! ## Passing parts -/

/-- Whether a part has failed, and why. -/
def blame (verdict : Verdict) (stop : Cursor) : Outcome (Option Failure) :=
  match verdict with
  | .ok _ => .finished none stop []
  | .error cause => .finished (some cause) stop []

/-- Goes on if no part has failed so far. -/
def unlessBlamed (goOn : Cursor → Outcome (Option Failure)) (blamed : Option Failure) (stop : Cursor) :
    Outcome (Option Failure) :=
  match blamed with
  | none => goOn stop
  | some cause => .finished (some cause) stop []

/-- Passes one part of a series behind its first. -/
def passPart (self : Rule → Matching) (spacing : Spacing) (part : Rule) (c : Cursor) :
    Outcome (Option Failure) :=
  (laterPart self spacing part c).andThen blame

/-- Passes parts of a series behind its first, one after the other, until one fails. -/
def passParts (self : Rule → Matching) (spacing : Spacing) : List Rule → Cursor → Outcome (Option Failure)
  | [], c => .finished none c []
  | part :: parts, c => (passPart self spacing part c).andThen (unlessBlamed (passParts self spacing parts))

/-- Puts back a pin when parts have been passed. -/
def putBackPin (previous : Option Nat) (blamed : Option Failure) (stop : Cursor) :
    Outcome (Option Failure) :=
  .finished blamed (stop.repin previous) []

/-- Ends a series from `start`, whose text starts at `mark`, when its parts have been passed. -/
def concludeSeries (start : Cursor) (mark : Nat) (blamed : Option Failure) (stop : Cursor) :
    Outcome Verdict :=
  match blamed with
  | none => Matching.upTo mark stop
  | some cause => .finished (.error cause) start []

/-- Goes on with a series from `start` behind its first part. -/
def finishSeries (self : Rule → Matching) (spacing : Spacing) (start : Cursor) (others : List Rule)
    (verdict : Verdict) (stop : Cursor) : Outcome Verdict :=
  match verdict with
  | .ok text =>
      (passParts self spacing others stop).andThen
        (concludeSeries start (stop.offset - Text.byteLength text))
  | .error cause => .finished (.error cause) start []

/-- The same blame at the same place, or failures with the same cause anywhere. -/
inductive SameBlame : Option Failure → Cursor → Option Failure → Cursor → Prop
  | none (stop : Cursor) : SameBlame none stop none stop
  | some {cause cause' : Failure} (h : cause.SameCause cause') (stop stop' : Cursor) :
      SameBlame (some cause) stop (some cause') stop'

namespace Outcome

/-- Two ways to pass parts come to the same place, or fail with the same cause, or meet the same fault, or do
not end. -/
def SamePass (outcome outcome' : Outcome (Option Failure)) : Prop :=
  outcome.Related SameBlame outcome'

namespace SamePass

variable {outcome outcome' outcome'' : Outcome (Option Failure)}

theorem refl (outcome : Outcome (Option Failure)) : outcome.SamePass outcome := by
  refine Related.refl ?_ outcome
  intro blamed stop
  cases blamed with
  | none => exact .none stop
  | some cause => exact .some (.refl cause) stop stop

theorem trans (h : outcome.SamePass outcome') (h' : outcome'.SamePass outcome'') :
    outcome.SamePass outcome'' := by
  refine Related.trans h h' ?_
  intro blamed stop blamed' stop' blamed'' stop'' hsame hsame'
  cases hsame with
  | none => exact hsame'
  | some hcause =>
      cases hsame' with
      | some hcause' => exact .some (hcause.trans hcause') stop stop''

theorem of_sameCause {cause cause' : Failure} (h : cause.SameCause cause') (stop stop' : Cursor)
    (log log' : List Event) :
    SamePass (.finished (some cause) stop log) (.finished (some cause') stop' log') :=
  .finished (.some h stop stop') log log'

theorem andThen_unlessBlamed (h : outcome.SamePass outcome') (goOn : Cursor → Outcome (Option Failure)) :
    (outcome.andThen (unlessBlamed goOn)).SamePass (outcome'.andThen (unlessBlamed goOn)) := by
  refine Related.andThen h ?_
  intro blamed stop blamed' stop' hsame
  cases hsame with
  | none => exact refl (goOn stop)
  | some hcause => exact of_sameCause hcause stop stop' [] []

theorem andThen_putBackPin (h : outcome.SamePass outcome') (previous : Option Nat) :
    (outcome.andThen (putBackPin previous)).SamePass (outcome'.andThen (putBackPin previous)) := by
  refine Related.andThen h ?_
  intro blamed stop blamed' stop' hsame
  cases hsame with
  | none => exact refl (.finished none (stop.repin previous) [])
  | some hcause => exact of_sameCause hcause (stop.repin previous) (stop'.repin previous) [] []

theorem andThen_concludeSeries (h : outcome.SamePass outcome') (start : Cursor) (mark : Nat) :
    (outcome.andThen (concludeSeries start mark)).Alike
      (outcome'.andThen (concludeSeries start mark)) := by
  refine Related.andThen h ?_
  intro blamed stop blamed' stop' hsame
  cases hsame with
  | none => exact Alike.refl (Matching.upTo mark stop)
  | some hcause => exact Alike.of_sameCause hcause start [] []

end SamePass

namespace Alike

variable {outcome outcome' : Outcome Verdict}

theorem andThen_blame (h : outcome.Alike outcome') :
    (outcome.andThen blame).SamePass (outcome'.andThen blame) := by
  refine Related.andThen h ?_
  rintro verdict _ verdict' stop ⟨hsame, rfl⟩
  cases hsame with
  | ok text => exact SamePass.refl (.finished none stop [])
  | error hcause => exact SamePass.of_sameCause hcause stop stop [] []

theorem andThen_finishSeries (h : outcome.Alike outcome') (self : Rule → Matching) (spacing : Spacing)
    (start : Cursor) (others : List Rule) :
    (outcome.andThen (finishSeries self spacing start others)).Alike
      (outcome'.andThen (finishSeries self spacing start others)) := by
  refine Related.andThen h ?_
  rintro verdict _ verdict' stop ⟨hsame, rfl⟩
  cases hsame with
  | ok text => exact refl (finishSeries self spacing start others (.ok text) stop)
  | error hcause => exact of_sameCause hcause start [] []

end Alike

end Outcome

section Constructs

variable {self : Rule → Matching} {allowed : Fault → Prop} {spacing : Spacing}

theorem passParts_ensures {parts : List Rule}
    (hself : ∀ rule c, (self rule c).Ensures allowed (Answers c)) (c : Cursor) :
    (passParts self spacing parts c).Ensures allowed fun _ stop => ∃ run, c.Passes run stop := by
  induction parts generalizing c with
  | nil => exact ⟨[], Cursor.Passes.refl c⟩
  | cons part parts ih =>
      rw [passParts, passPart, Outcome.andThen_assoc]
      refine (laterPart_ensures (hself part) spacing c).andThen ?_
      rintro verdict stop ⟨run, hrun⟩
      cases verdict with
      | ok text =>
          refine Outcome.ensures_after.2 ((ih stop).mono ?_)
          rintro blamed last ⟨more, hmore⟩
          exact ⟨run ++ more, hrun.trans hmore⟩
      | error cause => exact ⟨run, hrun⟩

/-- Two lists of parts in a row. -/
theorem passParts_append (parts parts' : List Rule) (c : Cursor) :
    passParts self spacing (parts ++ parts') c
      = (passParts self spacing parts c).andThen (unlessBlamed (passParts self spacing parts')) := by
  induction parts generalizing c with
  | nil => exact (Outcome.after_nil _).symm
  | cons part parts ih =>
      rw [List.cons_append, passParts, passParts, Outcome.andThen_assoc]
      refine (passPart self spacing part c).ensures_true.andThen_congr ?_
      intro blamed stop _
      cases blamed with
      | none => exact ih stop
      | some cause => rfl

/-- A part of an adjacent series is passed under a pin of its own. -/
theorem passPart_adjacent (part : Rule) (c : Cursor) :
    passPart self .adjacent part c
      = ((self part c.pin).andThen blame).andThen (putBackPin c.pinned) := by
  rw [passPart, laterPart, Outcome.andThen_assoc, Outcome.andThen_assoc]
  refine (self part c.pin).ensures_true.andThen_congr ?_
  intro verdict stop _
  cases verdict with
  | ok text => rfl
  | error cause => rfl

/-- It makes no difference when a pin is put back, since no part of an adjacent series asks for it. -/
theorem passParts_repin (parts : List Rule) (c : Cursor) (previous : Option Nat) :
    passParts self .adjacent parts (c.repin previous)
      = (passParts self .adjacent parts c).andThen (putBackPin previous) := by
  induction parts generalizing c with
  | nil => rfl
  | cons part parts ih =>
      -- The part is entered under its own pin, whichever was there before.
      have hpin : (c.repin previous).pin = c.pin := rfl
      rw [passParts, passParts, passPart_adjacent, passPart_adjacent, hpin]
      generalize (self part c.pin).andThen blame = passed
      rw [Outcome.andThen_assoc, Outcome.andThen_assoc, Outcome.andThen_assoc]
      refine passed.ensures_true.andThen_congr ?_
      intro blamed stop _
      cases blamed with
      | none =>
          show (passParts self .adjacent parts ((stop.repin c.pinned).repin previous)).after []
            = ((passParts self .adjacent parts (stop.repin c.pinned)).andThen (putBackPin previous)).after []
          rw [ih]
      | some cause => rfl

/-- So the pin of its first part may be left in force for all parts of an adjacent series. -/
theorem passParts_adjacent (part : Rule) (parts : List Rule) (c : Cursor) :
    passParts self .adjacent (part :: parts) c
      = (((self part c.pin).andThen blame).andThen
          (unlessBlamed (passParts self .adjacent parts))).andThen (putBackPin c.pinned) := by
  rw [passParts, passPart_adjacent]
  generalize (self part c.pin).andThen blame = passed
  rw [Outcome.andThen_assoc, Outcome.andThen_assoc]
  refine passed.ensures_true.andThen_congr ?_
  intro blamed stop _
  cases blamed with
  | none =>
      show (passParts self .adjacent parts (stop.repin c.pinned)).after [] = _
      rw [Outcome.after_nil, passParts_repin]
      rfl
  | some cause => rfl

/-- The parts of a series behind its first are passed, and then the series is concluded. -/
theorem laterParts_alike (hself : ∀ rule c, (self rule c).Ensures allowed (Answers c)) {start c : Cursor}
    (hstart : Cursor.SameFrame start c) (mark index : Nat) (parts : List Rule) :
    (laterParts self spacing start.offset mark index parts c).Alike
      ((passParts self spacing parts c).andThen (concludeSeries start mark)) := by
  induction parts generalizing index c with
  | nil =>
      rw [laterParts, passParts, Outcome.finished_andThen, Outcome.after_nil]
      exact Outcome.Alike.refl (Matching.upTo mark c)
  | cons part parts ih =>
      rw [laterParts_cons (hself part) spacing hstart, passParts, passPart, Outcome.andThen_assoc,
        Outcome.andThen_assoc]
      refine (laterPart_ensures (hself part) spacing c).andThen_related ?_
      rintro verdict stop ⟨run, hrun⟩
      have hstop : Cursor.SameFrame start stop := hstart.trans hrun.frame
      cases verdict with
      | ok text =>
          simp only [Outcome.finished_andThen, Outcome.after_nil, blame, unlessBlamed]
          exact ih hstop (index + 1)
      | error cause => exact Outcome.Alike.of_sameCause (.partFailed index cause) start _ []

/-- A series is its first part and then the others. -/
theorem matchSeries_alike (hself : ∀ rule c, (self rule c).Ensures allowed (Answers c)) (first : Rule)
    (others : List Rule) (c : Cursor) :
    (matchSeries self spacing (first :: others) c).Alike
      ((self first c).andThen (finishSeries self spacing c others)) := by
  rw [matchSeries_cons (hself first c)]
  refine (hself first c).andThen_related ?_
  intro verdict stop hanswer
  cases verdict with
  | ok text =>
      obtain ⟨skipped, -, hpass⟩ := hanswer
      exact laterParts_alike hself hpass.frame (stop.offset - Text.byteLength text) 1 others
  | error cause => exact Outcome.Alike.of_sameCause (.partFailed 0 cause) c _ []

/-- The text of a series whose parts have been passed. -/
theorem concludeSeries_eq {start stop last : Cursor} {skipped text run : Text}
    (hstart : start.Passes (skipped ++ text) stop) (hrun : stop.Passes run last) :
    concludeSeries start (stop.offset - Text.byteLength text) none last
      = .finished (.ok (text ++ run)) last [] := by
  have hwhole : start.Passes (skipped ++ (text ++ run)) last := hstart.trans_text hrun
  rw [hstart.textStart_eq.2]
  exact Matching.upTo_eq hwhole

/-- What a series comes to as a part of another is what its own parts come to. -/
theorem matchSeries_samePass (hself : ∀ rule c, (self rule c).Ensures allowed (Answers c)) (first : Rule)
    (others : List Rule) (c : Cursor) :
    ((matchSeries self spacing (first :: others) c).andThen blame).SamePass
      (((self first c).andThen blame).andThen (unlessBlamed (passParts self spacing others))) := by
  refine (matchSeries_alike hself first others c).andThen_blame.trans ?_
  rw [Outcome.andThen_assoc, Outcome.andThen_assoc]
  refine (hself first c).andThen_related ?_
  intro verdict stop hanswer
  cases verdict with
  | ok text =>
      obtain ⟨skipped, -, hpass⟩ := hanswer
      show (((passParts self spacing others stop).andThen _).andThen blame).SamePass
        ((passParts self spacing others stop).after [])
      rw [Outcome.after_nil, Outcome.andThen_assoc]
      -- Of the conclusion only the blame is kept, so it takes nothing from what was passed.
      nth_rewrite 2 [← Outcome.andThen_finished (passParts self spacing others stop)]
      refine (passParts_ensures hself stop).andThen_related ?_
      rintro blamed last ⟨run, hrun⟩
      cases blamed with
      | none =>
          rw [concludeSeries_eq hpass hrun]
          exact Outcome.SamePass.refl (.finished none last [])
      | some cause => exact Outcome.SamePass.of_sameCause (.refl cause) c last [] []
  | error cause => exact Outcome.SamePass.of_sameCause (.refl cause) c stop [] []

/-- A series in front of a series of the same spacing begins it with its own first part. -/
theorem finishSeries_front (hself : ∀ rule c, (self rule c).Ensures allowed (Answers c)) (first : Rule)
    (others after : List Rule) (c : Cursor) :
    ((matchSeries self spacing (first :: others) c).andThen (finishSeries self spacing c after)).Alike
      (matchSeries self spacing (first :: (others ++ after)) c) := by
  refine ((matchSeries_alike hself first others c).andThen_finishSeries self spacing c after).trans ?_
  refine .trans ?_ (matchSeries_alike hself first (others ++ after) c).symm
  rw [Outcome.andThen_assoc]
  refine (hself first c).andThen_related ?_
  intro verdict stop hanswer
  cases verdict with
  | ok text =>
      obtain ⟨skipped, -, hpass⟩ := hanswer
      rw [finishSeries, finishSeries, passParts_append, Outcome.andThen_assoc, Outcome.andThen_assoc]
      refine (passParts_ensures hself stop).andThen_related ?_
      rintro blamed last ⟨run, hrun⟩
      cases blamed with
      | none =>
          -- The text of the series in front and that of the whole start behind the same gap.
          have hlast : c.Passes (skipped ++ (text ++ run)) last := hpass.trans_text hrun
          rw [concludeSeries_eq hpass hrun, Outcome.finished_andThen, Outcome.after_nil, finishSeries,
            unlessBlamed, hpass.textStart_eq.2, hlast.textStart_eq.2]
          exact Outcome.Alike.refl _
      | some cause => exact Outcome.Alike.refl (.finished (.error cause) c [])
  | error cause => exact Outcome.Alike.refl (.finished (.error cause) c [])

/-- An empty series is no match for itself, and the gap in front of it is also that of the next part. -/
theorem passParts_empty (hempty : ∀ c, self (.series spacing []) c = matchSeries self spacing [] c)
    (next : Rule) (others : List Rule) (c : Cursor) :
    passParts self spacing (.series spacing [] :: next :: others) c
      = passParts self spacing (next :: others) c := by
  have hnothing : ∀ d, self (.series spacing []) d = .finished (.ok []) d [] := by
    intro d
    rw [hempty, matchSeries, Matching.upTo_offset (Cursor.Passes.refl d)]
  rw [passParts, passPart]
  cases spacing with
  | spaced =>
      have hgap : laterPart self .spaced next c.skipBlanks.2 = laterPart self .spaced next c := by
        rw [laterPart, laterPart, Cursor.skipBlanks_skipBlanks]
      rw [laterPart, hnothing, Outcome.finished_andThen, Outcome.after_nil]
      show (passParts self .spaced (next :: others) c.skipBlanks.2).after [] = _
      rw [Outcome.after_nil, passParts, passParts, passPart, passPart, hgap]
  | adjacent =>
      rw [laterPart, hnothing]
      exact Outcome.after_nil _

/-- A series that is not empty is passed as its parts are. -/
theorem passPart_series {first : Rule} {others : List Rule}
    (hself : ∀ rule c, (self rule c).Ensures allowed (Answers c))
    (hseries : ∀ c, self (.series spacing (first :: others)) c
      = matchSeries self spacing (first :: others) c) (c : Cursor) :
    (passPart self spacing (.series spacing (first :: others)) c).SamePass
      (passParts self spacing (first :: others) c) := by
  cases spacing with
  | spaced =>
      rw [passParts, passPart, passPart, laterPart, laterPart, hseries]
      exact matchSeries_samePass hself first others c.skipBlanks.2
  | adjacent =>
      rw [passPart_adjacent, passParts_adjacent, hseries]
      exact (matchSeries_samePass hself first others c.pin).andThen_putBackPin c.pinned

end Constructs

/-- What an operand contributes to a series: itself, or its parts. -/
theorem Rule.parts_eq (spacing : Spacing) (rule : Rule) :
    rule.parts spacing = [rule] ∨ ∃ inner, rule = .series spacing inner ∧ rule.parts spacing = inner := by
  cases rule with
  | series own inner =>
      by_cases hown : own = spacing
      · subst hown
        exact .inr ⟨inner, rfl, if_pos rfl⟩
      · exact .inl (if_neg hown)
  | _ => exact .inl rfl

namespace Grammar

variable (g : Grammar) (spacing : Spacing)

/-- Behind the first part of a series, a series is passed as its parts are. -/
theorem passParts_splice (before : List Rule) {inner after : List Rule} (h : inner ≠ [] ∨ after ≠ [])
    (c : Cursor) :
    (passParts g.matchAt spacing (before ++ [.series spacing inner] ++ after) c).SamePass
      (passParts g.matchAt spacing (before ++ inner ++ after) c) := by
  rw [List.append_assoc, List.append_assoc, passParts_append, passParts_append before]
  refine (passParts_ensures g.matchAt_ensures c).andThen_related ?_
  intro blamed stop _
  cases blamed with
  | some cause => exact Outcome.SamePass.refl (.finished (some cause) stop [])
  | none =>
      show (passParts g.matchAt spacing (.series spacing inner :: after) stop).SamePass
        (passParts g.matchAt spacing (inner ++ after) stop)
      cases inner with
      | nil =>
          cases after with
          | nil => simp at h
          | cons next others =>
              rw [passParts_empty (g.matchAt_series spacing []) next others stop]
              exact Outcome.SamePass.refl _
      | cons first others =>
          rw [passParts, passParts_append]
          have hinner := passPart_series g.matchAt_ensures (g.matchAt_series spacing (first :: others)) stop
          exact hinner.andThen_unlessBlamed (passParts g.matchAt spacing after)

/-- A series is matched as what it becomes when a series among its parts is spliced in. -/
theorem matchAt_splice {before inner after : List Rule} (h : inner ≠ [] ∨ before ≠ [] ∧ after ≠ [])
    (c : Cursor) :
    (g.matchAt (.series spacing (before ++ [.series spacing inner] ++ after)) c).Alike
      (g.matchAt (.series spacing (before ++ inner ++ after)) c) := by
  rw [matchAt_series, matchAt_series]
  cases before with
  | nil =>
      cases inner with
      | nil => simp at h
      | cons first others =>
          have hfront : (matchSeries g.matchAt spacing (.series spacing (first :: others) :: after) c).Alike
              ((matchSeries g.matchAt spacing (first :: others) c).andThen
                (finishSeries g.matchAt spacing c after)) := by
            rw [← g.matchAt_series spacing (first :: others) c]
            exact matchSeries_alike g.matchAt_ensures _ after c
          exact hfront.trans (finishSeries_front g.matchAt_ensures first others after c)
  | cons first before =>
      -- The first part is the same on both sides, and so is where the text starts.
      refine (matchSeries_alike g.matchAt_ensures first _ c).trans ?_
      refine .trans ?_ (matchSeries_alike g.matchAt_ensures first _ c).symm
      refine (g.matchAt_ensures first c).andThen_related ?_
      intro verdict stop _
      cases verdict with
      | ok text =>
          have hpass := g.passParts_splice spacing before (h.imp_right And.right) stop
          exact hpass.andThen_concludeSeries c (stop.offset - Text.byteLength text)
      | error cause => exact Outcome.Alike.refl (.finished (.error cause) c [])

/-- Looking ahead for a series looks ahead for the first part of its first part. -/
theorem mayMatch_splice {before inner after : List Rule} (h : inner ≠ [] ∨ before ≠ [] ∧ after ≠ [])
    (c : Cursor) :
    g.mayMatch (.series spacing (before ++ [.series spacing inner] ++ after)) c
      = g.mayMatch (.series spacing (before ++ inner ++ after)) c := by
  rw [mayMatch_eq, mayMatch_eq]
  cases before with
  | cons first before => rfl
  | nil =>
      cases inner with
      | nil => simp at h
      | cons first others =>
          show g.mayMatch (.series spacing (first :: others)) c = g.mayMatch first c
          rw [mayMatch_eq]
          rfl

/-- Two rules that match alike, wherever they are matched, and are expected to match alike. -/
structure MatchAlike (rule rule' : Rule) : Prop where
  matchAt : ∀ c, (g.matchAt rule c).Alike (g.matchAt rule' c)
  mayMatch : ∀ c, g.mayMatch rule c = g.mayMatch rule' c

variable {g} {spacing}

theorem MatchAlike.refl (rule : Rule) : g.MatchAlike rule rule :=
  ⟨fun c => .refl (g.matchAt rule c), fun _ => rfl⟩

theorem MatchAlike.trans {rule rule' rule'' : Rule} (h : g.MatchAlike rule rule')
    (h' : g.MatchAlike rule' rule'') : g.MatchAlike rule rule'' :=
  ⟨fun c => (h.matchAt c).trans (h'.matchAt c), fun c => (h.mayMatch c).trans (h'.mayMatch c)⟩

theorem matchAlike_splice {before inner after : List Rule} (h : inner ≠ [] ∨ before ≠ [] ∧ after ≠ []) :
    g.MatchAlike (.series spacing (before ++ [.series spacing inner] ++ after))
      (.series spacing (before ++ inner ++ after)) :=
  ⟨g.matchAt_splice spacing h, g.mayMatch_splice spacing h⟩

/-- Operands may be spliced in one by one, behind those that are there already. -/
theorem matchAlike_flatMap {rules : List Rule} (h : .series spacing [] ∉ rules) (before : List Rule) :
    g.MatchAlike (.series spacing (before ++ rules))
      (.series spacing (before ++ rules.flatMap (Rule.parts spacing))) := by
  refine Rule.relates_flatMap
    (fun rules rules' => g.MatchAlike (.series spacing rules) (.series spacing rules'))
    (fun rules => .refl (.series spacing rules)) (fun _ _ _ => .trans) ?_ before
  intro rule hrule before after
  rcases Rule.parts_eq spacing rule with hsame | ⟨inner, rfl, hinner⟩
  · rw [hsame, List.append_assoc]
    exact .refl _
  · rw [hinner, List.append_cons]
    exact matchAlike_splice (.inl fun hnil => h (hnil ▸ hrule))

/-- A series among the parts of a series of the same spacing may be spliced in, unless it is empty and stands
in front or at the end.  So a series that was put together flat matches as it was written, unless one of
its operands is an empty series. -/
theorem splicing_changes_no_match (g : Grammar) (spacing : Spacing) :
    (∀ before inner after : List Rule, (inner ≠ [] ∨ before ≠ [] ∧ after ≠ []) →
      g.MatchAlike (.series spacing (before ++ [.series spacing inner] ++ after))
        (.series spacing (before ++ inner ++ after))) ∧
      ∀ rules : List Rule, .series spacing [] ∉ rules →
        g.MatchAlike (.series spacing rules) (.joined spacing rules) := by
  constructor
  · intro before inner after h
    exact matchAlike_splice h
  · intro rules h
    exact matchAlike_flatMap h []

/-- A bracketed list may be written with the list and the closing parenthesis in a series of their own, or
with the opening parenthesis and the list, and is matched or refused all the same. -/
theorem splicing_into_bracketed_list :
    WordLists.grammar.MatchAlike
        (.series .spaced [.char '(', .series .spaced [.ref WordLists.list, .char ')']])
        WordLists.bracketed ∧
      WordLists.grammar.MatchAlike
        (.series .spaced [.series .spaced [.char '(', .ref WordLists.list], .char ')'])
        WordLists.bracketed ∧
      (WordLists.grammar.matchAt WordLists.bracketed
        (Cursor.start [' ', '(', ' ', 'a', ')'] {})).reading = .matched ['(', ' ', 'a', ')'] 5 ∧
      (WordLists.grammar.matchAt WordLists.bracketed
        (Cursor.start [' ', '(', ' ', 'a', ','] {})).reading = .failed := by
  have hsplicing := splicing_changes_no_match WordLists.grammar .spaced
  refine ⟨?_, ?_, by decide +kernel, by decide +kernel⟩
  · exact hsplicing.1 [.char '('] [.ref WordLists.list, .char ')'] [] (.inl (by simp))
  · exact hsplicing.2 [.series .spaced [.char '(', .ref WordLists.list], .char ')'] (by simp)

/-- At the end of a series an empty one takes the cursor over the gap. -/
example :
    (WordLists.grammar.matchAt (.series .spaced [.char 'a', .series .spaced []])
        (Cursor.start ['a', ' '] {})).reading = .matched ['a', ' '] 2 ∧
      (WordLists.grammar.matchAt (.series .spaced [.char 'a'])
        (Cursor.start ['a', ' '] {})).reading = .matched ['a'] 1 := by
  decide +kernel

end Grammar

end RuleMatch
