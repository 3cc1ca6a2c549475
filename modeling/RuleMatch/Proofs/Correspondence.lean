import Mathlib.Data.List.Forall2
import RuleMatch.Proofs.Calls

/-!
# Two runs side by side

Many laws compare two runs: in a text and in a part of it, of a rule and of another one in its place, under
one pin and another.  A `CursorPairing` says which cursors of the two runs belong together, and a `RunPairing`
also which failures, faults and logs; its laws say that the single steps of a run keep to it.  What a construct
makes of such steps is the same in every comparison, and is shown here once: if the callees of two rules of one
shape correspond, then so do the rules (`attempt_corresponds`, `look_corresponds`).  The two runs may go by
grammars of their own.

Terminals are where the two runs meet the text.  In a `Correspondence` all of them are read alike, and then every
rule corresponds to itself.  If some are not, then this still holds of a class of rules in which they do not
occur (`matchWithin_corresponds_of_closed`).

The same text lies ahead of cursors that correspond.  So the two runs pass the same text, and a round that
does not move the cursor is the last one in both.

A comparison may be one of the first run against the second only.  Then there are ends of the first run that
excuse the second from going on like it: a run that did not finish under its bound says nothing of a run under
another bound, and a fault may be one that the second grammar has been cured of.
-/

namespace RuleMatch

/-- The same matched text, or failures that belong together. -/
inductive SameVerdict (failures : Failure → Failure → Prop) : Verdict → Verdict → Prop
  | ok (text : Text) : SameVerdict failures (.ok text) (.ok text)
  | error {failure failure' : Failure} (h : failures failure failure') :
      SameVerdict failures (.error failure) (.error failure')

namespace SameVerdict

variable {failures : Failure → Failure → Prop} {verdict verdict' : Verdict}

theorem of_refl (h : ∀ failure, failures failure failure) (verdict : Verdict) :
    SameVerdict failures verdict verdict := by
  cases verdict with
  | ok text => exact .ok text
  | error failure => exact .error (h failure)

theorem eq (h : SameVerdict Eq verdict verdict') : verdict' = verdict := by
  cases h with
  | ok text => rfl
  | error h => rw [h]

theorem isOk_eq (h : SameVerdict failures verdict verdict') : verdict'.isOk = verdict.isOk := by
  cases h <;> rfl

end SameVerdict

/-- Which cursors of two runs belong together.  The same text lies ahead of them. -/
structure CursorPairing where
  cursors : Cursor → Cursor → Prop
  ahead_eq : ∀ {c c'}, cursors c c' → c'.ahead = c.ahead
  pin : ∀ {c c'}, cursors c c' → cursors c.pin c'.pin
  repin : ∀ {c c' d d'}, cursors c c' → cursors d d' → cursors (d.repin c.pinned) (d'.repin c'.pinned)
  skipBlanks : ∀ {c c'}, cursors c c' → cursors c.skipBlanks.2 c'.skipBlanks.2

/-- What belongs together in two runs.  Of the rules it matters only how they are described. -/
structure RunPairing extends CursorPairing where
  rules : Rule → Rule → Prop
  failures : Failure → Failure → Prop
  faults : Fault → Fault → Prop
  logs : List Event → List Event → Prop
  /-- The faults in the first run that the second need not meet; `none` stands for a first run that is
  unfinished. -/
  excused : Option Fault → Prop := fun _ => False
  faults_refl : ∀ fault, faults fault fault
  noneRepeated : ∀ {body body' c c'}, rules body body' → cursors c c' →
    failures (.noneRepeated body.describe c.offset) (.noneRepeated body'.describe c'.offset)
  noAlternative : ∀ {alternatives alternatives' c c'}, List.Forall₂ rules alternatives alternatives' →
    cursors c c' → failures (.noAlternative (Rule.describeAll alternatives) c.offset)
      (.noAlternative (Rule.describeAll alternatives') c'.offset)
  partFailed : ∀ (index : Nat) {cause cause'}, failures cause cause' →
    failures (.partFailed index cause) (.partFailed index cause')
  logs_nil : logs [] []
  logs_append : ∀ {log log' rest rest'}, logs log log' → logs rest rest' → logs (log ++ rest) (log' ++ rest')
  logs_repetitionStopped : ∀ {body body' c c' failure failure'}, rules body body' → cursors c c' →
    failures failure failure' →
    logs [.repetitionStopped body c.offset failure] [.repetitionStopped body' c'.offset failure']
  logs_alternativeFailed : ∀ (index : Nat) {rule rule' c c' failure failure'}, rules rule rule' →
    cursors c c' → failures failure failure' →
    logs [.alternativeFailed index rule c.offset failure] [.alternativeFailed index rule' c'.offset failure']
  logs_choiceFailed : ∀ {c c'}, cursors c c' → logs [.choiceFailed c.offset] [.choiceFailed c'.offset]
  logs_partFailed : ∀ (index : Nat) {part part' c c'}, rules part part' → cursors c c' →
    logs [.partFailed index part c.offset] [.partFailed index part' c'.offset]

/-- A terminal is read alike wherever the cursors belong together. -/
def RunPairing.Reads (k : RunPairing) (terminal : Terminal) : Prop :=
  ∀ {c c'}, k.cursors c c' →
    SameVerdict k.failures (terminal.read c).1 (terminal.read c').1 ∧
      k.cursors (terminal.read c).2 (terminal.read c').2

/-- Two runs in which all terminals are read alike. -/
structure Correspondence extends RunPairing where
  read : ∀ (terminal : Terminal) {c c'}, cursors c c' →
    SameVerdict failures (terminal.read c).1 (terminal.read c').1 ∧
      cursors (terminal.read c).2 (terminal.read c').2

instance : Coe Correspondence RunPairing := ⟨Correspondence.toRunPairing⟩

theorem Correspondence.reads (k : Correspondence) (terminal : Terminal) : k.Reads terminal :=
  k.read terminal

namespace CursorPairing

/-- Two runs that stand at the same cursor. -/
def same : CursorPairing where
  cursors := Eq
  ahead_eq h := by rw [h]
  pin h := by rw [h]
  repin hc hd := by rw [hc, hd]
  skipBlanks h := by rw [h]

/-- Two runs that say the same in every step, at cursors that need not be the same. -/
def saysSame (pairing : CursorPairing) (excused : Option Fault → Prop)
    (offset_eq : ∀ {c c'}, pairing.cursors c c' → c'.offset = c.offset) : RunPairing where
  toCursorPairing := pairing
  rules := Eq
  failures := Eq
  faults := Eq
  logs := Eq
  excused := excused
  faults_refl _ := rfl
  noneRepeated hbody hc := by rw [hbody, offset_eq hc]
  noAlternative h hc := by
    rw [List.forall₂_eq_eq_eq] at h
    rw [h, offset_eq hc]
  partFailed index _ _ h := by rw [h]
  logs_nil := rfl
  logs_append hlog hrest := by rw [hlog, hrest]
  logs_repetitionStopped hbody hc hfailure := by rw [hbody, offset_eq hc, hfailure]
  logs_alternativeFailed index _ _ _ _ _ _ hrule hc hfailure := by rw [hrule, offset_eq hc, hfailure]
  logs_choiceFailed hc := by rw [offset_eq hc]
  logs_partFailed index _ _ _ _ hpart hc := by rw [hpart, offset_eq hc]

/-- Two runs that say the same in every step and read every terminal alike. -/
def sameSteps (pairing : CursorPairing) (excused : Option Fault → Prop)
    (offset_eq : ∀ {c c'}, pairing.cursors c c' → c'.offset = c.offset)
    (read : ∀ (terminal : Terminal) {c c'}, pairing.cursors c c' →
      (terminal.read c').1 = (terminal.read c).1 ∧
        pairing.cursors (terminal.read c).2 (terminal.read c').2) : Correspondence where
  toRunPairing := pairing.saysSame excused offset_eq
  read := by
    intro terminal c c' hc
    obtain ⟨hverdict, hstop⟩ := read terminal hc
    rw [hverdict]
    exact ⟨.of_refl (fun _ => rfl) _, hstop⟩

end CursorPairing

/-! ## Outcomes -/

namespace Outcome

variable {α β γ δ : Type} {k : RunPairing}

/-- The outcome has come to an end that is excused. -/
def BreaksOff (excused : Option Fault → Prop) : Outcome α → Prop
  | .finished _ _ _ => False
  | .faulted fault _ => excused (some fault)
  | .unfinished => excused none

namespace BreaksOff

variable {excused : Option Fault → Prop} {outcome : Outcome α}

theorem of_fault {fault : Fault} (h : excused (some fault)) (log : List Event) :
    (Outcome.faulted fault log : Outcome α).BreaksOff excused := h

theorem of_unfinished (h : excused none) : (Outcome.unfinished : Outcome α).BreaksOff excused := h

theorem not_never (outcome : Outcome α) : ¬ outcome.BreaksOff fun _ => False := by
  cases outcome <;> exact id

theorem after (h : outcome.BreaksOff excused) (log : List Event) : (outcome.after log).BreaksOff excused := by
  cases outcome <;> exact h

theorem andThen (h : outcome.BreaksOff excused) (goOn : α → Cursor → Outcome β) :
    (outcome.andThen goOn).BreaksOff excused := by
  cases outcome with
  | finished value cursor log => exact h.elim
  | faulted fault log => exact h
  | unfinished => exact h

end BreaksOff

/-- Two outcomes of one kind, with faults and logs that belong together, unless the first breaks off. -/
inductive Corresponds (k : RunPairing) (values : α → Cursor → β → Cursor → Prop) :
    Outcome α → Outcome β → Prop
  | finished {value : α} {cursor : Cursor} {value' : β} {cursor' : Cursor} {log log' : List Event}
      (h : values value cursor value' cursor') (hlog : k.logs log log') :
      Corresponds k values (.finished value cursor log) (.finished value' cursor' log')
  | faulted {fault fault' : Fault} {log log' : List Event} (h : k.faults fault fault')
      (hlog : k.logs log log') : Corresponds k values (.faulted fault log) (.faulted fault' log')
  | unfinished : Corresponds k values .unfinished .unfinished
  | broken {outcome : Outcome α} (h : outcome.BreaksOff k.excused) (outcome' : Outcome β) :
      Corresponds k values outcome outcome'

namespace Corresponds

variable {values : α → Cursor → β → Cursor → Prop} {outcome : Outcome α} {outcome' : Outcome β}

theorem mono {values' : α → Cursor → β → Cursor → Prop} (h : outcome.Corresponds k values outcome')
    (hvalues : ∀ value stop value' stop', values value stop value' stop' →
      values' value stop value' stop') : outcome.Corresponds k values' outcome' := by
  cases h with
  | finished h hlog => exact .finished (hvalues _ _ _ _ h) hlog
  | faulted h hlog => exact .faulted h hlog
  | unfinished => exact .unfinished
  | broken h outcome' => exact .broken h outcome'

/-- What each of the two ensures by itself holds of them together. -/
theorem and_ensures {allowed allowed' : Fault → Prop} {post : α → Cursor → Prop}
    {post' : β → Cursor → Prop} (h : outcome.Corresponds k values outcome')
    (hpost : outcome.Ensures allowed post) (hpost' : outcome'.Ensures allowed' post') :
    outcome.Corresponds k (fun value stop value' stop' =>
      values value stop value' stop' ∧ post value stop ∧ post' value' stop') outcome' := by
  cases h with
  | finished h hlog => exact .finished ⟨h, hpost, hpost'⟩ hlog
  | faulted h hlog => exact .faulted h hlog
  | unfinished => exact .unfinished
  | broken h outcome' => exact .broken h outcome'

theorem after (h : outcome.Corresponds k values outcome') {log log' : List Event} (hlog : k.logs log log') :
    (outcome.after log).Corresponds k values (outcome'.after log') := by
  cases h with
  | finished h hrest => exact .finished h (k.logs_append hlog hrest)
  | faulted h hrest => exact .faulted h (k.logs_append hlog hrest)
  | unfinished => exact .unfinished
  | broken h outcome' => exact .broken (h.after log) _

/-- Corresponding pieces that are gone on from alike make corresponding wholes. -/
theorem andThen {values' : γ → Cursor → δ → Cursor → Prop} {goOn : α → Cursor → Outcome γ}
    {goOn' : β → Cursor → Outcome δ} (h : outcome.Corresponds k values outcome')
    (hgoOn : ∀ value stop value' stop', values value stop value' stop' →
      (goOn value stop).Corresponds k values' (goOn' value' stop')) :
    (outcome.andThen goOn).Corresponds k values' (outcome'.andThen goOn') := by
  cases h with
  | finished h hlog => exact (hgoOn _ _ _ _ h).after hlog
  | faulted h hlog => exact .faulted h hlog
  | unfinished => exact .unfinished
  | broken h outcome' => exact .broken (h.andThen goOn) _

/-- Two runs that say the same in every step come to the same, up to where they stand. -/
theorem eq_moved {pairing : CursorPairing}
    (offset_eq : ∀ {c c'}, pairing.cursors c c' → c'.offset = c.offset) {move : Cursor → Cursor}
    {values : α → Cursor → α → Cursor → Prop} {outcome outcome' : Outcome α}
    (h : outcome.Corresponds (pairing.saysSame (fun _ => False) offset_eq) values outcome')
    (hvalues : ∀ value stop value' stop', values value stop value' stop' →
      value' = value ∧ stop' = move stop) :
    outcome' = outcome.andThen fun value stop => .finished value (move stop) [] := by
  cases h with
  | @finished value stop value' stop' log log' h hlog =>
      obtain ⟨rfl, rfl⟩ := hvalues _ _ _ _ h
      obtain rfl : log = log' := hlog
      show Outcome.finished _ _ log = Outcome.finished _ _ (log ++ [])
      rw [List.append_nil]
  | @faulted fault fault' log log' h hlog =>
      obtain rfl : fault = fault' := h
      obtain rfl : log = log' := hlog
      rfl
  | unfinished => rfl
  | broken h _ => exact absurd h (BreaksOff.not_never outcome)

/-- It is enough to compare a longer run with the second, if the first need not be finished. -/
theorem of_extends {longer : Outcome α} (hnone : k.excused none) (hlonger : outcome.Extends longer)
    (h : longer.Corresponds k values outcome') : outcome.Corresponds k values outcome' := by
  by_cases hends : outcome = .unfinished
  · subst hends
    exact .broken (.of_unfinished hnone) outcome'
  · rw [← hlonger hends]
    exact h

end Corresponds

end Outcome

namespace RunPairing

variable {k : RunPairing} {c c' stop stop' last last' : Cursor} {run run' more text : Text}

/-! ## Passing the same text -/

/-- The two runs have passed the same text, to cursors that belong together. -/
structure Pass (k : RunPairing) (c c' : Cursor) (run : Text) (stop stop' : Cursor) : Prop where
  left : c.Passes run stop
  right : c'.Passes run stop'
  cursors : k.cursors stop stop'

namespace Pass

theorem refl (hc : k.cursors c c') : k.Pass c c' [] c c' :=
  ⟨Cursor.Passes.refl c, Cursor.Passes.refl c', hc⟩

theorem trans (h : k.Pass c c' run stop stop') (h' : k.Pass stop stop' more last last') :
    k.Pass c c' (run ++ more) last last' :=
  ⟨h.left.trans h'.left, h.right.trans h'.right, h'.cursors⟩

/-- What was passed is what lay ahead before and does not after, so it is the same in both runs. -/
theorem of_passes (hc : k.cursors c c') (hstop : k.cursors stop stop') (h : c.Passes run stop)
    (h' : c'.Passes run' stop') : k.Pass c c' run stop stop' := by
  have hahead : run' ++ stop.ahead = run ++ stop.ahead := by
    rw [← h.ahead_eq, ← k.ahead_eq hc, h'.ahead_eq, k.ahead_eq hstop]
  obtain rfl : run' = run := List.append_cancel_right hahead
  exact ⟨h, h', hstop⟩

theorem offset_eq_iff (h : k.Pass c c' run stop stop') :
    stop'.offset = c'.offset ↔ stop.offset = c.offset := by
  have hleft := h.left.offset_eq
  have hright := h.right.offset_eq
  constructor
  · intro hstill
    omega
  · intro hstill
    omega

theorem trans_text {skipped : Text} (h : k.Pass c c' (skipped ++ text) stop stop')
    (h' : k.Pass stop stop' more last last') : k.Pass c c' (skipped ++ (text ++ more)) last last' := by
  rw [← List.append_assoc]
  exact h.trans h'

theorem skipBlanks (hc : k.cursors c c') : k.Pass c c' c.gap c.skipBlanks.2 c'.skipBlanks.2 :=
  of_passes hc (k.skipBlanks hc) (Cursor.passes_skipBlanks c) (Cursor.passes_skipBlanks c')

/-- The pins that were in force before belong together as well. -/
theorem of_pin (hc : k.cursors c c') (h : k.Pass c.pin c'.pin run stop stop') :
    k.Pass c c' run (stop.repin c.pinned) (stop'.repin c'.pinned) :=
  ⟨h.left.of_pin, h.right.of_pin, k.repin hc h.cursors⟩

end Pass

/-! ## Answering alike -/

/-- Two matches that started at `c` and at `c'` answer alike. -/
structure Answer (k : RunPairing) (c c' : Cursor) (verdict : Verdict) (stop : Cursor)
    (verdict' : Verdict) (stop' : Cursor) : Prop where
  left : Answers c verdict stop
  right : Answers c' verdict' stop'
  verdicts : SameVerdict k.failures verdict verdict'
  cursors : k.cursors stop stop'

/-- Two attempts come to verdicts that belong together.  After a failure they may stand anywhere. -/
def Attempt (k : RunPairing) (verdict : Verdict) (stop : Cursor) (verdict' : Verdict)
    (stop' : Cursor) : Prop :=
  SameVerdict k.failures verdict verdict' ∧ ∀ text, verdict = .ok text → k.cursors stop stop'

/-- Two matches answer alike wherever the cursors belong together. -/
def Matches (k : RunPairing) (matching matching' : Matching) : Prop :=
  ∀ {c c'}, k.cursors c c' → (matching c).Corresponds k (k.Answer c c') (matching' c')

/-- Two looks ahead say the same wherever the cursors belong together, and stay there. -/
def Looks (k : RunPairing) (looking looking' : Looking) : Prop :=
  ∀ {c c'}, k.cursors c c' →
    (looking c).Corresponds k (fun can stop can' stop' => can' = can ∧ stop = c ∧ stop' = c') (looking' c')

/-- Two rules, each with its way to match, that belong together and answer alike. -/
def AlikeUnder (k : RunPairing) (self self' : Rule → Matching) (rule rule' : Rule) : Prop :=
  k.rules rule rule' ∧ k.Matches (self rule) (self' rule')

theorem Answer.pass {verdict verdict' : Verdict} (h : k.Answer c c' verdict stop verdict' stop')
    (hc : k.cursors c c') : ∃ run, k.Pass c c' run stop stop' := by
  obtain ⟨run, hrun⟩ := h.left.passes
  obtain ⟨run', hrun'⟩ := h.right.passes
  exact ⟨run, Pass.of_passes hc h.cursors hrun hrun'⟩

theorem Answer.pass_text (h : k.Answer c c' (.ok text) stop (.ok text) stop') (hc : k.cursors c c') :
    ∃ skipped, k.Pass c c' (skipped ++ text) stop stop' := by
  obtain ⟨skipped, -, hpass⟩ := h.left
  obtain ⟨skipped', -, hpass'⟩ := h.right
  exact ⟨skipped, Pass.of_passes hc h.cursors hpass hpass'⟩

theorem Answer.attempt {verdict verdict' : Verdict} (h : k.Answer c c' verdict stop verdict' stop') :
    k.Attempt verdict stop verdict' stop' :=
  ⟨h.verdicts, fun _ _ => h.cursors⟩

theorem Attempt.ok (text : Text) (hstop : k.cursors stop stop') :
    k.Attempt (.ok text) stop (.ok text) stop' :=
  ⟨.ok text, fun _ _ => hstop⟩

theorem Attempt.error {failure failure' : Failure} (h : k.failures failure failure') (stop stop' : Cursor) :
    k.Attempt (.error failure) stop (.error failure') stop' := by
  refine ⟨.error h, ?_⟩
  rintro text ⟨⟩

end RunPairing

/-! ## Constructs -/

section Constructs

open RunPairing

variable {k : RunPairing} {self self' : Rule → Matching} {c c' : Cursor}

theorem repeated_corresponds {body body' : Rule} (hbody : k.AlikeUnder self self' body body') (bound : Nat)
    (hc : k.cursors c c') :
    (repeated self body bound c).Corresponds k
      (fun count stop count' stop' => count' = count ∧ ∃ run, k.Pass c c' run stop stop')
      (repeated self' body' bound c') := by
  induction bound generalizing c c' with
  | zero => exact .unfinished
  | succ bound ih =>
      unfold repeated
      refine (hbody.2 hc).andThen ?_
      intro verdict stop verdict' stop' hanswer
      obtain ⟨run, hrun⟩ := hanswer.pass hc
      cases hanswer.verdicts with
      | ok text =>
          simp only [hrun.offset_eq_iff]
          split
          · exact .finished ⟨rfl, run, hrun⟩ k.logs_nil
          · refine (ih hrun.cursors).andThen ?_
            rintro _ last count last' ⟨rfl, more, hmore⟩
            exact .finished ⟨rfl, run ++ more, hrun.trans hmore⟩ k.logs_nil
      | error hfailure =>
          exact .finished ⟨rfl, run, hrun⟩ (k.logs_repetitionStopped hbody.1 hc hfailure)

/-- Both cut out what they have passed since the start. -/
theorem upTo_corresponds {run : Text} {stop stop' : Cursor} (h : k.Pass c c' run stop stop') :
    (Matching.upTo c.offset stop).Corresponds k k.Attempt (Matching.upTo c'.offset stop') := by
  rw [Matching.upTo_offset h.left, Matching.upTo_offset h.right]
  exact .finished (.ok run h.cursors) k.logs_nil

theorem matchOneOrMore_corresponds {body body' : Rule} (hbody : k.AlikeUnder self self' body body')
    (bound : Nat) (hc : k.cursors c c') :
    (matchOneOrMore self bound body c).Corresponds k k.Attempt (matchOneOrMore self' bound body' c') := by
  refine (repeated_corresponds hbody bound hc).andThen ?_
  rintro _ stop count stop' ⟨rfl, run, hrun⟩
  split
  · exact .finished (.error (k.noneRepeated hbody.1 hc) stop stop') k.logs_nil
  · exact upTo_corresponds hrun

theorem matchZeroOrMore_corresponds {body body' : Rule} (hbody : k.AlikeUnder self self' body body')
    (bound : Nat) (hc : k.cursors c c') :
    (matchZeroOrMore self bound body c).Corresponds k k.Attempt (matchZeroOrMore self' bound body' c') := by
  refine (repeated_corresponds hbody bound hc).andThen ?_
  rintro _ stop count stop' ⟨rfl, run, hrun⟩
  exact upTo_corresponds hrun

theorem matchOptional_corresponds {body body' : Rule} (hbody : k.AlikeUnder self self' body body')
    (hc : k.cursors c c') :
    (matchOptional self body c).Corresponds k k.Attempt (matchOptional self' body' c') := by
  refine (hbody.2 hc).andThen ?_
  intro verdict stop verdict' stop' hanswer
  cases hanswer.verdicts with
  | ok text => exact .finished (.ok text hanswer.cursors) k.logs_nil
  | error _ => exact .finished (.ok [] hanswer.cursors) k.logs_nil

/-- Every alternative is tried where the choice started, in both runs. -/
theorem firstMatch_corresponds {rules rules' : List Rule}
    (h : List.Forall₂ (k.AlikeUnder self self') rules rules') (hc : k.cursors c c') (index : Nat) :
    (firstMatch self c.offset index rules c).Corresponds k
      (fun found stop found' stop' => found' = found ∧ k.cursors stop stop')
      (firstMatch self' c'.offset index rules' c') := by
  induction h generalizing index with
  | nil => exact .finished ⟨rfl, hc⟩ k.logs_nil
  | cons hfirst _ ih =>
      unfold firstMatch
      refine (hfirst.2 hc).andThen ?_
      intro verdict stop verdict' stop' hanswer
      cases hanswer.verdicts with
      | ok text => exact .finished ⟨rfl, hanswer.cursors⟩ k.logs_nil
      | error hfailure =>
          obtain rfl : stop = c := hanswer.left
          obtain rfl : stop' = c' := hanswer.right
          exact (ih (index + 1)).after (k.logs_alternativeFailed index hfirst.1 hc hfailure)

theorem matchOneOf_corresponds {alternatives alternatives' : List Rule}
    (h : List.Forall₂ (k.AlikeUnder self self') alternatives alternatives') (hc : k.cursors c c') :
    (matchOneOf self alternatives c).Corresponds k k.Attempt (matchOneOf self' alternatives' c') := by
  refine (firstMatch_corresponds h hc 0).andThen ?_
  rintro _ stop found stop' ⟨rfl, hstop⟩
  cases found with
  | some text => exact .finished (.ok text hstop) k.logs_nil
  | none =>
      have hrules : List.Forall₂ k.rules alternatives alternatives' := h.imp fun _ _ halike => halike.1
      exact .finished (.error (k.noAlternative hrules hc) stop stop') (k.logs_choiceFailed hc)

theorem laterPart_corresponds {part part' : Rule} (hpart : k.AlikeUnder self self' part part')
    (spacing : Spacing) (hc : k.cursors c c') :
    (laterPart self spacing part c).Corresponds k
      (fun verdict stop verdict' stop' =>
        SameVerdict k.failures verdict verdict' ∧ ∃ run, k.Pass c c' run stop stop')
      (laterPart self' spacing part' c') := by
  cases spacing with
  | spaced =>
      have hskip := Pass.skipBlanks hc
      refine (hpart.2 hskip.cursors).mono ?_
      intro verdict stop verdict' stop' hanswer
      obtain ⟨run, hrun⟩ := hanswer.pass hskip.cursors
      exact ⟨hanswer.verdicts, c.gap ++ run, hskip.trans hrun⟩
  | adjacent =>
      refine (hpart.2 (k.pin hc)).andThen ?_
      intro verdict stop verdict' stop' hanswer
      obtain ⟨run, hrun⟩ := hanswer.pass (k.pin hc)
      exact .finished ⟨hanswer.verdicts, run, hrun.of_pin hc⟩ k.logs_nil

theorem abandon_corresponds {start start' stop stop' : Cursor} {run : Text} {part part' : Rule}
    {cause cause' : Failure} (hstart : k.cursors start start') (h : k.Pass start start' run stop stop')
    (hpart : k.rules part part') (hcause : k.failures cause cause') (index : Nat) :
    (abandon start.offset index part cause stop).Corresponds k k.Attempt
      (abandon start'.offset index part' cause' stop') := by
  rw [abandon_eq h.left.frame, abandon_eq h.right.frame]
  exact .finished (.error (k.partFailed index hcause) start start') (k.logs_partFailed index hpart hstart)

/-- The two series started at `start` and `start'`, and have skipped and matched the same so far. -/
theorem laterParts_corresponds {parts parts' : List Rule}
    (h : List.Forall₂ (k.AlikeUnder self self') parts parts') (spacing : Spacing) {start start' : Cursor}
    (hstart : k.cursors start start') {skipped text : Text}
    (hpass : k.Pass start start' (skipped ++ text) c c') (index : Nat) :
    (laterParts self spacing start.offset (start.offset + Text.byteLength skipped) index parts c).Corresponds
      k k.Attempt
      (laterParts self' spacing start'.offset (start'.offset + Text.byteLength skipped) index parts' c') := by
  induction h generalizing c c' text index with
  | nil =>
      rw [laterParts, laterParts, Matching.upTo_eq hpass.left, Matching.upTo_eq hpass.right]
      exact .finished (.ok text hpass.cursors) k.logs_nil
  | cons hpart _ ih =>
      unfold laterParts
      refine (laterPart_corresponds hpart spacing hpass.cursors).andThen ?_
      rintro verdict stop verdict' stop' ⟨hverdicts, run, hrun⟩
      cases hverdicts with
      | ok partText => exact ih (hpass.trans_text hrun) (index + 1)
      | error hcause => exact abandon_corresponds hstart (hpass.trans hrun) hpart.1 hcause index

theorem matchSeries_corresponds {parts parts' : List Rule}
    (h : List.Forall₂ (k.AlikeUnder self self') parts parts') (spacing : Spacing) (hc : k.cursors c c') :
    (matchSeries self spacing parts c).Corresponds k k.Attempt (matchSeries self' spacing parts' c') := by
  cases h with
  | nil => exact upTo_corresponds (Pass.refl hc)
  | cons hfirst hothers =>
      unfold matchSeries
      refine (hfirst.2 hc).andThen ?_
      intro verdict stop verdict' stop' hanswer
      cases hanswer.verdicts with
      | ok text =>
          obtain ⟨skipped, hpass⟩ := hanswer.pass_text hc
          have hleft := hpass.left.textStart_eq
          have hright := hpass.right.textStart_eq
          simp only [if_pos hleft.1, if_pos hright.1, hleft.2, hright.2]
          exact laterParts_corresponds hothers spacing hc hpass 1
      | error hcause =>
          obtain ⟨run, hrun⟩ := hanswer.pass hc
          exact abandon_corresponds hc hrun hfirst.1 hcause 0

theorem anyCan_corresponds {looks looks' : Rule → Looking} {rules rules' : List Rule}
    (h : List.Forall₂ (fun rule rule' => k.Looks (looks rule) (looks' rule')) rules rules')
    (hc : k.cursors c c') :
    (anyCan looks rules c).Corresponds k
      (fun can stop can' stop' => can' = can ∧ stop = c ∧ stop' = c') (anyCan looks' rules' c') := by
  induction h with
  | nil => exact .finished ⟨rfl, rfl, rfl⟩ k.logs_nil
  | cons hfirst _ ih =>
      unfold anyCan
      refine (hfirst hc).andThen ?_
      rintro _ _ can _ ⟨rfl, rfl, rfl⟩
      split
      · exact .finished ⟨rfl, rfl, rfl⟩ k.logs_nil
      · exact ih

end Constructs

/-! ## Rules -/

/-- What is taken back after a failure is taken back in both runs. -/
theorem Matching.restoring_corresponds {k : RunPairing} {attempt attempt' : Matching}
    {allowed allowed' : Fault → Prop} {c c' : Cursor} (hc : k.cursors c c')
    (hleft : (attempt c).Ensures allowed (Attempts c))
    (hright : (attempt' c').Ensures allowed' (Attempts c'))
    (h : (attempt c).Corresponds k k.Attempt (attempt' c')) :
    (Matching.restoring attempt c).Corresponds k (k.Answer c c') (Matching.restoring attempt' c') := by
  refine (h.and_ensures hleft hright).andThen ?_
  rintro verdict stop verdict' stop' ⟨⟨hverdicts, hstop⟩, hattempt, hattempt'⟩
  cases hverdicts with
  | ok text => exact .finished ⟨hattempt, hattempt', .ok text, hstop text rfl⟩ k.logs_nil
  | error hfailure =>
      dsimp only
      rw [Cursor.moveTo_offset hattempt, Cursor.moveTo_offset hattempt']
      exact .finished ⟨rfl, rfl, .error hfailure, hc⟩ k.logs_nil

theorem Terminal.canRead_corresponds {k : RunPairing} {terminal : Terminal} (h : k.Reads terminal) :
    k.Looks terminal.canRead terminal.canRead := by
  intro c c' hc
  rw [canRead_eq, canRead_eq]
  exact .finished ⟨(h hc).1.isOk_eq, rfl, rfl⟩ k.logs_nil

namespace RunPairing

variable {k : RunPairing} {related : Rule → Rule → Prop} {g g' : Grammar}

/-- What two runs find in place of a cell. -/
inductive SameFinding (k : RunPairing) (related : Rule → Rule → Prop) :
    Except Fault Rule → Except Fault Rule → Prop
  | ok {definition definition' : Rule} (h : related definition definition') :
      SameFinding k related (.ok definition) (.ok definition')
  | error {fault fault' : Fault} (h : k.faults fault fault') :
      SameFinding k related (.error fault) (.error fault')
  | excused {fault : Fault} (h : k.excused (some fault)) (found : Except Fault Rule) :
      SameFinding k related (.error fault) found

/-- Two rules of one shape, each in a grammar of its own, whose callees are related one by one. -/
inductive SameShape (k : RunPairing) (g g' : Grammar) (related : Rule → Rule → Prop) :
    Rule → Rule → Prop
  | terminal {t : Terminal} (h : k.Reads t) : SameShape k g g' related (.terminal t) (.terminal t)
  | named (name : String) {body body' : Rule} (h : related body body') :
      SameShape k g g' related (.named name body) (.named name body')
  | oneOrMore {body body' : Rule} (h : related body body') :
      SameShape k g g' related (.oneOrMore body) (.oneOrMore body')
  | zeroOrMore {body body' : Rule} (h : related body body') :
      SameShape k g g' related (.zeroOrMore body) (.zeroOrMore body')
  | optional {body body' : Rule} (h : related body body') :
      SameShape k g g' related (.optional body) (.optional body')
  | oneOf {alternatives alternatives' : List Rule} (h : List.Forall₂ related alternatives alternatives') :
      SameShape k g g' related (.oneOf alternatives) (.oneOf alternatives')
  | series (spacing : Spacing) {parts parts' : List Rule} (h : List.Forall₂ related parts parts') :
      SameShape k g g' related (.series spacing parts) (.series spacing parts')
  | ref {cell cell' : Cell} (h : k.SameFinding related (g.require cell) (g'.require cell')) :
      SameShape k g g' related (.ref cell) (.ref cell')

/-- A rule has its own shape in any two grammars in which its cells stand for related rules. -/
theorem SameShape.of_cells {rule : Rule} (hreads : ∀ t, rule = .terminal t → k.Reads t)
    (hchildren : ∀ child ∈ rule.children, related child child)
    (hcells : ∀ cell, rule = .ref cell → k.SameFinding related (g.require cell) (g'.require cell)) :
    k.SameShape g g' related rule rule := by
  cases rule with
  | terminal t => exact .terminal (hreads t rfl)
  | named name body => exact .named name (hchildren body (by simp))
  | oneOrMore body => exact .oneOrMore (hchildren body (by simp))
  | zeroOrMore body => exact .zeroOrMore (hchildren body (by simp))
  | optional body => exact .optional (hchildren body (by simp))
  | oneOf alternatives => exact .oneOf (List.forall₂_same.2 hchildren)
  | series spacing parts => exact .series spacing (List.forall₂_same.2 hchildren)
  | ref cell => exact .ref (hcells cell rfl)

/-- In one grammar a cell stands for the same rule on both sides. -/
theorem SameShape.refl {rule : Rule} (hreads : ∀ t, rule = .terminal t → k.Reads t)
    (h : ∀ callee ∈ g.callees rule, related callee callee) : k.SameShape g g related rule rule := by
  cases hrule : rule with
  | ref cell =>
      subst hrule
      apply SameShape.ref
      cases hdef : g.definition? cell with
      | some definition =>
          rw [Grammar.require_eq_ok hdef]
          exact .ok (h definition (by simp [hdef]))
      | none =>
          rw [Grammar.require_eq_error hdef]
          exact .error (k.faults_refl _)
  | _ =>
      subst hrule
      exact SameShape.of_cells hreads h (by rintro cell ⟨⟩)

end RunPairing

namespace Grammar

variable {g g' : Grammar} {k : RunPairing}

/-- Two rules of one shape correspond if their callees do. -/
theorem attempt_corresponds {self self' : Rule → Matching} {rule rule' : Rule}
    (h : k.SameShape g g' (k.AlikeUnder self self') rule rule') (bound : Nat) {c c' : Cursor}
    (hc : k.cursors c c') :
    (g.attempt bound self rule c).Corresponds k k.Attempt (g'.attempt bound self' rule' c') := by
  cases h with
  | terminal h =>
      obtain ⟨hverdicts, hstop⟩ := h hc
      exact .finished ⟨hverdicts, fun _ _ => hstop⟩ k.logs_nil
  | named name h => exact (h.2 hc).mono fun _ _ _ _ hanswer => hanswer.attempt
  | oneOrMore h => exact matchOneOrMore_corresponds h bound hc
  | zeroOrMore h => exact matchZeroOrMore_corresponds h bound hc
  | optional h => exact matchOptional_corresponds h hc
  | oneOf h => exact matchOneOf_corresponds h hc
  | series spacing h => exact matchSeries_corresponds h spacing hc
  | @ref cell cell' h =>
      rw [attempt, attempt]
      generalize g.require cell = found at h
      generalize g'.require cell' = found' at h
      cases h with
      | ok h => exact (h.2 hc).mono fun _ _ _ _ hanswer => hanswer.attempt
      | error h => exact .faulted h k.logs_nil
      | excused h _ => exact .broken (.of_fault h []) _

/-- Looks ahead for two rules of one shape correspond if those for their callees do. -/
theorem look_corresponds {looks looks' : Rule → Looking} {rule rule' : Rule}
    (h : k.SameShape g g' (fun callee callee' => k.Looks (looks callee) (looks' callee')) rule rule') :
    k.Looks (g.look looks rule) (g'.look looks' rule') := by
  cases h with
  | terminal h => exact Terminal.canRead_corresponds h
  | named name h => exact h
  | oneOrMore h => exact h
  | zeroOrMore h => exact fun _ => .finished ⟨rfl, rfl, rfl⟩ k.logs_nil
  | optional h => exact fun _ => .finished ⟨rfl, rfl, rfl⟩ k.logs_nil
  | oneOf h => exact fun hc => anyCan_corresponds h hc
  | series spacing h =>
      cases h with
      | nil => exact fun _ => .finished ⟨rfl, rfl, rfl⟩ k.logs_nil
      | cons hfirst _ => exact hfirst
  | @ref cell cell' h =>
      rw [look, look]
      generalize g.require cell = found at h
      generalize g'.require cell' = found' at h
      cases h with
      | ok h => exact h
      | error h => exact fun _ => .faulted h k.logs_nil
      | excused h _ => exact fun _ => .broken (.of_fault h []) _

/-- What two rules of one shape come to corresponds, once failed attempts are taken back. -/
theorem restoring_attempt_corresponds {self self' : Rule → Matching} {rule rule' : Rule}
    (hself : ∀ callee c, (self callee c).Ensures (fun fault => ∃ name, fault = .undefinedRule name)
      (Answers c))
    (hself' : ∀ callee c, (self' callee c).Ensures (fun fault => ∃ name, fault = .undefinedRule name)
      (Answers c))
    (h : k.SameShape g g' (k.AlikeUnder self self') rule rule') (bound : Nat) :
    k.Matches (Matching.restoring (g.attempt bound self rule))
      (Matching.restoring (g'.attempt bound self' rule')) := by
  intro c c' hc
  have hleft := g.attempt_ensures_attempts hself bound rule c
  have hright := g'.attempt_ensures_attempts hself' bound rule' c'
  exact Matching.restoring_corresponds hc hleft hright (attempt_corresponds h bound hc)

/-- The budget goes by what lies ahead, so it is the same for cursors that belong together. -/
theorem budget_eq (hc : k.cursors c c') (rule : Rule) : g.budget rule c' = g.budget rule c := by
  rw [budget, budget, k.ahead_eq hc]

section Closed

/- A class of rules that contains the callees of its members, and whose terminals are read alike. -/
variable (closed : Rule → Prop) (hcallees : ∀ rule, closed rule → ∀ callee ∈ g.callees rule, closed callee)
  (hreads : ∀ terminal, closed (.terminal terminal) → k.Reads terminal)

include hcallees hreads

/-- A rule of the class corresponds to itself, whatever cursors belong together. -/
theorem matchWithin_corresponds_of_closed (hrules : ∀ rule, k.rules rule rule) (bound : Nat) {rule : Rule}
    (hrule : closed rule) : k.Matches (g.matchWithin bound rule) (g.matchWithin bound rule) := by
  induction bound generalizing rule with
  | zero => exact fun _ => .unfinished
  | succ bound ih =>
      apply restoring_attempt_corresponds (g.matchWithin_ensures bound) (g.matchWithin_ensures bound)
      apply RunPairing.SameShape.refl
      · rintro terminal rfl
        exact hreads terminal hrule
      · intro callee hcallee
        exact ⟨hrules callee, ih (hcallees rule hrule callee hcallee)⟩

theorem mayMatchWithin_corresponds_of_closed (bound : Nat) {rule : Rule} (hrule : closed rule) :
    k.Looks (g.mayMatchWithin bound rule) (g.mayMatchWithin bound rule) := by
  induction bound generalizing rule with
  | zero => exact fun _ => .unfinished
  | succ bound ih =>
      apply look_corresponds
      apply RunPairing.SameShape.refl
      · rintro terminal rfl
        exact hreads terminal hrule
      · intro callee hcallee
        exact ih (hcallees rule hrule callee hcallee)

theorem matchAt_corresponds_of_closed (hrules : ∀ rule, k.rules rule rule) {rule : Rule}
    (hrule : closed rule) : k.Matches (g.matchAt rule) (g.matchAt rule) := by
  intro c c' hc
  rw [matchAt, matchAt, budget_eq hc]
  exact matchWithin_corresponds_of_closed closed hcallees hreads hrules (g.budget rule c) hrule hc

theorem mayMatch_corresponds_of_closed {rule : Rule} (hrule : closed rule) :
    k.Looks (g.mayMatch rule) (g.mayMatch rule) := by
  intro c c' hc
  rw [mayMatch, mayMatch, budget_eq hc]
  exact mayMatchWithin_corresponds_of_closed closed hcallees hreads (g.budget rule c) hrule hc

end Closed

/-- If all terminals are read alike, then every rule corresponds to itself. -/
theorem matchAt_corresponds {k : Correspondence} (hrules : ∀ rule, k.rules rule rule) (rule : Rule) :
    k.Matches (g.matchAt rule) (g.matchAt rule) :=
  matchAt_corresponds_of_closed (fun _ => True) (fun _ _ _ _ => trivial) (fun terminal _ => k.reads terminal)
    hrules trivial

theorem mayMatch_corresponds {k : Correspondence} (rule : Rule) :
    k.Looks (g.mayMatch rule) (g.mayMatch rule) :=
  mayMatch_corresponds_of_closed (fun _ => True) (fun _ _ _ _ => trivial) (fun terminal _ => k.reads terminal)
    trivial

end Grammar

end RuleMatch
