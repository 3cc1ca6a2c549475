import RuleMatch.Grammar.Basic
import RuleMatch.Proofs.Lexemes
import RuleMatch.Proofs.Outcomes

/-!
# Evaluation without pins

A cursor carries a pin, and an adjacent series sets it and puts it back while it goes on.  The evaluator of
this module has no such state.  It is a function of the whole text, an offset in it, and one Boolean: whether
the place is held, which means that no blanks may be skipped there.  What a rule hands down to its callees is
said outright.  A later part of an adjacent series is held where it starts.  Every other callee is held where
its rule is, if it starts at the very same offset, and is free further on.

Texts are slices of the whole text, and nothing is ever put back.
-/

namespace RuleMatch

namespace Text

/-! ## Slices -/

/-- What is left of a text behind its first `n` bytes. -/
def dropBytes : (n : Nat) → Text → Text
  | _, [] => []
  | n, ch :: cs => if n = 0 then ch :: cs else dropBytes (n - ch.utf8Size) cs

/-- The first `n` bytes of a text. -/
def takeBytes : (n : Nat) → Text → Text
  | _, [] => []
  | n, ch :: cs => if n = 0 then [] else ch :: takeBytes (n - ch.utf8Size) cs

/-- The bytes of a text between two offsets. -/
def slice (start stop : Nat) (text : Text) : Text :=
  takeBytes (stop - start) (dropBytes start text)

theorem dropBytes_append (as bs : Text) : dropBytes (byteLength as) (as ++ bs) = bs := by
  induction as with
  | nil => cases bs <;> simp [dropBytes]
  | cons a as ih =>
      have hpos := a.utf8Size_pos
      have hne : ¬ a.utf8Size + byteLength as = 0 := by omega
      rw [List.cons_append, byteLength_cons, dropBytes, if_neg hne, Nat.add_sub_cancel_left]
      exact ih

theorem takeBytes_append (as bs : Text) : takeBytes (byteLength as) (as ++ bs) = as := by
  induction as with
  | nil => cases bs <;> simp [takeBytes]
  | cons a as ih =>
      have hpos := a.utf8Size_pos
      have hne : ¬ a.utf8Size + byteLength as = 0 := by omega
      rw [List.cons_append, byteLength_cons, takeBytes, if_neg hne, Nat.add_sub_cancel_left, ih]

end Text

namespace Cursor

theorem dropBytes_input (c : Cursor) : Text.dropBytes c.offset c.input = c.ahead := by
  rw [← c.byteLength_reverse_behind, input, Text.dropBytes_append]

theorem Passes.slice_eq {c d : Cursor} {run : Text} (h : c.Passes run d) :
    Text.slice c.offset d.offset c.input = run := by
  rw [Text.slice, c.dropBytes_input, h.offset_eq, Nat.add_sub_cancel_left, h.ahead_eq,
    Text.takeBytes_append]

end Cursor

/-! ## The evaluator -/

/-- Goes on from a match or from a failure.  A fault, or that there is no end, stays what it is. -/
def Reading.andThen (reading : Reading) (ifMatched : (text : Text) → (stop : Nat) → Reading)
    (ifFailed : Reading) : Reading :=
  match reading with
  | .matched text stop => ifMatched text stop
  | .failed => ifFailed
  | .faulted fault => .faulted fault
  | .unfinished => .unfinished

/-- A way to evaluate: what comes of it, given an offset and whether it is held. -/
abbrev Evaluation := (place : Nat) → (held : Bool) → Reading

/-- The offset behind the blanks at an offset, or the offset itself if it is held. -/
def Text.skipFrom (input : Text) (place : Nat) (held : Bool) : Nat :=
  if held then place else place + Text.byteLength (Text.blankRun (Text.dropBytes place input))

/-- Evaluates a terminal.  Only a character and a keyword may stand behind blanks. -/
def Terminal.evaluate (settings : Settings) (input : Text) (terminal : Terminal) : Evaluation :=
  fun place held =>
    let entry := if terminal.skipsBlanks then Text.skipFrom input place held else place
    match terminal.lexeme? settings (Text.dropBytes entry input) with
    | some text => .matched text (entry + Text.byteLength text)
    | none => .failed

section Constructs

variable (input : Text) (self : Rule → Evaluation)

/-- Repeats a body from `place` on, until it fails or matches nothing.  The repetition started at `start`,
and comes to `sofar` if the body does not match any more. -/
def evaluateRounds (body : Rule) (start : Nat) (held : Bool) :
    (bound : Nat) → (sofar : Reading) → (place : Nat) → Reading
  | 0, _, _ => .unfinished
  | bound + 1, sofar, place =>
      (self body place (held && place == start)).andThen
        (fun _ stop =>
          let reading := .matched (Text.slice start stop input) stop
          if stop = place then reading else evaluateRounds body start held bound reading stop)
        sofar

/-- Evaluates a body, or nothing. -/
def evaluateOptional (body : Rule) : Evaluation := fun place held =>
  (self body place held).andThen .matched (.matched [] place)

/-- Evaluates alternatives up to the first that does not fail. -/
def evaluateOneOf : List Rule → Evaluation
  | [], _, _ => .failed
  | rule :: rules, place, held =>
      (self rule place held).andThen .matched (evaluateOneOf rules place held)

/-- Evaluates a part of a series behind its first part.  The series started at `start`. -/
def evaluateLaterPart (spacing : Spacing) (start : Nat) (held : Bool) (part : Rule) (place : Nat) :
    Reading :=
  match spacing with
  | .spaced =>
      let here := held && place == start
      self part (Text.skipFrom input place here) here
  | .adjacent => self part place true

/-- Evaluates the parts of a series behind its first.  The text of the series so far is `text`. -/
def evaluateLaterParts (spacing : Spacing) (start : Nat) (held : Bool) :
    List Rule → (text : Text) → (place : Nat) → Reading
  | [], text, place => .matched text place
  | part :: parts, text, place =>
      (evaluateLaterPart input self spacing start held part place).andThen
        (fun _ stop =>
          evaluateLaterParts spacing start held parts (text ++ Text.slice place stop input) stop)
        .failed

/-- Evaluates all parts of a series. -/
def evaluateSeries (spacing : Spacing) : List Rule → Evaluation
  | [], place, _ => .matched [] place
  | first :: others, place, held =>
      (self first place held).andThen
        (fun text stop => evaluateLaterParts input self spacing place held others text stop)
        .failed

end Constructs

namespace Grammar

variable (g : Grammar) (settings : Settings) (input : Text)

/-- Evaluates a rule, given how to evaluate the rules that it calls for. -/
def evaluateCall (bound : Nat) (self : Rule → Evaluation) : Rule → Evaluation
  | .terminal t => t.evaluate settings input
  | .named _ body => self body
  | .oneOrMore body => fun place held =>
      evaluateRounds input self body place held bound .failed place
  | .zeroOrMore body => fun place held =>
      evaluateRounds input self body place held bound (.matched [] place) place
  | .optional body => evaluateOptional self body
  | .oneOf alternatives => evaluateOneOf self alternatives
  | .series spacing parts => evaluateSeries input self spacing parts
  | .ref cell =>
      match g.require cell with
      | .ok rule => self rule
      | .error fault => fun _ _ => .faulted fault

/-- Evaluates a rule, with calls nested less deeply than the bound. -/
def evaluateWithin : (bound : Nat) → Rule → Evaluation
  | 0, _ => fun _ _ => .unfinished
  | bound + 1, rule => g.evaluateCall settings input bound (evaluateWithin bound) rule

end Grammar

end RuleMatch
