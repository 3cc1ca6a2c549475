import RuleMatch.Grammar.Basic
import RuleMatch.Match.Outcome
import RuleMatch.Match.Terminal

/-!
# Matching rules

`Grammar.matchAt` matches a rule where a cursor stands.  If the rule matches, the cursor ends behind what
was matched, and the answer is the matched text without the blanks that were skipped in front of it.  If
it does not match, the cursor is put back to where it stood.

A choice takes its first alternative that matches and does not come back to the others.  A repetition
takes as much as it can, and ends at the first failure or at the first match that does not move the
cursor.  A spaced series skips blanks in front of each part but the first; an adjacent series pins the
cursor there instead, and puts the former pin back after the part.

Matching a rule calls for matching smaller rules and definitions, so every construct is written as a
function of how those are matched.  `matchWithin` ties the knot, with a bound on how deep calls nest and
how often a body is repeated; `Grammar.budget` is the bound that `Grammar.matchAt` goes by.  A rule that
calls for itself under the same circumstances does not end, whatever the bound.
-/

namespace RuleMatch

/-- A way to match: what comes of it, given a cursor. -/
abbrev Matching := Cursor → Outcome Verdict

namespace Matching

/-- Puts the cursor back to where it stood if the match fails. -/
def restoring (attempt : Matching) : Matching := fun c =>
  (attempt c).andThen fun verdict stop =>
    match verdict with
    | .ok text => .finished (.ok text) stop []
    | .error failure => .reaching (.error failure) (stop.moveTo c.offset)

/-- Ends a match with the text from an offset up to the cursor. -/
def upTo (mark : Nat) : Matching := fun c =>
  match c.textFrom mark with
  | .ok text => .finished (.ok text) c []
  | .error fault => .faulted fault []

end Matching

section Constructs

variable (self : Rule → Matching)

/-- Repeats a body for as long as it matches and moves the cursor, and counts the matches. -/
def repeated (body : Rule) : (bound : Nat) → Cursor → Outcome Nat
  | 0, _ => .unfinished
  | bound + 1, c =>
      (self body c).andThen fun verdict stop =>
        match verdict with
        | .ok _ =>
            if stop.offset = c.offset then .finished 1 stop []
            else (repeated body bound stop).andThen fun count stop => .finished (count + 1) stop []
        | .error failure => .finished 0 stop [.repetitionStopped body c.offset failure]

/-- One match of a body or more. -/
def matchOneOrMore (bound : Nat) (body : Rule) : Matching := fun c =>
  (repeated self body bound c).andThen fun count stop =>
    if count = 0 then .finished (.error (.noneRepeated body.describe c.offset)) stop []
    else Matching.upTo c.offset stop

/-- Any number of matches of a body. -/
def matchZeroOrMore (bound : Nat) (body : Rule) : Matching := fun c =>
  (repeated self body bound c).andThen fun _ stop => Matching.upTo c.offset stop

/-- A match of a body, or nothing. -/
def matchOptional (body : Rule) : Matching := fun c =>
  (self body c).andThen fun verdict stop =>
    match verdict with
    | .ok text => .finished (.ok text) stop []
    | .error _ => .finished (.ok []) stop []

/-- Tries alternatives, numbered from `index` on, and answers the text of the first that matches. -/
def firstMatch (mark : Nat) : (index : Nat) → List Rule → Cursor → Outcome (Option Text)
  | _, [], c => .finished none c []
  | index, rule :: rules, c =>
      (self rule c).andThen fun verdict stop =>
        match verdict with
        | .ok text => .finished (some text) stop []
        | .error failure =>
            (firstMatch mark (index + 1) rules stop).after
              [.alternativeFailed index rule mark failure]

/-- The first alternative that matches. -/
def matchOneOf (alternatives : List Rule) : Matching := fun c =>
  (firstMatch self c.offset 0 alternatives c).andThen fun found stop =>
    match found with
    | some text => .finished (.ok text) stop []
    | none =>
        .finished (.error (.noAlternative (Rule.describeAll alternatives) c.offset)) stop
          [.choiceFailed c.offset]

/-- Matches a part of a series behind its first part. -/
def laterPart (spacing : Spacing) (part : Rule) : Matching := fun c =>
  match spacing with
  | .spaced => self part c.skipBlanks.2
  | .adjacent =>
      (self part c.pin).andThen fun verdict stop => .finished verdict (stop.repin c.pinned) []

/-- Gives a series up because of one of its parts, and goes back to where the series started. -/
def abandon (mark index : Nat) (part : Rule) (cause : Failure) (stop : Cursor) : Outcome Verdict :=
  (Outcome.reaching (.error (.partFailed index cause)) (stop.moveTo mark)).after
    [.partFailed index part mark]

/-- Matches the parts of a series behind its first, numbered from `index` on.  The series started at
`mark`, and its text starts at `textStart`. -/
def laterParts (spacing : Spacing) (mark textStart : Nat) : (index : Nat) → List Rule → Matching
  | _, [], c => Matching.upTo textStart c
  | index, part :: parts, c =>
      (laterPart self spacing part c).andThen fun verdict stop =>
        match verdict with
        | .ok _ => laterParts spacing mark textStart (index + 1) parts stop
        | .error cause => abandon mark index part cause stop

/-- All parts of a series, one after the other.  What its first part matched ends where the cursor then
stands, so the text of the series starts that many bytes before. -/
def matchSeries (spacing : Spacing) : List Rule → Matching
  | [], c => Matching.upTo c.offset c
  | first :: others, c =>
      (self first c).andThen fun verdict stop =>
        match verdict with
        | .ok text =>
            if Text.byteLength text ≤ stop.offset then
              laterParts self spacing c.offset (stop.offset - Text.byteLength text) 1 others stop
            else .faulted .brokenSlice []
        | .error cause => abandon c.offset 0 first cause stop

end Constructs

namespace Grammar

variable (g : Grammar)

/-- Matches a rule, given how to match the rules that it calls for. -/
def attempt (bound : Nat) (self : Rule → Matching) : Rule → Matching
  | .terminal t => fun c =>
      let (verdict, stop) := t.read c
      .finished verdict stop []
  | .named _ body => self body
  | .oneOrMore body => matchOneOrMore self bound body
  | .zeroOrMore body => matchZeroOrMore self bound body
  | .optional body => matchOptional self body
  | .oneOf alternatives => matchOneOf self alternatives
  | .series spacing parts => matchSeries self spacing parts
  | .ref cell =>
      match g.require cell with
      | .ok rule => self rule
      | .error fault => fun _ => .faulted fault []

/-- Matches a rule, with calls nested less deeply than the bound. -/
def matchWithin : (bound : Nat) → Rule → Matching
  | 0, _ => fun _ => .unfinished
  | bound + 1, rule => Matching.restoring (g.attempt bound (matchWithin bound) rule)

/-- Matches a rule where the cursor stands. -/
def matchAt (rule : Rule) : Matching := fun c =>
  g.matchWithin (g.budget rule c) rule c

/-- Matches the rule that a cell stands for. -/
def matchCellAt (cell : Cell) : Matching := fun c =>
  match g.require cell with
  | .ok rule => g.matchAt rule c
  | .error fault => .faulted fault []

end Grammar

end RuleMatch
