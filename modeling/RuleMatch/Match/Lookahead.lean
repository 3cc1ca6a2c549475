import RuleMatch.Grammar.Basic
import RuleMatch.Match.Outcome
import RuleMatch.Match.Terminal

/-!
# Looking ahead

`Grammar.mayMatch` says whether a rule is expected to match, without moving the cursor and without a
word in the log.  Terminals are tried and taken back, so they are answered exactly.  A series is judged by
its first part alone, and a rule that may match nothing is always expected to match.  So a rule that is
expected to match may still fail, but one that is not will fail.
-/

namespace RuleMatch

/-- A way to look ahead: what comes of it, given a cursor. -/
abbrev Looking := Cursor → Outcome Bool

namespace Terminal

/-- Tries a terminal and takes it back. -/
def canRead (terminal : Terminal) : Looking := fun c =>
  let (verdict, stop) := terminal.read c
  .reaching verdict.isOk (stop.moveTo c.offset)

end Terminal

/-- Whether one of the rules is expected to match; the rules behind the first such are not asked. -/
def anyCan (self : Rule → Looking) : List Rule → Looking
  | [], c => .finished false c []
  | rule :: rules, c =>
      (self rule c).andThen fun can stop =>
        if can then .finished true stop [] else anyCan self rules stop

namespace Grammar

variable (g : Grammar)

/-- Looks ahead for a rule, given how to look ahead for the rules that it asks. -/
def look (self : Rule → Looking) : Rule → Looking
  | .terminal t => t.canRead
  | .named _ body => self body
  | .oneOrMore body => self body
  | .zeroOrMore _ => fun c => .finished true c []
  | .optional _ => fun c => .finished true c []
  | .oneOf alternatives => anyCan self alternatives
  | .series _ [] => fun c => .finished true c []
  | .series _ (first :: _) => self first
  | .ref cell =>
      match g.require cell with
      | .ok rule => self rule
      | .error fault => fun _ => .faulted fault []

/-- Looks ahead for a rule, with questions nested less deeply than the bound. -/
def mayMatchWithin : (bound : Nat) → Rule → Looking
  | 0, _ => fun _ => .unfinished
  | bound + 1, rule => g.look (mayMatchWithin bound) rule

/-- Whether a rule is expected to match where the cursor stands. -/
def mayMatch (rule : Rule) : Looking := fun c =>
  g.mayMatchWithin (g.budget rule c) rule c

/-- Whether the rule that a cell stands for is expected to match where the cursor stands. -/
def mayMatchCell (cell : Cell) : Looking := fun c =>
  match g.require cell with
  | .ok rule => g.mayMatch rule c
  | .error fault => .faulted fault []

end Grammar

end RuleMatch
