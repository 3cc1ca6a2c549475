import RuleMatch.Match.Rules
import RuleMatch.Match.Lookahead

/-!
# Operations on cursors

Everything that can be done with a cursor, as a type: `Operation` names what to do, `Operation.Answer` is
the type of what it answers, and `Operation.perform` does it.  A failed read is an answer and leaves the
cursor where it was; a fault leaves no cursor.
-/

namespace RuleMatch

/-- Something to do with a cursor. -/
inductive Operation where
  | peek
  | peekAt (count : Nat)
  | peekPastBlanks
  | startsWith (text : Text)
  | mark
  | moveTo (target : Nat)
  | textFrom (start : Nat)
  | advance (count : Nat)
  | read
  | readIf (accepts : Char → Bool)
  | pin
  | repin (previous : Option Nat)
  | skipBlanks
  | mayMatch (rule : Rule)
  | mayMatchCell (cell : Cell)
  | matchRule (rule : Rule)
  | matchCell (cell : Cell)

namespace Operation

/-- What an operation answers. -/
abbrev Answer : Operation → Type
  | .peek => Option Char
  | .peekAt _ => Option Char
  | .peekPastBlanks => Option Char
  | .startsWith _ => Bool
  | .mark => Nat
  | .moveTo _ => Unit
  | .textFrom _ => Text
  | .advance _ => Except ReadFailure Unit
  | .read => Except ReadFailure Char
  | .readIf _ => Except ReadFailure Char
  | .pin => Option Nat
  | .repin _ => Unit
  | .skipBlanks => Nat
  | .mayMatch _ => Bool
  | .mayMatchCell _ => Bool
  | .matchRule _ => Verdict
  | .matchCell _ => Verdict

/-- The outcome of a read that started at `c`. -/
def ofRead {α : Type} (c : Cursor) : Except ReadFailure (α × Cursor) → Outcome (Except ReadFailure α)
  | .ok (value, stop) => .finished (.ok value) stop []
  | .error failure => .finished (.error failure) c []

/-- Does an operation. -/
def perform (g : Grammar) : (operation : Operation) → Cursor → Outcome operation.Answer
  | .peek, c => .finished c.peek? c []
  | .peekAt count, c => .finished (c.peekAt? count) c []
  | .peekPastBlanks, c => .finished c.peekPastBlanks? c []
  | .startsWith text, c => .finished (c.startsWith text) c []
  | .mark, c => .finished c.offset c []
  | .moveTo target, c => .reaching () (c.moveTo target)
  | .textFrom start, c =>
      match c.textFrom start with
      | .ok text => .finished text c []
      | .error fault => .faulted fault []
  | .advance count, c => ofRead c ((c.advance count).map fun stop => ((), stop))
  | .read, c => ofRead c c.read
  | .readIf accepts, c => ofRead c (c.readIf accepts)
  | .pin, c => .finished c.pinned c.pin []
  | .repin previous, c => .finished () (c.repin previous) []
  | .skipBlanks, c => .finished c.skipBlanks.1 c.skipBlanks.2 []
  | .mayMatch rule, c => g.mayMatch rule c
  | .mayMatchCell cell, c => g.mayMatchCell cell c
  | .matchRule rule, c => g.matchAt rule c
  | .matchCell cell, c => g.matchCellAt cell c

end Operation

end RuleMatch
