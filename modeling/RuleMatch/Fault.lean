/-!
# Faults

A rule that does not match is an ordinary outcome.  A fault is not: it says that a cursor was sent to a
place that its text does not have, or that a grammar was used or changed in a way that makes no sense.
A fault ends the operation that meets it.  Three of the four kinds have a message of their own.
-/

namespace RuleMatch

/-- A misuse of a cursor or of a grammar. -/
inductive Fault where
  /-- A cursor was sent to an offset at which no character of its text starts. -/
  | foreignMark
  /-- A piece of text was asked for whose ends are not in order or do not lie between characters. -/
  | brokenSlice
  /-- A recursive rule was used before its definition was set. -/
  | undefinedRule (name : String)
  /-- A recursive rule was given a second definition. -/
  | redefinedRule (name : String)
  deriving DecidableEq, Repr

namespace Fault

/-- What is wrong with a rule that has no definition when it is needed. -/
def undefinedRuleMessage (name : String) : String :=
  "Recursive rule '" ++ name ++ "' was used before its definition was set"

/-- The message of a fault, if it has one. -/
def message? : Fault → Option String
  | .foreignMark => some "mark does not belong to this input"
  | .brokenSlice => none
  | .undefinedRule name => some (undefinedRuleMessage name)
  | .redefinedRule name => some ("recursive rule '" ++ name ++ "' already has a definition")

end Fault

end RuleMatch
