import RuleMatch.Match.Failure
import RuleMatch.Rule.Description

/-!
# Outcomes of matching

Matching moves a cursor, keeps a log, and comes to one of three ends: it finishes with a value, it meets
a fault, or it does not end within the number of steps it was given.  `Outcome.andThen` joins two stretches
of matching, with their logs one after the other.
-/

namespace RuleMatch

/-- How much attention an entry of the log deserves. -/
inductive Level where
  | trace
  | debug
  deriving DecidableEq, Repr

/-- What matching reports while it goes on. -/
inductive Event where
  /-- A repetition ended because its body did not match at this offset. -/
  | repetitionStopped (body : Rule) (offset : Nat) (failure : Failure)
  /-- An alternative of a choice at this offset did not match. -/
  | alternativeFailed (index : Nat) (alternative : Rule) (offset : Nat) (failure : Failure)
  /-- No alternative of a choice at this offset matched. -/
  | choiceFailed (offset : Nat)
  /-- A part of the series that started at this offset did not match. -/
  | partFailed (index : Nat) (part : Rule) (offset : Nat)

namespace Event

/-- The level of an entry. -/
def level : Event → Level
  | .choiceFailed _ => .debug
  | _ => .trace

/-- The text of an entry. -/
def message : Event → String
  | .repetitionStopped body offset failure =>
      "repetition of " ++ body.describe ++ " stopped at offset " ++ toString offset ++ ": "
        ++ failure.message
  | .alternativeFailed index alternative offset failure =>
      "alternative " ++ toString index ++ " (" ++ alternative.describe ++ ") failed at offset "
        ++ toString offset ++ ": " ++ failure.message
  | .choiceFailed offset => "no alternative matched at offset " ++ toString offset
  | .partFailed index part offset =>
      "sequence element " ++ toString index ++ " (" ++ part.describe
        ++ ") failed, rewinding to offset " ++ toString offset

end Event

/-- What came of a stretch of matching. -/
inductive Outcome (α : Type) where
  | finished (value : α) (cursor : Cursor) (log : List Event)
  | faulted (fault : Fault) (log : List Event)
  | unfinished

namespace Outcome

variable {α β : Type}

/-- The outcome with a log in front of its own. -/
def after (log : List Event) : Outcome α → Outcome α
  | .finished value cursor rest => .finished value cursor (log ++ rest)
  | .faulted fault rest => .faulted fault (log ++ rest)
  | .unfinished => .unfinished

/-- Goes on from where a stretch of matching finished. -/
def andThen (outcome : Outcome α) (goOn : α → Cursor → Outcome β) : Outcome β :=
  match outcome with
  | .finished value cursor log => (goOn value cursor).after log
  | .faulted fault log => .faulted fault log
  | .unfinished => .unfinished

/-- A value at a place that the cursor may not be able to reach. -/
def reaching (value : α) : Except Fault Cursor → Outcome α
  | .ok cursor => .finished value cursor []
  | .error fault => .faulted fault []

/-- The entries of the log. -/
def log : Outcome α → List Event
  | .finished _ _ log => log
  | .faulted _ log => log
  | .unfinished => []

@[simp] theorem after_nil (outcome : Outcome α) : outcome.after [] = outcome := by
  cases outcome <;> rfl

@[simp] theorem finished_andThen (value : α) (cursor : Cursor) (log : List Event)
    (goOn : α → Cursor → Outcome β) :
    (finished value cursor log).andThen goOn = (goOn value cursor).after log := rfl

@[simp] theorem faulted_andThen (fault : Fault) (log : List Event) (goOn : α → Cursor → Outcome β) :
    (faulted fault log : Outcome α).andThen goOn = .faulted fault log := rfl

@[simp] theorem unfinished_andThen (goOn : α → Cursor → Outcome β) :
    (unfinished : Outcome α).andThen goOn = .unfinished := rfl

end Outcome

end RuleMatch
