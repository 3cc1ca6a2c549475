import RuleMatch.Cursor.Basic

/-!
# Failures to match

A failure says what a rule was looking for, what stood there instead, and at which byte offset.  When a
series fails, its failure wraps that of the part which did not match, so a failure may be nested.  The
innermost failure, `innermost`, is the one that met the text.

The last kind of failure is different: it is the answer to a question for the definition of a recursive
rule that has none.  No attempt to match ends in it.
-/

namespace RuleMatch

/-- Why a rule does not match. -/
inductive Failure where
  | endOfInput (expected : String) (offset : Nat)
  | wrongChar (expected : String) (found : Char) (offset : Nat)
  | wrongKeyword (expected found : String) (offset : Nat)
  | noneRepeated (rule : String) (offset : Nat)
  | noAlternative (tried : List String) (offset : Nat)
  | partFailed (index : Nat) (cause : Failure)
  | undefinedRule (name : String)
  deriving DecidableEq, Repr

namespace Failure

/-- A failure to read a character, with a word about what was expected. -/
def ofRead (expected : String) : ReadFailure → Failure
  | .endOfInput offset => .endOfInput expected offset
  | .unexpected found offset => .wrongChar expected found offset

/-- The byte offset at which the failure was met. -/
def offset? : Failure → Option Nat
  | .endOfInput _ offset => some offset
  | .wrongChar _ _ offset => some offset
  | .wrongKeyword _ _ offset => some offset
  | .noneRepeated _ offset => some offset
  | .noAlternative _ offset => some offset
  | .partFailed _ cause => cause.offset?
  | .undefinedRule _ => none

/-- The innermost failure. -/
def innermost : Failure → Failure
  | .partFailed _ cause => cause.innermost
  | failure => failure

/-- The failure that a failure wraps, if it wraps one. -/
def cause? : Failure → Option Failure
  | .partFailed _ cause => some cause
  | _ => none

/-- The failures inside a failure, from the outside in. -/
def inner : Failure → List Failure
  | .partFailed _ cause => cause :: cause.inner
  | _ => []

/-- The message of a failure. -/
def message : Failure → String
  | .endOfInput expected offset =>
      "Expected " ++ expected ++ " at offset " ++ toString offset ++ ", found end of input"
  | .wrongChar expected found offset =>
      "Expected " ++ expected ++ " at offset " ++ toString offset ++ ", found '" ++ found.toString ++ "'"
  | .wrongKeyword expected found offset =>
      "Expected keyword '" ++ expected ++ "' at offset " ++ toString offset ++ ", found '" ++ found
        ++ "'"
  | .noneRepeated rule offset => "Expected at least one " ++ rule ++ " at offset " ++ toString offset
  | .noAlternative tried offset =>
      "No alternative matched at offset " ++ toString offset ++ " (tried " ++ ", ".intercalate tried
        ++ ")"
  | .partFailed index cause => "Sequence element " ++ toString index ++ " failed: " ++ cause.message
  | .undefinedRule name => Fault.undefinedRuleMessage name

end Failure

/-- What a rule answers: the text that it matches, or why it does not match. -/
abbrev Verdict := Except Failure Text

end RuleMatch
