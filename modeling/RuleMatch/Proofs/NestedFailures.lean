import RuleMatch.Match.Failure

/-!
# Nested failures

The failure of a series wraps that of a part, which may again be the failure of a series, and so on to any depth.
There are four ways to look at such a failure: its innermost failure, the causes that one meets on the way there,
its offset, and its message.  They agree (`views_of_failure_agree`).

A failure is the numbers of the parts that are blamed, from the outside in, around one failure that wraps no other,
and it is so in one way only (`wrapped_eq_iff`).  Each of the four is a recursion of its own, and what it
comes to is said in these terms.  The causes are no list that a failure holds: one asks a failure for its
cause, and that cause for its own, until one has none (`CauseChain`).
-/

namespace RuleMatch

namespace Failure

variable {failure root : Failure} {indices : List Nat} {causes : List Failure}

/-! ## Wrapping -/

/-- A failure in the failures of the series around it; the first number is that of the outermost. -/
def wrapped (root : Failure) : List Nat → Failure
  | [] => root
  | index :: indices => .partFailed index (root.wrapped indices)

/-- The numbers of the parts that are blamed, from the outside in. -/
def blamed : Failure → List Nat
  | .partFailed index cause => index :: cause.blamed
  | _ => []

/-- The innermost failure wraps no other. -/
theorem cause?_innermost (failure : Failure) : failure.innermost.cause? = none := by
  induction failure with
  | partFailed index cause ih => exact ih
  | _ => rfl

theorem innermost_of_cause?_eq_none (h : root.cause? = none) : root.innermost = root := by
  cases root with
  | partFailed index cause => cases h
  | _ => rfl

theorem blamed_of_cause?_eq_none (h : root.cause? = none) : root.blamed = [] := by
  cases root with
  | partFailed index cause => cases h
  | _ => rfl

/-- The blamed parts around the innermost failure are the whole failure. -/
theorem wrapped_innermost (failure : Failure) : failure.innermost.wrapped failure.blamed = failure := by
  induction failure with
  | partFailed index cause ih => exact congrArg (partFailed index) ih
  | _ => rfl

theorem innermost_wrapped (root : Failure) (indices : List Nat) :
    (root.wrapped indices).innermost = root.innermost := by
  induction indices with
  | nil => rfl
  | cons index indices ih => exact ih

theorem blamed_wrapped (root : Failure) (indices : List Nat) :
    (root.wrapped indices).blamed = indices ++ root.blamed := by
  induction indices with
  | nil => rfl
  | cons index indices ih => exact congrArg (index :: ·) ih

/-- There is one way to take a failure apart. -/
theorem wrapped_eq_iff :
    root.cause? = none ∧ root.wrapped indices = failure ↔
      root = failure.innermost ∧ indices = failure.blamed := by
  constructor
  · rintro ⟨hroot, rfl⟩
    constructor
    · rw [innermost_wrapped, innermost_of_cause?_eq_none hroot]
    · rw [blamed_wrapped, blamed_of_cause?_eq_none hroot, List.append_nil]
  · rintro ⟨rfl, rfl⟩
    exact ⟨cause?_innermost failure, wrapped_innermost failure⟩

/-! ## Causes -/

/-- Asking for cause after cause, one meets `causes` and comes to an end. -/
inductive CauseChain : Failure → List Failure → Prop
  | last {failure : Failure} (h : failure.cause? = none) : CauseChain failure []
  | next {failure cause : Failure} {causes : List Failure} (h : failure.cause? = some cause)
      (rest : CauseChain cause causes) : CauseChain failure (cause :: causes)

theorem causeChain_inner (failure : Failure) : failure.CauseChain failure.inner := by
  induction failure with
  | partFailed index cause ih => exact .next rfl ih
  | _ => exact .last rfl

theorem CauseChain.eq_inner (h : failure.CauseChain causes) : causes = failure.inner := by
  induction h with
  | @last failure hnone =>
      cases failure with
      | partFailed index cause => cases hnone
      | _ => rfl
  | @next failure cause causes hsome rest ih =>
      cases failure with
      | partFailed index inside =>
          obtain rfl : inside = cause := Option.some.inj hsome
          exact congrArg (inside :: ·) ih
      | _ => cases hsome

/-- The causes end in the innermost failure, and a failure without a cause is that failure itself. -/
theorem getLast_inner (failure : Failure) :
    (failure :: failure.inner).getLast (List.cons_ne_nil _ _) = failure.innermost := by
  induction failure with
  | partFailed index cause ih => exact (List.getLast_cons (List.cons_ne_nil _ _)).trans ih
  | _ => rfl

theorem length_inner (failure : Failure) : failure.inner.length = failure.blamed.length := by
  induction failure with
  | partFailed index cause ih => exact congrArg (· + 1) ih
  | _ => rfl

/-! ## Offset and message -/

theorem offset?_innermost (failure : Failure) : failure.innermost.offset? = failure.offset? := by
  induction failure with
  | partFailed index cause ih => exact ih
  | _ => rfl

/-- Only a failure about an undefined rule has no offset. -/
theorem offset?_eq_none_iff :
    failure.offset? = none ↔ ∃ name, failure.innermost = .undefinedRule name := by
  induction failure with
  | partFailed index cause ih => exact ih
  | undefinedRule name => exact ⟨fun _ => ⟨name, rfl⟩, fun _ => rfl⟩
  | _ => simp [offset?, innermost]

/-- What a message says of a part that is blamed. -/
def blameText (index : Nat) : String :=
  "Sequence element " ++ toString index ++ " failed: "

theorem message_eq (failure : Failure) :
    failure.message = String.join (failure.blamed.map blameText) ++ failure.innermost.message := by
  induction failure with
  | partFailed index cause ih =>
      show blameText index ++ cause.message
        = String.join (blameText index :: cause.blamed.map blameText) ++ cause.innermost.message
      rw [ih, String.join_cons, String.append_assoc]
  | _ => rfl

/-- The four views of a failure agree.  However it is taken apart into the numbers of blamed parts and a failure
that wraps no other, the latter is its innermost failure, and that is its own innermost.  The causes of the failure
are one chain, as long as the list of blamed parts, and the chain ends in the innermost failure.  The offset is
that of the innermost failure, and is missing if and only if that failure is about an undefined rule.  The message
blames the parts, from the outside in, and goes on with the innermost message. -/
theorem views_of_failure_agree (failure : Failure) :
    (∀ root indices, root.cause? = none ∧ root.wrapped indices = failure ↔
        root = failure.innermost ∧ indices = failure.blamed) ∧
      (∀ index cause, failure.innermost ≠ .partFailed index cause) ∧
      failure.innermost.innermost = failure.innermost ∧
      (∀ causes, failure.CauseChain causes ↔ causes = failure.inner) ∧
      (failure :: failure.inner).getLast (List.cons_ne_nil _ _) = failure.innermost ∧
      failure.inner.length = failure.blamed.length ∧
      failure.offset? = failure.innermost.offset? ∧
      (failure.offset? = none ↔ ∃ name, failure.innermost = .undefinedRule name) ∧
      failure.message
        = String.join (failure.blamed.map fun index => "Sequence element " ++ toString index ++ " failed: ")
          ++ failure.innermost.message := by
  refine ⟨fun root indices => wrapped_eq_iff, ?_, innermost_of_cause?_eq_none failure.cause?_innermost, ?_,
    failure.getLast_inner, failure.length_inner, failure.offset?_innermost.symm, offset?_eq_none_iff,
    failure.message_eq⟩
  · intro index cause hwraps
    have hnone := failure.cause?_innermost
    rw [hwraps] at hnone
    cases hnone
  · intro causes
    constructor
    · exact CauseChain.eq_inner
    · rintro rfl
      exact failure.causeChain_inner

/-- Two series deep. -/
example : (partFailed 1 (partFailed 0 (wrongChar "[0-9]" 'a' 4))).message
    = "Sequence element 1 failed: Sequence element 0 failed: Expected [0-9] at offset 4, found 'a'" := by
  decide

end Failure

end RuleMatch
