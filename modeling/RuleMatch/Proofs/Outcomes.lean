import RuleMatch.Match.Outcome

/-!
# Properties of outcomes

Matching is put together with `Outcome.andThen`, so whatever is known of its pieces has to be carried
through `andThen`.  Four things are:

* `Ensures` says what holds of the value and the cursor if an outcome is finished, and which faults it may
  end in.  It says nothing of an unfinished outcome.
* `Extends` compares two outcomes of one piece of matching under different bounds.  The second says the
  same as the first wherever the first says anything.
* `Related` compares the outcomes of two pieces of matching: both are finished, with values and cursors that
  are related, or both meet the same fault, or both are unfinished.  Logs are not compared.
* `andThen_ne_unfinished` says when two pieces that end make a whole that ends.

A reading is what is left of the outcome of a match if its log and the words of its failure are forgotten:
the matched text and the offset behind it, or that there was none.
-/

namespace RuleMatch

namespace Outcome

variable {α β : Type} {allowed : Fault → Prop}

/-- A finished outcome satisfies `post`, and a fault is one of those allowed. -/
def Ensures (outcome : Outcome α) (allowed : Fault → Prop) (post : α → Cursor → Prop) : Prop :=
  match outcome with
  | .finished value cursor _ => post value cursor
  | .faulted fault _ => allowed fault
  | .unfinished => True

@[simp] theorem ensures_finished {post : α → Cursor → Prop} {value : α} {cursor : Cursor}
    {log : List Event} : (finished value cursor log).Ensures allowed post ↔ post value cursor :=
  Iff.rfl

@[simp] theorem ensures_faulted {post : α → Cursor → Prop} {fault : Fault} {log : List Event} :
    (faulted fault log : Outcome α).Ensures allowed post ↔ allowed fault :=
  Iff.rfl

@[simp] theorem ensures_unfinished {post : α → Cursor → Prop} :
    (unfinished : Outcome α).Ensures allowed post :=
  trivial

@[simp] theorem ensures_after {outcome : Outcome α} {post : α → Cursor → Prop} {log : List Event} :
    (outcome.after log).Ensures allowed post ↔ outcome.Ensures allowed post := by
  cases outcome <;> exact Iff.rfl

theorem ensures_true (outcome : Outcome α) :
    outcome.Ensures (fun _ => True) fun _ _ => True := by
  cases outcome <;> exact trivial

/-- A finished outcome has the value and the cursor that it has. -/
theorem ensures_self (outcome : Outcome α) :
    outcome.Ensures (fun _ => True) fun value cursor => ∃ log, outcome = .finished value cursor log := by
  cases outcome with
  | finished value cursor log => exact ⟨log, rfl⟩
  | faulted fault log => exact trivial
  | unfinished => exact trivial

namespace Ensures

variable {outcome : Outcome α} {post : α → Cursor → Prop}

theorem mono {post' : α → Cursor → Prop} (h : outcome.Ensures allowed post)
    (hpost : ∀ value cursor, post value cursor → post' value cursor) :
    outcome.Ensures allowed post' := by
  cases outcome with
  | finished value cursor log => exact hpost value cursor h
  | faulted fault log => exact h
  | unfinished => exact trivial

theorem and {post' : α → Cursor → Prop} {allowed' : Fault → Prop} (h : outcome.Ensures allowed post)
    (h' : outcome.Ensures allowed' post') :
    outcome.Ensures allowed fun value cursor => post value cursor ∧ post' value cursor := by
  cases outcome with
  | finished value cursor log => exact ⟨h, h'⟩
  | faulted fault log => exact h
  | unfinished => exact trivial

/-- What the first piece ensures is what the second may start from. -/
theorem andThen {goOn : α → Cursor → Outcome β} {post' : β → Cursor → Prop}
    (h : outcome.Ensures allowed post)
    (hgoOn : ∀ value cursor, post value cursor → (goOn value cursor).Ensures allowed post') :
    (outcome.andThen goOn).Ensures allowed post' := by
  cases outcome with
  | finished value cursor log => exact ensures_after.2 (hgoOn value cursor h)
  | faulted fault log => exact h
  | unfinished => exact trivial

/-- It is enough to go on in the same way from what the first piece ensures. -/
theorem andThen_congr {goOn goOn' : α → Cursor → Outcome β} (h : outcome.Ensures allowed post)
    (hgoOn : ∀ value cursor, post value cursor → goOn value cursor = goOn' value cursor) :
    outcome.andThen goOn = outcome.andThen goOn' := by
  cases outcome with
  | finished value cursor log => rw [finished_andThen, finished_andThen, hgoOn value cursor h]
  | faulted fault log => rfl
  | unfinished => rfl

/-- An outcome that ends without a fault is finished. -/
theorem exists_finished (h : outcome.Ensures (fun _ => False) post) (hends : outcome ≠ .unfinished) :
    ∃ value cursor log, outcome = .finished value cursor log := by
  cases outcome with
  | finished value cursor log => exact ⟨value, cursor, log, rfl⟩
  | faulted fault log => exact h.elim
  | unfinished => exact absurd rfl hends

end Ensures

/-- The second outcome is the first one, unless the first is unfinished. -/
def Extends (outcome outcome' : Outcome α) : Prop :=
  outcome ≠ .unfinished → outcome' = outcome

namespace Extends

variable {outcome outcome' outcome'' : Outcome α}

theorem refl (outcome : Outcome α) : outcome.Extends outcome := fun _ => rfl

theorem trans (h : outcome.Extends outcome') (h' : outcome'.Extends outcome'') :
    outcome.Extends outcome'' := by
  intro hends
  have hfirst : outcome' = outcome := h hends
  rw [h' (hfirst ▸ hends), hfirst]

theorem of_unfinished : (unfinished : Outcome α).Extends outcome := fun h => absurd rfl h

/-- Outcomes that extend each other are the same. -/
theorem antisymm (h : outcome.Extends outcome') (h' : outcome'.Extends outcome) :
    outcome' = outcome := by
  by_cases hends : outcome = .unfinished
  · by_cases hends' : outcome' = .unfinished
    · rw [hends, hends']
    · exact (h' hends').symm
  · exact h hends

theorem after (h : outcome.Extends outcome') (log : List Event) :
    (outcome.after log).Extends (outcome'.after log) := by
  intro hends
  have hinner : outcome ≠ .unfinished := by
    rintro rfl
    exact hends rfl
  rw [h hinner]

/-- Only what the first piece ensures has to be gone on from. -/
theorem andThen {goOn goOn' : α → Cursor → Outcome β} {post : α → Cursor → Prop}
    (h : outcome.Extends outcome') (hpost : outcome.Ensures allowed post)
    (hgoOn : ∀ value cursor, post value cursor →
      (goOn value cursor).Extends (goOn' value cursor)) :
    (outcome.andThen goOn).Extends (outcome'.andThen goOn') := by
  intro hends
  cases outcome with
  | finished value cursor log =>
      have hfirst : outcome' = .finished value cursor log := h (by simp)
      subst hfirst
      exact (hgoOn value cursor hpost).after log hends
  | faulted fault log =>
      have hfirst : outcome' = .faulted fault log := h (by simp)
      subst hfirst
      rfl
  | unfinished => exact absurd rfl hends

theorem andThen_same (h : outcome.Extends outcome') (goOn : α → Cursor → Outcome β) :
    (outcome.andThen goOn).Extends (outcome'.andThen goOn) :=
  h.andThen outcome.ensures_true fun value cursor _ => refl (goOn value cursor)

end Extends

/-- Two outcomes of one kind, with related values and cursors if they are finished. -/
inductive Related (relates : α → Cursor → β → Cursor → Prop) : Outcome α → Outcome β → Prop
  | finished {value : α} {cursor : Cursor} {value' : β} {cursor' : Cursor}
      (h : relates value cursor value' cursor') (log log' : List Event) :
      Related relates (.finished value cursor log) (.finished value' cursor' log')
  | faulted (fault : Fault) (log log' : List Event) :
      Related relates (.faulted fault log) (.faulted fault log')
  | unfinished : Related relates .unfinished .unfinished

namespace Related

variable {γ δ : Type} {relates : α → Cursor → β → Cursor → Prop} {outcome : Outcome α}
  {outcome' : Outcome β}

theorem refl {relates : α → Cursor → α → Cursor → Prop}
    (h : ∀ value cursor, relates value cursor value cursor) (outcome : Outcome α) :
    outcome.Related relates outcome := by
  cases outcome with
  | finished value cursor log => exact .finished (h value cursor) log log
  | faulted fault log => exact .faulted fault log log
  | unfinished => exact .unfinished

theorem symm {relates' : β → Cursor → α → Cursor → Prop} (h : outcome.Related relates outcome')
    (hsymm : ∀ value cursor value' cursor', relates value cursor value' cursor' →
      relates' value' cursor' value cursor) : outcome'.Related relates' outcome := by
  cases h with
  | finished h log log' => exact .finished (hsymm _ _ _ _ h) log' log
  | faulted fault log log' => exact .faulted fault log' log
  | unfinished => exact .unfinished

theorem trans {relates' : β → Cursor → γ → Cursor → Prop}
    {relates'' : α → Cursor → γ → Cursor → Prop} {outcome'' : Outcome γ}
    (h : outcome.Related relates outcome') (h' : outcome'.Related relates' outcome'')
    (htrans : ∀ value cursor value' cursor' value'' cursor'', relates value cursor value' cursor' →
      relates' value' cursor' value'' cursor'' → relates'' value cursor value'' cursor'') :
    outcome.Related relates'' outcome'' := by
  cases h with
  | finished h log _ =>
      cases h' with
      | finished h' _ log' => exact .finished (htrans _ _ _ _ _ _ h h') log log'
  | faulted fault log _ =>
      cases h' with
      | faulted _ _ log' => exact .faulted fault log log'
  | unfinished =>
      cases h' with
      | unfinished => exact .unfinished

theorem mono {relates' : α → Cursor → β → Cursor → Prop} (h : outcome.Related relates outcome')
    (hrelates : ∀ value cursor value' cursor', relates value cursor value' cursor' →
      relates' value cursor value' cursor') : outcome.Related relates' outcome' := by
  cases h with
  | finished h log log' => exact .finished (hrelates _ _ _ _ h) log log'
  | faulted fault log log' => exact .faulted fault log log'
  | unfinished => exact .unfinished

/-- What the first of two ensures by itself holds of them together. -/
theorem and_ensures {post : α → Cursor → Prop} (h : outcome.Related relates outcome')
    (hpost : outcome.Ensures allowed post) :
    outcome.Related (fun value cursor value' cursor' =>
      relates value cursor value' cursor' ∧ post value cursor) outcome' := by
  cases h with
  | finished h log log' => exact .finished ⟨h, hpost⟩ log log'
  | faulted fault log log' => exact .faulted fault log log'
  | unfinished => exact .unfinished

theorem after (h : outcome.Related relates outcome') (log log' : List Event) :
    (outcome.after log).Related relates (outcome'.after log') := by
  cases h with
  | finished h rest rest' => exact .finished h (log ++ rest) (log' ++ rest')
  | faulted fault rest rest' => exact .faulted fault (log ++ rest) (log' ++ rest')
  | unfinished => exact .unfinished

/-- Related pieces that are gone on from in related ways make related wholes. -/
theorem andThen {relates' : γ → Cursor → δ → Cursor → Prop} {goOn : α → Cursor → Outcome γ}
    {goOn' : β → Cursor → Outcome δ} (h : outcome.Related relates outcome')
    (hgoOn : ∀ value cursor value' cursor', relates value cursor value' cursor' →
      (goOn value cursor).Related relates' (goOn' value' cursor')) :
    (outcome.andThen goOn).Related relates' (outcome'.andThen goOn') := by
  cases h with
  | finished h log log' => exact (hgoOn _ _ _ _ h).after log log'
  | faulted fault log log' => exact .faulted fault log log'
  | unfinished => exact .unfinished

end Related

/-- One piece that is gone on from in two related ways. -/
theorem Ensures.andThen_related {γ : Type} {outcome : Outcome α} {post : α → Cursor → Prop}
    {relates : β → Cursor → γ → Cursor → Prop} {goOn : α → Cursor → Outcome β}
    {goOn' : α → Cursor → Outcome γ} (h : outcome.Ensures allowed post)
    (hgoOn : ∀ value cursor, post value cursor →
      (goOn value cursor).Related relates (goOn' value cursor)) :
    (outcome.andThen goOn).Related relates (outcome.andThen goOn') := by
  cases outcome with
  | finished value cursor log => exact (hgoOn value cursor h).after log log
  | faulted fault log => exact .faulted fault log log
  | unfinished => exact .unfinished

theorem after_ne_unfinished {outcome : Outcome α} {log : List Event} (h : outcome ≠ .unfinished) :
    outcome.after log ≠ .unfinished := by
  cases outcome <;> simp_all [Outcome.after]

/-- Two pieces that end make a whole that ends. -/
theorem andThen_ne_unfinished {outcome : Outcome α} {goOn : α → Cursor → Outcome β}
    {post : α → Cursor → Prop} (h : outcome ≠ .unfinished) (hpost : outcome.Ensures allowed post)
    (hgoOn : ∀ value cursor, post value cursor → goOn value cursor ≠ .unfinished) :
    outcome.andThen goOn ≠ .unfinished := by
  cases outcome with
  | finished value cursor log => exact after_ne_unfinished (hgoOn value cursor hpost)
  | faulted fault log => simp
  | unfinished => exact absurd rfl h

/-- A log may be put in front piece by piece. -/
theorem after_append (outcome : Outcome α) (log rest : List Event) :
    outcome.after (log ++ rest) = (outcome.after rest).after log := by
  cases outcome <;> simp [after]

theorem after_andThen (outcome : Outcome α) (log : List Event) (goOn : α → Cursor → Outcome β) :
    (outcome.after log).andThen goOn = (outcome.andThen goOn).after log := by
  cases outcome with
  | finished value cursor rest => exact after_append (goOn value cursor) log rest
  | faulted fault rest => rfl
  | unfinished => rfl

/-- Three pieces, one after the other. -/
theorem andThen_assoc {γ : Type} (outcome : Outcome α) (goOn : α → Cursor → Outcome β)
    (finish : β → Cursor → Outcome γ) :
    (outcome.andThen goOn).andThen finish
      = outcome.andThen fun value cursor => (goOn value cursor).andThen finish := by
  cases outcome with
  | finished value cursor log => exact after_andThen (goOn value cursor) log finish
  | faulted fault log => rfl
  | unfinished => rfl

/-- Going on without doing anything. -/
theorem andThen_finished (outcome : Outcome α) :
    (outcome.andThen fun value cursor => .finished value cursor []) = outcome := by
  cases outcome with
  | finished value cursor log =>
      show finished value cursor (log ++ []) = finished value cursor log
      rw [List.append_nil]
  | faulted fault log => rfl
  | unfinished => rfl

/-- The value of a finished outcome. -/
def value? : Outcome α → Option α
  | .finished value _ _ => some value
  | _ => none

@[simp] theorem value?_after (outcome : Outcome α) (log : List Event) :
    (outcome.after log).value? = outcome.value? := by
  cases outcome <;> rfl

theorem value?_eq_some_iff {outcome : Outcome α} {value : α} :
    outcome.value? = some value ↔ ∃ stop log, outcome = .finished value stop log := by
  cases outcome <;> simp [value?]

end Outcome

/-! ## Readings -/

/-- What came of a match, by the text and the offset alone. -/
inductive Reading where
  /-- The text was matched, and the cursor stands at the offset. -/
  | matched (text : Text) (stop : Nat)
  | failed
  | faulted (fault : Fault)
  | unfinished
  deriving DecidableEq, Repr

namespace Outcome

/-- The reading of an outcome. -/
def reading : Outcome Verdict → Reading
  | .finished (.ok text) stop _ => .matched text stop.offset
  | .finished (.error _) _ _ => .failed
  | .faulted fault _ => .faulted fault
  | .unfinished => .unfinished

@[simp] theorem reading_after (outcome : Outcome Verdict) (log : List Event) :
    (outcome.after log).reading = outcome.reading := by
  rcases outcome with ⟨_ | _, _, _⟩ | _ | _ <;> rfl

variable {outcome : Outcome Verdict}

theorem reading_eq_matched_iff {text : Text} {offset : Nat} :
    outcome.reading = .matched text offset ↔
      ∃ stop log, outcome = .finished (.ok text) stop log ∧ stop.offset = offset := by
  constructor
  · intro h
    rcases outcome with ⟨failure | matched, stop, log⟩ | _ | _ <;> simp [reading] at h
    obtain ⟨rfl, rfl⟩ := h
    exact ⟨stop, log, rfl, rfl⟩
  · rintro ⟨stop, log, rfl, rfl⟩
    rfl

theorem reading_eq_failed_iff :
    outcome.reading = .failed ↔ ∃ failure stop log, outcome = .finished (.error failure) stop log := by
  rcases outcome with ⟨_ | _, stop, log⟩ | _ | _ <;> simp [reading]

theorem reading_eq_faulted_iff {fault : Fault} :
    outcome.reading = .faulted fault ↔ ∃ log, outcome = .faulted fault log := by
  rcases outcome with ⟨_ | _, stop, log⟩ | ⟨fault', log⟩ | _ <;> simp [reading]

theorem reading_eq_unfinished_iff : outcome.reading = .unfinished ↔ outcome = .unfinished := by
  rcases outcome with ⟨_ | _, stop, log⟩ | _ | _ <;> simp [reading]

end Outcome

end RuleMatch
