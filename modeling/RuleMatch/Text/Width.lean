/-!
# Byte widths of text

Positions in a text are counted in bytes of its UTF-8 encoding, while the text itself is a list of
characters.  `byteLength` is the number of bytes of a text, and `IsBoundary n cs` says that byte
`n` of the text `cs` is where a character starts, or the end of the text.  Every character is at
least one byte wide, so a text is cut at a boundary in exactly one way (`append_inj_of_byteLength`).
-/

namespace RuleMatch

/-- A text is a list of Unicode characters. -/
abbrev Text := List Char

namespace Text

/-- The number of bytes that a text takes in UTF-8. -/
def byteLength : Text → Nat
  | [] => 0
  | c :: cs => c.utf8Size + byteLength cs

/-- Byte `n` of the text starts a character or ends the text. -/
def IsBoundary (n : Nat) (cs : Text) : Prop :=
  ∃ before after : Text, cs = before ++ after ∧ byteLength before = n

@[simp] theorem byteLength_nil : byteLength [] = 0 := rfl

@[simp] theorem byteLength_cons (c : Char) (cs : Text) :
    byteLength (c :: cs) = c.utf8Size + byteLength cs := rfl

@[simp] theorem byteLength_append (as bs : Text) :
    byteLength (as ++ bs) = byteLength as + byteLength bs := by
  induction as with
  | nil => simp
  | cons a as ih => simp [ih, Nat.add_assoc]

@[simp] theorem byteLength_reverse (cs : Text) : byteLength cs.reverse = byteLength cs := by
  induction cs with
  | nil => rfl
  | cons c cs ih => simp [ih, Nat.add_comm]

theorem byteLength_eq_zero {cs : Text} : byteLength cs = 0 ↔ cs = [] := by
  cases cs with
  | nil => simp
  | cons c cs =>
      have := c.utf8Size_pos
      simp
      omega

/-- Two cuts of one text at the same byte are the same cut. -/
theorem append_inj_of_byteLength {as bs cs ds : Text} (htext : as ++ bs = cs ++ ds)
    (hwidth : byteLength as = byteLength cs) : as = cs ∧ bs = ds := by
  induction as generalizing cs with
  | nil =>
      have hcs : cs = [] := byteLength_eq_zero.1 hwidth.symm
      subst hcs
      exact ⟨rfl, by simpa using htext⟩
  | cons a as ih =>
      cases cs with
      | nil => exact absurd (byteLength_eq_zero.1 hwidth) (by simp)
      | cons c cs =>
          simp only [List.cons_append, List.cons.injEq] at htext
          obtain ⟨rfl, htail⟩ := htext
          have hrest : byteLength as = byteLength cs := by simpa using hwidth
          obtain ⟨rfl, rfl⟩ := ih htail hrest
          exact ⟨rfl, rfl⟩

/-- Of two pieces that start the same text, the wider one goes on from the other. -/
theorem exists_append_of_byteLength {as bs cs ds : Text} (htext : as ++ bs = cs ++ ds)
    (hwidth : byteLength cs ≤ byteLength as) : ∃ near, as = cs ++ near := by
  induction cs generalizing as with
  | nil => exact ⟨as, rfl⟩
  | cons c cs ih =>
      cases as with
      | nil =>
          have := c.utf8Size_pos
          simp only [byteLength_nil, byteLength_cons] at hwidth
          omega
      | cons a as =>
          simp only [List.cons_append, List.cons.injEq] at htext
          obtain ⟨rfl, htail⟩ := htext
          obtain ⟨near, rfl⟩ := ih htail (by simpa using hwidth)
          exact ⟨near, rfl⟩

end Text

end RuleMatch
