import RuleMatch.Cursor.Basic

/-!
# What operations do to a cursor

The view of a cursor is its input and its offset.  No operation changes the input, the settings or, but for
`pin` and `repin`, the pin.  A cursor can be put at an offset exactly if that offset is a boundary of its
input (`moveTo_eq_ok_iff`, `moveTo_eq_error_iff`), and going back to where a cursor stood before gives that
cursor again (`moveTo_offset`).  A text can be cut out from every boundary behind (`textFrom_eq_error_iff`).
-/

namespace RuleMatch

namespace Cursor

/-- The offset is the width of the front of the input. -/
theorem byteLength_reverse_behind (c : Cursor) : Text.byteLength c.behind.reverse = c.offset := by
  rw [Text.byteLength_reverse, c.offset_eq]

/-- Two cursors in the same text with the same pin and settings. -/
structure SameFrame (c d : Cursor) : Prop where
  input_eq : d.input = c.input
  pinned_eq : d.pinned = c.pinned
  settings_eq : d.settings = c.settings

namespace SameFrame

theorem refl (c : Cursor) : SameFrame c c := ⟨rfl, rfl, rfl⟩

theorem trans {c d e : Cursor} (h : SameFrame c d) (k : SameFrame d e) : SameFrame c e :=
  ⟨k.input_eq.trans h.input_eq, k.pinned_eq.trans h.pinned_eq, k.settings_eq.trans h.settings_eq⟩

theorem symm {c d : Cursor} (h : SameFrame c d) : SameFrame d c :=
  ⟨h.input_eq.symm, h.pinned_eq.symm, h.settings_eq.symm⟩

end SameFrame

/-- Cursors in the same text at the same offset have the same characters behind and ahead. -/
theorem SameFrame.eq_of_offset {c d : Cursor} (h : SameFrame c d) (hoffset : d.offset = c.offset) :
    d = c := by
  have hwidth : Text.byteLength d.behind.reverse = Text.byteLength c.behind.reverse := by
    rw [d.byteLength_reverse_behind, c.byteLength_reverse_behind, hoffset]
  obtain ⟨hbehind, hahead⟩ := Text.append_inj_of_byteLength h.input_eq hwidth
  apply Cursor.ext
  · exact List.reverse_inj.1 hbehind
  · exact hahead
  · exact hoffset
  · exact h.pinned_eq
  · exact h.settings_eq

/-- A cursor stands at a boundary of its input. -/
theorem isBoundary_offset (c : Cursor) : Text.IsBoundary c.offset c.input :=
  ⟨c.behind.reverse, c.ahead, rfl, c.byteLength_reverse_behind⟩

/-- The width of the input is the offset and what lies ahead. -/
theorem byteLength_input (c : Cursor) :
    Text.byteLength c.input = c.offset + Text.byteLength c.ahead := by
  rw [input, Text.byteLength_append, c.byteLength_reverse_behind]

theorem offset_le_byteLength (c : Cursor) : c.offset ≤ Text.byteLength c.input := by
  rw [byteLength_input]
  omega

/-! ## Reading -/

theorem advance_succ_of_nil {c : Cursor} (h : c.ahead = []) (count : Nat) :
    c.advance (count + 1) = .error (.endOfInput c.offset) := by
  rw [advance, h]

theorem advance_succ_of_cons {c : Cursor} {ch : Char} {ahead : Text} (h : c.ahead = ch :: ahead) (count : Nat) :
    c.advance (count + 1) = (c.pass ch ahead).advance count := by
  rw [advance, h]

theorem readIf_of_nil {c : Cursor} (h : c.ahead = []) (accepts : Char → Bool) :
    c.readIf accepts = .error (.endOfInput c.offset) := by
  rw [readIf, h]

theorem readIf_of_cons {c : Cursor} {ch : Char} {ahead : Text} (h : c.ahead = ch :: ahead)
    (accepts : Char → Bool) :
    c.readIf accepts
      = if accepts ch then .ok (ch, c.pass ch ahead) else .error (.unexpected ch c.offset) := by
  rw [readIf, h]

theorem sameFrame_pass {c : Cursor} {ch : Char} {ahead : Text} (h : c.ahead = ch :: ahead) :
    SameFrame c (c.pass ch ahead) :=
  ⟨by simp [input, pass, h], rfl, rfl⟩

theorem sameFrame_passBlanks {c : Cursor} {ahead : Text} (h : c.ahead = ahead) :
    SameFrame c (c.passBlanks ahead).2 := by
  induction ahead generalizing c with
  | nil => exact SameFrame.refl c
  | cons ch ahead ih =>
      simp only [passBlanks]
      split
      · exact (sameFrame_pass h).trans (ih rfl)
      · exact SameFrame.refl c

theorem sameFrame_skipBlanks (c : Cursor) : SameFrame c c.skipBlanks.2 := by
  simp only [skipBlanks]
  split
  · exact sameFrame_passBlanks rfl
  · exact SameFrame.refl c

/-! ## Going to a mark -/

theorem append_of_retreat {target offset : Nat} {behind ahead behind' ahead' : Text}
    (h : retreat target behind offset ahead = some (behind', ahead')) :
    behind'.reverse ++ ahead' = behind.reverse ++ ahead := by
  induction behind generalizing offset ahead with
  | nil =>
      simp only [retreat] at h
      split at h <;> simp_all
  | cons ch behind ih =>
      simp only [retreat] at h
      split at h
      · simp only [Option.some.injEq, Prod.mk.injEq] at h
        rw [← h.1, ← h.2]
      · rw [ih h]
        simp

theorem append_of_proceed {target offset : Nat} {behind ahead behind' ahead' : Text}
    (h : proceed target behind offset ahead = some (behind', ahead')) :
    behind'.reverse ++ ahead' = behind.reverse ++ ahead := by
  induction ahead generalizing offset behind with
  | nil =>
      simp only [proceed] at h
      split at h <;> simp_all
  | cons ch ahead ih =>
      simp only [proceed] at h
      split at h
      · simp only [Option.some.injEq, Prod.mk.injEq] at h
        rw [← h.1, ← h.2]
      · rw [ih h]
        simp

/-- Going back stops at a boundary that lies behind. -/
theorem retreat_append (near far ahead : Text) :
    retreat (Text.byteLength far) (near ++ far) (Text.byteLength (near ++ far)) ahead
      = some (far, near.reverse ++ ahead) := by
  induction near generalizing ahead with
  | nil => cases far <;> simp [retreat]
  | cons ch near ih =>
      have hpos := ch.utf8Size_pos
      have hne : ¬ Text.byteLength (ch :: near ++ far) = Text.byteLength far := by
        simp
        omega
      have hback : Text.byteLength (ch :: near ++ far) - ch.utf8Size
          = Text.byteLength (near ++ far) := by
        simp
      simp only [List.cons_append] at hne hback ⊢
      rw [retreat, if_neg hne, hback, ih]
      simp

/-- Going on stops at a boundary that lies ahead. -/
theorem proceed_append (behind near far : Text) (offset : Nat) :
    proceed (offset + Text.byteLength near) behind offset (near ++ far)
      = some (near.reverse ++ behind, far) := by
  induction near generalizing behind offset with
  | nil => cases far <;> simp [proceed]
  | cons ch near ih =>
      have hpos := ch.utf8Size_pos
      have hne : ¬ offset = offset + Text.byteLength (ch :: near) := by
        simp
        omega
      rw [List.cons_append, proceed, if_neg hne]
      have hstep := ih (ch :: behind) (offset + ch.utf8Size)
      rw [Text.byteLength_cons, ← Nat.add_assoc, hstep]
      simp

theorem sameFrame_moveTo {c stop : Cursor} {mark : Nat} (h : c.moveTo mark = .ok stop) :
    SameFrame c stop ∧ stop.offset = mark := by
  simp only [moveTo] at h
  split at h
  · split at h
    · simp at h
    · next behind ahead hmove =>
        simp only [Except.ok.injEq] at h
        subst h
        exact ⟨⟨append_of_retreat hmove, rfl, rfl⟩, rfl⟩
  · split at h
    · simp at h
    · next behind ahead hmove =>
        simp only [Except.ok.injEq] at h
        subst h
        exact ⟨⟨append_of_proceed hmove, rfl, rfl⟩, rfl⟩

/-- Going back from a cursor comes to every boundary of the input that lies behind. -/
theorem exists_retreat {c : Cursor} {before after : Text} (h : c.input = before ++ after)
    (hle : Text.byteLength before ≤ c.offset) (ahead : Text) :
    ∃ halves, retreat (Text.byteLength before) c.behind c.offset ahead = some halves := by
  have hwidth := c.byteLength_reverse_behind
  obtain ⟨near, hnear⟩ := Text.exists_append_of_byteLength h (hwidth ▸ hle)
  have hbehind : c.behind = near.reverse ++ before.reverse := by
    rw [← List.reverse_append, ← hnear, List.reverse_reverse]
  have hstop := retreat_append near.reverse before.reverse ahead
  rw [Text.byteLength_reverse, ← hbehind, ← c.offset_eq] at hstop
  exact ⟨_, hstop⟩

/-- Going on from a cursor comes to every boundary of the input that lies ahead. -/
theorem exists_proceed {c : Cursor} {before after : Text} (h : c.input = before ++ after)
    (hle : c.offset ≤ Text.byteLength before) :
    ∃ halves, proceed (Text.byteLength before) c.behind c.offset c.ahead = some halves := by
  have hwidth := c.byteLength_reverse_behind
  obtain ⟨near, hnear⟩ := Text.exists_append_of_byteLength h.symm (hwidth ▸ hle)
  have hahead : c.ahead = near ++ after := by
    have hinput : c.behind.reverse ++ c.ahead = c.behind.reverse ++ (near ++ after) := by
      rw [← List.append_assoc, ← hnear]
      exact h
    exact List.append_cancel_left hinput
  have hstop := proceed_append c.behind near after c.offset
  rw [← hwidth, ← Text.byteLength_append, ← hnear, hwidth, ← hahead] at hstop
  exact ⟨_, hstop⟩

/-- A cursor can be put between any two pieces of its input. -/
theorem moveTo_of_append {c : Cursor} {before after : Text} (h : c.input = before ++ after) :
    ∃ stop, c.moveTo (Text.byteLength before) = .ok stop := by
  simp only [moveTo]
  split
  · next hle =>
      obtain ⟨halves, hstop⟩ := exists_retreat h hle c.ahead
      split
      · next hmove => simp [hmove] at hstop
      · exact ⟨_, rfl⟩
  · next hlt =>
      obtain ⟨halves, hstop⟩ := exists_proceed h (by omega)
      split
      · next hmove => simp [hmove] at hstop
      · exact ⟨_, rfl⟩

theorem fault_of_moveTo {c : Cursor} {mark : Nat} {fault : Fault} (h : c.moveTo mark = .error fault) :
    fault = .foreignMark := by
  simp only [moveTo] at h
  split at h <;> split at h <;> simp_all

/-- A cursor can be put at an offset exactly if it is a boundary of its input. -/
theorem moveTo_eq_error_iff {c : Cursor} {mark : Nat} :
    c.moveTo mark = .error .foreignMark ↔ ¬ Text.IsBoundary mark c.input := by
  constructor
  · rintro herror ⟨before, after, hinput, rfl⟩
    obtain ⟨stop, hstop⟩ := moveTo_of_append hinput
    rw [herror] at hstop
    simp at hstop
  · intro hno
    cases hrewind : c.moveTo mark with
    | ok stop =>
        obtain ⟨hframe, rfl⟩ := sameFrame_moveTo hrewind
        exact absurd (hframe.input_eq ▸ stop.isBoundary_offset) hno
    | error fault => rw [fault_of_moveTo hrewind]

/-- Where a cursor is put. -/
theorem moveTo_eq_ok_iff {c stop : Cursor} {mark : Nat} :
    c.moveTo mark = .ok stop ↔ SameFrame c stop ∧ stop.offset = mark := by
  constructor
  · exact sameFrame_moveTo
  · rintro ⟨hframe, rfl⟩
    have hboundary : Text.IsBoundary stop.offset c.input := hframe.input_eq ▸ stop.isBoundary_offset
    cases hrewind : c.moveTo stop.offset with
    | ok other =>
        obtain ⟨hother, hoffset⟩ := sameFrame_moveTo hrewind
        rw [(hframe.symm.trans hother).eq_of_offset hoffset]
    | error fault =>
        obtain rfl := fault_of_moveTo hrewind
        exact absurd hboundary (moveTo_eq_error_iff.1 hrewind)

theorem fault_of_textFrom {c : Cursor} {mark : Nat} {fault : Fault} (h : c.textFrom mark = .error fault) :
    fault = .brokenSlice := by
  simp only [textFrom] at h
  split at h <;> simp_all

/-- A cut fails exactly if it starts ahead of the cursor or at no boundary of the input. -/
theorem textFrom_eq_error_iff {c : Cursor} {mark : Nat} :
    c.textFrom mark = .error .brokenSlice ↔ c.offset < mark ∨ ¬ Text.IsBoundary mark c.input := by
  cases hmove : retreat mark c.behind c.offset [] with
  | some halves =>
      obtain ⟨far, near⟩ := halves
      have hmark : mark = Text.byteLength far := byteLength_of_retreat hmove c.offset_eq
      have hbehind : c.behind.reverse = far.reverse ++ near := by
        rw [append_of_retreat hmove, List.append_nil]
      have hle : mark ≤ c.offset := by
        rw [← c.byteLength_reverse_behind, hbehind, Text.byteLength_append, Text.byteLength_reverse]
        omega
      have hboundary : Text.IsBoundary mark c.input := by
        refine ⟨far.reverse, near ++ c.ahead, ?_, ?_⟩
        · rw [input, hbehind, List.append_assoc]
        · rw [Text.byteLength_reverse, hmark]
      constructor
      · intro herror
        simp [textFrom, hmove] at herror
      · intro houtside
        rcases houtside with hahead | hno
        · omega
        · exact absurd hboundary hno
  | none =>
      simp only [textFrom, hmove, true_iff]
      by_cases hbehind : mark ≤ c.offset
      · right
        rintro ⟨before, after, hinput, rfl⟩
        obtain ⟨halves, hsome⟩ := exists_retreat hinput hbehind []
        simp [hmove] at hsome
      · left
        omega

/-- A cursor that has moved can be put back to where it stood. -/
theorem moveTo_offset {c stop : Cursor} (h : SameFrame c stop) :
    stop.moveTo c.offset = .ok c :=
  moveTo_eq_ok_iff.2 ⟨h.symm, rfl⟩

end Cursor

end RuleMatch
