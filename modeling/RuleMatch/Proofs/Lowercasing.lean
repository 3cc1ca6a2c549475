import RuleMatch.Text.Lowercase

/-!
# Lowercase stays as it is

Writing a text in lowercase a second time changes nothing (`lowercaseString_lowercaseString`).  So a key that
is kept in lowercase is found again under itself.

The reason lies in the table of capitals: no run is moved onto another one, or onto the dotted capital I
(`runs_land_outside`).  What a character becomes is therefore settled (`settled_of_mem_lowercaseChar`), and so
is the whole text.  The capital sigma, whose form depends on its neighbours, is not settled; so there is none
in a text that is.
-/

namespace RuleMatch

namespace CapitalRun

/-- Whether a code point belongs to a run. -/
def Has (run : CapitalRun) (n : Nat) : Prop :=
  run.first ≤ n ∧ n ≤ run.last ∧ (n - run.first) % run.step = 0

/-- Where the lowercase forms of a run begin. -/
def low (run : CapitalRun) : Nat :=
  (run.first + run.shift).toNat

/-- Where the lowercase forms of a run end. -/
def high (run : CapitalRun) : Nat :=
  (run.last + run.shift).toNat

/-- Whether the lowercase forms of a run lie apart from another run: in front of it, behind it, or in its
gaps. -/
def landsOutside (run other : CapitalRun) : Bool :=
  Nat.blt run.high other.first || Nat.blt other.last run.low ||
    (Nat.beq (run.step % other.step) 0 || Nat.beq run.first run.last) &&
      (Nat.ble other.first run.low && Nat.blt 0 ((run.low - other.first) % other.step))

theorem not_has_of_landsOutside {run other : CapitalRun} (h : run.landsOutside other = true) {n : Nat}
    (hn : run.Has n) : ¬ other.Has (n + run.shift).toNat := by
  obtain ⟨hfirst, hlast, hstep⟩ := hn
  have hlow : run.low ≤ (n + run.shift).toNat := by
    unfold low
    omega
  have hhigh : (n + run.shift).toNat ≤ run.high := by
    unfold high
    omega
  simp only [landsOutside, Bool.or_eq_true, Bool.and_eq_true, Nat.blt_eq, Nat.beq_eq, Nat.ble_eq] at h
  rintro ⟨hfrom, hto, hother⟩
  rcases h with (hfront | hbehind) | ⟨hsteps, hover, hgap⟩
  · omega
  · omega
  · -- The distance in the run is a multiple of the step of the other run, but that between the two is not.
    have hdistance : (n - run.first) % other.step = 0 := by
      rcases hsteps with hdivides | hsingle
      · exact Nat.mod_eq_zero_of_dvd
          (Nat.dvd_trans (Nat.dvd_of_mod_eq_zero hdivides) (Nat.dvd_of_mod_eq_zero hstep))
      · rw [show n - run.first = 0 by omega, Nat.zero_mod]
    have hpositive : 0 < run.low := by
      apply Nat.pos_of_ne_zero
      intro hzero
      rw [hzero, Nat.zero_sub, Nat.zero_mod] at hgap
      exact Nat.lt_irrefl 0 hgap
    have hsum : (n + run.shift).toNat - other.first = run.low - other.first + (n - run.first) := by
      unfold low at *
      omega
    rw [hsum, Nat.add_mod, hdistance, Nat.add_zero, Nat.mod_mod] at hother
    omega

end CapitalRun

/-- A run of nothing but the dotted capital I, which has a lowercase form of two characters. -/
def dottedCapital : CapitalRun := ⟨0x130, 0x130, 1, 0⟩

/-- No capital is the lowercase form of another one. -/
theorem runs_land_outside :
    (capitalRuns.toList.all fun run =>
      (dottedCapital :: capitalRuns.toList).all run.landsOutside) = true := by
  decide +kernel

/-! ## Characters -/

/-- Whether a character is its own lowercase form. -/
def Settled (c : Char) : Prop :=
  lowercaseChar c = [c]

instance (c : Char) : Decidable (Settled c) :=
  inferInstanceAs (Decidable (_ = _))

theorem settled_of_ascii : ∀ n < 128, (lowercaseChar (Char.ofNat n)).all (fun d => Settled d) = true := by
  decide +kernel

theorem settled_ascii : ∀ n < 128, n < 0x41 ∨ 0x5a < n → Settled (Char.ofNat n) := by
  decide +kernel

/-- The characters that take a way of their own: the capital sigma, its form at the end of a word, and the dot
that is left of the dotted capital I. -/
theorem special_forms : lowercaseChar 'Σ' = ['σ'] ∧ Settled 'ς' ∧ Settled '\u0307' := by
  decide +kernel

theorem settled_of_not_has {c : Char} (hcapital : ∀ run ∈ capitalRuns.toList, ¬ run.Has c.toNat)
    (hdotted : ¬ dottedCapital.Has c.toNat) : Settled c := by
  by_cases hascii : c.toNat < 128
  · have houtside : c.toNat < 0x41 ∨ 0x5a < c.toNat := by
      have hnot : ¬ (0x41 ≤ c.toNat ∧ c.toNat ≤ 0x5a ∧ (c.toNat - 0x41) % 1 = 0) :=
        hcapital ⟨0x41, 0x5a, 1, 32⟩ (.head _)
      omega
    have hsettled := settled_ascii c.toNat hascii houtside
    rwa [Char.ofNat_toNat] at hsettled
  have hne : c ≠ 'İ' := by
    rintro rfl
    exact hdotted ⟨Nat.le_refl _, Nat.le_refl _, rfl⟩
  rw [Settled, lowercaseChar, if_neg hascii, if_neg hne]
  split
  · rfl
  · next run hrun =>
      have hmem : run ∈ capitalRuns.toList := by
        rw [Array.mem_toList_iff]
        exact Array.mem_of_getElem? hrun
      exact if_neg (hcapital run hmem)

/-- The lowercase form of a capital is a capital of no run. -/
theorem settled_of_has {run : CapitalRun} (hmem : run ∈ capitalRuns.toList) {n : Nat} (h : run.Has n) :
    Settled (Char.ofNat (n + run.shift).toNat) := by
  have houtside := List.all_eq_true.1 (List.all_eq_true.1 runs_land_outside run hmem)
  by_cases hvalid : (n + run.shift).toNat.isValidChar
  · have htoNat : (Char.ofNat (n + run.shift).toNat).toNat = (n + run.shift).toNat := by
      rw [Char.ofNat, dif_pos hvalid]
      rfl
    apply settled_of_not_has
    · intro other hother
      rw [htoNat]
      exact run.not_has_of_landsOutside (houtside other (List.mem_cons_of_mem _ hother)) h
    · rw [htoNat]
      exact run.not_has_of_landsOutside (houtside dottedCapital List.mem_cons_self) h
  · rw [Char.ofNat, dif_neg hvalid]
    decide

/-- What a character becomes stays as it is. -/
theorem settled_of_mem_lowercaseChar {c d : Char} (h : d ∈ lowercaseChar c) : Settled d := by
  by_cases hascii : c.toNat < 128
  · have hsettled := settled_of_ascii c.toNat hascii
    rw [Char.ofNat_toNat] at hsettled
    exact of_decide_eq_true (List.all_eq_true.1 hsettled d h)
  by_cases hdotted : c = 'İ'
  · subst hdotted
    rcases List.mem_cons.1 h with rfl | hlast
    · exact settled_ascii 0x69 (by omega) (by omega)
    · rw [List.mem_singleton.1 hlast]
      exact special_forms.2.2
  -- A character that is not moved is its own lowercase form.
  have hself : lowercaseChar c = [c] → Settled d := by
    intro hc
    rw [hc, List.mem_singleton] at h
    subst h
    exact hc
  rw [lowercaseChar, if_neg hascii, if_neg hdotted] at h hself
  split at h
  · next hrun =>
      apply hself
      rw [hrun]
  · next run hrun =>
      have hmem : run ∈ capitalRuns.toList := by
        rw [Array.mem_toList_iff]
        exact Array.mem_of_getElem? hrun
      split at h
      · next hhas =>
          rw [List.mem_singleton.1 h]
          exact settled_of_has hmem hhas
      · next hnot =>
          apply hself
          rw [hrun]
          exact if_neg hnot

/-- The capital sigma is the one character whose form depends on its neighbours. -/
theorem Settled.ne_sigma {c : Char} (h : Settled c) : c ≠ 'Σ' := by
  rintro rfl
  rw [Settled, special_forms.1] at h
  exact absurd h (by decide)

theorem lowercaseChar_ne_nil (c : Char) : lowercaseChar c ≠ [] := by
  unfold lowercaseChar
  split
  · simp
  · split
    · simp
    · split
      · simp
      · split <;> simp

/-! ## Texts -/

namespace Text

/-- What stands in lowercase text is the form of a character by itself, or a final sigma. -/
theorem exists_of_mem_lowercaseAfter {before cs : Text} {d : Char} (h : d ∈ lowercaseAfter before cs) :
    ∃ c ∈ cs, d ∈ lowercaseChar c ∨ c = 'Σ' ∧ d = 'ς' := by
  induction cs generalizing before with
  | nil => simp [lowercaseAfter] at h
  | cons first cs ih =>
      rw [lowercaseAfter, List.mem_append] at h
      rcases h with hform | hrest
      · refine ⟨first, List.mem_cons_self, ?_⟩
        by_cases hsigma : first = 'Σ'
        · subst hsigma
          rw [if_pos rfl] at hform
          split at hform
          · exact .inr ⟨rfl, List.mem_singleton.1 hform⟩
          · exact .inl (special_forms.1 ▸ hform)
        · rw [if_neg hsigma] at hform
          exact .inl hform
      · obtain ⟨c, hc, hfrom⟩ := ih hrest
        exact ⟨c, List.mem_cons_of_mem _ hc, hfrom⟩

theorem lowercaseAfter_ne_nil {before cs : Text} (h : cs ≠ []) : lowercaseAfter before cs ≠ [] := by
  cases cs with
  | nil => exact absurd rfl h
  | cons first cs =>
      intro hnil
      rw [lowercaseAfter, List.append_eq_nil_iff] at hnil
      obtain ⟨hform, -⟩ := hnil
      split at hform
      · split at hform <;> simp at hform
      · exact lowercaseChar_ne_nil first hform

theorem settled_of_mem_lowercaseAfter {before cs : Text} {d : Char} (h : d ∈ lowercaseAfter before cs) :
    Settled d := by
  obtain ⟨c, -, hform | ⟨-, rfl⟩⟩ := exists_of_mem_lowercaseAfter h
  · exact settled_of_mem_lowercaseChar hform
  · exact special_forms.2.1

theorem lowercaseAfter_of_settled {before cs : Text} (h : ∀ c ∈ cs, Settled c) :
    lowercaseAfter before cs = cs := by
  induction cs generalizing before with
  | nil => rfl
  | cons first cs ih =>
      have hfirst : Settled first := h first List.mem_cons_self
      rw [lowercaseAfter, if_neg hfirst.ne_sigma, hfirst, ih fun c hc => h c (List.mem_cons_of_mem _ hc)]
      rfl

theorem lowercase_lowercase (cs : Text) : lowercase (lowercase cs) = lowercase cs :=
  lowercaseAfter_of_settled fun _ => settled_of_mem_lowercaseAfter

end Text

/-- Lowercase text is in lowercase. -/
@[simp] theorem lowercaseString_lowercaseString (s : String) :
    lowercaseString (lowercaseString s) = lowercaseString s := by
  rw [lowercaseString, lowercaseString, String.toList_ofList, Text.lowercase_lowercase]

end RuleMatch
