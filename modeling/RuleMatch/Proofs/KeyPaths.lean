import Mathlib.Data.List.TakeWhile
import RuleMatch.Proofs.Lowercasing
import RuleMatch.Settings.Toml.KeyPath

/-!
# Where keys lead

A key at the top of a source of settings is read as a path if it spells one, and else stands for itself
(`KeyPath.place`).  Values are kept under the first key of their path, in lowercase.  That key is a word of a
path again, so it leads to itself when what is kept is read as a source (`KeyPath.place_lowercase_root`).
-/

namespace RuleMatch.Settings.KeyPath

/-- The first key of a path. -/
def root : KeyPath → String
  | .key name => name
  | .child parent _ => parent.root
  | .item parent _ => parent.root

/-- Where a key at the top of a source leads. -/
def place (key : String) : KeyPath :=
  match parse key with
  | .ok path => path
  | .error _ => .key key

/-! ## Words of paths -/

/-- Whether a text can stand as a key in a path. -/
def IsWord (name : String) : Prop :=
  name.toList ≠ [] ∧ ∀ c ∈ name.toList, isKeyChar c = true

theorem parse_of_isWord {name : String} (h : IsWord name) : parse name = .ok (.key name) := by
  obtain ⟨hne, hchars⟩ := h
  have htake : name.toList.takeWhile isKeyChar = name.toList := List.takeWhile_eq_self_iff.2 hchars
  have hdrop : name.toList.dropWhile isKeyChar = [] := List.dropWhile_eq_nil_iff.2 hchars
  simp only [parse, htake, hdrop, List.isEmpty_iff, if_neg hne, String.ofList_toList]
  cases name.toList.length with
  | zero => rfl
  | succ count => rfl

theorem root_of_readStep {path stepped : KeyPath} {text rest : Text}
    (h : readStep path text = .ok (stepped, rest)) : stepped.root = path.root := by
  unfold readStep at h
  split at h
  · dsimp only at h
    split at h
    · simp at h
    · simp only [Except.ok.injEq, Prod.mk.injEq] at h
      rw [← h.1]
      rfl
  · next text =>
      cases hindex : readIndex text with
      | error fault => simp [hindex, Except.map] at h
      | ok read =>
          simp only [hindex, Except.map, Except.ok.injEq, Prod.mk.injEq] at h
          rw [← h.1]
          rfl
  · simp at h

theorem root_of_readSteps {count : Nat} {path whole : KeyPath} {text : Text}
    (h : readSteps count path text = .ok whole) : whole.root = path.root := by
  induction count generalizing path text with
  | zero =>
      simp only [readSteps, Except.ok.injEq] at h
      rw [h]
  | succ count ih =>
      rw [readSteps] at h
      split at h
      · simp only [Except.ok.injEq] at h
        rw [h]
      · cases hstep : readStep path text with
        | error fault => simp [hstep, bind, Except.bind] at h
        | ok stepped =>
            obtain ⟨next, rest⟩ := stepped
            rw [hstep] at h
            rw [ih h, root_of_readStep hstep]

theorem isWord_root_of_parse {key : String} {path : KeyPath} (h : parse key = .ok path) :
    IsWord path.root := by
  unfold parse at h
  dsimp only at h
  split at h
  · simp at h
  · next hname =>
      rw [root_of_readSteps h, root, IsWord, String.toList_ofList]
      refine ⟨by simpa using hname, ?_⟩
      intro c hc
      exact List.mem_takeWhile_imp hc

/-! ## Words in lowercase -/

theorem toNat_lt_of_isKeyChar {c : Char} (h : isKeyChar c = true) : c.toNat < 128 := by
  delta isKeyChar Char.isAlphanum Char.isAlpha Char.isUpper Char.isLower Char.isDigit at h
  simp only [Bool.or_eq_true, Bool.and_eq_true, decide_eq_true_eq, beq_iff_eq] at h
  rcases h with ((((⟨-, h⟩ | ⟨-, h⟩) | ⟨-, h⟩) | rfl) | rfl) | rfl
  · exact Nat.lt_of_le_of_lt (UInt32.le_iff_toNat_le.1 h) (by decide)
  · exact Nat.lt_of_le_of_lt (UInt32.le_iff_toNat_le.1 h) (by decide)
  · exact Nat.lt_of_le_of_lt (UInt32.le_iff_toNat_le.1 h) (by decide)
  · decide
  · decide
  · decide

theorem lowercase_of_isKeyChar :
    ∀ n < 128, isKeyChar (Char.ofNat n) = true →
      (lowercaseChar (Char.ofNat n)).all isKeyChar = true := by
  decide +kernel

theorem isWord_lowercase {name : String} (h : IsWord name) : IsWord (lowercaseString name) := by
  obtain ⟨hne, hchars⟩ := h
  rw [IsWord, lowercaseString, String.toList_ofList]
  constructor
  · exact Text.lowercaseAfter_ne_nil hne
  · intro d hd
    obtain ⟨c, hc, hform | ⟨rfl, -⟩⟩ := Text.exists_of_mem_lowercaseAfter hd
    · have hkey := lowercase_of_isKeyChar c.toNat (toNat_lt_of_isKeyChar (hchars c hc))
      rw [Char.ofNat_toNat] at hkey
      exact List.all_eq_true.1 (hkey (hchars c hc)) d hform
    · exact absurd (hchars 'Σ' hc) (by decide)

/-- What is kept under the first key of a path is found there again when it is read as a source. -/
theorem place_lowercase_root {key : String} {path : KeyPath} (h : parse key = .ok path) :
    place (lowercaseString path.root) = .key (lowercaseString path.root) := by
  rw [place, parse_of_isWord (isWord_lowercase (isWord_root_of_parse h))]

end RuleMatch.Settings.KeyPath
