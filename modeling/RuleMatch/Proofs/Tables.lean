import Mathlib.Data.List.Nodup
import RuleMatch.Proofs.Lowercasing
import RuleMatch.Settings.Toml.Table

/-!
# Tables of values

A table that is built by assigning to keys has no key twice, and has its keys in lowercase (`Value.Tidy`).  In
such a table there is one entry for a key at most.

What is found under a key is what was last put there (`Value.find?_put`), and to assign a value is to put
something under the key, namely the value itself unless it is a table (`Value.exists_assign_eq_put`,
`Value.assign_eq_put`).
-/

namespace RuleMatch.Settings

/-! ## Entries -/

section Entries

variable {κ α : Type} [DecidableEq κ] {key other : κ} {value : α} {entries : List (κ × α)}

/-- Puts a value under a key, in place of the first entry there or else at the end. -/
def putKey (key : κ) (value : α) : List (κ × α) → List (κ × α)
  | [] => [(key, value)]
  | (k, old) :: entries => if k = key then (k, value) :: entries else (k, old) :: putKey key value entries

theorem mem_keys_putKey :
    other ∈ (putKey key value entries).map Prod.fst ↔ other = key ∨ other ∈ entries.map Prod.fst := by
  induction entries with
  | nil => simp [putKey]
  | cons entry entries ih =>
      obtain ⟨k, old⟩ := entry
      by_cases hk : k = key
      · simp [putKey, hk]
      · simp only [putKey, if_neg hk, List.map_cons, List.mem_cons, ih]
        exact or_left_comm

theorem nodup_putKey (h : (entries.map Prod.fst).Nodup) :
    ((putKey key value entries).map Prod.fst).Nodup := by
  induction entries with
  | nil => simp [putKey]
  | cons entry entries ih =>
      obtain ⟨k, old⟩ := entry
      obtain ⟨hnew, hrest⟩ := List.nodup_cons.1 h
      by_cases hk : k = key
      · simpa [putKey, hk] using h
      · simp only [putKey, if_neg hk, List.map_cons, List.nodup_cons]
        refine ⟨?_, ih hrest⟩
        rw [mem_keys_putKey]
        rintro (rfl | hmem)
        · exact hk rfl
        · exact hnew hmem

theorem mem_of_mem_putKey {entry : κ × α} (h : entry ∈ putKey key value entries) :
    entry = (key, value) ∨ entry ∈ entries := by
  induction entries with
  | nil => simpa [putKey] using h
  | cons first entries ih =>
      obtain ⟨k, old⟩ := first
      by_cases hk : k = key
      · subst hk
        rw [putKey, if_pos rfl] at h
        exact (List.mem_cons.1 h).imp_right (List.mem_cons_of_mem _)
      · rw [putKey, if_neg hk] at h
        rcases List.mem_cons.1 h with rfl | hrest
        · exact .inr List.mem_cons_self
        · exact (ih hrest).imp_right (List.mem_cons_of_mem _)

theorem lookup_putKey :
    (putKey key value entries).lookup other = if other = key then some value else entries.lookup other := by
  induction entries with
  | nil =>
      by_cases ho : other = key
      · simp [putKey, ho]
      · have hne : (other == key) = false := by simpa using ho
        simp [putKey, List.lookup_cons, ho, hne]
  | cons entry entries ih =>
      obtain ⟨k, old⟩ := entry
      by_cases ho : other = k
      · subst ho
        by_cases hk : other = key <;> simp [putKey, hk]
      · have hne : (other == k) = false := by simpa using ho
        by_cases hk : k = key
        · subst hk
          simp [putKey, List.lookup_cons, ho, hne]
        · simp [putKey, List.lookup_cons, hk, hne, ih]

end Entries

theorem putEntry_eq_putKey {α : Type} (key : String) (value : α) (entries : List (String × α)) :
    putEntry key value entries = putKey key value entries := by
  induction entries with
  | nil => rfl
  | cons entry entries ih => rw [putEntry, putKey, ih]

namespace Value

variable {root value : Value} {key other : String}

theorem IsScalar.not_isTable (h : value.IsScalar) : ¬ value.IsTable := by
  cases value with
  | scalar origin s => exact id
  | array origin items => exact id
  | table origin entries => exact h.elim

/-- No key stands twice, and all of them are in lowercase. -/
structure Tidy (root : Value) : Prop where
  nodup : (root.entries.map Prod.fst).Nodup
  lowercase : ∀ key ∈ root.entries.map Prod.fst, lowercaseString key = key

/-! ## Putting a value under a key -/

theorem entries_put : (root.put key value).entries = putKey (lowercaseString key) value root.entries := by
  rw [← putEntry_eq_putKey]
  cases root <;> rfl

theorem isTable_put : (root.put key value).IsTable := by
  cases root <;> exact trivial

/-- What is found under a key is what was put there last. -/
theorem find?_put : (root.put key value).find? other
    = if lowercaseString other = lowercaseString key then some value else root.find? other := by
  rw [find?, entries_put, lookup_putKey]
  rfl

/-- The case of a key is of no importance. -/
theorem find?_eq_of_lowercase (h : lowercaseString key = lowercaseString other) :
    root.find? key = root.find? other := by
  rw [find?, find?, h]

theorem tidy_emptyTable : emptyTable.Tidy :=
  ⟨List.nodup_nil, by simp [emptyTable, entries]⟩

theorem Tidy.put (h : root.Tidy) : (root.put key value).Tidy := by
  constructor
  · rw [entries_put]
    exact nodup_putKey h.nodup
  · intro k hk
    rw [entries_put, mem_keys_putKey] at hk
    rcases hk with rfl | hold
    · exact lowercaseString_lowercaseString key
    · exact h.lowercase k hold

/-- To make room under a key with nothing is as good as with an empty table. -/
theorem put_getD (inner : Option Value) (key : String) (value : Value) :
    (inner.getD null).put key value = (inner.getD emptyTable).put key value := by
  cases inner <;> rfl

/-! ## Assigning a value to a key -/

/-- To assign a value is to put something under the key. -/
theorem exists_assign_eq_put (root : Value) (key : String) (value : Value) :
    ∃ stored, root.assign key value = root.put key stored := by
  cases value with
  | scalar origin s => exact ⟨_, by rw [assign]⟩
  | array origin items => exact ⟨_, by rw [assign]⟩
  | table origin entries => exact ⟨_, by rw [assign]⟩

/-- Only a table is merged with what stands under the key. -/
theorem assign_eq_put (h : ¬ value.IsTable) (root : Value) (key : String) :
    root.assign key value = root.put key value := by
  cases value with
  | scalar origin s => rw [assign]
  | array origin items => rw [assign]
  | table origin entries => exact absurd trivial h

theorem assign_of_isTable (h : value.IsTable) (root : Value) (key : String) :
    root.assign key value = root.put key (assignAll ((root.find? key).getD emptyTable) value.entries) := by
  cases value with
  | scalar origin s => exact h.elim
  | array origin items => exact h.elim
  | table origin entries => rw [assign]; rfl

end Value

end RuleMatch.Settings
