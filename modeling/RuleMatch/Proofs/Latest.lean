import Mathlib.Data.List.Nodup

/-!
# What is given last

Of elements some of which give something, the last that gives anything prevails (`latest`).  Steps that each
let what they give prevail over what was held come to what is given last (`foldlM_latest`).

Where there is one entry for a key at most, the first entry for a key, which is the one that is found, is also
the last (`latest_eq_lookup`).
-/

namespace RuleMatch.Settings

variable {α β : Type}

/-- What the last element of a list gives that gives anything. -/
def latest (find : α → Option β) (xs : List α) : Option β :=
  xs.reverse.findSome? find

@[simp] theorem latest_nil (find : α → Option β) : latest find [] = none := rfl

theorem latest_cons (find : α → Option β) (x : α) (xs : List α) :
    latest find (x :: xs) = (latest find xs).or (find x) := by
  rw [latest, List.reverse_cons, List.findSome?_append, latest]
  congr 1
  cases h : find x <;> simp [h]

theorem latest_append (find : α → Option β) (xs ys : List α) :
    latest find (xs ++ ys) = (latest find ys).or (latest find xs) := by
  rw [latest, List.reverse_append, List.findSome?_append, latest, latest]

theorem latest_congr {find find' : α → Option β} {xs : List α} (h : ∀ x ∈ xs, find x = find' x) :
    latest find xs = latest find' xs := by
  induction xs with
  | nil => rfl
  | cons x xs ih =>
      rw [latest_cons, latest_cons, h x List.mem_cons_self, ih fun y hy => h y (List.mem_cons_of_mem _ hy)]

theorem latest_eq_none_iff {find : α → Option β} {xs : List α} :
    latest find xs = none ↔ ∀ x ∈ xs, find x = none := by
  simp [latest]

theorem exists_of_latest_eq_some {find : α → Option β} {xs : List α} {b : β}
    (h : latest find xs = some b) : ∃ x ∈ xs, find x = some b := by
  obtain ⟨x, hx, hfind⟩ := List.exists_of_findSome?_eq_some h
  exact ⟨x, List.mem_reverse.1 hx, hfind⟩

/-- If every step comes off, and lets what it gives prevail over what was held, then so do all of them one after
the other: what the last gives prevails. -/
theorem foldlM_latest {σ ε κ : Type} {holds : (κ → Option β) → σ → Prop} {step : σ → α → Except ε σ}
    {find : κ → α → Option β} {xs : List α}
    (hstep : ∀ x ∈ xs, ∀ held state, holds held state →
      ∃ next, step state x = .ok next ∧ holds (fun k => (find k x).or (held k)) next)
    {held : κ → Option β} {state : σ} (h : holds held state) :
    ∃ last, xs.foldlM step state = .ok last ∧ holds (fun k => (latest (find k) xs).or (held k)) last := by
  induction xs generalizing held state with
  | nil => exact ⟨state, rfl, h⟩
  | cons x xs ih =>
      obtain ⟨next, hnext, hholds⟩ := hstep x List.mem_cons_self held state h
      obtain ⟨last, hlast, hall⟩ := ih (fun y hy => hstep y (List.mem_cons_of_mem _ hy)) hholds
      refine ⟨last, ?_, ?_⟩
      · rw [List.foldlM_cons, hnext]
        exact hlast
      · simpa only [latest_cons, Option.or_assoc] using hall

/-- An element does not count if a later one gives whatever it gives. -/
theorem latest_append_cons_of_superseded {find : α → Option β} {x y : α}
    (h : find y = none → find x = none) (front middle back : List α) :
    latest find (front ++ x :: (middle ++ y :: back)) = latest find (front ++ (middle ++ y :: back)) := by
  simp only [latest_append, latest_cons]
  cases hy : find y with
  | some b => cases latest find back <;> simp
  | none => simp [h hy]

variable {κ : Type} [DecidableEq κ] {entries : List (κ × α)}

theorem lookup_eq_none_of_not_mem {key : κ} (h : key ∉ entries.map Prod.fst) :
    entries.lookup key = none := by
  rw [List.lookup_eq_none_iff]
  intro entry hentry
  have hne : key ≠ entry.1 := by
    rintro rfl
    exact h (List.mem_map.2 ⟨entry, hentry, rfl⟩)
  simpa using hne

/-- If there is one entry for a key at most, the last is the first. -/
theorem latest_eq_lookup (h : (entries.map Prod.fst).Nodup) (key : κ) (find : α → Option β) :
    latest (fun entry => if entry.1 = key then find entry.2 else none) entries
      = (entries.lookup key).bind find := by
  induction entries with
  | nil => rfl
  | cons entry entries ih =>
      obtain ⟨k, value⟩ := entry
      obtain ⟨hnew, hrest⟩ := List.nodup_cons.1 h
      rw [latest_cons, ih hrest]
      by_cases hkey : k = key
      · subst hkey
        simp [lookup_eq_none_of_not_mem hnew]
      · have hne : (key == k) = false := by simpa using Ne.symm hkey
        simp [hkey, hne, List.lookup_cons]

theorem lookup_eq_some_of_mem (h : (entries.map Prod.fst).Nodup) {key : κ} {value : α}
    (hmem : (key, value) ∈ entries) : entries.lookup key = some value := by
  obtain ⟨front, back, rfl⟩ := List.append_of_mem hmem
  rw [List.map_append, List.map_cons, List.nodup_middle] at h
  have hfront : key ∉ front.map Prod.fst := fun hin =>
    (List.nodup_cons.1 h).1 (List.mem_append_left _ hin)
  rw [List.lookup_append, lookup_eq_none_of_not_mem hfront, Option.none_or, List.lookup_cons_self]

end RuleMatch.Settings
