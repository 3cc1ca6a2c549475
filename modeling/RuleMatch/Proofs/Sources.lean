import RuleMatch.Proofs.BackendLaws
import RuleMatch.Proofs.KeyPaths
import RuleMatch.Proofs.Latest
import RuleMatch.Proofs.Tables
import RuleMatch.Settings.Toml.Backend

/-!
# Sources of settings

A source of the back end for TOML is a list of entries that are assigned to a root one after the other: the
default settings, a file, or what was merged so far.  Here it is asked what a source does to the two settings of
keywords.

A source is sound if it gives a setting, if at all, as a scalar below a table of keywords; all its other keys
lead past the settings (`SoundEntry`).  What is kept meanwhile is described by the values that the two settings
have by now (`Holds`), and that is all that has to be known of it:

* `Holds.assignTop`, `Holds.assignTops` — a sound entry, and a sound source, is taken in without a failure;
  a setting then has the value that was given last, or else the one that it had;
* `Holds.sound`, `Holds.latest_gives` — what is kept is a sound source itself, which gives what it holds;
* `Holds.at?_path` — the value of a setting is found by its path.
-/

namespace RuleMatch.Settings

/-! ## The settings -/

namespace Setting

/-- The path that the key of a setting spells. -/
def keyPath (s : Setting) : KeyPath :=
  .child (.key "keywords") s.name

theorem lowercase_name (s : Setting) : lowercaseString s.name = s.name := by
  cases s <;> decide +kernel

theorem lowercase_keywords : lowercaseString "keywords" = "keywords" := by
  decide +kernel

theorem place_keywords : KeyPath.place "keywords" = .key "keywords" := rfl

theorem parse_key (s : Setting) : KeyPath.parse s.key = .ok s.keyPath := by
  cases s <;> rfl

end Setting

/-! ## What an entry gives -/

/-- The value that an entry in a table of keywords gives a setting. -/
def givenBelow (s : Setting) (entry : String × Value) : Option Value :=
  if lowercaseString entry.1 = s.name then some entry.2 else none

/-- The value that an entry at the top of a source gives a setting: as an entry in a table of keywords, or by
a key that spells the way to the setting. -/
def gives (s : Setting) (entry : String × Value) : Option Value :=
  match KeyPath.place entry.1 with
  | .key name =>
      if lowercaseString name = "keywords" then latest (givenBelow s) entry.2.entries else none
  | .child (.key parent) name =>
      if lowercaseString parent = "keywords" then givenBelow s (name, entry.2) else none
  | _ => none

/-- A path that leads past the settings: it starts with another key, or goes on from the table of keywords
with another key.  Items are not counted from the end, since that would be a failure in a short array. -/
inductive LeadsPast : KeyPath → Prop where
  | key {name : String} (h : lowercaseString name ≠ "keywords") : LeadsPast (.key name)
  | inside {parent name : String} (hparent : lowercaseString parent = "keywords")
      (hname : ∀ s : Setting, lowercaseString name ≠ s.name) : LeadsPast (.child (.key parent) name)
  | child {parent : KeyPath} (h : LeadsPast parent) (name : String) : LeadsPast (.child parent name)
  | item {parent : KeyPath} (h : LeadsPast parent) {index : Int} (hindex : 0 ≤ index) :
      LeadsPast (.item parent index)

/-- An entry that gives the settings, if at all, as scalars below a table of keywords. -/
inductive SoundEntry (entry : String × Value) : Prop where
  | keywords {name : String} (hplace : KeyPath.place entry.1 = .key name)
      (hname : lowercaseString name = "keywords") (htable : entry.2.IsTable)
      (hscalar : ∀ below ∈ entry.2.entries, ∀ s value, givenBelow s below = some value → value.IsScalar)
  | setting {parent name : String} (hplace : KeyPath.place entry.1 = .child (.key parent) name)
      (hparent : lowercaseString parent = "keywords") {s : Setting} (hname : lowercaseString name = s.name)
      (hscalar : entry.2.IsScalar)
  /-- A key that is no path must not become one by being kept in lowercase. -/
  | past (hplace : LeadsPast (KeyPath.place entry.1))
      (hkept : ∀ fault, KeyPath.parse entry.1 = .error fault →
        KeyPath.place (lowercaseString entry.1) = .key (lowercaseString entry.1))

theorem givenBelow_eq_some_iff {s : Setting} {name : String} {given value : Value} :
    givenBelow s (name, given) = some value ↔ lowercaseString name = s.name ∧ given = value := by
  simp only [givenBelow]
  split <;> simp_all

theorem LeadsPast.gives_eq_none {entry : String × Value} (h : LeadsPast (KeyPath.place entry.1))
    (s : Setting) : gives s entry = none := by
  unfold gives
  generalize KeyPath.place entry.1 = path at h
  cases h with
  | key hname => exact if_neg hname
  | inside hparent hname => exact (if_pos hparent).trans (if_neg (hname s))
  | @child parent hparent name =>
      cases hparent with
      | key hname => exact if_neg hname
      | _ => rfl
  | item hparent hindex => rfl

/-- The first key on the way past the settings leads to itself when it is kept. -/
theorem place_root_of_past {key : String}
    (hkept : ∀ fault, KeyPath.parse key = .error fault →
      KeyPath.place (lowercaseString key) = .key (lowercaseString key)) :
    KeyPath.place (lowercaseString (KeyPath.place key).root)
      = .key (lowercaseString (KeyPath.place key).root) := by
  cases hparse : KeyPath.parse key with
  | ok path =>
      have hplace : KeyPath.place key = path := by rw [KeyPath.place, hparse]
      rw [hplace]
      exact KeyPath.place_lowercase_root hparse
  | error fault =>
      have hplace : KeyPath.place key = .key key := by rw [KeyPath.place, hparse]
      rw [hplace]
      exact hkept fault hparse

/-- An entry at the top is assigned to the place that its key leads to. -/
theorem assignTop_eq_assign (root : Value) (key : String) (value : Value) :
    Settings.assignTop root key value = assignAt root (KeyPath.place key) value := by
  rw [Settings.assignTop, KeyPath.place]
  cases KeyPath.parse key with
  | ok path => rfl
  | error fault => rfl

theorem givenBelow_name (s s' : Setting) (value : Value) :
    givenBelow s (s'.name, value) = if s' = s then some value else none := by
  rw [givenBelow, s'.lowercase_name]
  cases s <;> cases s' <;> rfl

/-- A table of keywords in which there are nothing but scalars. -/
theorem SoundEntry.of_scalars {origin : Option String} {entries : List (String × Value)}
    (h : ∀ below ∈ entries, below.2.IsScalar) : SoundEntry ("keywords", .table origin entries) := by
  refine .keywords Setting.place_keywords Setting.lowercase_keywords trivial ?_
  intro below hmem s value hgiven
  obtain ⟨-, rfl⟩ := givenBelow_eq_some_iff.1 hgiven
  exact h below hmem

/-! ## What is kept -/

/-- A table of keywords in which the settings have these values. -/
structure Section (held : Setting → Option Value) (inner : Value) : Prop where
  isTable : inner.IsTable
  tidy : inner.Tidy
  find?_eq : ∀ s : Setting, inner.find? s.name = held s

/-- A root below which the settings have these values. -/
structure Holds (held : Setting → Option Value) (root : Value) : Prop where
  tidy : root.Tidy
  /-- What is kept is found again when it is read as a source. -/
  kept : ∀ key ∈ root.entries.map Prod.fst, KeyPath.place key = .key key
  keywords : Section held ((root.find? "keywords").getD Value.emptyTable)
  scalars : ∀ s value, held s = some value → value.IsScalar

namespace Section

variable {held : Setting → Option Value} {inner : Value}

theorem empty : Section (fun _ => none) Value.emptyTable :=
  ⟨trivial, Value.tidy_emptyTable, fun _ => rfl⟩

theorem put (h : Section held inner) (name : String) (value : Value) :
    Section (fun s => (givenBelow s (name, value)).or (held s)) (inner.put name value) where
  isTable := Value.isTable_put
  tidy := h.tidy.put
  find?_eq s := by
    rw [Value.find?_put, s.lowercase_name, h.find?_eq, givenBelow]
    by_cases hname : s.name = lowercaseString name
    · rw [if_pos hname, if_pos hname.symm, Option.some_or]
    · rw [if_neg hname, if_neg (Ne.symm hname), Option.none_or]

/-- A table that is put among the settings is none of them, so that it makes no difference how it is
merged. -/
theorem assign (h : Section held inner) {name : String} {value : Value}
    (hscalar : ∀ s given, givenBelow s (name, value) = some given → given.IsScalar) :
    Section (fun s => (givenBelow s (name, value)).or (held s)) (inner.assign name value) := by
  by_cases htable : value.IsTable
  · obtain ⟨stored, hstored⟩ := Value.exists_assign_eq_put inner name value
    have hnone : ∀ (s : Setting) (other : Value), givenBelow s (name, other) = none := by
      intro s other
      rw [Option.eq_none_iff_forall_ne_some]
      intro given hgiven
      obtain ⟨hname, -⟩ := givenBelow_eq_some_iff.1 hgiven
      exact (hscalar s value (givenBelow_eq_some_iff.2 ⟨hname, rfl⟩)).not_isTable htable
    have hput := h.put name stored
    simp only [hnone] at hput ⊢
    rwa [hstored]
  · -- What is no table takes the place of what was there.
    rw [Value.assign_eq_put htable]
    exact h.put name value

theorem assignAll (h : Section held inner) {entries : List (String × Value)}
    (hscalar : ∀ below ∈ entries, ∀ s value, givenBelow s below = some value → value.IsScalar) :
    Section (fun s => (latest (givenBelow s) entries).or (held s)) (inner.assignAll entries) := by
  induction entries generalizing held inner with
  | nil =>
      rw [Value.assignAll]
      exact h
  | cons entry entries ih =>
      obtain ⟨name, value⟩ := entry
      have hfirst := h.assign (hscalar (name, value) List.mem_cons_self)
      have hrest := ih hfirst fun below hbelow => hscalar below (List.mem_cons_of_mem _ hbelow)
      rw [Value.assignAll]
      simpa only [latest_cons, Option.or_assoc] using hrest

/-- Among entries with their keys in lowercase, once each, the last one for a setting is what is found. -/
theorem latest_givenBelow (h : Section held inner) (s : Setting) :
    latest (givenBelow s) inner.entries = held s := by
  have hbelow : latest (givenBelow s) inner.entries
      = latest (fun entry => if entry.1 = s.name then some entry.2 else none) inner.entries := by
    apply latest_congr
    intro entry hentry
    rw [givenBelow, h.tidy.lowercase entry.1 (List.mem_map_of_mem hentry)]
  rw [hbelow, latest_eq_lookup h.tidy.nodup, ← h.find?_eq, Value.find?, s.lowercase_name,
    Option.bind_fun_some]

end Section

namespace Holds

variable {held held' : Setting → Option Value} {root : Value}

theorem empty : Holds (fun _ => none) Value.emptyTable where
  tidy := Value.tidy_emptyTable
  kept := by simp [Value.emptyTable, Value.entries]
  keywords := Section.empty
  scalars := by simp

/-- A value under another key changes nothing of the settings. -/
theorem put_other (h : Holds held root) {key : String} (hkey : lowercaseString key ≠ "keywords")
    (hkept : KeyPath.place (lowercaseString key) = .key (lowercaseString key)) (value : Value) :
    Holds held (root.put key value) where
  tidy := h.tidy.put
  kept k hk := by
    rw [Value.entries_put, mem_keys_putKey] at hk
    rcases hk with rfl | hold
    · exact hkept
    · exact h.kept k hold
  keywords := by
    rw [Value.find?_put, Setting.lowercase_keywords, if_neg (Ne.symm hkey)]
    exact h.keywords
  scalars := h.scalars

/-- A new table of keywords. -/
theorem put_keywords (h : Holds held root) {key : String} (hkey : lowercaseString key = "keywords")
    {inner : Value} (hinner : Section held' inner)
    (hscalar : ∀ s value, held' s = some value → value.IsScalar) :
    Holds held' (root.put key inner) where
  tidy := h.tidy.put
  kept k hk := by
    rw [Value.entries_put, mem_keys_putKey, hkey] at hk
    rcases hk with rfl | hold
    · exact Setting.place_keywords
    · exact h.kept k hold
  keywords := by
    rw [Value.find?_put, Setting.lowercase_keywords, if_pos hkey.symm]
    exact hinner
  scalars := hscalar

/-- The table of keywords is found under its key in any case. -/
theorem section_find? (h : Holds held root) {key : String} (hkey : lowercaseString key = "keywords") :
    Section held ((root.find? key).getD Value.emptyTable) := by
  rw [Value.find?_eq_of_lowercase (hkey.trans Setting.lowercase_keywords.symm)]
  exact h.keywords

/-- An entry of the table of keywords is replaced, or added. -/
theorem put_inside (h : Holds held root) {key : String} (hkey : lowercaseString key = "keywords")
    (name : String) (value : Value)
    (hscalar : ∀ s given, givenBelow s (name, value) = some given → given.IsScalar) :
    Holds (fun s => (givenBelow s (name, value)).or (held s))
      (root.put key (((root.find? key).getD Value.null).put name value)) := by
  rw [Value.put_getD]
  apply h.put_keywords hkey ((h.section_find? hkey).put name value)
  intro s given hgiven
  rcases Option.or_eq_some_iff.1 hgiven with hnew | ⟨-, hold⟩
  · exact hscalar s given hnew
  · exact h.scalars s given hold

theorem put_inside_other (h : Holds held root) {key : String} (hkey : lowercaseString key = "keywords")
    {name : String} (hname : ∀ s : Setting, lowercaseString name ≠ s.name) (value : Value) :
    Holds held (root.put key (((root.find? key).getD Value.null).put name value)) := by
  have hnone : ∀ s : Setting, givenBelow s (name, value) = none := fun s => if_neg (hname s)
  have hput := h.put_inside hkey name value (by simp [hnone])
  simpa only [hnone, Option.none_or] using hput

/-! ### Paths past the settings -/

/-- Where no item is counted from the end, every change of an item comes off. -/
theorem modifyItem_eq_some {index : Int} (hindex : 0 ≤ index) (change : Value → Value) (inner : Value) :
    ∃ changed, KeyPath.modifyItem index (fun value => some (change value)) inner = some changed := by
  simp only [KeyPath.modifyItem, KeyPath.place?, if_pos hindex]
  exact ⟨_, rfl⟩

theorem modify (h : Holds held root) {path : KeyPath} (hpath : LeadsPast path)
    (hkept : KeyPath.place (lowercaseString path.root) = .key (lowercaseString path.root))
    (change : Value → Value) :
    ∃ changed, path.modify (fun value => some (change value)) root = some changed ∧ Holds held changed := by
  -- To change what lies at the end of a path is to change what lies at the end of its parent in some way.
  induction hpath generalizing change with
  | @key name hname => exact ⟨_, rfl, h.put_other hname hkept _⟩
  | @inside parent name hparent hname => exact ⟨_, rfl, h.put_inside_other hparent hname _⟩
  | @child parent hparent name ih =>
      exact ih hkept fun inner => inner.put name (change ((inner.find? name).getD Value.null))
  | @item parent hparent index hindex ih =>
      choose changed hchanged using modifyItem_eq_some hindex change
      obtain ⟨after, hafter, hholds⟩ := ih hkept changed
      refine ⟨after, ?_, hholds⟩
      rw [KeyPath.modify, funext hchanged]
      exact hafter

theorem assign_past (h : Holds held root) {path : KeyPath} (hpath : LeadsPast path)
    (hkept : KeyPath.place (lowercaseString path.root) = .key (lowercaseString path.root))
    (value : Value) :
    ∃ changed, path.assign value root = some changed ∧ Holds held changed := by
  -- Whether the last step merges tables or not, it puts something in its place.
  cases hpath with
  | @key name hname =>
      obtain ⟨stored, hstored⟩ := Value.exists_assign_eq_put root name value
      exact ⟨_, rfl, hstored ▸ h.put_other hname hkept stored⟩
  | @inside parent name hparent hname =>
      obtain ⟨stored, hstored⟩ :=
        Value.exists_assign_eq_put ((root.find? parent).getD Value.null) name value
      refine ⟨_, rfl, ?_⟩
      rw [hstored]
      exact h.put_inside_other hparent hname stored
  | child hparent name => exact h.modify hparent hkept fun inner => inner.assign name value
  | item hparent hindex =>
      choose changed hchanged using modifyItem_eq_some hindex fun _ => value
      obtain ⟨after, hafter, hholds⟩ := h.modify hparent hkept changed
      refine ⟨after, ?_, hholds⟩
      rw [KeyPath.assign, funext hchanged]
      exact hafter

/-! ### One entry, and a whole source -/

theorem assign_inside (h : Holds held root) {parent : String} (hparent : lowercaseString parent = "keywords")
    (name : String) {value : Value} (hscalar : value.IsScalar) :
    ∃ changed, assignAt root (.child (.key parent) name) value = .ok changed ∧
      Holds (fun s => (givenBelow s (name, value)).or (held s)) changed := by
  refine ⟨_, rfl, ?_⟩
  rw [Value.assign_eq_put hscalar.not_isTable]
  apply h.put_inside hparent name value
  intro s given hgiven
  obtain ⟨-, rfl⟩ := givenBelow_eq_some_iff.1 hgiven
  exact hscalar

/-- A table of keywords is merged with the one that is there. -/
theorem assign_keywords (h : Holds held root) {key : String} (hkey : lowercaseString key = "keywords")
    {value : Value} (htable : value.IsTable)
    (hscalar : ∀ below ∈ value.entries, ∀ s given, givenBelow s below = some given → given.IsScalar) :
    Holds (fun s => (latest (givenBelow s) value.entries).or (held s)) (root.assign key value) := by
  rw [Value.assign_of_isTable htable]
  apply h.put_keywords hkey ((h.section_find? hkey).assignAll hscalar)
  intro s given hgiven
  rcases Option.or_eq_some_iff.1 hgiven with hnew | ⟨-, hold⟩
  · obtain ⟨below, hbelow, hsome⟩ := exists_of_latest_eq_some hnew
    exact hscalar below hbelow s given hsome
  · exact h.scalars s given hold

theorem assignTop (h : Holds held root) {entry : String × Value} (hsound : SoundEntry entry) :
    ∃ changed, Settings.assignTop root entry.1 entry.2 = .ok changed ∧
      Holds (fun s => (gives s entry).or (held s)) changed := by
  rw [assignTop_eq_assign]
  cases hsound with
  | @keywords name hplace hname htable hscalar =>
      refine ⟨root.assign name entry.2, ?_, ?_⟩
      · rw [hplace]
        rfl
      · simpa only [gives, hplace, if_pos hname] using h.assign_keywords hname htable hscalar
  | @setting parent name hplace hparent s hname hscalar =>
      obtain ⟨changed, hchanged, hholds⟩ := h.assign_inside hparent name hscalar
      refine ⟨changed, by rw [hplace, hchanged], ?_⟩
      simpa only [gives, hplace, if_pos hparent] using hholds
  | past hplace hkept =>
      obtain ⟨changed, hchanged, hholds⟩ := h.assign_past hplace (place_root_of_past hkept) entry.2
      refine ⟨changed, by rw [assignAt, hchanged], ?_⟩
      simpa only [hplace.gives_eq_none, Option.none_or] using hholds

theorem assignTops_eq_foldlM (entries : List (String × Value)) (root : Value) :
    Settings.assignTops entries root
      = entries.foldlM (fun root entry => Settings.assignTop root entry.1 entry.2) root := by
  induction entries generalizing root with
  | nil => rfl
  | cons entry entries ih =>
      rw [List.foldlM_cons, Settings.assignTops]
      exact congrArg _ (funext ih)

/-- A sound source is taken in, and what it gives prevails over what was there. -/
theorem assignTops (h : Holds held root) {entries : List (String × Value)}
    (hsound : ∀ entry ∈ entries, SoundEntry entry) :
    ∃ changed, Settings.assignTops entries root = .ok changed ∧
      Holds (fun s => (latest (gives s) entries).or (held s)) changed := by
  rw [assignTops_eq_foldlM]
  exact foldlM_latest (fun entry hentry _ _ hholds => hholds.assignTop (hsound entry hentry)) h

/-! ### What is kept as a source -/

theorem section_of_mem (h : Holds held root) {value : Value} (hmem : ("keywords", value) ∈ root.entries) :
    Section held value := by
  have hkeywords := h.keywords
  rw [Value.find?, Setting.lowercase_keywords, lookup_eq_some_of_mem h.tidy.nodup hmem] at hkeywords
  exact hkeywords

/-- What is kept can be read as a source. -/
theorem sound (h : Holds held root) : ∀ entry ∈ root.entries, SoundEntry entry := by
  rintro ⟨key, value⟩ hentry
  have hmem : key ∈ root.entries.map Prod.fst := List.mem_map.2 ⟨(key, value), hentry, rfl⟩
  have hkept := h.kept key hmem
  have hlower := h.tidy.lowercase key hmem
  by_cases hkey : key = "keywords"
  · subst hkey
    have hsection := h.section_of_mem hentry
    refine .keywords hkept hlower hsection.isTable ?_
    rintro ⟨name, given⟩ hbelow s _ hgiven
    obtain ⟨hname, rfl⟩ := givenBelow_eq_some_iff.1 hgiven
    apply h.scalars s given
    rw [← hsection.find?_eq, Value.find?, s.lowercase_name]
    apply lookup_eq_some_of_mem hsection.tidy.nodup
    rwa [← hname, hsection.tidy.lowercase name (List.mem_map.2 ⟨(name, given), hbelow, rfl⟩)]
  · apply SoundEntry.past
    · rw [hkept]
      exact .key (by rwa [hlower])
    · intro _ _
      rwa [hlower]

/-- What is kept gives what it holds, when it is read as a source. -/
theorem latest_gives (h : Holds held root) (s : Setting) : latest (gives s) root.entries = held s := by
  have hgives : latest (gives s) root.entries = latest (fun entry =>
      if entry.1 = "keywords" then latest (givenBelow s) entry.2.entries else none) root.entries := by
    apply latest_congr
    intro entry hentry
    have hmem : entry.1 ∈ root.entries.map Prod.fst := List.mem_map_of_mem hentry
    simp only [gives, h.kept entry.1 hmem, h.tidy.lowercase entry.1 hmem]
  have hfind := h.keywords
  rw [hgives, latest_eq_lookup h.tidy.nodup "keywords" fun inner => latest (givenBelow s) inner.entries]
  rw [Value.find?, Setting.lowercase_keywords] at hfind
  cases hkeywords : root.entries.lookup "keywords" with
  | none =>
      rw [hkeywords] at hfind
      exact hfind.find?_eq s
  | some inner =>
      rw [hkeywords] at hfind
      exact hfind.latest_givenBelow s

/-! ### Finding the settings -/

theorem isTable_of_find? (h : Holds held root) {value : Value} (hfind : root.find? "keywords" = some value) :
    value.IsTable := by
  have hsection := h.keywords
  rw [hfind] at hsection
  exact hsection.isTable

theorem at?_path (h : Holds held root) (s : Setting) : root.at? s.path = held s := by
  rw [← h.keywords.find?_eq s, Setting.path, Value.at?]
  cases root.find? "keywords" with
  | none => rfl
  | some inner => simp [Value.at?]

end Holds

end RuleMatch.Settings
