import Mathlib
import RuleMatch.Proofs.Sources

/-!
# The laws of the back end for TOML

The back end that the loader is run with keeps the laws of back ends, provided that every file that is well
formed is a sound source (`tomlBackend_lawful`).

It assigns to keys, and what it has assigned by then is described by the values of the settings.
`Holds.mergeSource` and `Holds.mergeSources` say so for a source and for all of them, `Records` and
`Holds.assignOverrides` for the keys that are overridden, `assemble_of_plain` for everything together.
-/

namespace RuleMatch.Settings

variable {files : Files} {steps : List Step}

/-! ## Sources -/

/-- Why a source cannot be read. -/
def sourceFailure? (files : Files) (source : Source) : Option LoadFailure :=
  match readSource files source with
  | .ok _ => none
  | .error failure => some failure

/-- The value that a source gives a setting. -/
def sourceGives (files : Files) (s : Setting) (source : Source) : Option Value :=
  match readSource files source with
  | .ok root => latest (gives s) root.entries
  | .error _ => none

/-- A source with nothing but sound entries, if it can be read. -/
def SoundSource (files : Files) (source : Source) : Prop :=
  ∀ root, readSource files source = .ok root → ∀ entry ∈ root.entries, SoundEntry entry

/-- Files with nothing but sound entries, if they are well formed. -/
def SoundFiles (files : Files) : Prop :=
  ∀ file ∈ files, ∀ root, parseDocument (some file.1) file.2 = .ok root →
    ∀ entry ∈ root.entries, SoundEntry entry

theorem mem_of_locate? {path name text : String} (h : locate? files path = some (name, text)) :
    (name, text) ∈ files := by
  obtain ⟨candidate, -, hcandidate⟩ := List.exists_of_findSome?_eq_some h
  obtain ⟨text', hlookup, heq⟩ := Option.map_eq_some_iff.1 hcandidate
  obtain ⟨rfl, rfl⟩ := Prod.mk.inj heq
  obtain ⟨front, back, rfl, -⟩ := List.lookup_eq_some_iff.1 hlookup
  simp

/-- The values in the document with the default settings. -/
def defaultRoot : Value :=
  .table none [("keywords", .table none
    [("word_boundary", .scalar none (.bool true)), ("extra_word_chars", .scalar none (.text "_"))])]

set_option maxRecDepth 8000 in
theorem readSource_defaults (files : Files) : readSource files (.text defaultDocument) = .ok defaultRoot := by
  -- The pieces of the document are taken as lists of characters: a text would be decoded again and again.
  have hpieces : defaultDocument
      = String.ofList _ ++ String.ofList _ ++ String.ofList _ ++ String.ofList _ := rfl
  rw [readSource, parseDocument, hpieces]
  simp only [String.toList_append, String.toList_ofList]
  cbv

theorem soundSource_of_plain (hfiles : SoundFiles files) {source : Source} (h : (Step.source source).Plain) :
    SoundSource files source := by
  intro root hroot
  cases h with
  | defaults =>
      obtain rfl := Except.ok.inj ((readSource_defaults files).symm.trans hroot)
      intro entry hentry
      obtain rfl := List.mem_singleton.1 hentry
      apply SoundEntry.of_scalars
      exact List.forall_mem_cons.2 ⟨trivial, List.forall_mem_singleton.2 trivial⟩
  | file path required =>
      rw [readSource] at hroot
      cases hlocate : locate? files path with
      | some found =>
          rw [hlocate] at hroot
          exact hfiles found (mem_of_locate? hlocate) root hroot
      | none =>
          rw [hlocate] at hroot
          cases required with
          | true => simp at hroot
          | false =>
              obtain rfl := Except.ok.inj hroot
              simp [Value.emptyTable, Value.entries]

theorem mergeSource_of_failure {source : Source} {failure : LoadFailure}
    (h : sourceFailure? files source = some failure) (root : Value) :
    mergeSource files root source = .error failure := by
  cases hread : readSource files source with
  | ok own => simp [sourceFailure?, hread] at h
  | error failure' =>
      obtain rfl : failure' = failure := by simpa [sourceFailure?, hread] using h
      rw [mergeSource, hread]
      rfl

namespace Holds

variable {held : Setting → Option Value} {root : Value} {queue : List Source}

/-- A sound source is merged with what was there, and what it gives prevails. -/
theorem mergeSource (h : Holds held root) {source : Source} (hok : sourceFailure? files source = none)
    (hsound : SoundSource files source) :
    ∃ changed, Settings.mergeSource files root source = .ok changed ∧
      Holds (fun s => (sourceGives files s source).or (held s)) changed := by
  cases hread : readSource files source with
  | error failure => simp [sourceFailure?, hread] at hok
  | ok own =>
      obtain ⟨changed, hchanged, hholds⟩ := h.assignTops (hsound own hread)
      refine ⟨changed, ?_, ?_⟩
      · rw [Settings.mergeSource, hread]
        exact hchanged
      · simpa only [sourceGives, hread] using hholds

theorem mergeReadable (h : Holds held root) (hok : ∀ source ∈ queue, sourceFailure? files source = none)
    (hsound : ∀ source ∈ queue, SoundSource files source) :
    ∃ changed, queue.foldlM (Settings.mergeSource files) root = .ok changed ∧
      Holds (fun s => (latest (sourceGives files s) queue).or (held s)) changed :=
  foldlM_latest (fun source hin _ _ hholds => hholds.mergeSource (hok source hin) (hsound source hin)) h

/-- Sources are merged in order, up to the first that cannot be read. -/
theorem mergeSources (h : Holds held root) (hsound : ∀ source ∈ queue, SoundSource files source) :
    match queue.findSome? (sourceFailure? files) with
    | some failure => queue.foldlM (Settings.mergeSource files) root = .error failure
    | none => ∃ changed, queue.foldlM (Settings.mergeSource files) root = .ok changed ∧
        Holds (fun s => (latest (sourceGives files s) queue).or (held s)) changed := by
  cases hfirst : queue.findSome? (sourceFailure? files) with
  | none => exact h.mergeReadable (List.findSome?_eq_none_iff.1 hfirst) hsound
  | some failure =>
      obtain ⟨front, source, back, rfl, hfailure, hok⟩ := List.findSome?_eq_some_iff.1 hfirst
      obtain ⟨merged, hmerged, -⟩ := h.mergeReadable hok (List.forall_mem_append.1 hsound).1
      dsimp only
      rw [List.foldlM_append, hmerged]
      show (source :: back).foldlM (Settings.mergeSource files) merged = _
      rw [List.foldlM_cons, mergeSource_of_failure hfailure]
      rfl

end Holds

/-! ## Overrides -/

theorem putOverride_eq_putKey (path : KeyPath) (value : Value) (overrides : List (KeyPath × Value)) :
    putOverride path value overrides = putKey path value overrides := by
  induction overrides with
  | nil => rfl
  | cons entry overrides ih => rw [putOverride, putKey, ih]

/-- The value that a step sets a setting to. -/
def Step.setsTo (s : Setting) : Step → Option Value
  | .source _ => none
  | .override key value => if key = s.key then some value else none

/-- Overrides that set the settings to these values, each once. -/
structure Records (set : Setting → Option Value) (overrides : List (KeyPath × Value)) : Prop where
  nodup : (overrides.map Prod.fst).Nodup
  paths : ∀ entry ∈ overrides, ∃ s : Setting, entry.1 = s.keyPath ∧ entry.2.IsScalar
  lookup_eq : ∀ s : Setting, overrides.lookup s.keyPath = set s

namespace Records

variable {set : Setting → Option Value} {overrides : List (KeyPath × Value)}

theorem empty : Records (fun _ => none) [] :=
  ⟨List.nodup_nil, by simp, fun _ => rfl⟩

theorem addOverride (h : Records set overrides) {step : Step} (hplain : step.Plain) :
    Records (fun s => (step.setsTo s).or (set s)) (Settings.addOverride overrides step) := by
  cases hplain with
  | defaults => simpa only [Step.setsTo, Option.none_or, Settings.addOverride] using h
  | file path required => simpa only [Step.setsTo, Option.none_or, Settings.addOverride] using h
  | override s v =>
      rw [Settings.addOverride, s.parse_key]
      show Records _ (putOverride s.keyPath (.scalar none v) overrides)
      rw [putOverride_eq_putKey]
      refine ⟨nodup_putKey h.nodup, ?_, ?_⟩
      · intro entry hentry
        rcases mem_of_mem_putKey hentry with rfl | hold
        · exact ⟨s, rfl, trivial⟩
        · exact h.paths entry hold
      · intro s'
        have hsame : s'.keyPath = s.keyPath ↔ s.key = s'.key := by
          cases s <;> cases s' <;> decide
        rw [lookup_putKey, h.lookup_eq, Step.setsTo]
        by_cases hkey : s.key = s'.key
        · rw [if_pos (hsame.2 hkey), if_pos hkey, Option.some_or]
        · rw [if_neg (fun hpath => hkey (hsame.1 hpath)), if_neg hkey, Option.none_or]

theorem of_plain (hplain : ∀ step ∈ steps, step.Plain) :
    Records (fun s => latest (Step.setsTo s) steps) (Settings.overrides steps) := by
  induction steps using List.reverseRecOn with
  | nil => exact empty
  | append_singleton steps step ih =>
      obtain ⟨hsteps, hlast⟩ := List.forall_mem_append.1 hplain
      have hadded := (ih hsteps).addOverride (List.forall_mem_singleton.1 hlast)
      simpa only [latest_append, latest_cons, latest_nil, Option.none_or, Settings.overrides, List.foldl_append,
        List.foldl_cons, List.foldl_nil] using hadded

end Records

namespace Holds

variable {held set : Setting → Option Value} {root : Value}

/-- An override for a setting is assigned. -/
theorem assignPath (h : Holds held root) {entry : KeyPath × Value} {s : Setting} (hpath : entry.1 = s.keyPath)
    (hscalar : entry.2.IsScalar) :
    ∃ changed, assignAt root entry.1 entry.2 = .ok changed ∧
      Holds (fun s => (if entry.1 = s.keyPath then some entry.2 else none).or (held s)) changed := by
  obtain ⟨path, value⟩ := entry
  obtain rfl : path = s.keyPath := hpath
  have hgiven : ∀ s' : Setting,
      givenBelow s' (s.name, value) = if s.keyPath = s'.keyPath then some value else none := by
    intro s'
    rw [givenBelow_name]
    cases s <;> cases s' <;> rfl
  have hassign := h.assign_inside Setting.lowercase_keywords s.name hscalar
  simp only [hgiven] at hassign
  exact hassign

/-- Overrides for settings are assigned one after the other. -/
theorem assignOverrides (h : Holds held root) {overrides : List (KeyPath × Value)}
    (hrecords : Records set overrides) :
    ∃ changed, overrides.foldlM (fun root entry => assignAt root entry.1 entry.2) root = .ok changed ∧
      Holds (fun s => (set s).or (held s)) changed := by
  have hassign : ∀ entry ∈ overrides, ∀ held root, Holds held root →
      ∃ changed, assignAt root entry.1 entry.2 = .ok changed ∧
        Holds (fun s => (if entry.1 = s.keyPath then some entry.2 else none).or (held s)) changed := by
    intro entry hentry held root hholds
    obtain ⟨s, hpath, hscalar⟩ := hrecords.paths entry hentry
    exact hholds.assignPath hpath hscalar
  obtain ⟨changed, hchanged, hholds⟩ := foldlM_latest hassign h
  refine ⟨changed, hchanged, ?_⟩
  -- There is one override for a setting at most, so the last is the one that is found.
  have hlatest : ∀ s : Setting,
      latest (fun entry => if entry.1 = s.keyPath then some entry.2 else none) overrides = set s := by
    intro s
    rw [latest_eq_lookup hrecords.nodup, hrecords.lookup_eq, Option.bind_fun_some]
  simpa only [hlatest] using hholds

end Holds

/-! ## Everything together -/

/-- Why the steps cannot be put together: the first source that cannot be read. -/
def firstFailure? (files : Files) (steps : List Step) : Option LoadFailure :=
  (sources steps).findSome? (sourceFailure? files)

/-- The value of a setting after some steps: what it was set to last, else what the last source gives that gives
it. -/
def settled (files : Files) (steps : List Step) (s : Setting) : Option Value :=
  (latest (Step.setsTo s) steps).or (latest (sourceGives files s) (sources steps))

theorem mem_sources {source : Source} : source ∈ sources steps ↔ .source source ∈ steps := by
  rw [sources, List.mem_filterMap]
  constructor
  · rintro ⟨step, hstep, hsource⟩
    cases step with
    | source source' =>
        obtain rfl := Option.some.inj hsource
        exact hstep
    | override key value => simp at hsource
  · intro hstep
    exact ⟨_, hstep, rfl⟩

@[simp] theorem sources_append (steps steps' : List Step) :
    sources (steps ++ steps') = sources steps ++ sources steps' :=
  List.filterMap_append

theorem firstFailure?_append (files : Files) (steps steps' : List Step) :
    firstFailure? files (steps ++ steps') = (firstFailure? files steps).or (firstFailure? files steps') := by
  rw [firstFailure?, sources_append, List.findSome?_append]
  rfl

/-- Plain steps come to values for the settings, unless a source cannot be read. -/
theorem assemble_of_plain (hfiles : SoundFiles files) (hplain : ∀ step ∈ steps, step.Plain) :
    match firstFailure? files steps with
    | some failure => assemble files steps = .error failure
    | none => ∃ root, assemble files steps = .ok root ∧ Holds (settled files steps) root := by
  have hsound : ∀ source ∈ sources steps, SoundSource files source := fun source hsource =>
    soundSource_of_plain hfiles (hplain _ (mem_sources.1 hsource))
  have hmerged := Holds.empty.mergeSources hsound
  rw [firstFailure?, assemble]
  cases hfirst : (sources steps).findSome? (sourceFailure? files) with
  | some failure =>
      rw [hfirst] at hmerged
      simp only [hmerged]
      rfl
  | none =>
      rw [hfirst] at hmerged
      obtain ⟨merged, hmerged, hholds⟩ := hmerged
      simp only [Option.or_none] at hholds
      -- What was merged is taken in once more, which changes nothing of what it holds.
      obtain ⟨again, hagain, hagainholds⟩ := Holds.empty.assignTops hholds.sound
      simp only [hholds.latest_gives, Option.or_none] at hagainholds
      obtain ⟨last, hlast, hlastholds⟩ := hagainholds.assignOverrides (Records.of_plain hplain)
      refine ⟨last, ?_, hlastholds⟩
      simp only [hmerged]
      show (assignTops merged.entries Value.emptyTable >>= _) = _
      rw [hagain]
      exact hlast

theorem assemble_eq_error_iff (hfiles : SoundFiles files) (hplain : ∀ step ∈ steps, step.Plain)
    {failure : LoadFailure} :
    assemble files steps = .error failure ↔ firstFailure? files steps = some failure := by
  have hassemble := assemble_of_plain hfiles hplain
  cases hfirst : firstFailure? files steps with
  | some failure' =>
      rw [hfirst] at hassemble
      simp [hassemble]
  | none =>
      rw [hfirst] at hassemble
      obtain ⟨root, hroot, -⟩ := hassemble
      simp [hroot]

theorem exists_of_firstFailure?_eq_none (hfiles : SoundFiles files) (hplain : ∀ step ∈ steps, step.Plain)
    (h : firstFailure? files steps = none) :
    ∃ root, assemble files steps = .ok root ∧ Holds (settled files steps) root := by
  have hassemble := assemble_of_plain hfiles hplain
  rw [h] at hassemble
  exact hassemble

theorem holds_of_assemble (hfiles : SoundFiles files) (hplain : ∀ step ∈ steps, step.Plain) {root : Value}
    (h : assemble files steps = .ok root) :
    firstFailure? files steps = none ∧ Holds (settled files steps) root := by
  have hassemble := assemble_of_plain hfiles hplain
  cases hfirst : firstFailure? files steps with
  | some failure =>
      rw [hfirst] at hassemble
      simp [hassemble] at h
  | none =>
      rw [hfirst] at hassemble
      obtain ⟨root', hroot', hholds⟩ := hassemble
      obtain rfl := Except.ok.inj (hroot'.symm.trans h)
      exact ⟨rfl, hholds⟩

/-- What a source comes to by itself. -/
theorem assemble_of_readSource (hfiles : SoundFiles files) {source : Source}
    (hplain : (Step.source source).Plain) {own : Value} (hread : readSource files source = .ok own) :
    ∃ root, assemble files [.source source] = .ok root ∧
      Holds (fun s => latest (gives s) own.entries) root := by
  have hnone : firstFailure? files [.source source] = none := by
    simp [firstFailure?, sources, sourceFailure?, hread]
  have hsettled : settled files [.source source] = fun s => latest (gives s) own.entries := by
    funext s
    simp [settled, sources, latest_cons, Step.setsTo, sourceGives, hread]
  rw [← hsettled]
  exact exists_of_firstFailure?_eq_none hfiles (List.forall_mem_singleton.2 hplain) hnone

/-! ## Filling a record -/

theorem decodeAs_of_read {α : Type} {read : Scalar → Option α} {value : Value} {a : α}
    (h : value.scalar?.bind read = some a) (kind : Value → String) (expected key : String) :
    Value.decodeAs read kind expected key value = .ok a := by
  rw [Value.decodeAs, h]

theorem decodeRecord_keywords {root : Value} {b : Bool} {t : String}
    (htable : ∀ value, root.find? "keywords" = some value → value.IsTable)
    (hb : ((root.at? Setting.wordBoundary.path).bind Value.scalar?).bind Scalar.toBool? = some b)
    (ht : ((root.at? Setting.extraWordChars.path).bind Value.scalar?).bind Scalar.toText? = some t) :
    decodeRecord keywordRecord root = .ok (b, t) := by
  cases hfind : root.find? "keywords" with
  | none => simp [Setting.path, Value.at?, hfind] at hb
  | some inner =>
      have hinner := htable inner hfind
      cases inner with
      | scalar origin v => exact hinner.elim
      | array origin items => exact hinner.elim
      | table origin entries =>
          -- The names of the settings are in lowercase, so they can be looked up as they are.
          have hlookup : ∀ s : Setting, root.at? s.path = entries.lookup s.name := by
            intro s
            have hinside : (Value.table origin entries).find? s.name = entries.lookup s.name := by
              rw [Value.find?, s.lowercase_name]
              rfl
            rw [Setting.path, Value.at?, hfind, ← hinside]
            simp [Value.at?]
          rw [hlookup, Option.bind_assoc] at hb ht
          obtain ⟨value, hvalue, hread⟩ := Option.bind_eq_some_iff.1 hb
          obtain ⟨value', hvalue', hread'⟩ := Option.bind_eq_some_iff.1 ht
          have hboundary : entries.lookup keywordRecord.boolField = some value := hvalue
          have hextra : entries.lookup keywordRecord.textField = some value' := hvalue'
          show require _ (root.find? "keywords") >>= decodeFields keywordRecord = _
          rw [hfind]
          show decodeFields keywordRecord (.table origin entries) = _
          rw [decodeFields, hboundary, hextra, decodeSome, decodeSome, Value.decodeBool, Value.decodeText,
            decodeAs_of_read hread, decodeAs_of_read hread']
          rfl

/-! ## The laws -/

namespace Holds

variable {held : Setting → Option Value} {root : Value}

theorem scalar?_eq (h : Holds held root) (s : Setting) :
    tomlBackend.scalar? root s = (held s).bind Value.scalar? := by
  rw [← h.at?_path s]
  rfl

theorem fits (h : Holds held root) : tomlBackend.Fits root where
  table value hvalue := by
    have hfind : (root.find? "keywords").bind some = some value := hvalue
    exact h.isTable_of_find? (by simpa using hfind)
  scalars s value hvalue := h.scalars s value ((h.at?_path s).symm.trans hvalue)

end Holds

/-- A scalar is not overlaid by what stands behind it. -/
theorem bind_scalar?_or {value value' : Option Value} (h : ∀ v, value = some v → v.IsScalar) :
    (value.or value').bind Value.scalar? = (value.bind Value.scalar?).or (value'.bind Value.scalar?) := by
  cases value with
  | none => rfl
  | some v =>
      have hscalar := h v rfl
      cases v with
      | scalar origin s => rfl
      | array origin items => exact hscalar.elim
      | table origin entries => exact hscalar.elim

theorem isOverridden_iff {s : Setting} : s.IsOverridden steps ↔ latest (Step.setsTo s) steps ≠ none := by
  rw [Ne, latest_eq_none_iff]
  push Not
  constructor
  · rintro ⟨value, hmem⟩
    exact ⟨_, hmem, by simp [Step.setsTo]⟩
  · rintro ⟨step, hstep, hsets⟩
    cases step with
    | source source => exact absurd rfl hsets
    | override key value =>
        have hkey : key = s.key := by
          by_contra hne
          exact hsets (if_neg hne)
        exact ⟨value, hkey ▸ hstep⟩

section Laws

variable {s : Setting}

/-- A source leaves alone what was set before. -/
theorem settled_source_of_set (h : s.IsOverridden steps) (source : Source) :
    settled files (steps ++ [.source source]) s = settled files steps s := by
  obtain ⟨value, hvalue⟩ := Option.ne_none_iff_exists'.1 (isOverridden_iff.1 h)
  simp [settled, latest_append, latest_cons, Step.setsTo, hvalue]

theorem settled_source_of_not_set (h : ¬ s.IsOverridden steps) (source : Source) :
    settled files (steps ++ [.source source]) s
      = (settled files [.source source] s).or (settled files steps s) := by
  have hnone : latest (Step.setsTo s) steps = none := by
    by_contra hne
    exact h (isOverridden_iff.2 hne)
  simp [settled, latest_append, latest_cons, Step.setsTo, sources, hnone]

theorem settled_override (s s' : Setting) (v : Scalar) :
    settled files (steps ++ [.override s.key (.scalar none v)]) s'
      = if s' = s then some (.scalar none v) else settled files steps s' := by
  by_cases hs : s' = s
  · subst hs
    simp [settled, latest_append, latest_cons, Step.setsTo]
  · have hkey : s.key ≠ s'.key := fun heq => hs (Setting.key_injective heq).symm
    simp [settled, latest_append, latest_cons, Step.setsTo, sources, hkey, hs]

/-- The back end for TOML keeps the laws, as far as the files are sound. -/
theorem tomlBackend_lawful (hfiles : SoundFiles files) : tomlBackend.Lawful files where
  key_ok s := by
    simp only [tomlBackend, s.parse_key]
  defaults_read := by
    obtain ⟨root, hroot, hholds⟩ := assemble_of_readSource hfiles .defaults (readSource_defaults files)
    refine ⟨root, hroot, hholds.fits, fun s => ?_⟩
    rw [hholds.scalar?_eq]
    cases s <;> rfl
  optional_missing := by
    intro path hmissing
    have hlocate : locate? files path = none := Option.isNone_iff_eq_none.1 hmissing
    have hread : readSource files (.file path false) = .ok Value.emptyTable := by
      rw [readSource, hlocate]
      rfl
    obtain ⟨root, hroot, hholds⟩ := assemble_of_readSource hfiles (.file path false) hread
    refine ⟨root, hroot, hholds.fits, fun s => ?_⟩
    rw [hholds.scalar?_eq]
    rfl
  required_missing := by
    intro path hmissing
    have hlocate : locate? files path = none := Option.isNone_iff_eq_none.1 hmissing
    refine ⟨.missingFile path, (assemble_eq_error_iff hfiles ?_).2 ?_⟩
    · exact List.forall_mem_singleton.2 (.file path true)
    · simp [firstFailure?, sources, sourceFailure?, readSource, hlocate]
  failure_stays := by
    intro steps step failure hplain hfailure
    have hsteps := (List.forall_mem_append.1 hplain).1
    refine (assemble_eq_error_iff hfiles hplain).2 ?_
    rw [firstFailure?_append, (assemble_eq_error_iff hfiles hsteps).1 hfailure]
    rfl
  source_fails := by
    intro steps source config failure hplain hconfig hfailure
    obtain ⟨hsteps, hlast⟩ := List.forall_mem_append.1 hplain
    refine (assemble_eq_error_iff hfiles hplain).2 ?_
    rw [firstFailure?_append, (holds_of_assemble hfiles hsteps hconfig).1,
      (assemble_eq_error_iff hfiles hlast).1 hfailure]
    rfl
  merges_deeply := by
    intro steps source config own hplain hconfig _ hown _
    obtain ⟨hsteps, hlast⟩ := List.forall_mem_append.1 hplain
    obtain ⟨hfirst, hholds⟩ := holds_of_assemble hfiles hsteps hconfig
    obtain ⟨hsecond, hownholds⟩ := holds_of_assemble hfiles hlast hown
    obtain ⟨merged, hmerged, hmergedholds⟩ := exists_of_firstFailure?_eq_none hfiles hplain (by
      rw [firstFailure?_append, hfirst, hsecond]
      rfl)
    refine ⟨merged, hmerged, hmergedholds.fits, fun s hover => ?_⟩
    rw [hmergedholds.scalar?_eq, hholds.scalar?_eq, hownholds.scalar?_eq, settled_source_of_not_set hover,
      bind_scalar?_or (hownholds.scalars s)]
  overrides_last := by
    intro steps source config merged hplain hconfig hmerged s hover
    have hsteps := (List.forall_mem_append.1 hplain).1
    obtain ⟨-, hholds⟩ := holds_of_assemble hfiles hsteps hconfig
    obtain ⟨-, hmergedholds⟩ := holds_of_assemble hfiles hplain hmerged
    rw [hmergedholds.scalar?_eq, hholds.scalar?_eq, settled_source_of_set hover]
  override_applies := by
    intro steps config s v hplain hconfig _
    have hall : ∀ taken ∈ steps ++ [.override s.key (.scalar none v)], taken.Plain :=
      List.forall_mem_append.2 ⟨hplain, List.forall_mem_singleton.2 (.override s v)⟩
    obtain ⟨hfirst, hholds⟩ := holds_of_assemble hfiles hplain hconfig
    obtain ⟨changed, hchanged, hchangedholds⟩ := exists_of_firstFailure?_eq_none hfiles hall (by
      rw [firstFailure?_append, hfirst]
      rfl)
    refine ⟨changed, hchanged, hchangedholds.fits, ?_, fun s' hs => ?_⟩
    · rw [hchangedholds.scalar?_eq, settled_override, if_pos rfl]
      rfl
    · rw [hchangedholds.scalar?_eq, hholds.scalar?_eq, settled_override, if_neg hs]
  record_filled := by
    intro config b t hfits hb ht
    have htable : ∀ value, Value.find? config "keywords" = some value → value.IsTable := by
      intro value hvalue
      exact hfits.table value (by simpa [tomlBackend, Value.at?] using hvalue)
    have hdecode : decodeRecord keywordRecord config = .ok (b, t) := decodeRecord_keywords htable hb ht
    show (decodeRecord keywordRecord config).mapError LoadFailure.badValue = _
    rw [hdecode]
    rfl
  bool_of_bool _ := rfl
  bool_of_int _ := rfl
  bool_of_float _ := rfl
  bool_of_text _ := rfl
  text_of_text _ := rfl
  text_of_bool _ := rfl
  text_of_int _ := rfl
  text_of_float _ := rfl

end Laws

/-! ## Files with one setting -/

/-- The values of a file that gives one setting and nothing else. -/
def rootOf (file : String) (s : Setting) (v : Scalar) : Value :=
  .table (some file) [("keywords", .table (some file) [(s.name, .scalar (some file) v)])]

theorem sound_rootOf (file : String) (s : Setting) (v : Scalar) :
    ∀ entry ∈ (rootOf file s v).entries, SoundEntry entry := by
  intro entry hentry
  obtain rfl := List.mem_singleton.1 hentry
  apply SoundEntry.of_scalars
  intro below hbelow
  obtain rfl := List.mem_singleton.1 hbelow
  exact trivial

/-- Read by itself, such a file gives its setting. -/
theorem build_rootOf (hfiles : SoundFiles files) {path name text : String} {s : Setting}
    {v : Scalar} (hlocate : locate? files path = some (name, text))
    (hparse : parseDocument (some name) text = .ok (rootOf name s v)) (required : Bool) :
    ∃ own, tomlBackend.build files [.source (.file path required)] = .ok own ∧ tomlBackend.Fits own ∧
      ∀ s' : Setting, tomlBackend.scalar? own s' = if s = s' then some v else none := by
  have hread : readSource files (.file path required) = .ok (rootOf name s v) := by
    rw [readSource, hlocate]
    exact hparse
  obtain ⟨own, hown, hholds⟩ := assemble_of_readSource hfiles (.file path required) hread
  refine ⟨own, hown, hholds.fits, fun s' => ?_⟩
  rw [hholds.scalar?_eq]
  simp only [rootOf, Value.entries, latest_cons, latest_nil, Option.none_or, gives, Setting.place_keywords,
    Setting.lowercase_keywords, givenBelow_name, if_true]
  split <;> rfl

end RuleMatch.Settings
