import RuleMatch.Proofs.TomlLaws

/-!
# Which layer prevails

Layers are added by calls: files, which may be optional, and keys that are set.  Provided that every file that
there is is well formed and gives the settings, if at all, as values of their types, and that what is set are
the settings, to values of their types, the settings come out by a simple rule (`later_layers_prevail`).  A
setting has the value that was set last, wherever the call stood; else that of the last file that gives it;
else its default.  The only thing that can go wrong is that a required file is absent.

All this holds with any back end that keeps the laws for the files at hand.  These are about one step each, so
the proof keeps account of the scalars that stand for the settings (`Backend.Stands`): `Lawful.stands_file` and
`Lawful.stands_set` for one call more, `Lawful.stands_calls` for all of them.
-/

namespace RuleMatch.Settings

/-! ## Calls -/

/-- A call that adds a layer. -/
inductive LayerCall where
  | file (path : String) (required : Bool)
  | set (key : String) (value : Value)

namespace LayerCall

/-- What a call does to a loader. -/
def apply (backend : Backend) (loader : Loader) : LayerCall → Except backend.Failure Loader
  | .file path required => .ok (loader.addFile path required)
  | .set key value => loader.set backend key value

/-- What a call has handed to the back end. -/
def step : LayerCall → Step
  | .file path required => .source (.file path required)
  | .set key value => .override key value

/-- The scalar that a call sets a setting to. -/
def setsTo (s : Setting) : LayerCall → Option Scalar
  | .file _ _ => none
  | .set key value => if key = s.key then value.scalar? else none

/-- The scalar that the file of a call gives a setting by itself. -/
def fileGives (backend : Backend) (files : Files) (s : Setting) : LayerCall → Option Scalar
  | .file path required =>
      match backend.build files [.source (.file path required)] with
      | .ok own => backend.scalar? own s
      | .error _ => none
  | .set _ _ => none

/-- Why the file of a call cannot be read. -/
def failure? (backend : Backend) (files : Files) : LayerCall → Option backend.Failure
  | .file path required =>
      match backend.build files [.source (.file path required)] with
      | .ok _ => none
      | .error failure => some failure
  | .set _ _ => none

end LayerCall

/-- Loads the settings from the layers that calls add, one after the other. -/
def loadAll (backend : Backend) (files : Files) (calls : List LayerCall) : Except backend.Failure Settings :=
  calls.foldlM (LayerCall.apply backend) Loader.new >>= fun loader => loader.build backend files

/-- What a loader hands over after some calls. -/
def stepsOf (calls : List LayerCall) : List Step :=
  Loader.new.steps ++ calls.map LayerCall.step

/-- Whether a scalar can be read as the type of a setting. -/
def Setting.Accepts (backend : Backend) (v : Scalar) : Setting → Prop
  | .wordBoundary => (backend.toBool? v).isSome = true
  | .extraWordChars => (backend.toText? v).isSome = true

/-- Whether a call adds a file that is well formed, if there is one, and gives the settings, if at all, as
values of their types below a table of keywords; or sets a setting to a value of its type. -/
def LayerCall.Sound (backend : Backend) (files : Files) : LayerCall → Prop
  | .file path required => backend.isMissing files path = false →
      ∃ own, backend.build files [.source (.file path required)] = .ok own ∧ backend.Fits own ∧
        ∀ (s : Setting) (v : Scalar), backend.scalar? own s = some v → s.Accepts backend v
  | .set key value =>
      ∃ (s : Setting) (v : Scalar), key = s.key ∧ value = .scalar none v ∧ s.Accepts backend v

/-- The scalar that prevails for a setting: what it was last set to, else what the last file gives that gives
it, else the default. -/
def prevailing (backend : Backend) (files : Files) (calls : List LayerCall) (s : Setting) : Scalar :=
  ((latest (LayerCall.setsTo s) calls).or (latest (LayerCall.fileGives backend files s) calls)).getD s.default

/-- The scalars that stand for the settings in what was put together. -/
structure Backend.Stands (backend : Backend) (value : Setting → Scalar) (config : backend.Config) : Prop where
  fits : backend.Fits config
  scalar?_eq : ∀ s : Setting, backend.scalar? config s = some (value s)

section Prevailing

variable {backend : Backend} {files : Files} {calls : List LayerCall} {s : Setting}

theorem prevailing_set (key : String) (value : Value) :
    prevailing backend files (calls ++ [.set key value]) s
      = ((LayerCall.set key value).setsTo s).getD (prevailing backend files calls s) := by
  simp only [prevailing, latest_append, latest_cons, latest_nil, Option.none_or, LayerCall.fileGives]
  cases (LayerCall.set key value).setsTo s <;> simp

/-- A file has no say in what is set. -/
theorem prevailing_file_of_set {v : Scalar} (h : latest (LayerCall.setsTo s) calls = some v) (path : String)
    (required : Bool) :
    prevailing backend files (calls ++ [.file path required]) s = prevailing backend files calls s := by
  simp [prevailing, latest_append, latest_cons, LayerCall.setsTo, h]

theorem prevailing_file_of_not_set (h : latest (LayerCall.setsTo s) calls = none) (path : String)
    (required : Bool) :
    prevailing backend files (calls ++ [.file path required]) s
      = ((LayerCall.file path required).fileGives backend files s).getD (prevailing backend files calls s) := by
  simp only [prevailing, latest_append, latest_cons, latest_nil, Option.none_or, LayerCall.setsTo, h]
  cases (LayerCall.file path required).fileGives backend files s <;> simp

end Prevailing

/-! ## One call more -/

section Calls

variable {backend : Backend} {files : Files} {calls : List LayerCall} {call : LayerCall} {path : String}
  {required : Bool}

theorem stepsOf_append (calls : List LayerCall) (call : LayerCall) :
    stepsOf (calls ++ [call]) = stepsOf calls ++ [call.step] := by
  simp [stepsOf]

theorem LayerCall.Sound.plain (h : call.Sound backend files) : call.step.Plain := by
  cases call with
  | file path required => exact .file path required
  | set key value =>
      obtain ⟨s, v, rfl, rfl, -⟩ := h
      exact .override s v

theorem plain_stepsOf (h : ∀ call ∈ calls, call.Sound backend files) :
    ∀ step ∈ stepsOf calls, step.Plain := by
  intro step hstep
  rcases List.mem_append.1 hstep with hdefaults | hcalls
  · obtain rfl := List.mem_singleton.1 hdefaults
    exact .defaults
  · obtain ⟨call, hcall, rfl⟩ := List.mem_map.1 hcalls
    exact (h call hcall).plain

/-- A setting is overridden just if it was set. -/
theorem isOverridden_stepsOf_iff (h : ∀ call ∈ calls, call.Sound backend files) (s : Setting) :
    s.IsOverridden (stepsOf calls) ↔ latest (LayerCall.setsTo s) calls ≠ none := by
  rw [Ne, latest_eq_none_iff]
  push Not
  constructor
  · rintro ⟨value, hmem⟩
    obtain ⟨call, hcall, hstep⟩ : ∃ call ∈ calls, call.step = .override s.key value := by
      simpa [stepsOf, Loader.new] using hmem
    refine ⟨call, hcall, ?_⟩
    cases call with
    | file path required => simp [LayerCall.step] at hstep
    | set key value' =>
        obtain ⟨s', v, rfl, rfl, -⟩ := h _ hcall
        obtain ⟨hkey, -⟩ := Step.override.inj hstep
        simp [LayerCall.setsTo, hkey, Value.scalar?]
  · rintro ⟨call, hcall, hsets⟩
    cases call with
    | file path required => exact absurd rfl hsets
    | set key value =>
        have hkey : key = s.key := by
          by_contra hne
          exact hsets (if_neg hne)
        subst hkey
        exact ⟨value, List.mem_append_right _ (List.mem_map.2 ⟨_, hcall, rfl⟩)⟩

theorem accepts_of_setsTo (h : call.Sound backend files) {s : Setting} {v : Scalar}
    (hsets : call.setsTo s = some v) : s.Accepts backend v := by
  cases call with
  | file path required => simp [LayerCall.setsTo] at hsets
  | set key value =>
      obtain ⟨s', v', rfl, rfl, haccepts⟩ := h
      simp only [LayerCall.setsTo, Value.scalar?, Option.ite_none_right_eq_some, Option.some.injEq] at hsets
      obtain ⟨hkey, rfl⟩ := hsets
      rwa [← Setting.key_injective hkey]

namespace Backend.Lawful

variable (hlaws : backend.Lawful files)

include hlaws

/-- A sound file that can be read fits, whether there is one or not. -/
theorem fits_of_sound (h : (LayerCall.file path required).Sound backend files) {own : backend.Config}
    (hown : backend.build files [.source (.file path required)] = .ok own) :
    backend.Fits own ∧
      ∀ (s : Setting) (v : Scalar), backend.scalar? own s = some v → s.Accepts backend v := by
  cases hmissing : backend.isMissing files path with
  | false =>
      obtain ⟨own', hown', hfits, haccepts⟩ := h hmissing
      obtain rfl := Except.ok.inj (hown'.symm.trans hown)
      exact ⟨hfits, haccepts⟩
  | true =>
      cases required with
      | true =>
          obtain ⟨failure, hfailure⟩ := hlaws.required_missing hmissing
          simp [hfailure] at hown
      | false =>
          obtain ⟨own', hown', hfits, hnone⟩ := hlaws.optional_missing hmissing
          obtain rfl := Except.ok.inj (hown'.symm.trans hown)
          exact ⟨hfits, by simp [hnone]⟩

/-- A sound file cannot be read just if it is required and absent. -/
theorem failure?_ne_none_iff (h : call.Sound backend files) :
    call.failure? backend files ≠ none ↔
      ∃ path, call = .file path true ∧ backend.isMissing files path = true := by
  cases call with
  | set key value => simp [LayerCall.failure?]
  | file path required =>
      cases hmissing : backend.isMissing files path with
      | false =>
          obtain ⟨own, hown, -⟩ := h hmissing
          simp [LayerCall.failure?, hown, hmissing]
      | true =>
          cases required with
          | true =>
              obtain ⟨failure, hfailure⟩ := hlaws.required_missing hmissing
              simp [LayerCall.failure?, hfailure, hmissing]
          | false =>
              obtain ⟨own, hown, -⟩ := hlaws.optional_missing hmissing
              simp [LayerCall.failure?, hown]

/-- With a file that can be read on top, what it gives stands for the settings that were not set. -/
theorem stands_file (h : ∀ call ∈ calls ++ [.file path required], call.Sound backend files)
    {config own : backend.Config} (hconfig : backend.build files (stepsOf calls) = .ok config)
    (hstands : backend.Stands (prevailing backend files calls) config)
    (hown : backend.build files [.source (.file path required)] = .ok own) :
    ∃ merged, backend.build files (stepsOf (calls ++ [.file path required])) = .ok merged ∧
      backend.Stands (prevailing backend files (calls ++ [.file path required])) merged := by
  obtain ⟨hcalls, hlast⟩ := List.forall_mem_append.1 h
  have hfile := List.forall_mem_singleton.1 hlast
  have hplain := plain_stepsOf h
  rw [stepsOf_append] at hplain ⊢
  obtain ⟨merged, hmerged, hfits, hdeep⟩ :=
    hlaws.merges_deeply hplain hconfig hstands.fits hown (hlaws.fits_of_sound hfile hown).1
  refine ⟨merged, hmerged, hfits, fun s => ?_⟩
  cases hset : latest (LayerCall.setsTo s) calls with
  | some v =>
      have hover : s.IsOverridden (stepsOf calls) := (isOverridden_stepsOf_iff hcalls s).2 (by simp [hset])
      rw [hlaws.overrides_last hplain hconfig hmerged s hover, hstands.scalar?_eq, prevailing_file_of_set hset]
  | none =>
      have hover : ¬ s.IsOverridden (stepsOf calls) := fun hin =>
        (isOverridden_stepsOf_iff hcalls s).1 hin hset
      rw [hdeep s hover, hstands.scalar?_eq, prevailing_file_of_not_set hset]
      simp only [LayerCall.fileGives, hown]
      cases backend.scalar? own s <;> rfl

/-- With a key set on top, its value stands for the setting. -/
theorem stands_set {key : String} {value : Value}
    (h : ∀ call ∈ calls ++ [.set key value], call.Sound backend files)
    {config : backend.Config} (hconfig : backend.build files (stepsOf calls) = .ok config)
    (hstands : backend.Stands (prevailing backend files calls) config) :
    ∃ changed, backend.build files (stepsOf (calls ++ [.set key value])) = .ok changed ∧
      backend.Stands (prevailing backend files (calls ++ [.set key value])) changed := by
  obtain ⟨hcalls, hlast⟩ := List.forall_mem_append.1 h
  obtain ⟨s, v, rfl, rfl, -⟩ := List.forall_mem_singleton.1 hlast
  obtain ⟨changed, hchanged, hfits, hset, hothers⟩ :=
    hlaws.override_applies s v (plain_stepsOf hcalls) hconfig hstands.fits
  refine ⟨changed, by rw [stepsOf_append]; exact hchanged, hfits, fun s' => ?_⟩
  rw [prevailing_set]
  by_cases hs : s' = s
  · subst hs
    simp [LayerCall.setsTo, Value.scalar?, hset]
  · have hkey : s.key ≠ s'.key := fun heq => hs (Setting.key_injective heq).symm
    simp [LayerCall.setsTo, hkey, hothers s' hs, hstands.scalar?_eq]

/-- What one call more comes to. -/
theorem stands_call (h : ∀ added ∈ calls ++ [call], added.Sound backend files)
    {config : backend.Config} (hconfig : backend.build files (stepsOf calls) = .ok config)
    (hstands : backend.Stands (prevailing backend files calls) config) :
    match call.failure? backend files with
    | some failure => backend.build files (stepsOf (calls ++ [call])) = .error failure
    | none => ∃ config, backend.build files (stepsOf (calls ++ [call])) = .ok config ∧
        backend.Stands (prevailing backend files (calls ++ [call])) config := by
  cases call with
  | set key value => exact hlaws.stands_set h hconfig hstands
  | file path required =>
      cases hown : backend.build files [.source (.file path required)] with
      | error failure =>
          have hplain := plain_stepsOf h
          rw [stepsOf_append] at hplain ⊢
          simp only [LayerCall.failure?, hown]
          exact hlaws.source_fails hplain hconfig hown
      | ok own =>
          simp only [LayerCall.failure?, hown]
          exact hlaws.stands_file h hconfig hstands hown

/-- Either the first file that cannot be read makes everything fail, or the scalars that prevail stand for the
settings. -/
theorem stands_calls (h : ∀ call ∈ calls, call.Sound backend files) :
    match calls.findSome? (LayerCall.failure? backend files) with
    | some failure => backend.build files (stepsOf calls) = .error failure
    | none => ∃ config, backend.build files (stepsOf calls) = .ok config ∧
        backend.Stands (prevailing backend files calls) config := by
  induction calls using List.reverseRecOn with
  | nil =>
      obtain ⟨config, hconfig, hfits, hdefault⟩ := hlaws.defaults_read
      exact ⟨config, hconfig, hfits, hdefault⟩
  | append_singleton calls call ih =>
      have hcalls := ih (List.forall_mem_append.1 h).1
      rw [List.findSome?_append]
      cases hfirst : calls.findSome? (LayerCall.failure? backend files) with
      | some failure =>
          rw [hfirst] at hcalls
          have hplain := plain_stepsOf h
          rw [stepsOf_append] at hplain
          show backend.build files (stepsOf (calls ++ [call])) = .error failure
          rw [stepsOf_append]
          exact hlaws.failure_stays hplain hcalls
      | none =>
          rw [hfirst] at hcalls
          obtain ⟨config, hconfig, hstands⟩ := hcalls
          simpa using hlaws.stands_call h hconfig hstands

theorem accepts_of_fileGives (h : call.Sound backend files) {s : Setting} {v : Scalar}
    (hgives : call.fileGives backend files s = some v) : s.Accepts backend v := by
  cases call with
  | set key value => simp [LayerCall.fileGives] at hgives
  | file path required =>
      cases hown : backend.build files [.source (.file path required)] with
      | error failure => simp [LayerCall.fileGives, hown] at hgives
      | ok own =>
          simp only [LayerCall.fileGives, hown] at hgives
          exact (hlaws.fits_of_sound h hown).2 s v hgives

/-- What prevails can be read. -/
theorem accepts_prevailing (h : ∀ call ∈ calls, call.Sound backend files) (s : Setting) :
    s.Accepts backend (prevailing backend files calls s) := by
  rw [prevailing]
  cases hset : latest (LayerCall.setsTo s) calls with
  | some v =>
      obtain ⟨call, hcall, hsets⟩ := exists_of_latest_eq_some hset
      exact accepts_of_setsTo (h call hcall) hsets
  | none =>
      cases hgiven : latest (LayerCall.fileGives backend files s) calls with
      | some v =>
          obtain ⟨call, hcall, hgives⟩ := exists_of_latest_eq_some hgiven
          exact hlaws.accepts_of_fileGives (h call hcall) hgives
      | none =>
          show s.Accepts backend s.default
          cases s with
          | wordBoundary => simp [Setting.Accepts, Setting.default, hlaws.bool_of_bool]
          | extraWordChars => simp [Setting.Accepts, Setting.default, hlaws.text_of_text]

end Backend.Lawful

end Calls

/-! ## Loading -/

section Loading

variable {backend : Backend} {files : Files} {calls calls' : List LayerCall}

/-- Settings in which both scalars that prevail are read. -/
structure Reads (backend : Backend) (value : Setting → Scalar) (settings : Settings) : Prop where
  boundary : backend.toBool? (value .wordBoundary) = some settings.wordBoundary
  extra : backend.toText? (value .extraWordChars) = some settings.extraWordChars

theorem Reads.unique {value : Setting → Scalar} {settings settings' : Settings}
    (h : Reads backend value settings) (h' : Reads backend value settings') : settings = settings' := by
  have hboundary := Option.some.inj (h.boundary.symm.trans h'.boundary)
  have hextra := Option.some.inj (h.extra.symm.trans h'.extra)
  cases settings
  cases settings'
  simp_all

theorem Reads.boundary_eq {value : Setting → Scalar} {settings : Settings} (h : Reads backend value settings)
    {v : Scalar} (hv : value .wordBoundary = v) {b : Bool} (hb : backend.toBool? v = some b) :
    settings.wordBoundary = b := by
  subst hv
  exact Option.some.inj (h.boundary.symm.trans hb)

theorem Reads.extra_eq {value : Setting → Scalar} {settings : Settings} (h : Reads backend value settings)
    {v : Scalar} (hv : value .extraWordChars = v) {t : String} (ht : backend.toText? v = some t) :
    settings.extraWordChars = t := by
  subst hv
  exact Option.some.inj (h.extra.symm.trans ht)

/-- Calls stay sound if one of them is left out. -/
theorem sound_without {before after : List LayerCall} {call : LayerCall}
    (h : ∀ taken ∈ before ++ call :: after, taken.Sound backend files) :
    ∀ taken ∈ before ++ after, taken.Sound backend files := by
  intro taken htaken
  exact h taken (((List.sublist_cons_self call after).append_left before).subset htaken)

theorem prevailing_of_none {s : Setting}
    (h : ∀ call ∈ calls, call.setsTo s = none ∧ call.fileGives backend files s = none) :
    prevailing backend files calls s = s.default := by
  rw [prevailing, latest_eq_none_iff.2 fun call hcall => (h call hcall).1,
    latest_eq_none_iff.2 fun call hcall => (h call hcall).2]
  rfl

namespace Backend.Lawful

variable (hlaws : backend.Lawful files)

include hlaws

theorem foldlM_apply (h : ∀ call ∈ calls, call.Sound backend files) (loader : Loader) :
    calls.foldlM (LayerCall.apply backend) loader = .ok ⟨loader.steps ++ calls.map LayerCall.step⟩ := by
  induction calls generalizing loader with
  | nil => simp [pure, Except.pure]
  | cons call calls ih =>
      obtain ⟨hcall, hcalls⟩ := List.forall_mem_cons.1 h
      have hfirst : LayerCall.apply backend loader call = .ok ⟨loader.steps ++ [call.step]⟩ := by
        cases call with
        | file path required => rfl
        | set key value =>
            obtain ⟨s, v, rfl, rfl, -⟩ := hcall
            simp only [LayerCall.apply, Loader.set, hlaws.key_ok]
            rfl
      rw [List.foldlM_cons, hfirst]
      show calls.foldlM (LayerCall.apply backend) ⟨loader.steps ++ [call.step]⟩ = _
      rw [ih hcalls]
      simp

/-- What loading comes to, by the calls. -/
theorem loadAll_of_sound (h : ∀ call ∈ calls, call.Sound backend files) :
    match calls.findSome? (LayerCall.failure? backend files) with
    | some failure => loadAll backend files calls = .error failure
    | none => ∃ settings, loadAll backend files calls = .ok settings ∧
        Reads backend (prevailing backend files calls) settings := by
  have hload : loadAll backend files calls = Loader.build backend files ⟨stepsOf calls⟩ := by
    rw [loadAll, hlaws.foldlM_apply h]
    rfl
  have hcalls := hlaws.stands_calls h
  rw [hload, Loader.build]
  cases hfirst : calls.findSome? (LayerCall.failure? backend files) with
  | some failure =>
      rw [hfirst] at hcalls
      simp only [hcalls]
      rfl
  | none =>
      rw [hfirst] at hcalls
      obtain ⟨config, hconfig, hstands⟩ := hcalls
      obtain ⟨b, hb⟩ := Option.isSome_iff_exists.1 (hlaws.accepts_prevailing h .wordBoundary)
      obtain ⟨t, ht⟩ := Option.isSome_iff_exists.1 (hlaws.accepts_prevailing h .extraWordChars)
      refine ⟨⟨b, t⟩, ?_, hb, ht⟩
      have hfilled : backend.fill keywordRecord config = .ok (b, t) := by
        apply hlaws.record_filled hstands.fits
        · rw [hstands.scalar?_eq]
          exact hb
        · rw [hstands.scalar?_eq]
          exact ht
      simp only [hconfig]
      show (backend.fill keywordRecord config >>= _) = _
      rw [hfilled]
      rfl

/-- Loading fails just if a required file is absent. -/
theorem loadAll_fails_iff (h : ∀ call ∈ calls, call.Sound backend files) :
    (∃ failure, loadAll backend files calls = .error failure) ↔
      ∃ path, .file path true ∈ calls ∧ backend.isMissing files path = true := by
  have hload := hlaws.loadAll_of_sound h
  cases hfirst : calls.findSome? (LayerCall.failure? backend files) with
  | some failure =>
      rw [hfirst] at hload
      obtain ⟨call, hcall, hfailure⟩ := List.exists_of_findSome?_eq_some hfirst
      obtain ⟨path, rfl, hmissing⟩ := (hlaws.failure?_ne_none_iff (h call hcall)).1 (by simp [hfailure])
      exact iff_of_true ⟨failure, hload⟩ ⟨path, hcall, hmissing⟩
  | none =>
      rw [hfirst] at hload
      obtain ⟨settings, hsettings, -⟩ := hload
      refine iff_of_false (by simp [hsettings]) ?_
      rintro ⟨path, hcall, hmissing⟩
      exact (hlaws.failure?_ne_none_iff (h _ hcall)).2 ⟨path, rfl, hmissing⟩
        (List.findSome?_eq_none_iff.1 hfirst _ hcall)

theorem reads_of_loadAll (h : ∀ call ∈ calls, call.Sound backend files) {settings : Settings}
    (hsettings : loadAll backend files calls = .ok settings) :
    Reads backend (prevailing backend files calls) settings := by
  have hload := hlaws.loadAll_of_sound h
  cases hfirst : calls.findSome? (LayerCall.failure? backend files) with
  | some failure =>
      rw [hfirst] at hload
      simp [hload] at hsettings
  | none =>
      rw [hfirst] at hload
      obtain ⟨settings', hsettings', hreads⟩ := hload
      obtain rfl := Except.ok.inj (hsettings'.symm.trans hsettings)
      exact hreads

/-- Calls come to the same if the same file is the first that cannot be read, and the same scalars prevail. -/
theorem loadAll_congr (h : ∀ call ∈ calls, call.Sound backend files)
    (h' : ∀ call ∈ calls', call.Sound backend files)
    (hfailure : calls'.findSome? (LayerCall.failure? backend files)
      = calls.findSome? (LayerCall.failure? backend files))
    (hset : ∀ s : Setting, latest (LayerCall.setsTo s) calls' = latest (LayerCall.setsTo s) calls)
    (hgiven : ∀ s : Setting, latest (LayerCall.fileGives backend files s) calls'
      = latest (LayerCall.fileGives backend files s) calls) :
    loadAll backend files calls' = loadAll backend files calls := by
  have hprevailing : prevailing backend files calls' = prevailing backend files calls := by
    funext s
    rw [prevailing, prevailing, hset, hgiven]
  have hload := hlaws.loadAll_of_sound h
  have hload' := hlaws.loadAll_of_sound h'
  rw [hfailure, hprevailing] at hload'
  cases hfirst : calls.findSome? (LayerCall.failure? backend files) with
  | some failure =>
      rw [hfirst] at hload hload'
      rw [hload, hload']
  | none =>
      rw [hfirst] at hload hload'
      obtain ⟨settings, hsettings, hreads⟩ := hload
      obtain ⟨settings', hsettings', hreads'⟩ := hload'
      rw [hsettings, hsettings', hreads.unique hreads']

/-- Neighbouring calls, one for a file and one for a key, may be exchanged. -/
theorem loadAll_exchange {before after : List LayerCall} {path key : String} {required : Bool} {value : Value}
    (h : ∀ call ∈ before ++ .file path required :: .set key value :: after, call.Sound backend files) :
    loadAll backend files (before ++ .set key value :: .file path required :: after)
      = loadAll backend files (before ++ .file path required :: .set key value :: after) := by
  apply hlaws.loadAll_congr h
  · intro call hcall
    exact h call ((List.Perm.append_left before (List.Perm.swap _ _ after)).mem_iff.1 hcall)
  · simp [List.findSome?_append, List.findSome?_cons, LayerCall.failure?]
  · intro s
    simp [latest_append, latest_cons, LayerCall.setsTo]
  · intro s
    simp [latest_append, latest_cons, LayerCall.fileGives]

/-- A file that is absent and may be is of no account. -/
theorem loadAll_without_missing {before after : List LayerCall} {path : String}
    (h : ∀ call ∈ before ++ .file path false :: after, call.Sound backend files)
    (hmissing : backend.isMissing files path = true) :
    loadAll backend files (before ++ after) = loadAll backend files (before ++ .file path false :: after) := by
  obtain ⟨own, hown, -, hnone⟩ := hlaws.optional_missing hmissing
  apply hlaws.loadAll_congr h (sound_without h)
  · simp [List.findSome?_append, LayerCall.failure?, hown]
  · intro s
    simp [latest_append, latest_cons, LayerCall.setsTo]
  · intro s
    simp [latest_append, latest_cons, LayerCall.fileGives, hown, hnone]

/-- A key that is set again later need not be set before. -/
theorem loadAll_without_superseded {before middle after : List LayerCall} {key : String} {value value' : Value}
    (h : ∀ call ∈ before ++ .set key value :: (middle ++ .set key value' :: after), call.Sound backend files) :
    loadAll backend files (before ++ (middle ++ .set key value' :: after))
      = loadAll backend files (before ++ .set key value :: (middle ++ .set key value' :: after)) := by
  apply hlaws.loadAll_congr h (sound_without h)
  · simp [List.findSome?_append, List.findSome?_cons, LayerCall.failure?]
  · intro s
    obtain ⟨s', v, rfl, rfl, -⟩ := h (.set key value') (by simp)
    refine (latest_append_cons_of_superseded ?_ before middle after).symm
    simp only [LayerCall.setsTo]
    split <;> simp [Value.scalar?]
  · intro s
    simp [latest_append, latest_cons, LayerCall.fileGives]

/-- Without any layers the default settings are loaded. -/
theorem loadDefaults_eq : loadDefaults backend files = .ok {} := by
  obtain ⟨settings, hsettings, hreads⟩ := hlaws.loadAll_of_sound (List.forall_mem_nil _)
  have hboundary := hreads.boundary_eq rfl (hlaws.bool_of_bool true)
  have hextra := hreads.extra_eq rfl (hlaws.text_of_text "_")
  cases settings
  simp only at hboundary hextra
  rw [← hboundary, ← hextra]
  exact hsettings

end Backend.Lawful

end Loading

/-- Let the back end keep its laws, and let layers be added by any calls.  Every file that there is, required or
not, is well formed, and what it gives of the two settings are values of their types below a table of keywords.
The keys set are those of the settings, and the values of their types.  Then:

* loading fails just if a required file is absent;
* otherwise each setting is read from the scalar that it was set to last, wherever that call stands; else from
  the one that the last file gives that gives it; else it is `true` and `"_"`;
* neighbouring calls, one for a file and one for a key, may be exchanged;
* a call for an optional file that is absent may be left out, and so may a call that sets a key if a later one
  sets it again. -/
theorem later_layers_prevail {backend : Backend} {files : Files} (hlaws : backend.Lawful files)
    {calls : List LayerCall} (h : ∀ call ∈ calls, call.Sound backend files) :
    ((∃ failure, loadAll backend files calls = .error failure) ↔
      ∃ path, .file path true ∈ calls ∧ backend.isMissing files path = true) ∧
    (∀ settings, loadAll backend files calls = .ok settings →
      (backend.toBool? (prevailing backend files calls .wordBoundary) = some settings.wordBoundary ∧
        backend.toText? (prevailing backend files calls .extraWordChars) = some settings.extraWordChars) ∧
      (∀ b, prevailing backend files calls .wordBoundary = .bool b → settings.wordBoundary = b) ∧
      (∀ n, prevailing backend files calls .wordBoundary = .int n → settings.wordBoundary = (n != 0)) ∧
      (∀ x, prevailing backend files calls .wordBoundary = .float x → settings.wordBoundary = (x != 0)) ∧
      (∀ t, prevailing backend files calls .wordBoundary = .text t →
        lowercaseString t ∈ ["1", "true", "on", "yes"] ∧ settings.wordBoundary = true ∨
          lowercaseString t ∈ ["0", "false", "off", "no"] ∧ settings.wordBoundary = false) ∧
      (∀ t, prevailing backend files calls .extraWordChars = .text t → settings.extraWordChars = t) ∧
      (∀ b, prevailing backend files calls .extraWordChars = .bool b → settings.extraWordChars = toString b) ∧
      (∀ n, prevailing backend files calls .extraWordChars = .int n → settings.extraWordChars = toString n) ∧
      (∀ x, prevailing backend files calls .extraWordChars = .float x →
        settings.extraWordChars = Number.floatText x) ∧
      ((∀ call ∈ calls, call.setsTo .wordBoundary = none ∧
        call.fileGives backend files .wordBoundary = none) → settings.wordBoundary = true) ∧
      ((∀ call ∈ calls, call.setsTo .extraWordChars = none ∧
        call.fileGives backend files .extraWordChars = none) → settings.extraWordChars = "_")) ∧
    (∀ (before after : List LayerCall) (path key : String) (required : Bool) (value : Value),
      (calls = before ++ .file path required :: .set key value :: after →
        loadAll backend files (before ++ .set key value :: .file path required :: after)
          = loadAll backend files calls) ∧
      (calls = before ++ .set key value :: .file path required :: after →
        loadAll backend files (before ++ .file path required :: .set key value :: after)
          = loadAll backend files calls)) ∧
    (∀ (before after : List LayerCall) (path : String),
      calls = before ++ .file path false :: after → backend.isMissing files path = true →
        loadAll backend files (before ++ after) = loadAll backend files calls) ∧
    ∀ (before middle after : List LayerCall) (key : String) (value value' : Value),
      calls = before ++ .set key value :: (middle ++ .set key value' :: after) →
        loadAll backend files (before ++ (middle ++ .set key value' :: after)) = loadAll backend files calls := by
  refine ⟨hlaws.loadAll_fails_iff h, ?_, ?_, ?_, ?_⟩
  · intro settings hsettings
    have hreads := hlaws.reads_of_loadAll h hsettings
    refine ⟨⟨hreads.boundary, hreads.extra⟩, ?_, ?_, ?_, ?_, ?_, ?_, ?_, ?_, ?_, ?_⟩
    · exact fun b hb => hreads.boundary_eq hb (hlaws.bool_of_bool b)
    · exact fun n hn => hreads.boundary_eq hn (hlaws.bool_of_int n)
    · exact fun x hx => hreads.boundary_eq hx (hlaws.bool_of_float x)
    · intro t ht
      have hword := hreads.boundary
      rw [ht, hlaws.bool_of_text] at hword
      split at hword
      · next htrue => exact .inl ⟨htrue, (Option.some.inj hword).symm⟩
      · split at hword
        · next hfalse => exact .inr ⟨hfalse, (Option.some.inj hword).symm⟩
        · simp at hword
    · exact fun t ht => hreads.extra_eq ht (hlaws.text_of_text t)
    · exact fun b hb => hreads.extra_eq hb (hlaws.text_of_bool b)
    · exact fun n hn => hreads.extra_eq hn (hlaws.text_of_int n)
    · exact fun x hx => hreads.extra_eq hx (hlaws.text_of_float x)
    · exact fun hnone => hreads.boundary_eq (prevailing_of_none hnone) (hlaws.bool_of_bool true)
    · exact fun hnone => hreads.extra_eq (prevailing_of_none hnone) (hlaws.text_of_text "_")
  · intro before after path key required value
    constructor
    · rintro rfl
      exact hlaws.loadAll_exchange h
    · rintro rfl
      refine (hlaws.loadAll_exchange fun call hcall => h call ?_).symm
      exact (List.Perm.append_left before (List.Perm.swap _ _ after)).mem_iff.1 hcall
  · rintro before after path rfl hmissing
    exact hlaws.loadAll_without_missing h hmissing
  · rintro before middle after key value value' rfl
    exact hlaws.loadAll_without_superseded h

/-- Two files, which give one setting each. -/
def sampleFiles : Files :=
  [("a", "[keywords]\nword_boundary=0"), ("b.toml", "[keywords]\nextra_word_chars=0")]

/-- A key is set before any file is added; of the three files, one is absent. -/
def sampleCalls : List LayerCall :=
  [.set "keywords.extra_word_chars" (.scalar none (.text "-")), .file "a" true, .file "c" false, .file "b" true]

/-- What the first file gives is not lost in the second, and the key that was set prevails over it. -/
theorem sampleCalls_prevail :
    tomlBackend.Lawful sampleFiles ∧ (∀ call ∈ sampleCalls, call.Sound tomlBackend sampleFiles) ∧
      loadAll tomlBackend sampleFiles sampleCalls = .ok ⟨false, "-"⟩ := by
  have hlocate : locate? sampleFiles "a" = some ("a", "[keywords]\nword_boundary=0") := by cbv
  have hlocate' : locate? sampleFiles "b" = some ("b.toml", "[keywords]\nextra_word_chars=0") := by cbv
  have habsent : locate? sampleFiles "c" = none := by cbv
  have hparse : parseDocument (some "a") "[keywords]\nword_boundary=0"
      = .ok (rootOf "a" .wordBoundary (.int 0)) := by cbv
  have hparse' : parseDocument (some "b.toml") "[keywords]\nextra_word_chars=0"
      = .ok (rootOf "b.toml" .extraWordChars (.int 0)) := by cbv
  have hfiles : SoundFiles sampleFiles := by
    intro file hfile root hroot
    rcases List.mem_cons.1 hfile with rfl | hlast
    · obtain rfl := Except.ok.inj (hparse.symm.trans hroot)
      exact sound_rootOf _ _ _
    · obtain rfl := List.mem_singleton.1 hlast
      obtain rfl := Except.ok.inj (hparse'.symm.trans hroot)
      exact sound_rootOf _ _ _
  have hlaws := tomlBackend_lawful hfiles
  obtain ⟨own, hown, hfits, hgiven⟩ := build_rootOf hfiles hlocate hparse true
  obtain ⟨own', hown', hfits', hgiven'⟩ := build_rootOf hfiles hlocate' hparse' true
  have hmissing : tomlBackend.isMissing sampleFiles "c" = true := Option.isNone_iff_eq_none.2 habsent
  obtain ⟨empty, hempty, -, hnothing⟩ := hlaws.optional_missing hmissing
  have hsound : ∀ call ∈ sampleCalls, call.Sound tomlBackend sampleFiles := by
    intro call hcall
    simp only [sampleCalls, List.mem_cons, List.not_mem_nil, or_false] at hcall
    rcases hcall with rfl | rfl | rfl | rfl
    · exact ⟨.extraWordChars, .text "-", rfl, rfl, rfl⟩
    · refine fun _ => ⟨own, hown, hfits, fun s v hv => ?_⟩
      obtain ⟨rfl, rfl⟩ : Setting.wordBoundary = s ∧ Scalar.int 0 = v := by simpa [hgiven] using hv
      rfl
    · intro hpresent
      simp [hmissing] at hpresent
    · refine fun _ => ⟨own', hown', hfits', fun s v hv => ?_⟩
      obtain ⟨rfl, rfl⟩ : Setting.extraWordChars = s ∧ Scalar.int 0 = v := by simpa [hgiven'] using hv
      rfl
  refine ⟨hlaws, hsound, ?_⟩
  obtain ⟨hfails, hvalues, -⟩ := later_layers_prevail hlaws hsound
  cases hload : loadAll tomlBackend sampleFiles sampleCalls with
  | error failure =>
      obtain ⟨path, hcall, hlost⟩ := hfails.1 ⟨failure, hload⟩
      have hnone : locate? sampleFiles path = none := Option.isNone_iff_eq_none.1 hlost
      simp only [sampleCalls, List.mem_cons, List.not_mem_nil, or_false, reduceCtorEq, false_or,
        LayerCall.file.injEq, and_true, and_false, Bool.true_eq_false] at hcall
      rcases hcall with rfl | rfl
      · simp [hlocate] at hnone
      · simp [hlocate'] at hnone
  | ok settings =>
      have hboundary : prevailing tomlBackend sampleFiles sampleCalls .wordBoundary = .int 0 := by
        simp [prevailing, sampleCalls, latest_cons, LayerCall.setsTo, LayerCall.fileGives, hown, hown', hempty,
          hgiven, hgiven', hnothing, Setting.key]
      have hextra : prevailing tomlBackend sampleFiles sampleCalls .extraWordChars = .text "-" := rfl
      obtain ⟨-, -, hint, -, -, htext, -⟩ := hvalues settings hload
      have hb : settings.wordBoundary = false := hint 0 hboundary
      have he : settings.extraWordChars = "-" := htext "-" hextra
      rw [← hb, ← he]

end RuleMatch.Settings
