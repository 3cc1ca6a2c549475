import RuleMatch.Number.Decimal
import RuleMatch.Settings.Loader
import RuleMatch.Text.Lowercase

/-!
# What a back end is taken to keep

Of the package behind the loader no more is known than what is documented.  Sources are merged deeply, in the
order in which they were added.  Keys that are overridden apply after all sources.  A file that may be absent
and is contributes nothing.  Scalars are converted where another type is wanted.

`Backend.Lawful` says this of the two settings of keywords.  Each law is about one step more: it compares what
is put together with a step to what was put together without it, and says nothing of a run of many steps.  The
laws are confined to steps as the loader takes them (`Step.Plain`) and, where something is merged, to values
that fit: what is there for the settings are scalars, below a table of keywords (`Backend.Fits`).
-/

namespace RuleMatch.Settings

/-- One of the settings of keywords. -/
inductive Setting where
  | wordBoundary
  | extraWordChars
  deriving DecidableEq, Repr

namespace Setting

/-- The key of a setting in the table of keywords. -/
def name : Setting → String
  | .wordBoundary => "word_boundary"
  | .extraWordChars => "extra_word_chars"

/-- The key under which a setting is set. -/
def key : Setting → String
  | .wordBoundary => "keywords.word_boundary"
  | .extraWordChars => "keywords.extra_word_chars"

/-- The keys that lead to a setting, one inside the other. -/
def path (s : Setting) : List String :=
  ["keywords", s.name]

/-- What the document with the default settings says. -/
def default : Setting → Scalar
  | .wordBoundary => .bool true
  | .extraWordChars => .text "_"

/-- Whether one of the steps overrides a setting. -/
def IsOverridden (s : Setting) (steps : List Step) : Prop :=
  ∃ value, .override s.key value ∈ steps

theorem key_injective {s s' : Setting} (h : s.key = s'.key) : s = s' := by
  cases s <;> cases s' <;> first | rfl | (revert h; decide)

end Setting

/-- A step that the loader takes where only the settings of keywords are set, and to scalars. -/
inductive Step.Plain : Step → Prop where
  | defaults : Plain (.source (.text defaultDocument))
  | file (path : String) (required : Bool) : Plain (.source (.file path required))
  | override (s : Setting) (v : Scalar) : Plain (.override s.key (.scalar none v))

namespace Backend

/-- What is given for the settings are scalars, below a table of keywords. -/
structure Fits (backend : Backend) (config : backend.Config) : Prop where
  table : ∀ value, backend.value? config ["keywords"] = some value → value.IsTable
  scalars : ∀ (s : Setting) (value : Value), backend.value? config s.path = some value → value.IsScalar

/-- The scalar that stands for a setting. -/
def scalar? (backend : Backend) (config : backend.Config) (s : Setting) : Option Scalar :=
  (backend.value? config s.path).bind Value.scalar?

/-- The documented behaviour of a back end on some files. -/
structure Lawful (backend : Backend) (files : Files) : Prop where
  /-- The keys of the settings are well formed. -/
  key_ok : ∀ s : Setting, backend.keyFault? s.key = none
  /-- The document with the default settings is read. -/
  defaults_read : ∃ config, backend.build files [.source (.text defaultDocument)] = .ok config ∧
    backend.Fits config ∧ ∀ s : Setting, backend.scalar? config s = some s.default
  /-- A file that is not required contributes nothing if it is absent. -/
  optional_missing : ∀ {path : String}, backend.isMissing files path = true →
    ∃ own, backend.build files [.source (.file path false)] = .ok own ∧ backend.Fits own ∧
      ∀ s : Setting, backend.scalar? own s = none
  /-- A file that is required must not be absent. -/
  required_missing : ∀ {path : String}, backend.isMissing files path = true →
    ∃ failure, backend.build files [.source (.file path true)] = .error failure
  /-- A failure is not mended by another step. -/
  failure_stays : ∀ {steps : List Step} {step : Step} {failure : backend.Failure},
    (∀ taken ∈ steps ++ [step], taken.Plain) → backend.build files steps = .error failure →
      backend.build files (steps ++ [step]) = .error failure
  /-- A source that fails by itself fails in the same way on top of others. -/
  source_fails : ∀ {steps : List Step} {source : Source} {config : backend.Config}
    {failure : backend.Failure}, (∀ taken ∈ steps ++ [.source source], taken.Plain) →
      backend.build files steps = .ok config → backend.build files [.source source] = .error failure →
        backend.build files (steps ++ [.source source]) = .error failure
  /-- A source is merged deeply with those before it: what it gives prevails, and what it leaves out stays. -/
  merges_deeply : ∀ {steps : List Step} {source : Source} {config own : backend.Config},
    (∀ taken ∈ steps ++ [.source source], taken.Plain) →
      backend.build files steps = .ok config → backend.Fits config →
      backend.build files [.source source] = .ok own → backend.Fits own →
        ∃ merged, backend.build files (steps ++ [.source source]) = .ok merged ∧ backend.Fits merged ∧
          ∀ s : Setting, ¬ s.IsOverridden steps →
            backend.scalar? merged s = (backend.scalar? own s).or (backend.scalar? config s)
  /-- What is overridden stays so on top of a further source. -/
  overrides_last : ∀ {steps : List Step} {source : Source} {config merged : backend.Config},
    (∀ taken ∈ steps ++ [.source source], taken.Plain) →
      backend.build files steps = .ok config →
      backend.build files (steps ++ [.source source]) = .ok merged →
        ∀ s : Setting, s.IsOverridden steps → backend.scalar? merged s = backend.scalar? config s
  /-- An override puts its value in place, and nothing else. -/
  override_applies : ∀ {steps : List Step} {config : backend.Config} (s : Setting) (v : Scalar),
    (∀ taken ∈ steps, taken.Plain) → backend.build files steps = .ok config → backend.Fits config →
      ∃ changed, backend.build files (steps ++ [.override s.key (.scalar none v)]) = .ok changed ∧
        backend.Fits changed ∧ backend.scalar? changed s = some v ∧
        ∀ s' : Setting, s' ≠ s → backend.scalar? changed s' = backend.scalar? config s'
  /-- A record is filled with what the scalars under its keys are read as. -/
  record_filled : ∀ {config : backend.Config} {b : Bool} {t : String}, backend.Fits config →
    (backend.scalar? config .wordBoundary).bind backend.toBool? = some b →
    (backend.scalar? config .extraWordChars).bind backend.toText? = some t →
      backend.fill keywordRecord config = .ok (b, t)
  /-- A boolean is read from a boolean, or from a number, which is false if it is zero. -/
  bool_of_bool : ∀ b : Bool, backend.toBool? (.bool b) = some b
  bool_of_int : ∀ n : Int, backend.toBool? (.int n) = some (n != 0)
  bool_of_float : ∀ x : Float, backend.toBool? (.float x) = some (x != 0)
  /-- A few words, in any case, are read as booleans. -/
  bool_of_text : ∀ t : String, backend.toBool? (.text t) =
    if lowercaseString t ∈ ["1", "true", "on", "yes"] then some true
    else if lowercaseString t ∈ ["0", "false", "off", "no"] then some false
    else none
  /-- A text is read from a text, or from a boolean or a number as it is printed. -/
  text_of_text : ∀ t : String, backend.toText? (.text t) = some t
  text_of_bool : ∀ b : Bool, backend.toText? (.bool b) = some (toString b)
  text_of_int : ∀ n : Int, backend.toText? (.int n) = some (toString n)
  text_of_float : ∀ x : Float, backend.toText? (.float x) = some (Number.floatText x)

end Backend

end RuleMatch.Settings
