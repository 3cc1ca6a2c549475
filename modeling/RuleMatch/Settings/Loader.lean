import RuleMatch.Settings.Backend
import RuleMatch.Settings.Basic

/-!
# Loading settings

Settings are loaded in layers.  At the bottom are the default settings, which are a document of their own.
Files are added on top of them, and single keys are set to values.  A loader does no more than hand all this to
a back end, call by call, and have the record of the settings filled at the end.
-/

namespace RuleMatch.Settings

/-- The declaration of the settings. -/
def keywordRecord : RecordShape where
  name := "KeywordConfig"
  key := "keywords"
  boolField := "word_boundary"
  textField := "extra_word_chars"

/-- The document with the default settings. -/
def defaultDocument : String :=
  "# Built-in defaults for minilexer. Files layered through `Loader` override\n# individual keys.\n\n"
    ++ "[keywords]\n# Reject a keyword that runs straight into a following word character,\n"
    ++ "# e.g. `keyword(\"a\")` against \"abc\".\nword_boundary = true\n"
    ++ "# Characters counted as word characters in addition to alphanumerics.\nextra_word_chars = \"_\"\n"

/-- A loader, with what it has to hand to a back end. -/
structure Loader where
  steps : List Step

namespace Loader

/-- A loader of the default settings. -/
def new : Loader :=
  ⟨[.source (.text defaultDocument)]⟩

/-- Adds a file. -/
def addFile (loader : Loader) (path : String) (required : Bool) : Loader :=
  ⟨loader.steps ++ [.source (.file path required)]⟩

/-- Sets a key to a value. -/
def set (backend : Backend) (loader : Loader) (key : String) (value : Value) :
    Except backend.Failure Loader :=
  match backend.keyFault? key with
  | none => .ok ⟨loader.steps ++ [.override key value]⟩
  | some fault => .error fault

/-- Loads the settings. -/
def build (backend : Backend) (files : Files) (loader : Loader) : Except backend.Failure Settings := do
  let config ← backend.build files loader.steps
  let (wordBoundary, extraWordChars) ← backend.fill keywordRecord config
  return { wordBoundary, extraWordChars }

end Loader

/-- Loads the default settings. -/
def loadDefaults (backend : Backend) (files : Files) : Except backend.Failure Settings :=
  Loader.new.build backend files

end RuleMatch.Settings
