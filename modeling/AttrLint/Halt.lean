import AttrLint.Document.Builder
import AttrLint.FileSystem
import AttrLint.Markup.Nesting
import AttrLint.RuleFile.Shape
import AttrLint.Sink
import AttrLint.Text.Utf8
import AttrLint.Toml.Reader
import AttrLint.Xml.Failure

namespace AttrLint

/-!
# Why a run ends early

Violations are results; what stands here ends a run.

* `RunError` — an error that is reported to the user, with its cause.
* `Escape` — an error that is not expected and is not reported as one of the above.
* `Halt` — either of them.
-/

/-- What lies behind an error. -/
inductive Cause where
  | file (error : FileError)
  | undecodable (error : Text.Utf8.DecodeError)
  | toml (error : Toml.ParseError)
  | shape (error : ShapeError)
  /-- No rule file is given, and none is found from this folder upwards. -/
  | noRuleFile (folder : String)
  /-- The document called `source` cannot be read. -/
  | document (source : String) (failure : Xml.Failure)
  | build (error : BuildError)
  | stream (error : StreamError)
  deriving DecidableEq, Repr

/-- The name of a rule file that is looked for. -/
def ruleFileName : String := "xml-requirements.toml"

/-- The cause in words. -/
def Cause.message : Cause → String
  | .file error => error.message
  | .undecodable error => error.message
  | .toml error => error.message
  | .shape error => error.message
  | .noRuleFile folder =>
    "no --config given and no " ++ ruleFileName ++ " in " ++ folder ++ " or its parents"
  | .document source failure => failure.message source
  | .build error => error.message
  | .stream error => error.message

/-- The kinds of reported errors. -/
inductive ErrorKind where
  /-- Any error. -/
  | general
  /-- A rule file cannot be used. -/
  | config
  | configRead
  | configParse
  /-- A document cannot be used. -/
  | document
  | documentRead
  | documentParse
  /-- The output has stopped. -/
  | output
  deriving DecidableEq, Repr

/-- The kinds that a kind belongs to, from the widest on: of the general kinds `general`, `config`,
`document` and `output`. -/
def ErrorKind.families : ErrorKind → List ErrorKind
  | .general => [.general]
  | .config | .configRead | .configParse => [.general, .config]
  | .document | .documentRead | .documentParse => [.general, .document]
  | .output => [.general, .output]

/-- An error that ends a run and is reported. -/
structure RunError where
  kind : ErrorKind
  message : String
  path : Option String
  cause : Cause
  deriving DecidableEq, Repr

namespace RunError

/-- The error as shown: what failed, and why. -/
def text (e : RunError) : String :=
  "Error: " ++ e.message ++ "\n\nCause: " ++ e.cause.message

/-- A rule file cannot be read. -/
def configRead (path : String) (cause : Cause) : RunError :=
  ⟨.configRead, "Failed to read `" ++ path ++ "`", some path, cause⟩

/-- A rule file is not in order. -/
def configParse (path : String) (cause : Cause) : RunError :=
  ⟨.configParse, "Failed to parse config `" ++ path ++ "`", some path, cause⟩

/-- A document cannot be read. -/
def documentRead (path : String) (cause : Cause) : RunError :=
  ⟨.documentRead, "Failed to read XML file `" ++ path ++ "`", some path, cause⟩

/-- A document is not in order. -/
def documentParse (path : String) (cause : Cause) : RunError :=
  ⟨.documentParse, "Failed to parse XML file `" ++ path ++ "`", some path, cause⟩

/-- The output has stopped. -/
def output (cause : Cause) : RunError :=
  ⟨.output, "Failed to write output", none, cause⟩

end RunError

/-- An error that is not expected. -/
inductive Escape where
  /-- A path holds the character NUL. -/
  | nullInPath
  /-- The name of a document holds the character NUL. -/
  | nullInSource
  /-- The operating system refuses a path where that is not expected. -/
  | file (error : FileError)
  /-- The working directory has been removed, and its path is asked for. -/
  | lostFolder
  /-- A document is outside what the reader handles. -/
  | document (failure : Xml.Failure)
  /-- A rule file has a decimal integer with too many digits. -/
  | integer (digits : Nat)
  /-- The values of a rule file are nested too deeply. -/
  | nesting
  /-- A violation has a number with too many digits to be written. -/
  | longNumber
  /-- The markup of a message is broken. -/
  | markup (fault : Markup.Fault)
  /-- The output fails in an unexpected way. -/
  | stream (error : StreamError)
  | unknownFormat (name : String)
  deriving DecidableEq, Repr

/-- The error in words. -/
def Escape.message : Escape → String
  | .nullInPath => "embedded null byte"
  | .nullInSource => "embedded null character"
  | .file error => error.message
  | .lostFolder => FileRefusal.missing.message
  | .document failure => failure.message ""
  | .integer digits => (Toml.Failure.tooManyDigits digits).message
  | .nesting => Toml.Failure.tooDeep.message
  | .longNumber => Text.limitMessage ""
  | .markup fault => fault.message
  | .stream error => error.message
  | .unknownFormat name => "Unknown output format: " ++ Text.quoted name

/-- Why a run ends early. -/
inductive Halt where
  | reported (error : RunError)
  | escaped (escape : Escape)
  deriving DecidableEq, Repr

/-- A broken stream ends output, or the run if its error is of an unexpected kind. -/
def Halt.ofStream (e : StreamError) : Halt :=
  if e.kind.stopsOutput then .reported (.output (.stream e)) else .escaped (.stream e)

end AttrLint
