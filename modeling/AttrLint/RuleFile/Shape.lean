import AttrLint.Telemetry
import AttrLint.Toml.Value

namespace AttrLint

/-!
# The shape of rule files

A rule file has a table for each tag, and in it an array of strings under the key `required`.

* `RuleShape.extract` — the rules of a table, with a warning for each tag that has other keys.
* `ShapeError.message` — what is wrong with the first tag that does not have this shape.
-/

/-- The key of the required attributes. -/
def requiredKey : String := "required"

/-- What is wrong with a tag's entry. -/
inductive ShapeProblem where
  | notTable
  | noRequired
  | notArray
  | notStrings
  deriving DecidableEq, Repr

/-- A tag whose entry does not have the right shape. -/
structure ShapeError where
  tag : String
  problem : ShapeProblem
  deriving DecidableEq, Repr

/-- The error in words. -/
def ShapeError.message (e : ShapeError) : String :=
  match e.problem with
  | .notTable => "`" ++ e.tag ++ "` must be a table, e.g. [" ++ e.tag ++ "]"
  | .noRequired => "[" ++ e.tag ++ "] is missing `" ++ requiredKey ++ "`"
  | .notArray => "[" ++ e.tag ++ "] `" ++ requiredKey ++ "` must be an array of strings"
  | .notStrings => "[" ++ e.tag ++ "] `" ++ requiredKey ++ "` must contain only strings"

namespace RuleShape

/-- The keys of a tag's table that mean nothing, sorted. -/
def unknownKeys (table : Toml.Table) : List String :=
  ((table.map Prod.fst).filter (· ≠ requiredKey)).mergeSort fun a b => decide (a ≤ b)

/-- The logger of warnings about rule files. -/
def logger : String := "xml_requirements.infrastructure.config_file_loader"

/-- The warning about keys that mean nothing. -/
def warning (tag : String) (keys : List String) : LogRecord :=
  ⟨.warning, logger, "Ignoring unknown key(s) in [" ++ tag ++ "]: " ++ ", ".intercalate keys⟩

/-- The warnings about a tag's entry: at most one. -/
def warnings (tag : String) : Toml.Value → List LogRecord
  | .table table =>
    match unknownKeys table with
    | [] => []
    | keys => [warning tag keys]
  | _ => []

/-- The text of a string value. -/
def string? : Toml.Value → Option String
  | .string text => some text
  | _ => none

/-- The required attributes of a tag's entry. -/
def required : Toml.Value → Except ShapeProblem (List String)
  | .table table =>
    match table.lookup requiredKey with
    | none => .error .noRequired
    | some (.array items) =>
      match items.mapM string? with
      | some texts => .ok texts
      | none => .error .notStrings
    | some _ => .error .notArray
  | _ => .error .notTable

/-- The rules of a table, up to the first entry that does not have the right shape, and the warnings
up to there; `rules` and `log` hold those before, newest first. -/
def extractFrom (rules : List (String × List String)) (log : List LogRecord) :
    Toml.Table → List LogRecord × Except ShapeError (List (String × List String))
  | [] => (log.reverse, .ok rules.reverse)
  | (tag, value) :: rest =>
    let log := (warnings tag value).reverse ++ log
    match required value with
    | .ok texts => extractFrom ((tag, texts) :: rules) log rest
    | .error problem => (log.reverse, .error ⟨tag, problem⟩)

/-- The rules of a table and the warnings about it. -/
def extract (table : Toml.Table) :
    List LogRecord × Except ShapeError (List (String × List String)) :=
  extractFrom [] [] table

end RuleShape

end AttrLint
