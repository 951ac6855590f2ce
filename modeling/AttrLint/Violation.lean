import AttrLint.Requirement
import AttrLint.Text.Decimal

namespace AttrLint

/-!
# Violations

* `Violation` — an element that lacks an attribute its tag requires.
* `checkDocument` — the violations of a document, in document order.
* `CheckResult` — what a run over several documents comes to.
-/

/-- An element without a required attribute. -/
structure Violation where
  path : String
  /-- The line of the element's start tag, counted from one. -/
  line : Int
  /-- The column of the element's start tag, counted from one. -/
  column : Int
  tag : String
  /-- The requirement as written. -/
  requirement : String
  deriving DecidableEq, Repr

/-- The violation as a line of text, without the line end. -/
def Violation.toString (v : Violation) : String :=
  v.path ++ ":" ++ ToString.toString v.line ++ ":" ++ ToString.toString v.column ++ " " ++ v.tag ++
    " missing " ++ v.requirement ++ " attribute"

/-- Says that the numbers of the violation can be written: neither has too many digits.  A position
in a document is counted along its text, so only a text of `10 ^ Text.digitLimit` characters could
have one that cannot. -/
def Violation.isWritable (v : Violation) : Bool :=
  Text.isConvertible v.line && Text.isConvertible v.column

/-- The violations of one element, in the order of its tag's requirements. -/
def violationsOf (rules : ResolvedRules) (path : String) (e : Element) : List Violation :=
  let expected := (rules.lookup e.head.tag).getD []
  let missing := expected.filter fun a => !e.hasAttribute a.name
  missing.map fun a => ⟨path, e.head.line, e.head.column, e.head.tag, a.raw⟩

/-- The violations of a document under rules that have been resolved for it. -/
def findViolations (d : Document) (rules : ResolvedRules) (path : String) : List Violation :=
  d.descendants.flatMap (violationsOf rules path)

/-- The violations of a document. -/
def checkDocument (rules : RuleSet) (d : Document) (path : String) : List Violation :=
  findViolations d (rules.resolve d.namespaces) path

/-! ### Results -/

/-- What a run comes to. -/
structure CheckResult where
  violations : List Violation := []
  filesChecked : Int := 0
  /-- Says that the output broke after violations had been found. -/
  outputFailed : Bool := false
  deriving DecidableEq, Repr

/-- Says that nothing was found. -/
def CheckResult.passed (r : CheckResult) : Bool :=
  r.violations.isEmpty

/-- The exit status: zero if nothing was found, and one otherwise. -/
def CheckResult.exitCode (r : CheckResult) : Nat :=
  if r.passed then 0 else 1

end AttrLint
