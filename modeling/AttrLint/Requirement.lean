import AttrLint.Document.Basic
import AttrLint.Entries

namespace AttrLint

/-!
# Requirements and rule sets

* `Requirement.parse` — a requirement as written, divided at its last colon.
* `RuleSet.ofMapping` — the requirements of each tag, without repetitions.
* `Requirement.resolve` — the attribute that a requirement asks for in a given document.
-/

/-- An attribute that a tag has to carry. -/
structure Requirement where
  /-- The text before the last colon, if there is a colon. -/
  qualifier : Option String
  /-- The text after the last colon. -/
  localName : String
  /-- The text as written. -/
  raw : String
  deriving DecidableEq, Repr

/-- Divides a requirement at its last colon. -/
def Requirement.parse (raw : String) : Requirement :=
  let back := raw.toList.reverse
  let localName := String.ofList (back.takeWhile (· != ':')).reverse
  match back.dropWhile (· != ':') with
  | [] => ⟨none, localName, raw⟩
  | _ :: front => ⟨some (String.ofList front.reverse), localName, raw⟩

/-- The requirements of each tag, in the order of the rule file. -/
structure RuleSet where
  rules : List (String × List Requirement)
  deriving DecidableEq, Repr

namespace RuleSet

/-- The rule set without rules. -/
def empty : RuleSet :=
  ⟨[]⟩

/-- The requirements written as `raws`; repeated ones count once, where they come first. -/
def requirements (raws : List String) : List Requirement :=
  raws.eraseDups.map Requirement.parse

/-- The rule set of a mapping of tags to written requirements. -/
def ofMapping (mapping : List (String × List String)) : RuleSet :=
  ⟨(Entries.ofList mapping).map fun (tag, raws) => (tag, requirements raws)⟩

/-- The number of tags with a rule. -/
def size (rules : RuleSet) : Nat :=
  rules.rules.length

/-- The requirements of a tag. -/
def get? (rules : RuleSet) (tag : String) : Option (List Requirement) :=
  rules.rules.lookup tag

end RuleSet

/-! ### Resolution -/

/-- The attribute that a requirement asks for in one document. -/
structure ResolvedAttribute where
  name : ExpandedName
  /-- The requirement as written. -/
  raw : String
  deriving DecidableEq, Repr

/-- Resolves a requirement: without a qualifier it asks for an attribute without a namespace; a
qualifier bound on the root stands for its namespace, and any other one for itself. -/
def Requirement.resolve (bindings : Bindings) (r : Requirement) : ResolvedAttribute :=
  match r.qualifier with
  | none => ⟨⟨none, r.localName⟩, r.raw⟩
  | some qualifier =>
    ⟨⟨(bindings.lookup qualifier).getD (some qualifier), r.localName⟩, r.raw⟩

/-- The attributes that the rules ask for in one document, by tag. -/
abbrev ResolvedRules := List (String × List ResolvedAttribute)

/-- Resolves every requirement of every rule. -/
def RuleSet.resolve (rules : RuleSet) (bindings : Bindings) : ResolvedRules :=
  rules.rules.map fun (tag, requirements) => (tag, requirements.map (·.resolve bindings))

end AttrLint
