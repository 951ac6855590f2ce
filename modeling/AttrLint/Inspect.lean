import AttrLint.Requirement
import AttrLint.Text.Quoted

namespace AttrLint

/-!
# Rule sets for inspection

* `RuleSet.inspect`, `ResolvedRules.inspect` — rules as text with all their parts.
-/

namespace Inspect

open Text

/-- Items between parentheses; a single one is followed by a comma. -/
def tuple : List String → String
  | [item] => "(" ++ item ++ ",)"
  | items => "(" ++ ", ".intercalate items ++ ")"

/-- Entries between braces. -/
def mapping (entries : List (String × String)) : String :=
  let entry (e : String × String) : String := quoted e.1 ++ ": " ++ e.2
  "\x7b" ++ ", ".intercalate (entries.map entry) ++ "\x7d"

/-- A requirement with its parts. -/
def requirement (r : Requirement) : String :=
  "AttributeRequirement(ns_prefix=" ++ quoted? r.qualifier ++ ", local_name=" ++
    quoted r.localName ++ ", raw=" ++ quoted r.raw ++ ")"

/-- A resolved attribute with its parts. -/
def resolved (a : ResolvedAttribute) : String :=
  "ResolvedAttribute(namespace=" ++ quoted? a.name.uri ++ ", local_name=" ++
    quoted a.name.localName ++ ", raw=" ++ quoted a.raw ++ ")"

end Inspect

/-- A rule set as text. -/
def RuleSet.inspect (rules : RuleSet) : String :=
  let entries := rules.rules.map fun (tag, rs) => (tag, Inspect.tuple (rs.map Inspect.requirement))
  "RuleSet(" ++ Inspect.mapping entries ++ ")"

/-- Resolved rules as text. -/
def ResolvedRules.inspect (rules : ResolvedRules) : String :=
  let entries := rules.map fun (tag, attributes) =>
    (tag, Inspect.tuple (attributes.map Inspect.resolved))
  "DocumentRequirements(" ++ Inspect.mapping entries ++ ")"

end AttrLint
