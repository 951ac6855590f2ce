import AttrLint.Xml.Failure
import AttrLint.Xml.Name

namespace AttrLint.Xml

/-!
# What a document type declaration says

* `Knowledge` — what has been learned from the declarations before the root element.
* `Knowledge.define` — one more declared attribute.
* `Knowledge.attributesOf` — the attributes declared for an element.
-/

/-- A declared attribute of an element. -/
structure AttributeRule where
  name : String
  /-- Says that its value is character data. -/
  characterData : Bool
  /-- The value it has where it is not written, if the declaration gives one. -/
  value : Option String
  deriving DecidableEq, Repr

/-- What is known about a document from what has been read of it so far. -/
structure Knowledge where
  /-- How the characters of the document's encoding are classed. -/
  alphabet : Alphabet := .sequences
  /-- Says that the document declares itself complete without anything outside it. -/
  standalone : Bool := false
  /-- Says that there are declarations that were not read, so that entities may be declared
  there. -/
  unreadDeclarations : Bool := false
  /-- Says that declarations no longer count, because unread ones might come before them. -/
  ignoring : Bool := false
  /-- The external subset, if one is named. -/
  external : Option ExternalId := none
  /-- The declared attributes by element, in the order of their declarations. -/
  attributes : List (String × List AttributeRule) := []
  deriving Repr

namespace Knowledge

/-- Says that every entity of the document is known, so that a reference to another is a fault. -/
def entitiesKnown (k : Knowledge) : Bool :=
  !k.unreadDeclarations || k.standalone

/-- The attributes declared for an element. -/
def attributesOf (k : Knowledge) (element : String) : List AttributeRule :=
  (k.attributes.lookup element).getD []

/-- Adds a rule to those of an element. -/
def addRule (rules : List (String × List AttributeRule)) (element : String)
    (rule : AttributeRule) : List (String × List AttributeRule) :=
  match rules with
  | [] => [(element, [rule])]
  | (e, rs) :: rest =>
    if e = element then (e, rs ++ [rule]) :: rest else (e, rs) :: addRule rest element rule

/-- Declares an attribute.  A declaration with a value, or of an identifier, is void if the
attribute is declared already. -/
def define (k : Knowledge) (element : String) (rule : AttributeRule) (identifier : Bool) :
    Knowledge :=
  if (rule.value.isSome || identifier) &&
      (k.attributesOf element).any (fun other => other.name == rule.name) then k
  else { k with attributes := addRule k.attributes element rule }

/-- A reference to a parameter entity, none of which is ever known: declarations that come after it
count only in a standalone document. -/
def meetParameterReference (k : Knowledge) : Knowledge :=
  { k with unreadDeclarations := true, ignoring := !k.standalone }

end Knowledge

end AttrLint.Xml
