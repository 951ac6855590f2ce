import AttrLint.ExpandedName
import AttrLint.Text.Blank
import AttrLint.Xml.Failure

namespace AttrLint.Xml

/-!
# Namespaces in scope

* `Scope.bind` — a namespace declaration, or why it is refused.
* `Scope.expand` — a written name with its qualifier replaced by the namespace bound to it.
* `Expansion.name?` — the expanded name that comes out of it.
-/

/-- The namespace of namespace declarations. -/
def xmlnsUri : String := "http://www.w3.org/2000/xmlns/"

/-- A namespace declaration: a qualifier, or none for the default namespace, and the namespace, or
none if there is to be no default namespace. -/
abbrev Binding := Option String × Option String

/-- The namespace declarations in force, innermost first. -/
abbrev Scope := List Binding

/-- A name divided at its first colon. -/
def splitAtColon (name : List Char) : Option (List Char × List Char) :=
  match name.span (· != ':') with
  | (_, []) => none
  | (front, _ :: back) => some (front, back)

namespace Scope

/-- The declaration that every document starts with. -/
def initial : Scope :=
  [(some "xml", some xmlUri)]

/-- The namespace bound to a qualifier, or the default namespace. -/
def find? (scope : Scope) (qualifier : Option String) : Option String :=
  (scope.lookup qualifier).join

/-- Why a declaration is refused, if it is. -/
def refusal? (qualifier : Option String) (uri : String) : Option Problem :=
  if uri = "" ∧ qualifier.isSome then some .undeclaredQualifier
  else if qualifier = some "xmlns" then some .reservedXmlns
  else if uri.toList.contains ' ' then some .misplacedToken
  else if qualifier = some "xml" then
    if uri = xmlUri then none else some .reservedXml
  else if uri = xmlUri ∨ uri = xmlnsUri then some .reservedUri
  else none

/-- Adds a declaration; an empty namespace ends the default one. -/
def bind (scope : Scope) (qualifier : Option String) (uri : String) : Except Problem Scope :=
  match refusal? qualifier uri with
  | some problem => .error problem
  | none => .ok ((qualifier, if uri = "" then none else some uri) :: scope)

end Scope

/-- A name after its qualifier has been replaced: the namespace, the local part, and the
qualifier. -/
structure Expansion where
  uri : Option String
  localPart : String
  qualifier : Option String
  deriving DecidableEq, Repr

namespace Expansion

/-- The expansion as text: namespace, local part and qualifier with spaces between them. -/
def joined (e : Expansion) : List Char :=
  match e.uri with
  | none => e.localPart.toList
  | some uri =>
    let front := uri.toList ++ ' ' :: e.localPart.toList
    match e.qualifier with
    | none => front
    | some qualifier => front ++ ' ' :: qualifier.toList

/-- The expanded name, read back from the words of the joined text: one word is a local name
without a namespace, of two or three words the first is the namespace and the second the local
name, and more make no name. -/
def name? (e : Expansion) : Option ExpandedName :=
  match Text.words e.joined with
  | [] | [_] => some ⟨none, String.ofList e.joined⟩
  | [uri, name] | [uri, name, _] => some ⟨some (String.ofList uri), String.ofList name⟩
  | _ => none

end Expansion

/-- Expands the name of an attribute: without a qualifier it belongs to no namespace. -/
def Scope.expandAttribute (scope : Scope) (name : String) : Except Problem Expansion :=
  match splitAtColon name.toList with
  | none => .ok ⟨none, name, none⟩
  | some (qualifier, localPart) =>
    match scope.find? (some (String.ofList qualifier)) with
    | none => .error .unboundQualifier
    | some uri => .ok ⟨some uri, String.ofList localPart, some (String.ofList qualifier)⟩

/-- Expands the name of an element: without a qualifier it belongs to the default namespace. -/
def Scope.expandElement (scope : Scope) (name : String) : Except Problem Expansion :=
  match splitAtColon name.toList with
  | none => .ok ⟨scope.find? none, name, none⟩
  | some _ => scope.expandAttribute name

/-- The qualifier that an attribute of this name declares, if it is a namespace declaration. -/
def declaredQualifier? (name : String) : Option (Option String) :=
  if name = "xmlns" then some none
  else
    match splitAtColon name.toList with
    | some (front, back) =>
      if String.ofList front = "xmlns" then some (some (String.ofList back)) else none
    | none => none

end AttrLint.Xml
