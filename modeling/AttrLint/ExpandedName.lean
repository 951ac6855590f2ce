namespace AttrLint

/-!
# Expanded names

* `ExpandedName` — a namespace, or none, and a local name: what two XML names have to share to be
  the same.
-/

/-- The identity of an XML name: the namespace it belongs to, if any, and its local name. -/
structure ExpandedName where
  uri : Option String
  localName : String
  deriving DecidableEq, Repr, Inhabited

/-- The name as text: the local name, after its namespace in braces if it has one. -/
def ExpandedName.toString (name : ExpandedName) : String :=
  match name.uri with
  | none => name.localName
  | some uri => "\x7b" ++ uri ++ "\x7d" ++ name.localName

/-- The namespace of the qualifier `xml`, which is bound in every document. -/
def xmlUri : String := "http://www.w3.org/XML/1998/namespace"

end AttrLint
