import AttrLint.ExpandedName

namespace AttrLint

/-!
# Events of a document

* `Event` — what a reader reports of a document, in the order of its text.
-/

/-- What a reader reports while it goes through a document. -/
inductive Event where
  /-- From here on the reader stands at this line, counted from one, and column, counted from
  zero. -/
  | locate (line column : Int)
  /-- A namespace is bound to a qualifier, or to the unqualified names. -/
  | bind (qualifier : Option String) (uri : Option String)
  /-- An element starts. -/
  | start (name : ExpandedName) (attributes : List ExpandedName)
  /-- The innermost element ends. -/
  | finish
  deriving DecidableEq, Repr

end AttrLint
