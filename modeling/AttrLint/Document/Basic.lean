import AttrLint.ExpandedName

namespace AttrLint

/-!
# Documents

A document is a tree of elements and the namespaces bound on its root.

* `Element.preorder` — an element and everything below it, by recursion on the tree.
* `Walk` — the same listing by a loop with a stack of elements still to visit.
* `Document.descendants` — all elements of a document in the order of their start tags.
-/

/-- What is known of an element apart from its children. -/
structure ElementHead where
  /-- The local name. -/
  tag : String
  /-- The namespace, if any. -/
  uri : Option String
  /-- The names of the attributes. -/
  attributes : List ExpandedName
  /-- The line of the start tag, counted from one. -/
  line : Int
  /-- The column of the start tag, counted from one. -/
  column : Int
  deriving DecidableEq, Repr, Inhabited

/-- An element with its children in order. -/
inductive Element where
  | node (head : ElementHead) (children : List Element)
  deriving Repr, Inhabited

/-- The bindings of qualifiers to namespaces; a qualifier may also be bound to nothing. -/
abbrev Bindings := List (String × Option String)

/-- A tree of elements and the namespaces bound on its root. -/
structure Document where
  root : Element
  namespaces : Bindings
  deriving Repr

namespace Element

/-- What is known of the element itself. -/
def head : Element → ElementHead
  | .node head _ => head

/-- The elements right below. -/
def children : Element → List Element
  | .node _ children => children

/-- Says that the element has an attribute of this name. -/
def hasAttribute (e : Element) (name : ExpandedName) : Bool :=
  e.head.attributes.contains name

mutual

/-- The element and everything below it, each element before its children. -/
def preorder : Element → List Element
  | .node head children => .node head children :: preorderAll children

/-- The listings of several elements one after the other. -/
def preorderAll : List Element → List Element
  | [] => []
  | e :: es => e.preorder ++ preorderAll es

end

mutual

/-- Adds the number of elements in the tree to `n`. -/
def countFrom (n : Nat) : Element → Nat
  | .node _ children => countAllFrom (n + 1) children

/-- Adds the number of elements in several trees to `n`. -/
def countAllFrom (n : Nat) : List Element → Nat
  | [] => n
  | e :: es => countAllFrom (countFrom n e) es

end

/-- The number of elements in the tree. -/
def size (e : Element) : Nat :=
  countFrom 0 e

end Element

/-! ### The walk -/

/-- A walk through a document: the elements visited, newest first, and those still to visit, the
next one first. -/
structure Walk where
  visited : List Element
  waiting : List Element

namespace Walk

/-- The walk at its beginning. -/
def start (root : Element) : Walk :=
  ⟨[], [root]⟩

/-- Visits the next element: its children come before everything that was waiting. -/
def next (w : Walk) : Walk :=
  match w.waiting with
  | [] => w
  | e :: rest => ⟨e :: w.visited, e.children ++ rest⟩

/-- Visits up to `n` elements. -/
def nextFor : Nat → Walk → Walk
  | 0, w => w
  | n + 1, w => nextFor n w.next

end Walk

/-- All elements of the document, the root first, in the order of their start tags. -/
def Document.descendants (d : Document) : List Element :=
  (Walk.nextFor d.root.size (Walk.start d.root)).visited.reverse

end AttrLint
