import AttrLint.Document.Basic
import AttrLint.Document.Event
import AttrLint.Entries

namespace AttrLint

/-!
# Building documents

* `Builder.handle` — the effect of one event.
* `Builder.document` — the document that has been built.
* `Builder.call` — either of them, with the builder that is left if it fails.
* `Document.ofEvents` — the document of a list of events.
-/

/-- An element whose end has not come yet. -/
structure OpenElement where
  head : ElementHead
  /-- The children so far, newest first. -/
  children : List Element
  deriving Repr

/-- The element that comes out when its end is reached. -/
def OpenElement.close (e : OpenElement) : Element :=
  .node e.head e.children.reverse

/-- A document being built from events. -/
structure Builder where
  /-- The line from one and the column from zero that the reader has reported. -/
  location : Option (Int × Int) := none
  /-- The namespaces bound since the last start of an element. -/
  pending : Bindings := []
  /-- The namespaces bound on the first element. -/
  rootNamespaces : Option Bindings := none
  /-- The open elements, innermost first. -/
  opened : List OpenElement := []
  /-- The outermost element that was closed last. -/
  root : Option Element := none
  deriving Repr

/-- Why an event has no effect. -/
inductive BuildError where
  /-- An element ends, and none is open. -/
  | nothingOpen
  /-- The document is asked for, and no outermost element has been closed. -/
  | noRoot
  deriving DecidableEq, Repr

/-- The error in words. -/
def BuildError.message : BuildError → String
  | .nothingOpen => "pop from empty list"
  | .noRoot => "document has no root element"

namespace Builder

/-- The binding that every document starts with. -/
def implicitNamespaces : Bindings :=
  [("xml", some xmlUri)]

/-- The line and column of the next element, both counted from one. -/
def position (b : Builder) : Int × Int :=
  match b.location with
  | none => (1, 1)
  | some (line, column) => (line, column + 1)

/-- Binds a qualifier; the namespace of unqualified names never counts for attributes. -/
def bind (b : Builder) (qualifier : Option String) (uri : Option String) : Builder :=
  match qualifier with
  | none => b
  | some qualifier => { b with pending := Entries.put b.pending qualifier uri }

/-- Opens an element; the first one fixes the namespaces of the document. -/
def start (b : Builder) (name : ExpandedName) (attributes : List ExpandedName) : Builder :=
  let namespaces := b.rootNamespaces.getD (Entries.override implicitNamespaces b.pending)
  let (line, column) := b.position
  let head : ElementHead := ⟨name.localName, name.uri, attributes, line, column⟩
  { b with
    rootNamespaces := some namespaces
    pending := []
    opened := ⟨head, []⟩ :: b.opened }

/-- Closes the innermost element: it becomes the last child of the one around it, or the root. -/
def finish (b : Builder) : Except BuildError Builder :=
  match b.opened with
  | [] => .error .nothingOpen
  | [e] => .ok { b with opened := [], root := some e.close }
  | e :: outer :: rest =>
    .ok { b with opened := { outer with children := e.close :: outer.children } :: rest }

/-- The effect of an event. -/
def handle (b : Builder) : Event → Except BuildError Builder
  | .locate line column => .ok { b with location := some (line, column) }
  | .bind qualifier uri => .ok (b.bind qualifier uri)
  | .start name attributes => .ok (b.start name attributes)
  | .finish => b.finish

/-- The effect of events one after the other. -/
def handleAll (b : Builder) : List Event → Except BuildError Builder
  | [] => .ok b
  | event :: events =>
    match b.handle event with
    | .ok b => handleAll b events
    | .error e => .error e

/-- The document built so far. -/
def document (b : Builder) : Except BuildError Document :=
  match b.root with
  | none => .error .noRoot
  | some root => .ok ⟨root, b.rootNamespaces.getD []⟩

/-- What a builder can be told or asked. -/
inductive Call where
  | event (event : Event)
  /-- The document is asked for. -/
  | document
  deriving DecidableEq, Repr

/-- What a builder answers to a call. -/
inductive Answer where
  /-- The event has had its effect. -/
  | done
  | document (document : Document)
  | failed (error : BuildError)
  deriving Repr

/-- The builder after a call, and its answer.  A call that fails leaves the builder as it was. -/
def call (b : Builder) : Call → Builder × Answer
  | .event event =>
    match b.handle event with
    | .ok b => (b, .done)
    | .error e => (b, .failed e)
  | .document =>
    match b.document with
    | .ok d => (b, .document d)
    | .error e => (b, .failed e)

end Builder

/-- The document that events describe. -/
def Document.ofEvents (events : List Event) : Except BuildError Document :=
  match Builder.handleAll {} events with
  | .ok b => b.document
  | .error e => .error e

end AttrLint
