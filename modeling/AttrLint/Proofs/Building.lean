import AttrLint.Document.Builder
import AttrLint.Proofs.Traversal

namespace AttrLint

/-!
# Builders rebuild trees

A reader reports a tree as a stream of events, and a builder makes a tree of a stream.  This file
says that the second undoes the first, whatever the builder has been fed before:

* `Reports` — streams of events and the trees that they report, one after the other.
* `Builder.receive` — what a finished element does to the open elements and the root.
* `Builder.handleAll_reports` — a stream has the effect of receiving its trees.
* `startHeads_reports` — the starts of a stream are the elements of its trees in preorder.
* `Builder.rebuilds` — the main statement: builders rebuild every tree from each of its streams.
-/

/-! ### Streams -/

/-- The event that binds a namespace. -/
def bindEvent (binding : Option String × Option String) : Event :=
  .bind binding.1 binding.2

/-- Streams of events that report trees one after the other.  Each tree is reported by the position
of its start tag, any namespaces bound there, its start, its children and its end. -/
inductive Reports : List Event → List Element → Prop
  | nil : Reports [] []
  | cons {inner rest : List Event} {children siblings : List Element} (head : ElementHead)
      (bound : List (Option String × Option String)) (hinner : Reports inner children)
      (hrest : Reports rest siblings) :
      Reports
        (.locate head.line (head.column - 1) :: bound.map bindEvent ++
          .start ⟨head.uri, head.tag⟩ head.attributes :: inner ++ .finish :: rest)
        (.node head children :: siblings)

mutual

/-- Every tree can be reported, before anything else that is reported. -/
theorem exists_reports_cons {rest : List Event} {siblings : List Element}
    (hrest : Reports rest siblings) : (e : Element) → ∃ events, Reports events (e :: siblings)
  | .node head children => by
    obtain ⟨inner, hinner⟩ := exists_reports children
    exact ⟨_, .cons head [] hinner hrest⟩

/-- Every list of trees can be reported. -/
theorem exists_reports : (es : List Element) → ∃ events, Reports events es
  | [] => ⟨[], .nil⟩
  | e :: es => by
    obtain ⟨rest, hrest⟩ := exists_reports es
    exact exists_reports_cons hrest e

end

/-! ### The effect of a stream -/

namespace Builder

/-- The open elements of a builder, innermost first, and its root. -/
def shape (b : Builder) : List OpenElement × Option Element :=
  (b.opened, b.root)

/-- What a finished element does: it becomes the last child of the innermost open element, or the
root if none is open. -/
def receive : List OpenElement × Option Element → Element → List OpenElement × Option Element
  | ([], _), e => ([], some e)
  | (inner :: outer, root), e => (⟨inner.head, e :: inner.children⟩ :: outer, root)

/-- Elements received inside an open one become its last children and change nothing else. -/
theorem foldl_receive_open (inner : OpenElement) (outer : List OpenElement) (root : Option Element)
    (es : List Element) :
    es.foldl receive (inner :: outer, root) =
      (⟨inner.head, es.reverse ++ inner.children⟩ :: outer, root) := by
  induction es generalizing inner with
  | nil => rfl
  | cons e es ih =>
    rw [List.foldl_cons, receive, ih, List.reverse_cons, List.append_assoc, List.singleton_append]

/-- Events in two parts have their effects one after the other. -/
theorem handleAll_append {b b' : Builder} {s : List Event} (h : b.handleAll s = .ok b')
    (t : List Event) : b.handleAll (s ++ t) = b'.handleAll t := by
  induction s generalizing b with
  | nil =>
    cases h
    rfl
  | cons event s ih =>
    rw [List.cons_append, handleAll]
    rw [handleAll] at h
    cases hevent : b.handle event with
    | ok b₁ =>
      rw [hevent] at h
      exact ih h
    | error e =>
      rw [hevent] at h
      cases h

/-- Binding a namespace touches neither elements nor the position. -/
theorem bind_frame (b : Builder) (qualifier uri : Option String) :
    (b.bind qualifier uri).shape = b.shape ∧ (b.bind qualifier uri).location = b.location := by
  cases qualifier <;> exact ⟨rfl, rfl⟩

/-- Any number of bindings is accepted, and touches neither elements nor the position. -/
theorem handleAll_bound (b : Builder) (bound : List (Option String × Option String)) :
    ∃ b', b.handleAll (bound.map bindEvent) = .ok b' ∧ b'.shape = b.shape ∧
      b'.location = b.location := by
  induction bound generalizing b with
  | nil => exact ⟨b, rfl, rfl, rfl⟩
  | cons binding bound ih =>
    obtain ⟨b', hb', hshape, hlocation⟩ := ih (b.bind binding.1 binding.2)
    obtain ⟨hshape₁, hlocation₁⟩ := bind_frame b binding.1 binding.2
    exact ⟨b', hb', hshape.trans hshape₁, hlocation.trans hlocation₁⟩

/-- The beginning of an element's stream opens it, at the position given there. -/
theorem handleAll_opening (b : Builder) (head : ElementHead)
    (bound : List (Option String × Option String)) :
    ∃ b', b.handleAll (.locate head.line (head.column - 1) :: bound.map bindEvent ++
        [.start ⟨head.uri, head.tag⟩ head.attributes]) = .ok b' ∧
      b'.shape = (⟨head, []⟩ :: b.opened, b.root) := by
  obtain ⟨b₁, hb₁, hshape, hlocation⟩ :=
    handleAll_bound { b with location := some (head.line, head.column - 1) } bound
  have hlocated : b.handleAll (.locate head.line (head.column - 1) :: bound.map bindEvent) =
      .ok b₁ := hb₁
  refine ⟨b₁.start ⟨head.uri, head.tag⟩ head.attributes, ?_, ?_⟩
  · rw [handleAll_append hlocated]; rfl
  · -- The column counts from zero in the event and from one in the element.
    have hposition : b₁.position = (head.line, head.column) := by
      rw [position, hlocation]
      simp
    obtain ⟨hopened, hroot⟩ := Prod.mk.inj hshape
    simp only [shape, start, hposition, hopened, hroot]

/-- The end of an element closes it, and the rest receives it. -/
theorem finish_shape {b : Builder} {inner : OpenElement} {outer : List OpenElement}
    {root : Option Element} (h : b.shape = (inner :: outer, root)) :
    ∃ b', b.finish = .ok b' ∧ b'.shape = receive (outer, root) inner.close := by
  obtain ⟨hopened, hroot⟩ := Prod.mk.inj h
  cases outer with
  | nil =>
    refine ⟨{ b with opened := [], root := some inner.close }, ?_, rfl⟩
    simp only [finish, hopened]
  | cons next outer =>
    refine ⟨{ b with opened := { next with children := inner.close :: next.children } :: outer },
      ?_, ?_⟩
    · simp only [finish, hopened]
    · rw [shape, hroot, receive]

/-- **A stream has the effect of receiving its trees.**  No event of it fails, in whatever state the
builder is. -/
theorem handleAll_reports {events : List Event} {es : List Element} (h : Reports events es)
    (b : Builder) :
    ∃ b', b.handleAll events = .ok b' ∧ b'.shape = es.foldl receive b.shape := by
  -- The induction is over the stream; the children of an element are received inside it.
  induction h generalizing b with
  | nil => exact ⟨b, rfl, rfl⟩
  | @cons inner rest children siblings head bound _ _ ihinner ihrest =>
    obtain ⟨b₁, hb₁, hshape₁⟩ := handleAll_opening b head bound
    obtain ⟨b₂, hb₂, hshape₂⟩ := ihinner b₁
    rw [hshape₁, foldl_receive_open, List.append_nil] at hshape₂
    obtain ⟨b₃, hb₃, hshape₃⟩ := finish_shape hshape₂
    rw [OpenElement.close, List.reverse_reverse] at hshape₃
    obtain ⟨b₄, hb₄, hshape₄⟩ := ihrest b₃
    refine ⟨b₄, ?_, ?_⟩
    · have hsplit : ∀ front : List Event,
          front ++ .start ⟨head.uri, head.tag⟩ head.attributes :: inner ++ .finish :: rest =
            (front ++ [.start ⟨head.uri, head.tag⟩ head.attributes]) ++ (inner ++ .finish :: rest) := by
        simp
      rw [hsplit, handleAll_append hb₁, handleAll_append hb₂, handleAll, handle, hb₃]
      exact hb₄
    · rw [hshape₄, hshape₃, List.foldl_cons, shape]

end Builder

/-! ### The starts of a stream -/

/-- What the starts of a stream say of their elements, in order; `location` is the line from one and
the column from zero that were reported last. -/
def startHeads (location : Option (Int × Int)) : List Event → List ElementHead
  | [] => []
  | .locate line column :: rest => startHeads (some (line, column)) rest
  | .bind _ _ :: rest => startHeads location rest
  | .start name attributes :: rest =>
    match location with
    | none => ⟨name.localName, name.uri, attributes, 1, 1⟩ :: startHeads location rest
    | some (line, column) =>
      ⟨name.localName, name.uri, attributes, line, column + 1⟩ :: startHeads location rest
  | .finish :: rest => startHeads location rest

/-- Bindings start nothing. -/
theorem startHeads_bound (location : Option (Int × Int))
    (bound : List (Option String × Option String)) (tail : List Event) :
    startHeads location (bound.map bindEvent ++ tail) = startHeads location tail := by
  induction bound with
  | nil => rfl
  | cons binding bound ih => rw [List.map_cons, List.cons_append, bindEvent, startHeads, ih]

/-- The starts of a stream are the elements of its trees, each before its children; what comes after
the stream depends on it by a location only. -/
theorem startHeads_reports {events : List Event} {es : List Element} (h : Reports events es)
    (location : Option (Int × Int)) (tail : List Event) :
    ∃ location', startHeads location (events ++ tail) =
      (Element.preorderAll es).map Element.head ++ startHeads location' tail := by
  induction h generalizing location tail with
  | nil => exact ⟨location, rfl⟩
  | @cons inner rest children siblings head bound _ _ ihinner ihrest =>
    obtain ⟨location₁, hinner⟩ :=
      ihinner (some (head.line, head.column - 1)) (.finish :: (rest ++ tail))
    obtain ⟨location₂, hrest⟩ := ihrest location₁ tail
    refine ⟨location₂, ?_⟩
    have hsplit : .locate head.line (head.column - 1) :: bound.map bindEvent ++
          .start ⟨head.uri, head.tag⟩ head.attributes :: inner ++ .finish :: rest ++ tail =
        .locate head.line (head.column - 1) :: (bound.map bindEvent ++
          .start ⟨head.uri, head.tag⟩ head.attributes :: (inner ++ .finish :: (rest ++ tail))) := by
      simp
    rw [hsplit, startHeads, startHeads_bound, startHeads, hinner, startHeads, hrest,
      Element.preorderAll, Element.preorder]
    simp [Element.head]

/-! ### The main statement -/

/-- **Builders rebuild trees.**  Every tree has streams that report it, and each of them is accepted
by every builder, whatever was fed to it before.  If an element is open, the innermost one gets the
tree as its last child and the others stay as they are; if none is open, the tree becomes the root.
So the document of the stream alone is the tree, and walking through it gives the elements in the
order of the starts. -/
theorem Builder.rebuilds (e : Element) :
    (∃ events, Reports events [e]) ∧
    ∀ events, Reports events [e] →
      (∀ b : Builder, ∃ b', b.handleAll events = .ok b' ∧
        (∀ inner outer, b.opened = inner :: outer →
          b'.opened = { inner with children := e :: inner.children } :: outer ∧
            b'.root = b.root) ∧
        (b.opened = [] → b'.opened = [] ∧ b'.root = some e)) ∧
      ∃ d, Document.ofEvents events = .ok d ∧ d.root = e ∧
        d.descendants = e.preorder ∧
        d.descendants.map Element.head = startHeads none events := by
  refine ⟨exists_reports [e], ?_⟩
  intro events h
  refine ⟨?_, ?_⟩
  · intro b
    obtain ⟨b', hb', hshape⟩ := handleAll_reports h b
    refine ⟨b', hb', ?_, ?_⟩
    · intro inner outer hopened
      rw [shape, shape, hopened] at hshape
      exact Prod.mk.inj hshape
    · intro hopened
      rw [shape, shape, hopened] at hshape
      exact Prod.mk.inj hshape
  · obtain ⟨b', hb', hshape⟩ := handleAll_reports h {}
    have hroot : b'.root = some e := congrArg Prod.snd hshape
    have hdescendants := Document.descendants_eq ⟨e, b'.rootNamespaces.getD []⟩
    refine ⟨⟨e, b'.rootNamespaces.getD []⟩, ?_, rfl, hdescendants, ?_⟩
    · simp only [Document.ofEvents, hb', document, hroot]
    · obtain ⟨location, hstarts⟩ := startHeads_reports h none []
      rw [List.append_nil, startHeads, List.append_nil, Element.preorderAll_singleton] at hstarts
      rw [hdescendants, hstarts]

/-- Inside an open element, with a namespace bound on the way: the child comes last. -/
theorem Builder.rebuilds_inside :
    let head (tag : String) : ElementHead := ⟨tag, none, [], 1, 1⟩
    let old : Element := .node (head "a") []
    let new : Element := .node (head "b") [.node (head "c") []]
    let events : List Event :=
      [.locate 1 0, .bind (some "p") (some "u"), .start ⟨none, "b"⟩ [],
        .locate 1 0, .start ⟨none, "c"⟩ [], .finish, .finish]
    ∃ b', Builder.handleAll { opened := [⟨head "r", [old]⟩] } events = .ok b' ∧
      b'.opened = [⟨head "r", [new, old]⟩] := by
  intro head old new events
  have hinner : Reports [.locate 1 0, .start ⟨none, "c"⟩ [], .finish] [.node (head "c") []] :=
    .cons (head "c") [] .nil .nil
  have hreports : Reports events [new] := .cons (head "b") [(some "p", some "u")] hinner .nil
  obtain ⟨b', hb', hopen, _⟩ :=
    ((Builder.rebuilds new).2 events hreports).1 { opened := [⟨head "r", [old]⟩] }
  exact ⟨b', hb', (hopen ⟨head "r", [old]⟩ [] rfl).1⟩

end AttrLint
