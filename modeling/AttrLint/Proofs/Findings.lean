import AttrLint.Proofs.Requirement
import AttrLint.Proofs.Traversal
import AttrLint.Violation

namespace AttrLint

/-!
# What a check finds

A check resolves all rules for the document at hand, walks through the document with a stack, and
looks up each element's tag in the resolved rules.  What it finds can be said without any of these
stages, element by element:

* `blockOf` — the violations of one element, straight from the mapping of tags to requirements as
  they are written.
* `Element.findings` — the blocks of a tree: the element's own, then those of its children.
* `checkDocument_eq_findings` — a check finds exactly these, in this order.
-/

/-- The requirements that a mapping gives to a tag: those of the last pair for it, or none. -/
def requirementsFor (mapping : List (String × List String)) (tag : String) : List String :=
  (mapping.reverse.lookup tag).getD []

/-- The violations of an element: one for each requirement of its tag, without repetitions, that
asks for an attribute the element does not have. -/
def blockOf (mapping : List (String × List String)) (bindings : Bindings) (path : String)
    (head : ElementHead) : List Violation :=
  let raws := firstOccurrences (requirementsFor mapping head.tag)
  let missing := raws.filter fun raw => wantedName bindings raw ∉ head.attributes
  missing.map fun raw => ⟨path, head.line, head.column, head.tag, raw⟩

namespace Element

mutual

/-- The blocks of a tree: first the element's own, then those of its children in order. -/
def findings (block : ElementHead → List Violation) : Element → List Violation
  | .node head children => block head ++ findingsAll block children

/-- The blocks of several trees, one after the other. -/
def findingsAll (block : ElementHead → List Violation) : List Element → List Violation
  | [] => []
  | e :: es => e.findings block ++ findingsAll block es

end

mutual

/-- Going through the listing of a tree block by block is the recursion on the tree. -/
theorem flatMap_preorder (block : ElementHead → List Violation) :
    (e : Element) → (e.preorder.flatMap fun e => block e.head) = e.findings block
  | .node head children => by
    rw [preorder, List.flatMap_cons, flatMap_preorderAll block children, findings, Element.head]

/-- The same for several trees. -/
theorem flatMap_preorderAll (block : ElementHead → List Violation) :
    (es : List Element) → ((preorderAll es).flatMap fun e => block e.head) = findingsAll block es
  | [] => rfl
  | e :: es => by
    rw [preorderAll, List.flatMap_append, flatMap_preorder block e, flatMap_preorderAll block es,
      findingsAll]

end

end Element

/-! ### The stages of a check -/

/-- The resolved rules of a tag are its requirements without repetitions, each with the attribute it
asks for. -/
theorem RuleSet.lookup_resolve (mapping : List (String × List String)) (bindings : Bindings)
    (tag : String) :
    (((RuleSet.ofMapping mapping).resolve bindings).lookup tag).getD [] =
      (firstOccurrences (requirementsFor mapping tag)).map fun raw =>
        ⟨wantedName bindings raw, raw⟩ := by
  rw [RuleSet.resolve, Entries.lookup_map, RuleSet.ofMapping, Entries.lookup_map,
    Entries.lookup_ofList, requirementsFor]
  cases mapping.reverse.lookup tag with
  | none => rfl
  | some raws =>
    -- Parsing and resolving both go requirement by requirement, and keep the order.
    rw [Option.map_some, Option.map_some, Option.getD_some, Option.getD_some,
      RuleSet.requirements, eraseDups_eq_firstOccurrences, List.map_map]
    apply List.map_congr_left
    intro raw _
    exact Requirement.resolve_parse bindings raw

/-- Under the resolved rules of a mapping, an element's violations are its block. -/
theorem violationsOf_resolve (mapping : List (String × List String)) (bindings : Bindings)
    (path : String) (e : Element) :
    violationsOf ((RuleSet.ofMapping mapping).resolve bindings) path e =
      blockOf mapping bindings path e.head := by
  rw [violationsOf, RuleSet.lookup_resolve, blockOf, List.filter_map, List.map_map]
  congr 1
  apply List.filter_congr
  intro raw _
  simp [Element.hasAttribute]

/-- A check goes through the listing of the document block by block. -/
theorem checkDocument_eq_flatMap (mapping : List (String × List String)) (d : Document)
    (path : String) :
    checkDocument (RuleSet.ofMapping mapping) d path =
      d.root.preorder.flatMap fun e => blockOf mapping d.namespaces path e.head := by
  rw [checkDocument, findViolations, Document.descendants_eq]
  congr 1
  funext e
  exact violationsOf_resolve mapping d.namespaces path e

/-- **A check finds exactly the blocks of the tree.**  For every mapping, document and path, the
violations of a check are the block of the root followed by those of its children from left to
right, and so on down the tree: nothing is missed, invented, repeated or reordered. -/
theorem checkDocument_eq_findings (mapping : List (String × List String)) (d : Document)
    (path : String) :
    checkDocument (RuleSet.ofMapping mapping) d path =
      d.root.findings (blockOf mapping d.namespaces path) := by
  rw [checkDocument_eq_flatMap, Element.flatMap_preorder]

end AttrLint
