import AttrLint.Proofs.Findings

namespace AttrLint

/-!
# Stricter rules and poorer documents hide no violation

A rule file may be extended, by requirements at the end of a tag's list and by further tags, and a
document may lose attributes.  Both can only add violations, and those that there were keep their
order.

* `Extends` — one mapping of tags to requirements extends another one.
* `PoorerTrees` — trees of the same shape, some of whose attributes are gone.
* `blockOf_sublist` — what an element violates, it violates under stricter rules and with fewer
  attributes.
* `stricter_check_sublist` — the main statement.
-/

/-! ### Stricter rules -/

/-- Says that every tag of `mapping` is a tag of `mapping'`, and that its requirements are the first
ones there. -/
def Extends (mapping' mapping : List (String × List String)) : Prop :=
  ∀ tag raws, (Entries.ofList mapping).lookup tag = some raws →
    ∃ raws', (Entries.ofList mapping').lookup tag = some raws' ∧ raws <+: raws'

/-- The requirements of every tag are the first ones under an extended mapping; a tag without a rule
has none. -/
theorem Extends.requirementsFor_prefix {mapping' mapping : List (String × List String)}
    (h : Extends mapping' mapping) (tag : String) :
    requirementsFor mapping tag <+: requirementsFor mapping' tag := by
  rw [requirementsFor, requirementsFor, ← Entries.lookup_ofList, ← Entries.lookup_ofList]
  cases hraws : (Entries.ofList mapping).lookup tag with
  | none =>
    rw [Option.getD_none]
    exact List.nil_prefix
  | some raws =>
    obtain ⟨raws', hraws', hprefix⟩ := h tag raws hraws
    rw [hraws', Option.getD_some, Option.getD_some]
    exact hprefix

/-- First occurrences stay what they are when something is added at the end. -/
theorem firstOccurrences_sublist {l l' : List String} (h : l <+: l') :
    (firstOccurrences l).Sublist (firstOccurrences l') := by
  obtain ⟨added, rfl⟩ := h
  rw [firstOccurrences_append]
  exact List.sublist_append_left _ _

/-! ### Poorer documents -/

/-- Says that an element has the tag and the position of another one, and no attribute that the other
does not have. -/
structure ElementHead.Poorer (head' head : ElementHead) : Prop where
  tag : head'.tag = head.tag
  line : head'.line = head.line
  column : head'.column = head.column
  attributes : head'.attributes ⊆ head.attributes

/-- Trees of the same shape side by side, each element of the first ones poorer than the
corresponding one of the second ones. -/
inductive PoorerTrees : List Element → List Element → Prop
  | nil : PoorerTrees [] []
  | cons {head' head : ElementHead} {children' children siblings' siblings : List Element}
      (hhead : head'.Poorer head) (hchildren : PoorerTrees children' children)
      (hsiblings : PoorerTrees siblings' siblings) :
      PoorerTrees (.node head' children' :: siblings') (.node head children :: siblings)

/-- Says that a document has the root bindings of another one and a poorer tree. -/
structure Document.Poorer (d' d : Document) : Prop where
  namespaces : ∀ qualifier, d'.namespaces.lookup qualifier = d.namespaces.lookup qualifier
  root : PoorerTrees [d'.root] [d.root]

/-- What a requirement asks for depends on the bindings only. -/
theorem wantedName_congr {bindings' bindings : Bindings}
    (h : ∀ qualifier, bindings'.lookup qualifier = bindings.lookup qualifier) (raw : String) :
    wantedName bindings' raw = wantedName bindings raw := by
  simp only [wantedName, h]

/-! ### Blocks and trees -/

/-- Where fewer attributes are there, more requirements are missed. -/
theorem missing_sublist {bindings' bindings : Bindings} {head' head : ElementHead}
    (hbindings : ∀ qualifier, bindings'.lookup qualifier = bindings.lookup qualifier)
    (hhead : head'.Poorer head) (raws : List String) :
    (raws.filter fun raw => wantedName bindings raw ∉ head.attributes).Sublist
      (raws.filter fun raw => wantedName bindings' raw ∉ head'.attributes) := by
  have hfilter : (raws.filter fun raw => wantedName bindings raw ∉ head.attributes) =
      (raws.filter fun raw => wantedName bindings' raw ∉ head'.attributes).filter
        fun raw => wantedName bindings raw ∉ head.attributes := by
    rw [List.filter_filter]
    apply List.filter_congr
    intro raw _
    have himp : wantedName bindings' raw ∈ head'.attributes →
        wantedName bindings raw ∈ head.attributes := by
      rw [wantedName_congr hbindings]
      exact fun hmem => hhead.attributes hmem
    by_cases hmem : wantedName bindings raw ∈ head.attributes
    · simp [hmem]
    · simp [hmem, mt himp hmem]
  rw [hfilter]
  exact List.filter_sublist

/-- What an element violates, it violates under stricter rules and with fewer attributes. -/
theorem blockOf_sublist {mapping' mapping : List (String × List String)}
    {bindings' bindings : Bindings} {head' head : ElementHead} (hrules : Extends mapping' mapping)
    (hbindings : ∀ qualifier, bindings'.lookup qualifier = bindings.lookup qualifier)
    (hhead : head'.Poorer head) (path : String) :
    (blockOf mapping bindings path head).Sublist (blockOf mapping' bindings' path head') := by
  have hraws := firstOccurrences_sublist (hrules.requirementsFor_prefix head.tag)
  rw [blockOf, blockOf, hhead.tag, hhead.line, hhead.column]
  apply List.Sublist.map
  -- Fewer attributes make more of the old requirements missed, and then there are the new ones.
  exact (missing_sublist hbindings hhead _).trans (hraws.filter _)

/-- Blocks that grow element by element grow over whole trees. -/
theorem PoorerTrees.findingsAll_sublist {block' block : ElementHead → List Violation}
    (hblock : ∀ head' head, head'.Poorer head → (block head).Sublist (block' head'))
    {es' es : List Element} (h : PoorerTrees es' es) :
    (Element.findingsAll block es).Sublist (Element.findingsAll block' es') := by
  induction h with
  | nil => exact List.Sublist.refl _
  | @cons head' head children' children siblings' siblings hhead _ _ ihchildren ihsiblings =>
    rw [Element.findingsAll, Element.findings, Element.findingsAll, Element.findings]
    exact ((hblock head' head hhead).append ihchildren).append ihsiblings

/-- **Stricter rules and poorer documents hide no violation.**  If a mapping is extended, and if a
document loses attributes but keeps its root bindings, shape, tags and positions, then the violations
of a check stay, in their order, and others may come between them.  So a failing verdict stays
failing. -/
theorem stricter_check_sublist (mapping' mapping : List (String × List String)) (d' d : Document)
    (path : String) (hrules : Extends mapping' mapping) (hdocument : d'.Poorer d) :
    let found := checkDocument (RuleSet.ofMapping mapping) d path
    let found' := checkDocument (RuleSet.ofMapping mapping') d' path
    found.Sublist found' ∧
      ∀ files broken, CheckResult.exitCode ⟨found, files, broken⟩ = 1 →
        CheckResult.exitCode ⟨found', files, broken⟩ = 1 := by
  intro found found'
  have hsublist : found.Sublist found' := by
    have htree := hdocument.root.findingsAll_sublist fun head' head hhead =>
      blockOf_sublist hrules hdocument.namespaces hhead path
    simp only [Element.findingsAll, List.append_nil] at htree
    show (checkDocument _ d path).Sublist (checkDocument _ d' path)
    rw [checkDocument_eq_flatMap, checkDocument_eq_flatMap, Element.flatMap_preorder,
      Element.flatMap_preorder]
    exact htree
  refine ⟨hsublist, ?_⟩
  intro files broken hfails
  have hsome : found ≠ [] := by
    intro hnone
    simp [CheckResult.exitCode, CheckResult.passed, hnone] at hfails
  have hsome' : found' ≠ [] := by
    intro hnone
    rw [hnone, List.sublist_nil] at hsublist
    exact hsome hsublist
  simp [CheckResult.exitCode, CheckResult.passed, hsome']

/-- A requirement that was there is repeated after the new one, another tag gets a rule in front, and
the only attribute is lost: the old violation stands between new ones. -/
theorem stricter_check_sublist_repeated :
    let tree (attributes : List ExpandedName) : Element :=
      .node ⟨"a", none, attributes, 1, 1⟩ [.node ⟨"b", some "u", [], 1, 4⟩ []]
    let d : Document := ⟨tree [⟨none, "x"⟩], []⟩
    let d' : Document := ⟨tree [], []⟩
    let mapping := [("a", ["x", "y", "x"])]
    let mapping' := [("b", ["z"]), ("a", ["x", "y", "x", "p:w", "y"])]
    let found := checkDocument (RuleSet.ofMapping mapping) d "f"
    let found' := checkDocument (RuleSet.ofMapping mapping') d' "f"
    found.map Violation.requirement = ["y"] ∧
      found'.map Violation.requirement = ["x", "y", "p:w", "z"] ∧ found.Sublist found' := by
  intro tree d d' mapping mapping' found found'
  have hrules : Extends mapping' mapping := by
    intro tag raws hraws
    by_cases htag : tag = "a"
    · subst htag
      have hold : (Entries.ofList mapping).lookup "a" = some ["x", "y", "x"] := by decide +kernel
      rw [hold, Option.some.injEq] at hraws
      subst hraws
      exact ⟨["x", "y", "x", "p:w", "y"], by decide +kernel, ["p:w", "y"], rfl⟩
    · have hnone : (tag == "a") = false := by simpa using htag
      simp [mapping, Entries.ofList, Entries.put, List.lookup_cons, hnone] at hraws
  have hdocument : d'.Poorer d := by
    refine ⟨fun _ => rfl, .cons ⟨rfl, rfl, rfl, List.nil_subset _⟩ (.cons ?_ .nil .nil) .nil⟩
    exact ⟨rfl, rfl, rfl, List.Subset.refl _⟩
  have hstricter := stricter_check_sublist mapping' mapping d' d "f" hrules hdocument
  exact ⟨by decide +kernel, by decide +kernel, hstricter.1⟩

end AttrLint
