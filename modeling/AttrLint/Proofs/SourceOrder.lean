import Mathlib.Data.List.Chain
import AttrLint.Proofs.Building
import AttrLint.Proofs.Findings
import AttrLint.Proofs.Histories

namespace AttrLint

/-!
# Violations come in the order of the source

A reader reports elements in the order of their start tags, so the positions in force at the starts
increase.  A builder that gets them puts elements on a stack, takes them off again and hangs them
into each other, and a check walks through what comes of it.  None of this disturbs the order:

* `Before` — the order of the source, by lines and then by columns.
* `Builder.Listed` — what a builder holds, read from the outside in, is a part of the starts in their
  order; `Builder.listed_call` says that every call keeps this, and `Builder.listed_after` that every
  history does.
* `pairwise_idxOf` — requirements without repetitions stand at increasing indices.
* `violations_in_source_order` — the main statement.
-/

/-! ### Positions -/

/-- The order of the source: by lines, and by columns within a line. -/
def Before : Int × Int → Int × Int → Prop :=
  Prod.Lex (· < ·) (· < ·)

instance : DecidableRel Before :=
  inferInstanceAs (DecidableRel (Prod.Lex (· < ·) (· < ·)))

theorem before_iff (a b : Int × Int) : Before a b ↔ a.1 < b.1 ∨ a.1 = b.1 ∧ a.2 < b.2 :=
  Prod.lex_def

instance : Trans Before Before Before where
  trans {a b c} hab hbc := by
    rw [before_iff] at hab hbc ⊢
    omega

/-- The line and the column of an element's start tag. -/
def ElementHead.place (head : ElementHead) : Int × Int :=
  (head.line, head.column)

/-! ### What a builder holds -/

/-- An open element and the elements that have ended inside it, in the order of their starts. -/
def OpenElement.heads (e : OpenElement) : List ElementHead :=
  e.head :: (Element.preorderAll e.children.reverse).map Element.head

/-- A finished element lists what it listed while it was open. -/
theorem OpenElement.heads_close (e : OpenElement) :
    e.close.preorder.map Element.head = e.heads := by
  rw [OpenElement.close, Element.preorder, List.map_cons, Element.head, OpenElement.heads]

namespace Builder

/-- The open elements with what has ended inside them, from the outermost one inwards. -/
def heads (b : Builder) : List ElementHead :=
  b.opened.reverse.flatMap OpenElement.heads

/-- Says that what a builder holds, open or as its root, stands among `starts` in this order. -/
def Listed (b : Builder) (starts : List ElementHead) : Prop :=
  b.heads.Sublist starts ∧
    ∀ root, b.root = some root → (root.preorder.map Element.head).Sublist starts

/-- The event that a call tells the builder of. -/
def Call.event? : Call → Option Event
  | .event e => some e
  | .document => none

/-- What a call starts, at the position in force. -/
def started? (b : Builder) : Call → Option ElementHead
  | .event (.start name attributes) =>
    some ⟨name.localName, name.uri, attributes, b.position.1, b.position.2⟩
  | _ => none

/-- An element that starts comes after all that is held. -/
theorem heads_start (b : Builder) (name : ExpandedName) (attributes : List ExpandedName) :
    (b.start name attributes).heads =
      b.heads ++ [⟨name.localName, name.uri, attributes, b.position.1, b.position.2⟩] := by
  simp only [heads, start, List.reverse_cons, List.flatMap_append, List.flatMap_singleton]
  rfl

/-- An element that ends inside another one stays where it is listed. -/
theorem heads_finish {b : Builder} {e outer : OpenElement} {rest : List OpenElement}
    (h : b.opened = e :: outer :: rest) :
    ({ b with opened := { outer with children := e.close :: outer.children } :: rest } :
      Builder).heads = b.heads := by
  -- It was listed right after the children that the outer element has so far.
  have houter : ({ outer with children := e.close :: outer.children } : OpenElement).heads =
      outer.heads ++ e.heads := by
    simp only [OpenElement.heads, List.reverse_cons, Element.preorderAll_append,
      Element.preorderAll_singleton, List.map_append, OpenElement.heads_close, List.cons_append]
  simp only [heads, h, List.reverse_cons, List.flatMap_append, List.flatMap_singleton, houter,
    List.append_assoc]

/-- Every call keeps what is held in the order of the starts, the one it makes included. -/
theorem listed_call {b : Builder} {starts : List ElementHead} (h : b.Listed starts) (c : Call) :
    (b.call c).1.Listed (starts ++ (b.started? c).toList) := by
  obtain ⟨hopen, hroot⟩ := h
  match c with
  | .event (.locate line column) => exact (List.append_nil starts).symm ▸ ⟨hopen, hroot⟩
  | .event (.bind none uri) => exact (List.append_nil starts).symm ▸ ⟨hopen, hroot⟩
  | .event (.bind (some qualifier) uri) => exact (List.append_nil starts).symm ▸ ⟨hopen, hroot⟩
  | .event (.start name attributes) =>
    refine ⟨?_, ?_⟩
    · show (b.start name attributes).heads.Sublist _
      rw [heads_start]
      exact hopen.append (List.Sublist.refl _)
    · intro root hr
      exact (hroot root hr).trans (List.sublist_append_left _ _)
  | .event .finish =>
    have hnone : b.started? (.event .finish) = none := rfl
    rw [hnone, Option.toList_none, List.append_nil]
    match hopened : b.opened with
    | [] =>
      rw [call_finish_of_nil hopened]
      exact ⟨hopen, hroot⟩
    | [e] =>
      -- What was open becomes the root, and nothing is open any more.
      rw [call_finish_of_singleton hopened]
      have hheads : b.heads = e.heads := by simp [heads, hopened]
      refine ⟨List.nil_sublist _, ?_⟩
      rintro root ⟨⟩
      rw [OpenElement.heads_close, ← hheads]
      exact hopen
    | e :: outer :: rest =>
      rw [call_finish_of_cons hopened]
      refine ⟨?_, hroot⟩
      rw [heads_finish hopened]
      exact hopen
  | .document =>
    have hnone : b.started? .document = none := rfl
    rw [call_document_fst, hnone, Option.toList_none, List.append_nil]
    exact ⟨hopen, hroot⟩

/-- The starts of a history are what its calls start one after the other. -/
@[simp] theorem startHeads_cons (b : Builder) (c : Call) (calls : List Call) :
    startHeads b.location ((c :: calls).filterMap Call.event?) =
      (b.started? c).toList ++
        startHeads (b.call c).1.location (calls.filterMap Call.event?) := by
  cases c with
  | document =>
    rw [call_document_fst]
    rfl
  | event e =>
    cases e with
    | locate line column => rfl
    | bind qualifier uri => cases qualifier <;> rfl
    | start name attributes =>
      have hlocation : (b.call (.event (.start name attributes))).1.location = b.location := rfl
      have hevents : (Call.event (.start name attributes) :: calls).filterMap Call.event? =
          .start name attributes :: calls.filterMap Call.event? := rfl
      rw [hlocation, hevents, started?]
      cases hb : b.location with
      | none => simp [startHeads, position, hb]
      | some place => simp [startHeads, position, hb]
    | finish =>
      -- An end leaves the location alone, however many elements are open.
      have hlocation : (b.call (.event .finish)).1.location = b.location := by
        cases hopened : b.opened with
        | nil => rw [call_finish_of_nil hopened]
        | cons e rest =>
          cases rest with
          | nil => rw [call_finish_of_singleton hopened]
          | cons outer rest => rw [call_finish_of_cons hopened]
      rw [hlocation]
      rfl

/-- **No history disturbs the order of the starts.** -/
theorem listed_after {b : Builder} {starts : List ElementHead} (h : b.Listed starts)
    (calls : List Call) :
    (b.after calls).Listed (starts ++ startHeads b.location (calls.filterMap Call.event?)) := by
  induction calls generalizing b starts with
  | nil =>
    rw [List.filterMap_nil, startHeads, List.append_nil]
    exact h
  | cons c calls ih =>
    rw [after_cons, startHeads_cons, ← List.append_assoc]
    exact ih (listed_call h c)

/-- The elements of a document stand in the order of the starts it was built from. -/
theorem sublist_startHeads {history : List Call} {d : Document}
    (h : ((after {} history).call .document).2 = .document d) :
    (d.root.preorder.map Element.head).Sublist
      (startHeads none (history.filterMap Call.event?)) := by
  have hempty : ({} : Builder).Listed [] := by
    refine ⟨List.Sublist.refl _, ?_⟩
    intro root hroot
    cases hroot
  have hroot : (after {} history).root = some d.root := by
    cases hr : (after {} history).root with
    | none => simp [call, document, hr] at h
    | some root =>
      simp only [call, document, hr, Answer.document.injEq] at h
      rw [← h]
  have hlisted := (listed_after hempty history).2 d.root hroot
  rw [List.nil_append] at hlisted
  exact hlisted

end Builder

/-! ### The order of violations -/

/-- Where a violation belongs: its line, its column, and the index of its requirement among those of
its tag, without repetitions. -/
def Violation.rank (mapping : List (String × List String)) (v : Violation) : Int × Int × Nat :=
  (v.line, v.column, (firstOccurrences (requirementsFor mapping v.tag)).idxOf v.requirement)

/-- Says that the rank of a violation is lexicographically smaller than that of another one. -/
def Violation.Precedes (mapping : List (String × List String)) (v w : Violation) : Prop :=
  Prod.Lex (· < ·) (Prod.Lex (· < ·) (· < ·)) (v.rank mapping) (w.rank mapping)

/-- Members that are not repeated stand at increasing indices. -/
theorem pairwise_idxOf {l : List String} (h : l.Nodup) :
    l.Pairwise fun a b => l.idxOf a < l.idxOf b := by
  induction l with
  | nil => exact .nil
  | cons c l ih =>
    obtain ⟨hc, hl⟩ := List.nodup_cons.mp h
    -- Behind `c`, every index is one more than in the rest.
    have hindex : ∀ a ∈ l, (c :: l).idxOf a = l.idxOf a + 1 := by
      intro a ha
      have hne : (c == a) = false := by
        rw [beq_eq_false_iff_ne]
        rintro rfl
        exact hc ha
      rw [List.idxOf_cons, hne, cond_false]
    refine List.pairwise_cons.mpr ⟨?_, ?_⟩
    · intro a ha
      rw [hindex a ha, List.idxOf_cons_self]
      exact Nat.succ_pos _
    · refine (ih hl).imp_of_mem ?_
      intro a b ha hb hab
      rw [hindex a ha, hindex b hb]
      exact Nat.succ_lt_succ hab

section Violations

variable (mapping : List (String × List String)) (bindings : Bindings) (path : String)

/-- A violation of an element has the element's position and tag. -/
theorem mem_blockOf {head : ElementHead} {v : Violation}
    (h : v ∈ blockOf mapping bindings path head) : (v.line, v.column) = head.place := by
  obtain ⟨raw, _, rfl⟩ := List.mem_map.mp h
  rfl

/-- Violations of one element differ in their requirements, which come in order. -/
theorem pairwise_blockOf (head : ElementHead) :
    (blockOf mapping bindings path head).Pairwise (Violation.Precedes mapping) := by
  rw [blockOf, List.pairwise_map]
  have hindices := pairwise_idxOf (nodup_firstOccurrences (requirementsFor mapping head.tag))
  refine (List.Pairwise.filter _ hindices).imp ?_
  intro raw other hlt
  exact .right _ (.right _ hlt)

/-- Violations of an element come before those of one further on. -/
theorem precedes_of_before {head other : ElementHead} (h : Before head.place other.place)
    {v w : Violation} (hv : v ∈ blockOf mapping bindings path head)
    (hw : w ∈ blockOf mapping bindings path other) : v.Precedes mapping w := by
  rw [← mem_blockOf mapping bindings path hv, ← mem_blockOf mapping bindings path hw,
    before_iff] at h
  rw [Violation.Precedes, Prod.lex_def, Prod.lex_def]
  rcases h with hline | ⟨hline, hcolumn⟩
  · exact Or.inl hline
  · exact Or.inr ⟨hline, Or.inl hcolumn⟩

end Violations

/-- A violation does not precede itself. -/
theorem Violation.Precedes.ne {mapping : List (String × List String)} {v w : Violation}
    (h : v.Precedes mapping w) : v ≠ w := by
  rintro rfl
  rw [Violation.Precedes, Prod.lex_def, Prod.lex_def] at h
  omega

/-- **Violations come in the order of the source, and none comes twice.**  Take any history of calls
in which each start has a later position in force than the start before it, and after which the
document is there.  Then, whatever the rules are, the violations that a check finds in the document
increase strictly by line, column and the index of the requirement among those of the tag; so no two
of them are the same. -/
theorem violations_in_source_order (history : List Builder.Call) (d : Document)
    (mapping : List (String × List String)) (path : String)
    (hstarts : ((startHeads none (history.filterMap Builder.Call.event?)).map
      ElementHead.place).IsChain Before)
    (hdocument : ((Builder.after {} history).call .document).2 = .document d) :
    let found := checkDocument (RuleSet.ofMapping mapping) d path
    (∀ v ∈ found, v.requirement ∈ firstOccurrences (requirementsFor mapping v.tag)) ∧
    found.Pairwise (Violation.Precedes mapping) ∧ found.Nodup := by
  intro found
  have hfound : found = d.root.preorder.flatMap fun e =>
      blockOf mapping d.namespaces path e.head := checkDocument_eq_flatMap mapping d path
  -- The elements of the tree are among those that were started, in the same order.
  have hplaces : (d.root.preorder.map Element.head).Pairwise
      fun head other => Before head.place other.place := by
    have hpairwise := List.pairwise_map.mp hstarts.pairwise
    exact hpairwise.sublist (Builder.sublist_startHeads hdocument)
  have hordered : found.Pairwise (Violation.Precedes mapping) := by
    rw [hfound, List.pairwise_flatMap]
    refine ⟨fun e _ => pairwise_blockOf mapping d.namespaces path e.head, ?_⟩
    refine (List.pairwise_map.mp hplaces).imp ?_
    intro e other hbefore v hv w hw
    exact precedes_of_before mapping d.namespaces path hbefore hv hw
  refine ⟨?_, hordered, hordered.imp Violation.Precedes.ne⟩
  intro v hv
  rw [hfound] at hv
  obtain ⟨e, _, hblock⟩ := List.mem_flatMap.mp hv
  obtain ⟨raw, hraw, rfl⟩ := List.mem_map.mp hblock
  exact (List.mem_filter.mp hraw).1

/-- A stray end, a first root that a second one replaces, and two elements inside that one: what the
check finds is in order, with both requirements of a tag at one position. -/
theorem violations_in_source_order_second_root :
    let opening (tag : String) (line column : Int) : List Builder.Call :=
      [.event (.locate line column), .event (.start ⟨none, tag⟩ [])]
    let history : List Builder.Call := [.event .finish] ++ opening "a" 1 0 ++ [.event .finish] ++
      opening "a" 2 0 ++ opening "b" 2 3 ++ [.event .finish] ++ opening "a" 2 7 ++
      [.event .finish, .event .finish]
    let mapping := [("a", ["x", "y", "x"]), ("b", ["p:z"])]
    ∃ d, ((Builder.after {} history).call .document).2 = .document d ∧
      (checkDocument (RuleSet.ofMapping mapping) d "f").map (Violation.rank mapping) =
        [(2, 1, 0), (2, 1, 1), (2, 4, 0), (2, 8, 0), (2, 8, 1)] ∧
      (checkDocument (RuleSet.ofMapping mapping) d "f").Pairwise (Violation.Precedes mapping) := by
  intro opening history mapping
  let leaf (tag : String) (column : Int) : Element := .node ⟨tag, none, [], 2, column⟩ []
  let d : Document :=
    ⟨.node ⟨"a", none, [], 2, 1⟩ [leaf "b" 4, leaf "a" 8], Builder.implicitNamespaces⟩
  have hdocument : ((Builder.after {} history).call .document).2 = .document d := rfl
  have hordered := violations_in_source_order history d mapping "f" (by decide) hdocument
  exact ⟨d, hdocument, by decide +kernel, hordered.2.1⟩

end AttrLint
