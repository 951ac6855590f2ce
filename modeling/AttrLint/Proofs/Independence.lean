import Mathlib.Data.List.Forall2
import AttrLint.Proofs.Findings

namespace AttrLint

/-!
# Rules of different tags are independent

A check looks up one tag at a time, so the rule of one tag says nothing about elements of another
one.  The order of the tags in a mapping, the rules of other tags, and repetitions inside a rule all
leave what an element violates as it is.

* `Entries.lookup_perm` — without repeated keys, the order of the entries does not matter.
* `Entries.lookup_filter` — entries that are taken out by their keys take nothing else with them.
* `Copies` — a list with further copies of its members, each after the first one.
* `rules_independent` — the main statement.
-/

/-! ### Look-ups -/

namespace Entries

variable {α β : Type} [BEq α] [LawfulBEq α]

/-- Without repeated keys, the order of the entries does not matter. -/
theorem lookup_perm {entries' entries : List (α × β)} (h : (entries.map Prod.fst).Nodup)
    (hperm : entries'.Perm entries) (key : α) : entries'.lookup key = entries.lookup key := by
  have h' : (entries'.map Prod.fst).Nodup := (hperm.map Prod.fst).nodup_iff.mpr h
  apply Option.ext
  intro value
  rw [lookup_eq_some_iff h', lookup_eq_some_iff h, hperm.mem_iff]

/-- Where entries are taken out by their keys, the keys that stay keep their values. -/
theorem lookup_filter (stays : α → Prop) [DecidablePred stays] (entries : List (α × β)) (key : α) :
    (entries.filter fun entry => stays entry.1).lookup key =
      if stays key then entries.lookup key else none := by
  induction entries with
  | nil => simp
  | cons entry rest ih =>
    obtain ⟨k, v⟩ := entry
    by_cases hkey : key = k
    · subst hkey
      by_cases hstays : stays key
      · simp [hstays]
      · simp [hstays, ih]
    · have hne : (key == k) = false := by simpa using hkey
      by_cases hstays : stays k <;> simp [hstays, ih, List.lookup_cons, hne]

end Entries

/-! ### Copies -/

/-- Says that the second list is the first one with further copies of members in it, each somewhere
behind the first occurrence of the member; `before` holds what stands before both lists. -/
inductive Copies : List String → List String → List String → Prop
  | nil (before : List String) : Copies before [] []
  | keep {before raws raws' : List String} (raw : String) (h : Copies (raw :: before) raws raws') :
      Copies before (raw :: raws) (raw :: raws')
  | copy {before raws raws' : List String} {raw : String} (hraw : raw ∈ before)
      (h : Copies before raws raws') : Copies before raws (raw :: raws')

/-- Copies are no first occurrences, apart from what stands before the lists. -/
theorem Copies.filter_firstOccurrences {before raws raws' : List String}
    (h : Copies before raws raws') :
    ((firstOccurrences raws').filter fun raw => raw ∉ before) =
      (firstOccurrences raws).filter fun raw => raw ∉ before := by
  -- To be neither `raw` nor in `before` is not to be in `raw :: before`.
  have hskip : ∀ (raw : String) (before l : List String),
      ((l.filter fun other => other ≠ raw).filter fun other => other ∉ before) =
        l.filter fun other => other ∉ raw :: before := by
    intro raw before l
    rw [List.filter_filter]
    apply List.filter_congr
    intro other _
    simp [Bool.and_comm]
  induction h with
  | nil before => rfl
  | @keep before raws raws' raw _ ih =>
    rw [firstOccurrences, firstOccurrences, List.filter_cons, List.filter_cons, hskip, hskip, ih]
  | @copy before raws raws' raw hraw _ ih =>
    have hsame : ∀ other, other ∉ raw :: before ↔ other ∉ before := by
      intro other
      rw [List.mem_cons, not_or, and_iff_right_iff_imp]
      rintro hother rfl
      exact hother hraw
    rw [firstOccurrences, List.filter_cons_of_neg (by simpa using hraw), hskip, ← ih]
    simp only [hsame]

/-- A list with further copies has the same first occurrences. -/
theorem Copies.firstOccurrences_eq {raws raws' : List String} (h : Copies [] raws raws') :
    firstOccurrences raws' = firstOccurrences raws := by
  have hfilter := h.filter_firstOccurrences
  simpa using hfilter

/-- Says that a mapping is another one with further copies in its tags' lists. -/
def AddsCopies (mapping' mapping : List (String × List String)) : Prop :=
  List.Forall₂ (fun rule' rule => rule'.1 = rule.1 ∧ Copies [] rule.2 rule'.2) mapping' mapping

/-- Every tag keeps the first occurrences of its requirements when copies are added. -/
theorem AddsCopies.firstOccurrences_eq {mapping' mapping : List (String × List String)}
    (h : AddsCopies mapping' mapping) (tag : String) :
    firstOccurrences (requirementsFor mapping' tag) =
      firstOccurrences (requirementsFor mapping tag) := by
  have hback := List.forall₂_reverse_iff.mpr h
  unfold requirementsFor
  generalize mapping'.reverse = back' at hback
  generalize mapping.reverse = back at hback
  induction hback with
  | nil => rfl
  | @cons rule' rule back' back hrule _ ih =>
    obtain ⟨htag, hcopies⟩ := hrule
    rw [List.lookup_cons, List.lookup_cons, htag]
    by_cases hsame : (tag == rule.1) = true
    · rw [hsame]
      exact hcopies.firstOccurrences_eq
    · rw [Bool.not_eq_true] at hsame
      rw [hsame]
      exact ih

/-! ### Checks -/

/-- What an element violates depends on the first occurrences of its own tag's requirements only. -/
theorem blockOf_congr {mapping' mapping : List (String × List String)} {head : ElementHead}
    (h : firstOccurrences (requirementsFor mapping' head.tag) =
      firstOccurrences (requirementsFor mapping head.tag)) (bindings : Bindings) (path : String) :
    blockOf mapping' bindings path head = blockOf mapping bindings path head := by
  rw [blockOf, blockOf, h]

/-- Mappings with the same first occurrences for every tag lead to the same violations. -/
theorem checkDocument_congr {mapping' mapping : List (String × List String)}
    (h : ∀ tag, firstOccurrences (requirementsFor mapping' tag) =
      firstOccurrences (requirementsFor mapping tag)) (d : Document) (path : String) :
    checkDocument (RuleSet.ofMapping mapping') d path =
      checkDocument (RuleSet.ofMapping mapping) d path := by
  rw [checkDocument_eq_flatMap, checkDocument_eq_flatMap]
  congr 1
  funext e
  exact blockOf_congr (h e.head.tag) d.namespaces path

/-- Under the rules of some tags, the elements of these tags violate what they violate under all
rules, and the others nothing. -/
theorem blockOf_filter (tags : String → Prop) [DecidablePred tags]
    (mapping : List (String × List String)) (bindings : Bindings) (path : String)
    (head : ElementHead) :
    blockOf (mapping.filter fun rule => tags rule.1) bindings path head =
      (blockOf mapping bindings path head).filter fun v => tags v.tag := by
  have hlookup : requirementsFor (mapping.filter fun rule => tags rule.1) head.tag =
      if tags head.tag then requirementsFor mapping head.tag else [] := by
    rw [requirementsFor, ← List.filter_reverse, Entries.lookup_filter, requirementsFor]
    split <;> rfl
  by_cases htag : tags head.tag
  · rw [if_pos htag] at hlookup
    rw [blockOf_congr (congrArg firstOccurrences hlookup), eq_comm, List.filter_eq_self]
    -- All violations of the element carry its tag.
    intro v hv
    obtain ⟨raw, _, rfl⟩ := List.mem_map.mp hv
    simpa using htag
  · rw [if_neg htag] at hlookup
    have hnone : blockOf (mapping.filter fun rule => tags rule.1) bindings path head = [] := by
      rw [blockOf, hlookup]
      rfl
    rw [hnone, eq_comm, List.filter_eq_nil_iff]
    intro v hv
    obtain ⟨raw, _, rfl⟩ := List.mem_map.mp hv
    simpa using htag

/-- **Rules of different tags are independent.**  For every mapping of tags to requirements,
document and path: the tags may be listed in any order; a check with the rules of some tags finds
exactly what a check with all rules finds for these tags, in the same order; and further copies of
requirements behind their first occurrences change nothing. -/
theorem rules_independent (mapping : List (String × List String)) (d : Document) (path : String) :
    let found (mapping : List (String × List String)) : List Violation :=
      checkDocument (RuleSet.ofMapping mapping) d path
    ((mapping.map Prod.fst).Nodup →
        ∀ mapping', mapping'.Perm mapping → found mapping' = found mapping) ∧
      (∀ (tags : String → Prop) [DecidablePred tags],
        found (mapping.filter fun rule => tags rule.1) =
          (found mapping).filter fun v => tags v.tag) ∧
      ∀ mapping', AddsCopies mapping' mapping → found mapping' = found mapping := by
  intro found
  refine ⟨?_, ?_, ?_⟩
  · intro hkeys mapping' hperm
    apply checkDocument_congr
    intro tag
    -- No tag is repeated, so it does not matter from which end a look-up starts.
    have hback : mapping'.reverse.Perm mapping := (List.reverse_perm mapping').trans hperm
    rw [requirementsFor, requirementsFor, Entries.lookup_perm hkeys hback,
      Entries.lookup_reverse hkeys]
  · intro tags _
    show checkDocument _ d path = (checkDocument _ d path).filter _
    rw [checkDocument_eq_flatMap, checkDocument_eq_flatMap, List.filter_flatMap]
    congr 1
    funext e
    exact blockOf_filter tags mapping d.namespaces path e.head
  · intro mapping' hcopies
    exact checkDocument_congr hcopies.firstOccurrences_eq d path

/-- Three tags, one of them without a rule, nested in each other: the rules in another order, and a
rule with copies of both of its requirements, find the same four violations. -/
theorem rules_independent_nested :
    let d : Document :=
      ⟨.node ⟨"a", none, [], 1, 1⟩ [.node ⟨"b", some "u", [⟨none, "x"⟩], 1, 4⟩
        [.node ⟨"c", none, [], 1, 9⟩ [.node ⟨"a", none, [⟨none, "y"⟩], 2, 1⟩ []]]], []⟩
    let mapping := [("a", ["x", "y"]), ("b", ["x", "p:z"])]
    let reordered := [("b", ["x", "p:z"]), ("a", ["x", "y"])]
    let copied := [("a", ["x", "x", "y", "x", "y"]), ("b", ["x", "p:z"])]
    let found (mapping : List (String × List String)) : List Violation :=
      checkDocument (RuleSet.ofMapping mapping) d "f"
    (found mapping).map Violation.requirement = ["x", "y", "p:z", "x"] ∧
      found reordered = found mapping ∧ found copied = found mapping := by
  intro d mapping reordered copied found
  obtain ⟨horder, -, hcopies⟩ := rules_independent mapping d "f"
  refine ⟨by decide +kernel, horder (by decide) reordered (List.Perm.swap _ _ _), hcopies copied ?_⟩
  refine .cons ⟨rfl, ?_⟩ (.cons ⟨rfl, .keep "x" (.keep "p:z" (.nil _))⟩ .nil)
  exact .keep "x" (.copy (by decide) (.keep "y" (.copy (by decide) (.copy (by decide) (.nil _)))))

end AttrLint
