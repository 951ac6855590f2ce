import AttrLint.Proofs.Findings

namespace AttrLint

/-!
# Qualifiers are only names

A requirement names a namespace by a qualifier that the document binds on its root.  Which text the
qualifier is makes no difference, as long as the requirements and the root change it alike and
different qualifiers stay different.

* `renameRequirement`, `renameMapping`, `renameBindings` — new qualifiers in requirements, in rules
  and on the root.
* `splitAtLastColon_renameRequirement` — a new qualifier stands before the last colon, even if it has
  colons itself.
* `renameRequirement_inj` — different requirements stay different.
* `wantedName_rename` — a renamed requirement asks for the same attribute as before.
* `check_renamed` — the main statement.
-/

/-! ### Dividing at the last colon -/

/-- A text without a colon is not divided. -/
theorem splitAtLastColon_of_not_mem {s : List Char} (h : ':' ∉ s) : splitAtLastColon s = none := by
  induction s with
  | nil => rfl
  | cons c cs ih =>
    obtain ⟨hc, hcs⟩ := not_or.mp (mt List.mem_cons.mpr h)
    rw [splitAtLastColon, ih hcs]
    exact if_neg (fun heq => hc heq.symm)

/-- A text is divided at a colon with no other colon after it. -/
theorem splitAtLastColon_append (before : List Char) {after : List Char} (h : ':' ∉ after) :
    splitAtLastColon (before ++ ':' :: after) = some (before, after) := by
  induction before with
  | nil => rw [List.nil_append, splitAtLastColon, splitAtLastColon_of_not_mem h, if_pos rfl]
  | cons c before ih => rw [List.cons_append, splitAtLastColon, ih]

/-- The qualifier of a requirement: the text before its last colon. -/
def qualifierOf (raw : String) : Option String :=
  (splitAtLastColon raw.toList).map fun parts => String.ofList parts.1

/-! ### New qualifiers -/

/-- A requirement with its qualifier, if it has one, renamed. -/
def renameRequirement (rename : String → String) (raw : String) : String :=
  match splitAtLastColon raw.toList with
  | none => raw
  | some (before, after) => rename (String.ofList before) ++ ":" ++ String.ofList after

/-- The rules with all qualifiers renamed. -/
def renameMapping (rename : String → String) (mapping : List (String × List String)) :
    List (String × List String) :=
  mapping.map fun (tag, raws) => (tag, raws.map (renameRequirement rename))

/-- The root bindings with all qualifiers renamed. -/
def renameBindings (rename : String → String) (bindings : Bindings) : Bindings :=
  bindings.map fun (qualifier, uri) => (rename qualifier, uri)

/-- A new qualifier stands before the last colon, whatever characters it has. -/
theorem splitAtLastColon_renameRequirement (rename : String → String) (raw : String) :
    splitAtLastColon (renameRequirement rename raw).toList =
      (splitAtLastColon raw.toList).map fun parts =>
        ((rename (String.ofList parts.1)).toList, parts.2) := by
  cases hsplit : splitAtLastColon raw.toList with
  | none => simp only [renameRequirement, hsplit, Option.map_none]
  | some parts =>
    obtain ⟨before, after⟩ := parts
    obtain ⟨_, hafter⟩ := splitAtLastColon_eq_some hsplit
    have htext : (renameRequirement rename raw).toList =
        (rename (String.ofList before)).toList ++ ':' :: after := by
      simp [renameRequirement, hsplit]
    rw [htext, splitAtLastColon_append _ hafter, Option.map_some]

/-- A requirement is what it is divided into. -/
theorem eq_of_splitAtLastColon {raw other : String} {parts : List Char × List Char}
    (h : splitAtLastColon raw.toList = some parts)
    (hother : splitAtLastColon other.toList = some parts) : raw = other := by
  obtain ⟨hraw, _⟩ := splitAtLastColon_eq_some h
  obtain ⟨hraw', _⟩ := splitAtLastColon_eq_some hother
  exact String.toList_inj.mp (hraw.trans hraw'.symm)

/-- Says that different qualifiers that are bound get different names. -/
def KeepsApart (rename : String → String) (bindings : Bindings) : Prop :=
  ∀ p q, (bindings.lookup p).isSome → (bindings.lookup q).isSome → rename p = rename q → p = q

/-- Says that the qualifier of a requirement, if it has one, is bound. -/
def Covers (bindings : Bindings) (raw : String) : Prop :=
  ∀ qualifier, qualifierOf raw = some qualifier → (bindings.lookup qualifier).isSome

section Renaming

variable {rename : String → String} {bindings : Bindings} (happart : KeepsApart rename bindings)

include happart

/-- Different requirements stay different, if their qualifiers are bound. -/
theorem renameRequirement_inj {raw other : String} (hraw : Covers bindings raw)
    (hother : Covers bindings other)
    (h : renameRequirement rename raw = renameRequirement rename other) : raw = other := by
  have hsplits := congrArg (fun text : String => splitAtLastColon text.toList) h
  simp only [splitAtLastColon_renameRequirement] at hsplits
  cases hsplit : splitAtLastColon raw.toList with
  | none =>
    cases hsplit' : splitAtLastColon other.toList with
    | none => simpa only [renameRequirement, hsplit, hsplit'] using h
    | some parts' =>
      rw [hsplit, hsplit'] at hsplits
      cases hsplits
  | some parts =>
    cases hsplit' : splitAtLastColon other.toList with
    | none =>
      rw [hsplit, hsplit'] at hsplits
      cases hsplits
    | some parts' =>
      -- The parts after the colon are the same, and so are the new qualifiers.
      obtain ⟨before, after⟩ := parts
      obtain ⟨before', after'⟩ := parts'
      rw [hsplit, hsplit', Option.map_some, Option.map_some, Option.some.injEq, Prod.mk.injEq,
        String.toList_inj] at hsplits
      obtain ⟨hrename, rfl⟩ := hsplits
      have hbound := hraw (String.ofList before) (by rw [qualifierOf, hsplit, Option.map_some])
      have hbound' := hother (String.ofList before') (by rw [qualifierOf, hsplit', Option.map_some])
      have hbefore := congrArg String.toList (happart _ _ hbound hbound' hrename)
      rw [String.toList_ofList, String.toList_ofList] at hbefore
      subst hbefore
      exact eq_of_splitAtLastColon hsplit hsplit'

/-- A qualifier that is bound is bound to the same namespace under its new name. -/
theorem lookup_renameBindings {qualifier : String} (hbound : (bindings.lookup qualifier).isSome) :
    (renameBindings rename bindings).lookup (rename qualifier) = bindings.lookup qualifier := by
  apply Entries.lookup_map_keys
  intro entry hentry hrename
  have hkey : (bindings.lookup entry.1).isSome :=
    List.lookup_isSome_iff.mpr ⟨entry, hentry, beq_self_eq_true entry.1⟩
  exact happart entry.1 qualifier hkey hbound hrename

/-- A renamed requirement asks for the same attribute as before. -/
theorem wantedName_rename {raw : String} (hraw : Covers bindings raw) :
    wantedName (renameBindings rename bindings) (renameRequirement rename raw) =
      wantedName bindings raw := by
  cases hsplit : splitAtLastColon raw.toList with
  | none => simp only [wantedName, hsplit, renameRequirement]
  | some parts =>
    obtain ⟨before, after⟩ := parts
    have hsplit' := splitAtLastColon_renameRequirement rename raw
    rw [hsplit, Option.map_some] at hsplit'
    have hbound := hraw (String.ofList before) (by rw [qualifierOf, hsplit, Option.map_some])
    obtain ⟨uri, huri⟩ := Option.isSome_iff_exists.mp hbound
    have huri' := (lookup_renameBindings happart hbound).trans huri
    simp only [wantedName, hsplit, hsplit', String.ofList_toList, huri, huri']

end Renaming

/-! ### Rules and documents -/

/-- The requirements of a tag, renamed. -/
theorem requirementsFor_renameMapping (rename : String → String)
    (mapping : List (String × List String)) (tag : String) :
    requirementsFor (renameMapping rename mapping) tag =
      (requirementsFor mapping tag).map (renameRequirement rename) := by
  rw [requirementsFor, requirementsFor, renameMapping, ← List.map_reverse, Entries.lookup_map]
  cases mapping.reverse.lookup tag <;> rfl

/-- An element violates the renamed requirements that it violated before. -/
theorem blockOf_rename {rename : String → String} {bindings : Bindings}
    (happart : KeepsApart rename bindings) {mapping : List (String × List String)}
    {head : ElementHead} (hcovers : ∀ raw ∈ requirementsFor mapping head.tag, Covers bindings raw)
    (path : String) :
    blockOf (renameMapping rename mapping) (renameBindings rename bindings) path head =
      (blockOf mapping bindings path head).map fun v =>
        { v with requirement := renameRequirement rename v.requirement } := by
  -- Repeated requirements are those that were repeated before.
  have hfirst : firstOccurrences ((requirementsFor mapping head.tag).map
      (renameRequirement rename)) =
      (firstOccurrences (requirementsFor mapping head.tag)).map (renameRequirement rename) :=
    firstOccurrences_map fun raw hraw other hother =>
      renameRequirement_inj happart (hcovers raw hraw) (hcovers other hother)
  -- Renamed or not, the same requirements are missed.
  have hmissed : ((firstOccurrences (requirementsFor mapping head.tag)).filter
      ((fun raw => decide (wantedName (renameBindings rename bindings) raw ∉ head.attributes)) ∘
        renameRequirement rename)) =
      (firstOccurrences (requirementsFor mapping head.tag)).filter
        fun raw => wantedName bindings raw ∉ head.attributes := by
    apply List.filter_congr
    intro raw hraw
    rw [Function.comp_apply,
      wantedName_rename happart (hcovers raw (mem_firstOccurrences.mp hraw))]
  rw [blockOf, blockOf, requirementsFor_renameMapping, hfirst, List.filter_map, hmissed,
    List.map_map, List.map_map]
  rfl

/-- **Qualifiers are only names.**  Take rules all of whose qualifiers are bound on the root of a
document, and new names for qualifiers that keep the bound ones apart.  If the requirements and the
root bindings are renamed alike, a check finds the same violations at the same places, with their
requirements renamed. -/
theorem check_renamed (rename : String → String) (mapping : List (String × List String))
    (d : Document) (path : String)
    (hcovers : ∀ tag, ∀ raw ∈ requirementsFor mapping tag, Covers d.namespaces raw)
    (happart : KeepsApart rename d.namespaces) :
    checkDocument (RuleSet.ofMapping (renameMapping rename mapping))
        { d with namespaces := renameBindings rename d.namespaces } path =
      (checkDocument (RuleSet.ofMapping mapping) d path).map fun v =>
        { v with requirement := renameRequirement rename v.requirement } := by
  rw [checkDocument_eq_flatMap, checkDocument_eq_flatMap, List.map_flatMap]
  congr 1
  funext e
  exact blockOf_rename happart (hcovers e.head.tag) path

/-- One of two qualifiers takes the name of the other one, which gets a name with a colon: the
requirement that was missed is still missed, and so is the one without a qualifier. -/
theorem check_renamed_taken :
    let rename (qualifier : String) : String := if qualifier = "p" then "q" else "p:r"
    let mapping := [("a", ["p:x", "q:x", "y"])]
    let d : Document :=
      ⟨.node ⟨"a", none, [⟨some "u", "x"⟩], 1, 1⟩ [], [("p", some "u"), ("q", some "v")]⟩
    (checkDocument (RuleSet.ofMapping mapping) d "f").map Violation.requirement = ["q:x", "y"] ∧
      (checkDocument (RuleSet.ofMapping (renameMapping rename mapping))
        { d with namespaces := renameBindings rename d.namespaces } "f").map Violation.requirement =
          ["p:r:x", "y"] := by
  intro rename mapping d
  have hfound : (checkDocument (RuleSet.ofMapping mapping) d "f").map Violation.requirement =
      ["q:x", "y"] := by decide +kernel
  have hkeys : ∀ key, (d.namespaces.lookup key).isSome → key = "p" ∨ key = "q" := by
    intro key hkey
    obtain ⟨entry, hentry, heq⟩ := List.lookup_isSome_iff.mp hkey
    rcases List.mem_cons.mp hentry with rfl | hentry
    · exact Or.inl (eq_of_beq heq)
    · rw [List.mem_singleton.mp hentry] at heq
      exact Or.inr (eq_of_beq heq)
  have happart : KeepsApart rename d.namespaces := by
    intro p q hp hq hrename
    rcases hkeys p hp with rfl | rfl <;> rcases hkeys q hq with rfl | rfl
    · rfl
    · exact absurd hrename (by decide)
    · exact absurd hrename (by decide)
    · rfl
  have hcovers : ∀ tag, ∀ raw ∈ requirementsFor mapping tag, Covers d.namespaces raw := by
    intro tag raw hraw qualifier hqualifier
    have hmem : raw ∈ ["p:x", "q:x", "y"] := by
      by_cases htag : tag = "a"
      · subst htag
        exact hraw
      · have hne : (tag == "a") = false := by simpa using htag
        simp [requirementsFor, mapping, List.lookup_cons, hne] at hraw
    have hall : ∀ raw ∈ ["p:x", "q:x", "y"], ∀ qualifier ∈ qualifierOf raw,
        (d.namespaces.lookup qualifier).isSome := by decide +kernel
    exact hall raw hmem qualifier hqualifier
  refine ⟨hfound, ?_⟩
  rw [check_renamed rename mapping d "f" hcovers happart, List.map_map]
  have hrename := congrArg (List.map (renameRequirement rename)) hfound
  rw [List.map_map] at hrename
  exact hrename.trans (by decide +kernel)

end AttrLint
