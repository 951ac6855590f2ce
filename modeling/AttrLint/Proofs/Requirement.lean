import AttrLint.Requirement

namespace AttrLint

/-!
# What a written requirement asks for

The library divides a requirement by searching its text from the end, and removes repeated
requirements with a list of those seen.  Both have a description by plain recursion from the front,
and this file proves that they agree with it:

* `splitAtLastColon` — the two parts around the last colon; `Requirement.parse_eq` says that parsing
  is this division.
* `Requirement.written` — the way back from the parts to the text; `Requirement.parse_written` and
  `Requirement.written_parse` say that neither way loses anything, and
  `Requirement.parse_splits_uniquely` that the parts are the only ones.
* `wantedName` — the attribute that a requirement asks for; `Requirement.resolve_parse` says that
  parsing and then resolving finds it.
* `firstOccurrences` — a list without its repetitions; `eraseDups_eq_firstOccurrences`,
  `firstOccurrences_append`, `firstOccurrences_map`.
-/

/-! ### The last colon -/

/-- What stands before and after the last colon of a text, if it has one. -/
def splitAtLastColon : List Char → Option (List Char × List Char)
  | [] => none
  | c :: cs =>
    match splitAtLastColon cs with
    | some (before, after) => some (c :: before, after)
    | none => if c = ':' then some ([], cs) else none

/-- Only a text without a colon cannot be divided. -/
theorem splitAtLastColon_eq_none {s : List Char} (h : splitAtLastColon s = none) : ':' ∉ s := by
  induction s with
  | nil => exact List.not_mem_nil
  | cons c cs ih =>
    rw [splitAtLastColon] at h
    split at h
    · cases h
    · rename_i hcs
      split at h
      · cases h
      · rename_i hc
        rw [List.mem_cons, not_or]
        exact ⟨fun heq => hc heq.symm, ih hcs⟩

/-- The two parts give the text back, and the second has no colon. -/
theorem splitAtLastColon_eq_some {s before after : List Char}
    (h : splitAtLastColon s = some (before, after)) :
    s = before ++ ':' :: after ∧ ':' ∉ after := by
  induction s generalizing before after with
  | nil => cases h
  | cons c cs ih =>
    rw [splitAtLastColon] at h
    split at h
    · rename_i before' after' hcs
      cases h
      obtain ⟨heq, hno⟩ := ih hcs
      exact ⟨by rw [heq, List.cons_append], hno⟩
    · rename_i hcs
      split at h
      · rename_i hc
        cases h
        exact ⟨by rw [hc, List.nil_append], splitAtLastColon_eq_none hcs⟩
      · cases h

namespace Requirement

/-- Searching from the end passes over everything that is not a colon. -/
private theorem passes_reverse {s : List Char} (h : ':' ∉ s) :
    ∀ c ∈ s.reverse, (c != ':') = true := by
  intro c hc
  rw [bne_iff_ne]
  rintro rfl
  exact h (List.mem_reverse.mp hc)

/-- A requirement without a colon has no qualifier. -/
theorem parse_of_no_colon {raw : String} (h : ':' ∉ raw.toList) : parse raw = ⟨none, raw, raw⟩ := by
  have hback : raw.toList.reverse = raw.toList.reverse ++ [] := by rw [List.append_nil]
  rw [parse, hback, List.takeWhile_append_of_pos (passes_reverse h),
    List.dropWhile_append_of_pos (passes_reverse h)]
  simp

/-- A requirement is divided at a colon with no other colon after it. -/
theorem parse_of_colon {raw : String} {before after : List Char}
    (hraw : raw.toList = before ++ ':' :: after) (h : ':' ∉ after) :
    parse raw = ⟨some (String.ofList before), String.ofList after, raw⟩ := by
  have hback : raw.toList.reverse = after.reverse ++ ':' :: before.reverse := by
    rw [hraw, List.reverse_append, List.reverse_cons, List.append_assoc, List.singleton_append]
  rw [parse, hback, List.takeWhile_append_of_pos (passes_reverse h),
    List.dropWhile_append_of_pos (passes_reverse h)]
  simp

/-- **Parsing divides at the last colon.** -/
theorem parse_eq (raw : String) :
    parse raw =
      match splitAtLastColon raw.toList with
      | none => ⟨none, raw, raw⟩
      | some (before, after) => ⟨some (String.ofList before), String.ofList after, raw⟩ := by
  cases hsplit : splitAtLastColon raw.toList with
  | none => exact parse_of_no_colon (splitAtLastColon_eq_none hsplit)
  | some parts =>
    obtain ⟨hraw, hno⟩ := splitAtLastColon_eq_some hsplit
    exact parse_of_colon hraw hno

/-! ### Back to the text -/

/-- A local name as written, behind its qualifier and a colon if it has one. -/
def written : Option String → String → String
  | none, localName => localName
  | some qualifier, localName => qualifier ++ ":" ++ localName

/-- Without colons in the local name, only the one behind a qualifier is left. -/
theorem colon_not_mem_written {qualifier : Option String} {localName : String}
    (h : ':' ∉ localName.toList) :
    ':' ∉ (written qualifier localName).toList ↔ qualifier = none := by
  cases qualifier with
  | none => exact iff_of_true h rfl
  | some qualifier => simp [written]

/-- Every text can be divided so that no colon is left behind the division. -/
theorem exists_written (raw : String) :
    ∃ qualifier localName, ':' ∉ localName.toList ∧ written qualifier localName = raw := by
  cases hsplit : splitAtLastColon raw.toList with
  | none => exact ⟨none, raw, splitAtLastColon_eq_none hsplit, rfl⟩
  | some parts =>
    obtain ⟨before, after⟩ := parts
    obtain ⟨hraw, hno⟩ := splitAtLastColon_eq_some hsplit
    refine ⟨some (String.ofList before), String.ofList after, ?_, ?_⟩
    · rwa [String.toList_ofList]
    · apply String.toList_inj.mp
      rw [hraw]
      simp [written]

/-- Parsing finds the parts that a text was written from; the qualifier may have colons too. -/
theorem parse_written (qualifier : Option String) {localName : String}
    (h : ':' ∉ localName.toList) :
    parse (written qualifier localName) = ⟨qualifier, localName, written qualifier localName⟩ := by
  cases qualifier with
  | none => exact parse_of_no_colon h
  | some qualifier =>
    have hraw : (written (some qualifier) localName).toList =
        qualifier.toList ++ ':' :: localName.toList := by
      simp [written]
    rw [parse_of_colon hraw h, String.ofList_toList, String.ofList_toList]

/-- The parts of a requirement give its text back. -/
theorem written_parse (raw : String) :
    written (parse raw).qualifier (parse raw).localName = raw := by
  obtain ⟨qualifier, localName, h, rfl⟩ := exists_written raw
  rw [parse_written qualifier h]

/-- **The division at the last colon is unique and loses nothing.**  A requirement keeps its text;
its local name has no colon, it has a qualifier exactly if the text has a colon, and the two parts
give the text back.  Conversely, whatever qualifier (also an empty one, or one with colons) and
local name without a colon a text is written from, these are its parts.  So texts with the same
parts are the same. -/
theorem parse_splits_uniquely :
    (∀ raw,
      (parse raw).raw = raw ∧
      ':' ∉ (parse raw).localName.toList ∧
      ((parse raw).qualifier = none ↔ ':' ∉ raw.toList) ∧
      written (parse raw).qualifier (parse raw).localName = raw) ∧
    (∀ qualifier localName, ':' ∉ localName.toList →
      parse (written qualifier localName) =
        ⟨qualifier, localName, written qualifier localName⟩) ∧
    ∀ raw other,
      (parse raw).qualifier = (parse other).qualifier →
      (parse raw).localName = (parse other).localName → raw = other := by
  refine ⟨?_, ?_, ?_⟩
  · intro raw
    obtain ⟨qualifier, localName, h, hraw⟩ := exists_written raw
    have hparse : parse raw = ⟨qualifier, localName, raw⟩ := by
      rw [← hraw]
      exact parse_written qualifier h
    rw [hparse]
    refine ⟨rfl, h, ?_, hraw⟩
    show qualifier = none ↔ ':' ∉ raw.toList
    rw [← hraw, colon_not_mem_written h]
  · intro qualifier localName h
    exact parse_written qualifier h
  · intro raw other hqualifier hlocal
    calc raw = written (parse raw).qualifier (parse raw).localName := (written_parse raw).symm
      _ = written (parse other).qualifier (parse other).localName := by rw [hqualifier, hlocal]
      _ = other := written_parse other

/-- Colons at both ends and side by side, and a lone colon: an empty qualifier is a qualifier, so
the lone colon and the empty text have different parts. -/
theorem parse_splits_uniquely_colons :
    parse ":a::" = ⟨some ":a:", "", ":a::"⟩ ∧ parse ":" = ⟨some "", "", ":"⟩ ∧
      (parse ":").localName = (parse "").localName ∧
      (parse ":").qualifier ≠ (parse "").qualifier := by
  obtain ⟨-, hparts, hsame⟩ := parse_splits_uniquely
  have hlone : parse ":" = ⟨some "", "", ":"⟩ := hparts (some "") "" (by decide)
  have hempty : parse "" = ⟨none, "", ""⟩ := hparts none "" (by decide)
  have hlocal : (parse ":").localName = (parse "").localName := by rw [hlone, hempty]
  refine ⟨hparts (some ":a:") "" (by decide), hlone, hlocal, ?_⟩
  intro hqualifier
  exact absurd (hsame ":" "" hqualifier hlocal) (by decide)

end Requirement

/-! ### The attribute asked for -/

/-- The attribute that a written requirement asks for: without a colon, one without a namespace;
otherwise one in the namespace that the text before the last colon is bound to, or in the namespace
of that very text if it is not bound. -/
def wantedName (bindings : Bindings) (raw : String) : ExpandedName :=
  match splitAtLastColon raw.toList with
  | none => ⟨none, raw⟩
  | some (before, after) =>
    match bindings.lookup (String.ofList before) with
    | some uri => ⟨uri, String.ofList after⟩
    | none => ⟨some (String.ofList before), String.ofList after⟩

/-- Parsing and resolving a requirement finds the attribute it asks for and keeps its text. -/
theorem Requirement.resolve_parse (bindings : Bindings) (raw : String) :
    (Requirement.parse raw).resolve bindings = ⟨wantedName bindings raw, raw⟩ := by
  rw [Requirement.parse_eq, wantedName]
  split
  · rfl
  · rename_i before after _
    cases hbound : bindings.lookup (String.ofList before) <;> simp [Requirement.resolve, hbound]

/-! ### Repetitions -/

/-- The members of a list, each where it comes first. -/
def firstOccurrences : List String → List String
  | [] => []
  | a :: as => a :: (firstOccurrences as).filter (· ≠ a)

/-- Removing a member before or after looking for first occurrences is the same. -/
theorem filter_firstOccurrences (p : String → Bool) (l : List String) :
    firstOccurrences (l.filter p) = (firstOccurrences l).filter p := by
  induction l with
  | nil => rfl
  | cons a as ih =>
    by_cases ha : p a = true
    · rw [List.filter_cons_of_pos ha, firstOccurrences, firstOccurrences, ih,
        List.filter_cons_of_pos ha, List.filter_filter, List.filter_filter]
      simp only [Bool.and_comm]
    · rw [List.filter_cons_of_neg ha, firstOccurrences, ih, List.filter_cons_of_neg ha,
        List.filter_filter]
      apply List.filter_congr
      intro b _
      by_cases hb : b = a
      · subst hb
        simp [ha]
      · simp [hb]

/-- Removing repetitions keeps first occurrences. -/
theorem eraseDups_eq_firstOccurrences (l : List String) : l.eraseDups = firstOccurrences l := by
  -- The removal filters the tail before it goes on, so the induction is on the length.
  induction hn : l.length using Nat.strongRecOn generalizing l with
  | _ n ih =>
    cases l with
    | nil => rfl
    | cons a as =>
      have hlen : (as.filter fun b => !b == a).length < n := by
        have := List.length_filter_le (fun b => !b == a) as
        rw [List.length_cons] at hn
        omega
      rw [List.eraseDups_cons, ih _ hlen _ rfl, filter_firstOccurrences, firstOccurrences]
      congr 1
      apply List.filter_congr
      intro b _
      by_cases hb : b = a <;> simp [hb]

/-- First occurrences leave no member out and add none. -/
theorem mem_firstOccurrences {a : String} {l : List String} : a ∈ firstOccurrences l ↔ a ∈ l := by
  induction l with
  | nil => rfl
  | cons b bs ih =>
    rw [firstOccurrences, List.mem_cons, List.mem_cons, List.mem_filter, ih]
    by_cases hab : a = b
    · simp [hab]
    · simp [hab]

/-- No first occurrence is repeated. -/
theorem nodup_firstOccurrences (l : List String) : (firstOccurrences l).Nodup := by
  induction l with
  | nil => exact List.nodup_nil
  | cons a as ih =>
    rw [firstOccurrences, List.nodup_cons]
    refine ⟨?_, List.Pairwise.filter _ ih⟩
    intro hmem
    have hne := (List.mem_filter.mp hmem).2
    simp at hne

/-- What is added at the end counts where it has not occurred before. -/
theorem firstOccurrences_append (l m : List String) :
    firstOccurrences (l ++ m) =
      firstOccurrences l ++ (firstOccurrences m).filter fun b => b ∉ l := by
  induction l with
  | nil =>
    rw [List.nil_append, firstOccurrences, List.nil_append, List.filter_eq_self.mpr]
    intro b _
    simp
  | cons a as ih =>
    rw [List.cons_append, firstOccurrences, ih, firstOccurrences, List.filter_append,
      List.filter_filter, List.cons_append]
    congr 2
    apply List.filter_congr
    intro b _
    simp

/-- A renaming that keeps the members apart keeps the first occurrences in their places. -/
theorem firstOccurrences_map {f : String → String} {l : List String}
    (h : ∀ a ∈ l, ∀ b ∈ l, f a = f b → a = b) :
    firstOccurrences (l.map f) = (firstOccurrences l).map f := by
  induction l with
  | nil => rfl
  | cons a as ih =>
    have hrest : ∀ b ∈ as, ∀ c ∈ as, f b = f c → b = c := fun b hb c hc =>
      h b (List.mem_cons_of_mem a hb) c (List.mem_cons_of_mem a hc)
    rw [List.map_cons, firstOccurrences, ih hrest, firstOccurrences, List.map_cons, List.filter_map]
    congr 2
    apply List.filter_congr
    intro b hb
    have hmem : b ∈ a :: as := List.mem_cons_of_mem a (mem_firstOccurrences.mp hb)
    have hiff : f b = f a ↔ b = a := ⟨h b hmem a List.mem_cons_self, congrArg f⟩
    simp [hiff]

end AttrLint
