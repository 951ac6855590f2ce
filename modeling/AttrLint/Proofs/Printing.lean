import Mathlib.Data.List.Nodup
import AttrLint.Document.Basic
import AttrLint.Proofs.NameParts
import AttrLint.Proofs.Requirement

namespace AttrLint.Xml.Printable

/-!
# Printing trees as XML

Trees of elements with namespaces are printed on one line.  Each element declares the namespaces
that it uses, with qualifiers of its own choice, and its values are escaped.  The types carry what
it takes for a tree to be printed: names are names, namespaces can be declared, values are made of
legal characters, and no attribute occurs twice.

* `Name`, `Space`, `Attribute`, `Head`, `Tree` — what can be printed.
* `Tree.print` — the text of a tree.
* `Tree.place` — the element that the text stands for, with the place of each start tag.
* `Head.nodup_namespaces` — each namespace gets a qualifier of its own.
* `Tree.inLine_print` — the text has no line ends, and only characters that a document may contain.
-/

/-! ### What can be printed -/

/-- Says that the text is a name of ASCII characters without a colon. -/
def isAsciiName : List Char → Bool
  | [] => false
  | c :: cs =>
    isNameStart .sequences c && cs.all (isNameChar .sequences) &&
      (c :: cs).all fun c => c.toNat < 0x80

/-- A name of ASCII characters without a colon, other than that of namespace declarations. -/
structure Name where
  text : String
  isName : isAsciiName text.toList = true
  ne_xmlns : text ≠ "xmlns"

/-- A namespace that can be declared: without white space, and not one of the two that every
document has. -/
structure Space where
  uri : String
  ne_empty : uri ≠ ""
  legal : ∀ c ∈ uri.toList, isLegal c = true
  not_blank : ∀ c ∈ uri.toList, Text.isBlank c = false
  ne_xml : uri ≠ xmlUri
  ne_xmlns : uri ≠ xmlnsUri

/-- An attribute and its value, which may be any text of legal characters. -/
structure Attribute where
  name : Name
  space : Option Space
  value : String
  legal : ∀ c ∈ value.toList, isLegal c = true

/-- The expanded name of an attribute. -/
def Attribute.expanded (a : Attribute) : ExpandedName :=
  ⟨a.space.map Space.uri, a.name.text⟩

/-- Qualifiers to choose from, all different from each other and from the one that every document
has. -/
structure Qualifiers where
  of : Nat → Name
  injective : ∀ {m n : Nat}, (of m).text = (of n).text → m = n
  ne_xml : ∀ n, (of n).text ≠ "xml"

/-- The qualifiers `n`, `nn`, `nnn` and so on. -/
def Qualifiers.repeated : Qualifiers where
  of k :=
    { text := String.ofList (List.replicate (k + 1) 'n')
      isName := by
        have hstart : isNameStart .sequences 'n' = true := by decide
        have hname : isNameChar .sequences 'n' = true := by decide
        simp [List.replicate_succ, isAsciiName, hstart, hname]
      ne_xmlns := fun h => by
        have hfirst := congrArg (fun s => s.toList.head?) h
        simp [List.replicate_succ] at hfirst }
  injective h := by
    simpa using congrArg String.length h
  ne_xml k h := by
    have hfirst := congrArg (fun s => s.toList.head?) h
    simp [List.replicate_succ] at hfirst

/-- An element apart from its children, and the qualifiers that it gives to namespaces. -/
structure Head where
  name : Name
  space : Option Space
  attributes : List Attribute
  distinct : (attributes.map Attribute.expanded).Nodup
  qualifiers : Qualifiers

/-- An element with its children in order. -/
inductive Tree where
  | node (head : Head) (children : List Tree)

/-! ### Texts -/

/-- The reference that stands for a character in a value, where one has to. -/
def reference? (c : Char) : Option (List Char) :=
  if c = '&' then some ['&', 'a', 'm', 'p', ';']
  else if c = '<' then some ['&', 'l', 't', ';']
  else if c = '>' then some ['&', 'g', 't', ';']
  else if c = '"' then some ['&', 'q', 'u', 'o', 't', ';']
  else if c = '\t' then some ['&', '#', '9', ';']
  else if c = '\n' then some ['&', '#', '1', '0', ';']
  else if c = '\r' then some ['&', '#', '1', '3', ';']
  else none

/-- How a character is written in a value. -/
def escapeChar (c : Char) : List Char :=
  (reference? c).getD [c]

/-- A value between its quotes. -/
def escaped (value : String) : List Char :=
  value.toList.flatMap escapeChar

/-- A name after its qualifier, if it has one. -/
def qualified (qualifier : Option String) (name : String) : List Char :=
  match qualifier with
  | none => name.toList
  | some qualifier => qualifier.toList ++ ':' :: name.toList

/-- An attribute of a start tag. -/
def writeAttribute (pair : List Char × String) : List Char :=
  ' ' :: (pair.1 ++ '=' :: '"' :: (escaped pair.2 ++ ['"']))

namespace Head

/-- The namespaces that the element and its attributes are in, each once. -/
def uris (h : Head) : List String :=
  firstOccurrences ((h.space.toList ++ h.attributes.filterMap Attribute.space).map Space.uri)

/-- The qualifier that the element gives to a namespace. -/
def qualifierOf (h : Head) (uri : String) : String :=
  (h.qualifiers.of (h.uris.idxOf uri)).text

/-- The qualifiers that the element declares, with their namespaces. -/
def declared (h : Head) : List (String × String) :=
  h.uris.map fun uri => (h.qualifierOf uri, uri)

/-- A name of the element or of one of its attributes, as it is written. -/
def spell (h : Head) (space : Option Space) (name : Name) : List Char :=
  qualified (space.map fun space => h.qualifierOf space.uri) name.text

/-- The name of the element as it is written. -/
def spelling (h : Head) : List Char :=
  h.spell h.space h.name

/-- All that is written as an attribute: the declarations and then the attributes. -/
def written (h : Head) : List (List Char × String) :=
  (h.declared.map fun (qualifier, uri) => (qualified (some "xmlns") qualifier, uri)) ++
    h.attributes.map fun a => (h.spell a.space a.name, a.value)

/-- The start tag. -/
def startTag (h : Head) : List Char :=
  '<' :: (h.spelling ++ (h.written.flatMap writeAttribute ++ ['>']))

/-- The end tag. -/
def endTag (h : Head) : List Char :=
  '<' :: '/' :: (h.spelling ++ ['>'])

/-- What is known of the element if its start tag stands behind `before` characters of a line. -/
def place (before : Nat) (h : Head) : ElementHead :=
  ⟨h.name.text, h.space.map Space.uri, h.attributes.map Attribute.expanded, 1, before + 1⟩

/-- The namespaces of a document whose outermost element this is. -/
def namespaces (h : Head) : Bindings :=
  ("xml", some xmlUri) :: h.declared.map fun (qualifier, uri) => (qualifier, some uri)

end Head

mutual

/-- The text of a tree. -/
def Tree.print : Tree → List Char
  | .node head children => head.startTag ++ (printAll children ++ head.endTag)

/-- The texts of several trees one after the other. -/
def printAll : List Tree → List Char
  | [] => []
  | t :: ts => t.print ++ printAll ts

end

mutual

/-- The element that a tree is if its text stands behind `before` characters of a line: the same
names, and for the place of each start tag the number of characters before it. -/
def Tree.place (before : Nat) : Tree → Element
  | .node head children =>
    .node (head.place before) (placeAll (before + head.startTag.length) children)

/-- The elements of several trees one after the other. -/
def placeAll (before : Nat) : List Tree → List Element
  | [] => []
  | t :: ts => t.place before :: placeAll (before + t.print.length) ts

end

/-- What is known of the outermost element. -/
def Tree.head : Tree → Head
  | .node head _ => head

/-! ### Names -/

/-- A name has a first character. -/
theorem isAsciiName_eq {s : List Char} (h : isAsciiName s = true) :
    ∃ c cs, s = c :: cs ∧ isNameStart .sequences c = true ∧ c.toNat < 0x80 ∧
      ∀ d ∈ cs, isNameChar .sequences d = true ∧ d.toNat < 0x80 := by
  cases s with
  | nil => cases h
  | cons c cs =>
    simp only [isAsciiName, Bool.and_eq_true, List.all_eq_true, decide_eq_true_eq] at h
    obtain ⟨⟨hc, hcs⟩, hascii⟩ := h
    refine ⟨c, cs, rfl, hc, hascii c List.mem_cons_self, ?_⟩
    intro d hd
    exact ⟨hcs d hd, hascii d (List.mem_cons_of_mem c hd)⟩

/-- All characters of a name can stand in a name. -/
theorem isNameChar_of_isAsciiName {s : List Char} (h : isAsciiName s = true) {c : Char}
    (hc : c ∈ s) : isNameChar .sequences c = true ∧ c.toNat < 0x80 := by
  obtain ⟨d, ds, rfl, hd, hascii, hds⟩ := isAsciiName_eq h
  rcases List.mem_cons.mp hc with rfl | hc
  · exact ⟨isNameChar_of_isNameStart hd, hascii⟩
  · exact hds c hc

theorem isPart_of_isAsciiName {s : List Char} (h : isAsciiName s = true) : IsPart s := by
  obtain ⟨c, cs, rfl, -⟩ := isAsciiName_eq h
  refine ⟨List.cons_ne_nil c cs, ?_⟩
  intro d hd
  exact (isNameChar_part (isNameChar_of_isAsciiName h hd).1).2 d List.mem_cons_self

/-- Says that the text is a name as it can be written, with or without a qualifier. -/
def IsSpelling (s : List Char) : Prop :=
  ∃ qualifier name, s = qualified qualifier name ∧ isAsciiName name.toList = true ∧
    ∀ q ∈ qualifier, isAsciiName q.toList = true

/-- A written name has a first character, and no other signs of the markup than a colon. -/
theorem IsSpelling.eq_cons {s : List Char} (h : IsSpelling s) :
    ∃ c cs, s = c :: cs ∧ isNameStart .sequences c = true ∧
      ∀ d ∈ cs, isNameChar .sequences d = true ∨ d = ':' := by
  obtain ⟨qualifier, name, rfl, hname, hqualifier⟩ := h
  cases qualifier with
  | none =>
    obtain ⟨c, cs, heq, hc, -, hcs⟩ := isAsciiName_eq hname
    exact ⟨c, cs, heq, hc, fun d hd => Or.inl (hcs d hd).1⟩
  | some qualifier =>
    obtain ⟨c, cs, heq, hc, -, hcs⟩ := isAsciiName_eq (hqualifier qualifier rfl)
    refine ⟨c, cs ++ ':' :: name.toList, by simp [qualified, heq], hc, ?_⟩
    intro d hd
    rcases List.mem_append.mp hd with hd | hd
    · exact Or.inl (hcs d hd).1
    · rcases List.mem_cons.mp hd with rfl | hd
      · exact Or.inr rfl
      · exact Or.inl (isNameChar_of_isAsciiName hname hd).1

/-! ### Qualifiers -/

namespace Head

variable {h : Head}

/-- Every namespace that is declared can be declared. -/
theorem exists_space_of_mem_uris {uri : String} (huri : uri ∈ h.uris) :
    ∃ space : Space, space.uri = uri := by
  rw [uris, mem_firstOccurrences, List.mem_map] at huri
  obtain ⟨space, -, hspace⟩ := huri
  exact ⟨space, hspace⟩

theorem mem_uris_of_space {space : Space} (hspace : h.space = some space) : space.uri ∈ h.uris := by
  rw [uris, mem_firstOccurrences, List.mem_map]
  exact ⟨space, List.mem_append_left _ (by simp [hspace]), rfl⟩

theorem mem_uris_of_attribute {a : Attribute} (ha : a ∈ h.attributes) {space : Space}
    (hspace : a.space = some space) : space.uri ∈ h.uris := by
  rw [uris, mem_firstOccurrences, List.mem_map]
  refine ⟨space, List.mem_append_right _ ?_, rfl⟩
  exact List.mem_filterMap.mpr ⟨a, ha, hspace⟩

/-- Different namespaces get different qualifiers. -/
theorem qualifierOf_injective {u v : String} (hu : u ∈ h.uris)
    (heq : h.qualifierOf u = h.qualifierOf v) : u = v := by
  have hindex : h.uris.idxOf u = h.uris.idxOf v := h.qualifiers.injective heq
  exact (List.idxOf_inj hu).mp hindex

/-- No qualifier is declared twice. -/
theorem nodup_declared (h : Head) : (h.declared.map Prod.fst).Nodup := by
  have hkeys : h.declared.map Prod.fst = h.uris.map h.qualifierOf := by
    simp [declared, Function.comp_def]
  rw [hkeys]
  apply List.Nodup.map_on
  · intro u hu v _ heq
    exact qualifierOf_injective hu heq
  · exact nodup_firstOccurrences _

/-- What is declared is a namespace under a name. -/
theorem of_mem_declared {qualifier uri : String} (hmem : (qualifier, uri) ∈ h.declared) :
    (∃ n, qualifier = (h.qualifiers.of n).text) ∧ ∃ space : Space, space.uri = uri := by
  obtain ⟨u, hu, heq⟩ := List.mem_map.mp hmem
  cases heq
  exact ⟨⟨_, rfl⟩, exists_space_of_mem_uris hu⟩

/-- No qualifier is declared twice, and none is the one that every document has. -/
theorem nodup_namespaces (h : Head) : (h.namespaces.map Prod.fst).Nodup := by
  have hkeys : h.namespaces.map Prod.fst = "xml" :: h.declared.map Prod.fst := by
    simp [namespaces, Function.comp_def]
  rw [hkeys, List.nodup_cons]
  refine ⟨?_, h.nodup_declared⟩
  intro hmem
  obtain ⟨⟨qualifier, uri⟩, hdeclared, hxml⟩ := List.mem_map.mp hmem
  obtain ⟨⟨n, rfl⟩, -⟩ := of_mem_declared hdeclared
  exact h.qualifiers.ne_xml n hxml

theorem isSpelling_spell (h : Head) (space : Option Space) (name : Name) :
    IsSpelling (h.spell space name) := by
  refine ⟨_, _, rfl, name.isName, ?_⟩
  intro q hq
  obtain ⟨space, -, rfl⟩ := Option.map_eq_some_iff.mp hq
  exact (h.qualifiers.of _).isName

theorem isSpelling_spelling (h : Head) : IsSpelling h.spelling :=
  h.isSpelling_spell h.space h.name

/-- What is written as an attribute has a name and a value of legal characters. -/
theorem of_mem_written {pair : List Char × String} (hmem : pair ∈ h.written) :
    IsSpelling pair.1 ∧ ∀ c ∈ pair.2.toList, isLegal c = true := by
  rcases List.mem_append.mp hmem with hmem | hmem
  · obtain ⟨⟨qualifier, uri⟩, hdeclared, rfl⟩ := List.mem_map.mp hmem
    obtain ⟨⟨n, rfl⟩, space, rfl⟩ := of_mem_declared hdeclared
    refine ⟨⟨some "xmlns", _, rfl, (h.qualifiers.of n).isName, ?_⟩, space.legal⟩
    rintro q ⟨⟩
    decide
  · obtain ⟨a, -, rfl⟩ := List.mem_map.mp hmem
    exact ⟨h.isSpelling_spell a.space a.name, a.legal⟩

end Head

/-! ### Lines -/

/-- Says that a document may contain the character, and that it does not end a line. -/
def isInLine (c : Char) : Bool :=
  isLegal c && c ≠ '\n' && c ≠ '\r'

/-- A character that is written as itself is no sign of the markup, and no white space but a
space. -/
theorem of_reference?_eq_none {c : Char} (h : reference? c = none) :
    c ≠ '&' ∧ c ≠ '<' ∧ c ≠ '"' ∧ (isSpace c = true → c = ' ') ∧ c ≠ '\n' ∧ c ≠ '\r' := by
  unfold reference? at h
  repeat' split at h
  all_goals cases h
  rename_i hand hless _ hquote htab hline hreturn
  exact ⟨hand, hless, hquote, by simp [isSpace, htab, hline, hreturn], hline, hreturn⟩

theorem isInLine_of_isNameChar {c : Char} (h : isNameChar .sequences c = true) :
    isInLine c = true := by
  by_cases hascii : c.toNat < 0x80
  · have hall : ∀ n : Fin 0x80, isNameChar .sequences (Char.ofNat n) = true →
        isInLine (Char.ofNat n) = true := by decide +kernel
    have hc := hall ⟨c.toNat, hascii⟩
    rw [Char.ofNat_toNat] at hc
    exact hc h
  · -- The two characters that no document may contain lie apart from those of names.
    have hout : Text.inRanges [(0xfffe, 0xffff)] c.toNat = false := by
      rw [isNameChar, if_neg hascii, Bool.or_eq_true] at h
      rcases h with h | h
      · exact not_inRanges_of_apart (s := letterRanges) (by decide +kernel)
          (by simpa [Alphabet.isUpperLetter, Alphabet.hasLatinExtras] using h)
      · exact not_inRanges_of_apart (by decide +kernel) h
    have hline : c ≠ '\n' ∧ c ≠ '\r' :=
      ⟨fun heq => hascii (heq ▸ by decide), fun heq => hascii (heq ▸ by decide)⟩
    have hcode : ¬ c.toNat < 0x20 ∧ c.toNat ≠ 0xfffe ∧ c.toNat ≠ 0xffff := by
      simp [Text.inRanges] at hout
      omega
    simp [isInLine, isLegal, hline, hcode]

theorem isInLine_of_mem_escapeChar {c d : Char} (hc : isLegal c = true) (hd : d ∈ escapeChar c) :
    isInLine d = true := by
  cases href : reference? c with
  | some s =>
    have hs : s.all isInLine = true := by
      unfold reference? at href
      repeat' split at href
      all_goals cases href
      all_goals decide
    rw [escapeChar, href] at hd
    exact List.all_eq_true.mp hs d hd
  | none =>
    obtain ⟨-, -, -, -, hline, hreturn⟩ := of_reference?_eq_none href
    rw [escapeChar, href] at hd
    obtain rfl := List.mem_singleton.mp hd
    simp [isInLine, hc, hline, hreturn]

theorem inLine_name {s : List Char} (h : isAsciiName s = true) : s.all isInLine = true := by
  rw [List.all_eq_true]
  intro c hc
  exact isInLine_of_isNameChar (isNameChar_of_isAsciiName h hc).1

theorem inLine_escaped {value : String} (h : ∀ c ∈ value.toList, isLegal c = true) :
    (escaped value).all isInLine = true := by
  rw [List.all_eq_true]
  intro d hd
  obtain ⟨c, hc, hd⟩ := List.mem_flatMap.mp hd
  exact isInLine_of_mem_escapeChar (h c hc) hd

theorem IsSpelling.inLine {s : List Char} (h : IsSpelling s) : s.all isInLine = true := by
  obtain ⟨qualifier, name, rfl, hname, hqualifier⟩ := h
  cases qualifier with
  | none => exact inLine_name hname
  | some qualifier =>
    have hcolon : isInLine ':' = true := by decide
    simp [qualified, inLine_name hname, hcolon, inLine_name (hqualifier qualifier rfl)]

namespace Head

variable (h : Head)

theorem inLine_writeAttribute {pair : List Char × String} (hmem : pair ∈ h.written) :
    (writeAttribute pair).all isInLine = true := by
  obtain ⟨hname, hvalue⟩ := of_mem_written hmem
  have hfixed : [' ', '=', '"'].all isInLine = true := by decide
  simp only [List.all_cons, List.all_nil, Bool.and_true, Bool.and_eq_true] at hfixed
  simp [writeAttribute, hname.inLine, inLine_escaped hvalue, hfixed]

theorem inLine_startTag : h.startTag.all isInLine = true := by
  have hfixed : isInLine '<' = true ∧ isInLine '>' = true := by decide
  have hwritten : (h.written.flatMap writeAttribute).all isInLine = true := by
    rw [List.all_flatMap, List.all_eq_true]
    intro pair hmem
    exact h.inLine_writeAttribute hmem
  simp [startTag, h.isSpelling_spelling.inLine, hwritten, hfixed]

theorem inLine_endTag : h.endTag.all isInLine = true := by
  have hfixed : isInLine '<' = true ∧ isInLine '/' = true ∧ isInLine '>' = true := by decide
  simp [endTag, h.isSpelling_spelling.inLine, hfixed]

end Head

mutual

/-- The text of a tree stays on one line, and a document may contain it. -/
theorem Tree.inLine_print : (t : Tree) → t.print.all isInLine = true
  | .node head children => by
    rw [Tree.print, List.all_append, List.all_append, head.inLine_startTag,
      inLine_printAll children, head.inLine_endTag]
    rfl

theorem inLine_printAll : (ts : List Tree) → (printAll ts).all isInLine = true
  | [] => rfl
  | t :: ts => by
    rw [printAll, List.all_append, t.inLine_print, inLine_printAll ts]
    rfl

end

end AttrLint.Xml.Printable
