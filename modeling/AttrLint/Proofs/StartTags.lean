import Mathlib.Data.List.Forall2
import AttrLint.Proofs.Values

namespace AttrLint.Xml

/-!
# Reading printed start tags

A printed start tag is read twice: character by character, which gives its name and its attributes
as they are written, and then for its meaning.  This file says what comes out of both.

* `TagReader.after?` — a start tag after one more character of it.
* `TagReader.through_written` — the attributes of a printed tag are found as they are written.
* `Tag.resolve_printed` — the meaning of a printed start tag: the namespaces that it declares, and
  the names that were printed.
-/

open Printable

/-! ### Characters -/

namespace TagReader

/-- The start tag that goes on, if it does. -/
def Step.more? : Step → Option TagReader
  | .more reader => some reader
  | _ => none

@[simp] theorem Step.more?_more (reader : TagReader) : (Step.more reader).more? = some reader :=
  rfl

theorem Step.more?_eq_some_iff {step : Step} {reader : TagReader} :
    step.more? = some reader ↔ step = .more reader := by
  cases step <;> simp [more?]

/-- A start tag after one more character, which does not complete it. -/
def after? (reader : TagReader) (cursor : Cursor) (c : Char) : Option TagReader :=
  (reader.feed .sequences cursor c).more?

theorem after?_eq_some_iff {reader next : TagReader} {cursor : Cursor} {c : Char} :
    reader.after? cursor c = some next ↔ reader.feed .sequences cursor c = .more next :=
  Step.more?_eq_some_iff

/-- Says that names are read into `part`, and stand at `colon` right after their qualifiers. -/
structure ReadsNames (name : String) (attributes : List WrittenAttribute)
    (part : List Char → Bool → TagPart) (colon : List Char → TagPart) : Prop where
  letter : ∀ letters isQualified cursor c, isNameChar .sequences c = true →
    feed .sequences ⟨name, attributes, part letters isQualified⟩ cursor c =
      .more ⟨name, attributes, part (c :: letters) isQualified⟩
  divides : ∀ letters cursor,
    feed .sequences ⟨name, attributes, part letters false⟩ cursor ':' =
      .more ⟨name, attributes, colon (':' :: letters)⟩
  second : ∀ letters cursor c, isNameStart .sequences c = true →
    feed .sequences ⟨name, attributes, colon letters⟩ cursor c =
      .more ⟨name, attributes, part (c :: letters) true⟩

theorem readsNames_name (name : String) (attributes : List WrittenAttribute) :
    ReadsNames name attributes .name .nameColon where
  letter := by
    intro letters isQualified cursor c hc
    simp [feed, hc]
  divides := by
    intro letters cursor
    have hcolon : isNameChar .sequences ':' = false := by decide
    simp [feed, hcolon]
  second := by
    intro letters cursor c hc
    simp [feed, hc]

theorem readsNames_attrName (name : String) (attributes : List WrittenAttribute)
    (start : Position) :
    ReadsNames name attributes (fun letters isQualified => .attrName letters isQualified start)
      (fun letters => .attrColon letters start) where
  letter := by
    intro letters isQualified cursor c hc
    simp [feed, hc]
  divides := by
    intro letters cursor
    have hcolon : isNameChar .sequences ':' = false := by decide
    simp [feed, hcolon]
  second := by
    intro letters cursor c hc
    simp [feed, hc]

section Names

variable {name : String} {attributes : List WrittenAttribute} {part : List Char → Bool → TagPart}
  {colon : List Char → TagPart}

theorem ReadsNames.through_letters (h : ReadsNames name attributes part colon) {s : List Char}
    (hs : ∀ c ∈ s, isNameChar .sequences c = true) (letters : List Char) (isQualified : Bool)
    (cursor : Cursor) :
    feedThrough after? ⟨name, attributes, part letters isQualified⟩ cursor s =
      some ⟨name, attributes, part (s.reverse ++ letters) isQualified⟩ := by
  induction s generalizing letters cursor with
  | nil => rfl
  | cons c cs ih =>
    have hc : isNameChar .sequences c = true := hs c List.mem_cons_self
    have hcs := ih (fun d hd => hs d (List.mem_cons_of_mem c hd)) (c :: letters) (cursor.advance c)
    simp [after?, h.letter _ _ _ _ hc, hcs]

/-- A name is read to its end, with or without a qualifier. -/
theorem ReadsNames.through_spelling (h : ReadsNames name attributes part colon) {s : List Char}
    (hs : IsSpelling s) :
    ∃ c cs isQualified, s = c :: cs ∧ isNameStart .sequences c = true ∧
      ∀ cursor, feedThrough after? ⟨name, attributes, part [c] false⟩ cursor cs =
        some ⟨name, attributes, part s.reverse isQualified⟩ := by
  obtain ⟨qualifier, back, rfl, hback, hqualifier⟩ := hs
  obtain ⟨d, ds, hd, hstart, -, hds⟩ := isAsciiName_eq hback
  cases qualifier with
  | none =>
    refine ⟨d, ds, false, hd, hstart, fun cursor => ?_⟩
    rw [h.through_letters fun e he => (hds e he).1]
    simp [qualified, hd]
  | some qualifier =>
    -- The colon ends the qualifier, and the character after it has to begin a name again.
    obtain ⟨c, cs, hc, hfirst, -, hcs⟩ := isAsciiName_eq (hqualifier qualifier rfl)
    refine ⟨c, cs ++ ':' :: d :: ds, true, by simp [qualified, hc, hd], hfirst, ?_⟩
    intro cursor
    rw [feedThrough_append (h.through_letters (fun e he => (hcs e he).1) _ _ _)]
    simp [after?, h.divides, h.second _ _ _ hstart, h.through_letters fun e he => (hds e he).1,
      qualified, hc, hd]

end Names

/-! ### Attributes -/

/-- A character from U+0080 on is no white space and no other sign of the markup. -/
theorem of_high {c : Char} (h : 0x80 ≤ c.toNat) :
    isSpace c = false ∧ c ≠ '>' ∧ c ≠ '/' ∧ c ≠ '!' ∧ c ≠ '?' ∧ c ≠ ':' := by
  have hne (d : Char) (hd : d.toNat < 0x80) : c ≠ d := by
    rintro rfl
    omega
  simp [isSpace, hne]

/-- A character that names begin with is no white space and no other sign of the markup, and is
taken for the beginning of an element. -/
theorem of_isNameStart {c : Char} (h : isNameStart .sequences c = true) :
    isSpace c = false ∧ c ≠ '>' ∧ c ≠ '/' ∧ c ≠ '!' ∧ c ≠ '?' ∧
      (isKeywordChar .sequences c || Alphabet.sequences.isOpaque c) = true := by
  by_cases hascii : c.toNat < 0x80
  · have hall : ∀ n : Fin 0x80, isNameStart .sequences (Char.ofNat n) = true →
        isSpace (Char.ofNat n) = false ∧ Char.ofNat n ≠ '>' ∧ Char.ofNat n ≠ '/' ∧
          Char.ofNat n ≠ '!' ∧ Char.ofNat n ≠ '?' ∧
          isKeywordChar .sequences (Char.ofNat n) = true := by decide +kernel
    have hc := hall ⟨c.toNat, hascii⟩
    rw [Char.ofNat_toNat] at hc
    obtain ⟨hspace, hbracket, hslash, hbang, hquestion, hkeyword⟩ := hc h
    exact ⟨hspace, hbracket, hslash, hbang, hquestion, by simp [hkeyword]⟩
  · obtain ⟨hspace, hbracket, hslash, hbang, hquestion, -⟩ := of_high (c := c) (by omega)
    refine ⟨hspace, hbracket, hslash, hbang, hquestion, ?_⟩
    have hunread : Alphabet.sequences.isOpaque c = true := by
      simpa [Alphabet.isOpaque] using hascii
    simp [hunread]

/-- Says that the name of the element, which is `name`, or a value has just ended. -/
inductive AtBoundary (name : String) : TagReader → Prop
  | name {old : String} {attributes : List WrittenAttribute} {letters : List Char}
      {isQualified : Bool} (h : spelled letters = name) :
      AtBoundary name ⟨old, attributes, .name letters isQualified⟩
  | value {attributes : List WrittenAttribute} : AtBoundary name ⟨name, attributes, .afterValue⟩

/-- White space comes before the next attribute. -/
theorem AtBoundary.feed_space {name : String} {reader : TagReader} (h : AtBoundary name reader)
    (cursor : Cursor) :
    reader.feed .sequences cursor ' ' = .more ⟨name, reader.attributes, .gap⟩ := by
  cases h with
  | name h =>
    subst h
    rfl
  | value => rfl

/-- A bracket ends the tag. -/
theorem AtBoundary.feed_bracket {name : String} {reader : TagReader} (h : AtBoundary name reader)
    (cursor : Cursor) :
    reader.feed .sequences cursor '>' = .done ⟨name, reader.attributes.reverse⟩ false := by
  cases h with
  | name h =>
    subst h
    rfl
  | value => rfl

section Values

variable {name : String} {attributes : List WrittenAttribute} {letters : List Char}
  {start : Position} {first : Cursor}

theorem through_reference {r last : Reference} {cursor : Cursor} {s : List Char}
    (h : feedThrough Reference.after? r cursor s = some last) (written : List Char) :
    feedThrough after? ⟨name, attributes, .value letters start '"' first written (some r)⟩ cursor
      s = some ⟨name, attributes,
        .value letters start '"' first (s.reverse ++ written) (some last)⟩ := by
  induction s generalizing r written cursor with
  | nil =>
    cases h
    rfl
  | cons c cs ih =>
    obtain ⟨middle, hfeed, hrest⟩ := of_feedThrough_cons h
    rw [Reference.after?_eq_some_iff] at hfeed
    simp [after?, feed, hfeed, ih hrest]

/-- A value is passed over as it is written, with its references. -/
theorem through_writes {value s : List Char} (h : Writes value s) (written : List Char)
    (cursor : Cursor) :
    feedThrough after? ⟨name, attributes, .value letters start '"' first written none⟩ cursor s =
      some ⟨name, attributes, .value letters start '"' first (s.reverse ++ written) none⟩ := by
  induction h generalizing written cursor with
  | nil => rfl
  | @plain c cs s hc _ ih =>
    obtain ⟨hand, hless, hquote, -⟩ := of_isPlain hc
    simp [after?, feed, feedValue, hand, hless, hquote, ih]
  | @reference c ref cs s hc _ ih =>
    obtain ⟨last, hthrough, hend⟩ := Reference.through_refers hc
    have hbegin :
        feedThrough after? ⟨name, attributes, .value letters start '"' first written none⟩ cursor
          ['&'] = some ⟨name, attributes,
            .value letters start '"' first ('&' :: written) (some .start)⟩ := rfl
    have hlast (before : List Char) (cursor : Cursor) :
        feedThrough after? ⟨name, attributes, .value letters start '"' first before (some last)⟩
          cursor [';'] =
            some ⟨name, attributes, .value letters start '"' first (';' :: before) none⟩ := by
      obtain ⟨hcode, -⟩ | ⟨entity, hentity, -⟩ := hend
      · simp [after?, feed, hcode]
      · simp [after?, feed, hentity]
    -- The reference is read in three parts, and then comes the rest of the value.
    have hparts : '&' :: (ref ++ ';' :: s) = ['&'] ++ (ref ++ ([';'] ++ s)) := by simp
    rw [hparts, feedThrough_append hbegin, feedThrough_append (through_reference (hthrough _) _),
      feedThrough_append (hlast _ _), ih]
    simp

end Values

/-- Says that an attribute is what was written for a name and a value. -/
def Spells (a : WrittenAttribute) (pair : List Char × String) : Prop :=
  a.name = String.ofList pair.1 ∧ a.written = escaped pair.2

/-- The name of an attribute begins after white space. -/
theorem through_attributeName (name : String) (attributes : List WrittenAttribute) {s : List Char}
    (hs : IsSpelling s) (cursor : Cursor) :
    ∃ isQualified, feedThrough after? ⟨name, attributes, .gap⟩ cursor s =
      some ⟨name, attributes, .attrName s.reverse isQualified cursor.position⟩ := by
  obtain ⟨c, cs, isQualified, rfl, hstart, hrest⟩ :=
    (readsNames_attrName name attributes cursor.position).through_spelling hs
  obtain ⟨hspace, hbracket, hslash, -⟩ := of_isNameStart hstart
  refine ⟨isQualified, ?_⟩
  rw [← hrest (cursor.advance c)]
  simp [after?, feed, feedGap, hspace, hbracket, hslash, hstart]

/-- A quote after an equals sign begins a value. -/
theorem through_equals (name : String) (attributes : List WrittenAttribute) (letters : List Char)
    (isQualified : Bool) (start : Position) (cursor : Cursor) :
    ∃ first,
      feedThrough after? ⟨name, attributes, .attrName letters isQualified start⟩ cursor ['=', '"'] =
        some ⟨name, attributes, .value letters start '"' first [] none⟩ := by
  have hname : isNameChar .sequences '=' = false := by decide
  have hspace : isSpace '=' = false ∧ isSpace '"' = false := by decide
  refine ⟨(cursor.advance '=').advance '"', ?_⟩
  simp [after?, feed, hname, hspace]

/-- An attribute is found as it is written. -/
theorem AtBoundary.through_attribute {name : String} {reader : TagReader}
    (h : AtBoundary name reader) {front value written : List Char}
    (hfront : IsSpelling front) (hwritten : Writes value written) (cursor : Cursor) :
    ∃ a : WrittenAttribute, a.name = String.ofList front ∧ a.written = written ∧
      feedThrough after? reader cursor (' ' :: (front ++ '=' :: '"' :: (written ++ ['"']))) =
        some ⟨name, a :: reader.attributes, .afterValue⟩ := by
  -- Each part has a lemma of its own: the blank, the name, the sign, the value, and the quote.
  have hparts : ' ' :: (front ++ '=' :: '"' :: (written ++ ['"'])) =
      [' '] ++ (front ++ (['=', '"'] ++ (written ++ ['"']))) := by
    simp
  have hspace : feedThrough after? reader cursor [' '] = some ⟨name, reader.attributes, .gap⟩ := by
    simp [after?, h.feed_space]
  obtain ⟨isQualified, hspelling⟩ :=
    through_attributeName name reader.attributes hfront (cursor.advanceAll [' '])
  obtain ⟨first, hequals⟩ := through_equals name reader.attributes front.reverse isQualified
    (cursor.advanceAll [' ']).position ((cursor.advanceAll [' ']).advanceAll front)
  refine ⟨⟨spelled front.reverse, (cursor.advanceAll [' ']).position, first, written⟩,
    by simp [spelled], rfl, ?_⟩
  rw [hparts, feedThrough_append hspace, feedThrough_append hspelling, feedThrough_append hequals,
    feedThrough_append (through_writes hwritten _ _)]
  simp [after?, feed, feedValue]

/-- **The attributes of a printed start tag are found as they are written**, in their order. -/
theorem AtBoundary.through_written {name : String} {reader : TagReader}
    (h : AtBoundary name reader) {pairs : List (List Char × String)}
    (hnames : ∀ pair ∈ pairs, IsSpelling pair.1) (cursor : Cursor) :
    ∃ found last, List.Forall₂ Spells found pairs ∧ AtBoundary name last ∧
      last.attributes = found.reverse ++ reader.attributes ∧
      feedThrough after? reader cursor (pairs.flatMap writeAttribute) = some last := by
  induction pairs generalizing reader cursor with
  | nil => exact ⟨[], reader, .nil, h, rfl, rfl⟩
  | cons pair pairs ih =>
    obtain ⟨a, hname, hwritten, hread⟩ := h.through_attribute (hnames pair List.mem_cons_self)
      (writes_escaped pair.2.toList) cursor
    have ha : Spells a pair := ⟨hname, hwritten⟩
    have hpair : feedThrough after? reader cursor (writeAttribute pair) =
        some ⟨name, a :: reader.attributes, .afterValue⟩ := hread
    -- Behind a value the tag stands at a boundary again, so the next attribute can follow.
    have hboundary : AtBoundary name ⟨name, a :: reader.attributes, .afterValue⟩ := .value
    obtain ⟨found, last, hfound, hlast, hattributes, hrest⟩ :=
      ih hboundary (fun other hother => hnames other (List.mem_cons_of_mem pair hother))
        (cursor.advanceAll (writeAttribute pair))
    refine ⟨a :: found, last, .cons ha hfound, hlast, ?_, ?_⟩
    · rw [hattributes]
      simp
    · rw [List.flatMap_cons, feedThrough_append hpair]
      exact hrest

end TagReader

/-! ### Names as they are written -/

namespace Printable

/-- A name is divided at the colon after its qualifier. -/
theorem splitAtColon_qualified {qualifier : Option String} {name : String}
    (hname : isAsciiName name.toList = true)
    (hqualifier : ∀ q ∈ qualifier, isAsciiName q.toList = true) :
    splitAtColon (qualified qualifier name) =
      qualifier.map fun q => (q.toList, name.toList) := by
  cases qualifier with
  | none => exact splitAtColon_of_isPart (isPart_of_isAsciiName hname)
  | some qualifier =>
    exact splitAtColon_append (isPart_of_isAsciiName (hqualifier qualifier rfl)) name.toList

/-- A qualified name declares something if its qualifier is the one for it. -/
theorem declaredQualifier?_qualified {qualifier name : String}
    (hqualifier : isAsciiName qualifier.toList = true) (hname : isAsciiName name.toList = true) :
    declaredQualifier? (String.ofList (qualified (some qualifier) name)) =
      if qualifier = "xmlns" then some (some name) else none := by
  have hsplit : splitAtColon (qualified (some qualifier) name) =
      some (qualifier.toList, name.toList) := by
    apply splitAtColon_qualified hname
    rintro q ⟨⟩
    exact hqualifier
  have hwhole : String.ofList (qualified (some qualifier) name) ≠ "xmlns" := by
    intro heq
    have hchars : qualified (some qualifier) name = "xmlns".toList := by
      rw [← heq, String.toList_ofList]
    have hnone : splitAtColon "xmlns".toList = none := by decide
    rw [hchars, hnone] at hsplit
    cases hsplit
  simp [declaredQualifier?, hwhole, hsplit]

namespace Head

variable {h : Head}

theorem splitAtColon_spell (h : Head) (space : Option Space) (name : Name) :
    splitAtColon (h.spell space name) =
      space.map fun space => ((h.qualifierOf space.uri).toList, name.text.toList) := by
  have hqualifier : ∀ q ∈ space.map (fun space => h.qualifierOf space.uri),
      isAsciiName q.toList = true := by
    intro q hq
    obtain ⟨space, -, rfl⟩ := Option.map_eq_some_iff.mp hq
    exact (h.qualifiers.of _).isName
  rw [spell, splitAtColon_qualified name.isName hqualifier, Option.map_map]
  rfl

/-- What is printed for a namespace is a declaration of its qualifier. -/
theorem declaredQualifier?_declared {qualifier uri : String}
    (hmem : (qualifier, uri) ∈ h.declared) :
    declaredQualifier? (String.ofList (qualified (some "xmlns") qualifier)) =
      some (some qualifier) := by
  obtain ⟨⟨n, rfl⟩, -⟩ := of_mem_declared hmem
  rw [declaredQualifier?_qualified (by decide) (h.qualifiers.of n).isName, if_pos rfl]

/-- What is printed for an element or an attribute is no declaration. -/
theorem declaredQualifier?_spell (h : Head) (space : Option Space) (name : Name) :
    declaredQualifier? (String.ofList (h.spell space name)) = none := by
  cases space with
  | none =>
    have hsplit := h.splitAtColon_spell none name
    rw [declaredQualifier?, String.toList_ofList, hsplit]
    simp [spell, qualified, name.ne_xmlns]
  | some space =>
    let qualifier := h.qualifiers.of (h.uris.idxOf space.uri)
    show declaredQualifier? (String.ofList (qualified (some qualifier.text) name.text)) = none
    rw [declaredQualifier?_qualified qualifier.isName name.isName, if_neg qualifier.ne_xmlns]

/-- Different names are written differently. -/
theorem spell_injective {a b : Attribute} (ha : a ∈ h.attributes)
    (heq : h.spell a.space a.name = h.spell b.space b.name) : a.expanded = b.expanded := by
  -- The colon tells whether there is a qualifier, so names of two kinds are not the same.
  have hsplit := congrArg splitAtColon heq
  rw [splitAtColon_spell, splitAtColon_spell] at hsplit
  unfold Attribute.expanded
  cases hspace : a.space with
  | none =>
    cases hother : b.space with
    | none =>
      rw [hspace, hother] at heq
      have hname : a.name.text = b.name.text := String.toList_inj.mp heq
      rw [hname]
    | some other =>
      rw [hspace, hother] at hsplit
      cases hsplit
  | some space =>
    cases hother : b.space with
    | none =>
      rw [hspace, hother] at hsplit
      cases hsplit
    | some other =>
      rw [hspace, hother] at hsplit
      obtain ⟨hqualifier, hname⟩ := Prod.mk.inj (Option.some.inj hsplit)
      have huri := qualifierOf_injective (mem_uris_of_attribute ha hspace)
        (String.toList_inj.mp hqualifier)
      simp [huri, String.toList_inj.mp hname]

/-- No attribute is written twice. -/
theorem nodup_written (h : Head) : (h.written.map Prod.fst).Nodup := by
  have hnames : h.written.map Prod.fst =
      (h.declared.map Prod.fst).map (qualified (some "xmlns")) ++
        h.attributes.map fun a => h.spell a.space a.name := by
    simp [written, Function.comp_def]
  rw [hnames, List.nodup_append]
  refine ⟨?_, ?_, ?_⟩
  · apply List.Nodup.map_on
    · intro u _ v _ heq
      have hback : ':' :: u.toList = ':' :: v.toList := List.append_cancel_left heq
      exact String.toList_inj.mp (List.cons.inj hback).2
    · exact h.nodup_declared
  · apply List.Nodup.map_on
    · intro a ha b hb heq
      exact List.inj_on_of_nodup_map h.distinct ha hb (spell_injective ha heq)
    · exact h.distinct.of_map
  · -- One of them is a declaration, and the other is none.
    intro s hs t ht heq
    obtain ⟨qualifier, hqualifier, rfl⟩ := List.mem_map.mp hs
    obtain ⟨⟨_, uri⟩, hmem, rfl⟩ := List.mem_map.mp hqualifier
    obtain ⟨a, -, rfl⟩ := List.mem_map.mp ht
    have hnone := h.declaredQualifier?_spell a.space a.name
    rw [← heq, declaredQualifier?_declared hmem] at hnone
    cases hnone

/-! ### The meaning of names -/

/-- The declarations of an element. -/
def bindings (h : Head) : List Binding :=
  h.declared.map fun (qualifier, uri) => (some qualifier, some uri)

/-- The namespaces in force inside an element, given those around it. -/
def scopeIn (h : Head) (scope : Scope) : Scope :=
  h.bindings.reverse ++ scope

/-- What a name of an element or of one of its attributes expands to. -/
def expansion (h : Head) (space : Option Space) (name : Name) : Expansion :=
  ⟨space.map Space.uri, name.text, space.map fun space => h.qualifierOf space.uri⟩

theorem nodup_bindings (h : Head) : (h.bindings.map Prod.fst).Nodup := by
  have hkeys : h.bindings.map Prod.fst = (h.declared.map Prod.fst).map some := by
    simp [bindings, Function.comp_def]
  rw [hkeys]
  exact h.nodup_declared.map fun _ _ => Option.some.inj

/-- Inside an element its own qualifiers stand for its namespaces, whatever is declared around. -/
theorem find?_scopeIn {uri : String} (huri : uri ∈ h.uris) (scope : Scope) :
    (h.scopeIn scope).find? (some (h.qualifierOf uri)) = some uri := by
  have hlookup : h.bindings.lookup (some (h.qualifierOf uri)) = some (some uri) := by
    rw [Entries.lookup_eq_some_iff h.nodup_bindings, bindings, List.mem_map]
    exact ⟨(h.qualifierOf uri, uri), List.mem_map.mpr ⟨uri, huri, rfl⟩, rfl⟩
  rw [Scope.find?, scopeIn, List.lookup_append, Entries.lookup_reverse h.nodup_bindings, hlookup]
  rfl

/-- A printed element never declares a default namespace. -/
theorem find?_scopeIn_none (h : Head) (scope : Scope) :
    (h.scopeIn scope).find? none = scope.find? none := by
  have hlookup : h.bindings.lookup none = none := by
    apply Entries.lookup_eq_none_of_not_mem
    simp [bindings]
  rw [Scope.find?, scopeIn, List.lookup_append, Entries.lookup_reverse h.nodup_bindings, hlookup]
  rfl

/-- A name is expanded with the namespace that it was printed for. -/
theorem expandAttribute_spell {space : Option Space} (hspace : ∀ s ∈ space, s.uri ∈ h.uris)
    (name : Name) (scope : Scope) :
    (h.scopeIn scope).expandAttribute (String.ofList (h.spell space name)) =
      .ok (h.expansion space name) := by
  rw [Scope.expandAttribute, String.toList_ofList, splitAtColon_spell]
  cases space with
  | none => simp [expansion, spell, qualified]
  | some space => simp [expansion, find?_scopeIn (hspace space rfl)]

theorem expandElement_spelling (h : Head) {scope : Scope} (hscope : scope.find? none = none) :
    (h.scopeIn scope).expandElement (String.ofList h.spelling) =
      .ok (h.expansion h.space h.name) := by
  have hattribute : (h.scopeIn scope).expandAttribute (String.ofList h.spelling) =
      .ok (h.expansion h.space h.name) :=
    expandAttribute_spell (fun _ hspace => mem_uris_of_space hspace) h.name scope
  have hsplit := h.splitAtColon_spell h.space h.name
  rw [Scope.expandElement, String.toList_ofList, spelling, hsplit]
  cases hspace : h.space with
  | none => simp [expansion, spell, qualified, find?_scopeIn_none, hscope]
  | some space =>
    rw [spelling, hspace] at hattribute
    exact hattribute

/-- An expansion is read back as the name that was printed. -/
theorem name?_expansion (h : Head) (space : Option Space) (name : Name) :
    (h.expansion space name).name? = some ⟨space.map Space.uri, name.text⟩ := by
  have hname : Text.words name.text.toList = [name.text.toList] :=
    (isPart_of_isAsciiName name.isName).words
  cases space with
  | none => simp [Expansion.name?, expansion, Expansion.joined, hname]
  | some space =>
    have hqualifier : Text.words (h.qualifierOf space.uri).toList =
        [(h.qualifierOf space.uri).toList] :=
      (isPart_of_isAsciiName (h.qualifiers.of _).isName).words
    have huri : Text.words space.uri.toList = [space.uri.toList] := by
      apply Text.words_of_not_blank
      · simpa using space.ne_empty
      · exact space.not_blank
    -- The parts are joined with spaces and divided at white space, of which they have none.
    have hwords : Text.words (space.uri.toList ++
        ' ' :: (name.text.toList ++ ' ' :: (h.qualifierOf space.uri).toList)) =
          [space.uri.toList, name.text.toList, (h.qualifierOf space.uri).toList] := by
      rw [Text.words_append, Text.words_append, huri, hname, hqualifier]
      rfl
    simp [Expansion.name?, expansion, Expansion.joined, hwords]

end Head

end Printable

/-! ### The meaning of start tags -/

namespace Tag

/-- The effect of attributes one after the other. -/
def Sorting.addAll (s : Sorting) : List (List Char × String) → Except Problem Sorting
  | [] => .ok s
  | pair :: pairs =>
    match s.add (String.ofList pair.1) pair.2 with
    | .error problem => .error problem
    | .ok s => s.addAll pairs

/-- The attributes of a printed tag have the effects of their names and values, if no name is
written twice. -/
theorem sortWritten_spells {k : Knowledge} (hk : k.alphabet = .sequences) (position : Position)
    {found : List WrittenAttribute} {pairs : List (List Char × String)}
    (hfound : List.Forall₂ TagReader.Spells found pairs) (hnodup : (pairs.map Prod.fst).Nodup)
    {seen : List String} (hseen : ∀ pair ∈ pairs, String.ofList pair.1 ∉ seen) {s last : Sorting}
    (hadd : s.addAll pairs = .ok last) : sortWritten k [] position seen s found = .ok last := by
  induction hfound generalizing seen s with
  | nil => exact congrArg _ (Except.ok.inj hadd)
  | @cons a pair found pairs ha _ ih =>
    obtain ⟨hname, hwritten⟩ := ha
    obtain ⟨hpair, hrest⟩ := List.nodup_cons.mp hnodup
    have hnew : a.name ∉ seen := by
      rw [hname]
      exact hseen pair List.mem_cons_self
    have hvalue : Value.normalize ⟨k.alphabet, true, k.entitiesKnown, position⟩ a.valueStart
        a.written = .ok pair.2.toList := by
      rw [hwritten]
      exact Value.normalize_writes hk rfl a.valueStart (writes_escaped pair.2.toList)
    rw [Sorting.addAll] at hadd
    cases hstep : s.add (String.ofList pair.1) pair.2 with
    | error problem =>
      rw [hstep] at hadd
      cases hadd
    | ok next =>
      rw [hstep] at hadd
      -- The name joins those that have been seen, and no later one repeats it.
      have hlater : ∀ other ∈ pairs, String.ofList other.1 ∉ a.name :: seen := by
        intro other hother hmem
        rcases List.mem_cons.mp hmem with heq | hmem
        · rw [hname, String.ofList_inj] at heq
          exact hpair (List.mem_map.mpr ⟨other, hother, heq⟩)
        · exact hseen other (List.mem_cons_of_mem pair hother) hmem
      have hnext := ih hrest hlater hadd
      rw [sortWritten, if_neg (by simpa using hnew)]
      simpa [isCharacterData, hvalue, hname, hstep] using hnext

/-- A printed declaration comes into force. -/
theorem Sorting.add_declared {h : Head} {qualifier uri : String}
    (hmem : (qualifier, uri) ∈ h.declared) (s : Sorting) :
    s.add (String.ofList (qualified (some "xmlns") qualifier)) uri =
      .ok ⟨(some qualifier, some uri) :: s.scope, (some qualifier, some uri) :: s.bindings,
        s.names⟩ := by
  have hdeclared := Head.declaredQualifier?_declared hmem
  obtain ⟨⟨n, rfl⟩, space, rfl⟩ := Head.of_mem_declared hmem
  have hspace : ' ' ∉ space.uri.toList := fun hblank =>
    absurd (space.not_blank ' ' hblank) (by decide)
  have hrefusal : Scope.refusal? (some (h.qualifiers.of n).text) space.uri = none := by
    simp [Scope.refusal?, space.ne_empty, (h.qualifiers.of n).ne_xmlns, hspace, h.qualifiers.ne_xml,
      space.ne_xml, space.ne_xmlns]
  simp [add, hdeclared, Scope.bind, hrefusal, space.ne_empty]

/-- The declarations of a printed tag come into force one after the other. -/
theorem Sorting.addAll_declared {h : Head} {declared : List (String × String)}
    (hsub : ∀ pair ∈ declared, pair ∈ h.declared) (s : Sorting)
    (rest : List (List Char × String)) :
    s.addAll ((declared.map fun (qualifier, uri) => (qualified (some "xmlns") qualifier, uri)) ++
        rest) =
      Sorting.addAll
        ⟨(declared.map fun (qualifier, uri) => (some qualifier, some uri)).reverse ++ s.scope,
          (declared.map fun (qualifier, uri) => (some qualifier, some uri)).reverse ++ s.bindings,
          s.names⟩ rest := by
  induction declared generalizing s with
  | nil => rfl
  | cons pair declared ih =>
    have hstep := Sorting.add_declared (hsub pair List.mem_cons_self) s
    rw [List.map_cons, List.cons_append, Sorting.addAll, hstep]
    dsimp only
    rw [ih fun other hother => hsub other (List.mem_cons_of_mem pair hother)]
    simp

/-- The attributes of a printed tag are kept by name. -/
theorem Sorting.addAll_attributes (h : Head) (attributes : List Attribute) (s : Sorting) :
    s.addAll (attributes.map fun a => (h.spell a.space a.name, a.value)) =
      .ok { s with
        names := (attributes.map fun a => String.ofList (h.spell a.space a.name)).reverse ++
          s.names } := by
  induction attributes generalizing s with
  | nil => rfl
  | cons a attributes ih =>
    have hstep : s.add (String.ofList (h.spell a.space a.name)) a.value =
        .ok { s with names := String.ofList (h.spell a.space a.name) :: s.names } := by
      rw [add, h.declaredQualifier?_spell]
    rw [List.map_cons, Sorting.addAll, hstep]
    dsimp only
    rw [ih]
    simp

theorem Sorting.addAll_written (h : Head) (scope : Scope) :
    Sorting.addAll ⟨scope, [], []⟩ h.written =
      .ok ⟨h.scopeIn scope, h.bindings.reverse,
        (h.attributes.map fun a => String.ofList (h.spell a.space a.name)).reverse⟩ := by
  rw [Head.written, Sorting.addAll_declared fun pair hpair => hpair, Sorting.addAll_attributes]
  simp [Head.scopeIn, Head.bindings]

/-- The names of the attributes are expanded, and no two become the same. -/
theorem expandAttributes_printed (h : Head) (scope : Scope) {before later : List Attribute}
    (hall : h.attributes = before ++ later) :
    expandAttributes (h.scopeIn scope) (before.map fun a => h.expansion a.space a.name).reverse
        (later.map fun a => String.ofList (h.spell a.space a.name)) =
      .ok (h.attributes.map fun a => h.expansion a.space a.name) := by
  induction later generalizing before with
  | nil =>
    rw [List.append_nil] at hall
    rw [hall]
    simp [expandAttributes]
  | cons a later ih =>
    have ha : a ∈ h.attributes := by
      rw [hall]
      exact List.mem_append_right _ List.mem_cons_self
    have hexpand : (h.scopeIn scope).expandAttribute (String.ofList (h.spell a.space a.name)) =
        .ok (h.expansion a.space a.name) :=
      Head.expandAttribute_spell (fun _ hspace => Head.mem_uris_of_attribute ha hspace) a.name scope
    have hdifferent : (before.map fun a => h.expansion a.space a.name).reverse.any (fun d =>
        d.uri == (h.expansion a.space a.name).uri &&
          d.localPart == (h.expansion a.space a.name).localPart) = false := by
      -- Two equal expansions would be those of two equal attributes.
      rw [List.any_eq_false]
      intro d hd heq
      obtain ⟨b, hb, rfl⟩ := List.mem_map.mp (List.mem_reverse.mp hd)
      have hsame : b.expanded = a.expanded := by
        simpa [Head.expansion, Attribute.expanded] using heq
      have hdistinct := h.distinct
      rw [hall, List.map_append, List.map_cons, List.nodup_append] at hdistinct
      exact hdistinct.2.2 _ (List.mem_map_of_mem hb) _ List.mem_cons_self hsame
    have hmore : h.attributes = (before ++ [a]) ++ later := by
      simp [hall]
    have hrest := ih hmore
    rw [List.map_append, List.reverse_append] at hrest
    rw [List.map_cons, expandAttributes, hexpand]
    dsimp only
    rw [hdifferent, Bool.and_false]
    exact hrest

/-- A start tag is expanded if each step succeeds. -/
theorem expanded_of_ok {k : Knowledge} {scope : Scope} {position : Position} {tag : Tag}
    {written sorted : Sorting} {element : Expansion} {attributes : List Expansion}
    (hwritten : sortWritten k (k.attributesOf tag.name) position [] ⟨scope, [], []⟩
      tag.attributes = .ok written)
    (hsorted : sortDeclared (tag.attributes.map (·.name)) written (k.attributesOf tag.name) =
      .ok sorted)
    (hattributes : expandAttributes sorted.scope [] sorted.names.reverse = .ok attributes)
    (helement : sorted.scope.expandElement tag.name = .ok element) :
    tag.expanded k scope position = .ok ⟨sorted, element, attributes⟩ := by
  have hbind {α β : Type} (a : α) (f : α → Except Failure β) : (Except.ok a >>= f) = f a := rfl
  simp only [expanded, hwritten, hbind, hsorted, mapError_ok, hattributes, helement]
  rfl

theorem names?_printed (h : Head) (attributes : List Attribute) :
    names? (attributes.map fun a => h.expansion a.space a.name) =
      some (attributes.map Attribute.expanded) := by
  induction attributes with
  | nil => rfl
  | cons a attributes ih =>
    rw [names?] at ih ⊢
    rw [List.map_cons, List.mapM_cons, h.name?_expansion, ih]
    rfl

/-- **A printed start tag means what was printed.**  It declares the qualifiers of its namespaces,
and its names are those of the element and the attributes. -/
theorem resolve_printed {k : Knowledge} (hk : k.alphabet = .sequences) (hrules : k.attributes = [])
    (h : Head) {scope : Scope} (hscope : scope.find? none = none) (position : Position)
    {found : List WrittenAttribute} (hfound : List.Forall₂ TagReader.Spells found h.written) :
    Tag.resolve k scope position ⟨String.ofList h.spelling, found⟩ =
      .ok ⟨h.bindings, h.scopeIn scope, ⟨h.space.map Space.uri, h.name.text⟩,
        h.attributes.map Attribute.expanded⟩ := by
  have hnone : k.attributesOf (String.ofList h.spelling) = [] := by
    simp [Knowledge.attributesOf, hrules]
  have hwritten : sortWritten k [] position [] ⟨scope, [], []⟩ found =
      .ok ⟨h.scopeIn scope, h.bindings.reverse,
        (h.attributes.map fun a => String.ofList (h.spell a.space a.name)).reverse⟩ :=
    sortWritten_spells hk position hfound h.nodup_written (fun _ _ => List.not_mem_nil)
      (Sorting.addAll_written h scope)
  have hattributes : expandAttributes (h.scopeIn scope) []
      (h.attributes.map fun a => String.ofList (h.spell a.space a.name)) =
        .ok (h.attributes.map fun a => h.expansion a.space a.name) :=
    expandAttributes_printed h scope (List.nil_append h.attributes).symm
  -- Sorting collects in reverse, and the attributes are expanded in the order of the tag.
  have hexpanded : expanded k scope position ⟨String.ofList h.spelling, found⟩ =
      .ok ⟨⟨h.scopeIn scope, h.bindings.reverse,
          (h.attributes.map fun a => String.ofList (h.spell a.space a.name)).reverse⟩,
        h.expansion h.space h.name, h.attributes.map fun a => h.expansion a.space a.name⟩ := by
    apply expanded_of_ok
    · rw [hnone]
      exact hwritten
    · rw [hnone]
      rfl
    · rw [List.reverse_reverse]
      exact hattributes
    · exact h.expandElement_spelling hscope
  rw [resolve_eq, hexpanded]
  show Expanded.opening _ = _
  simp [Expanded.opening, h.name?_expansion, names?_printed]

end Tag

end AttrLint.Xml
