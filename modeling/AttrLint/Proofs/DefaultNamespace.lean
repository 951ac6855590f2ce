import AttrLint.Proofs.Parsing
import AttrLint.Proofs.RoundTrip

namespace AttrLint

/-!
# Elements in a default namespace

An element without a qualifier belongs to the default namespace that it declares.  Its expanded name
is read back from a text in which white space divides the parts, so the name of a namespace that
has white space of its own is divided, too, and then the element gets another name.

* `Xml.loneElement` — a document of one element that declares a default namespace.
* `Xml.apparentName?` — the name that comes out for the element.
* `Xml.Tag.resolve_default` — the meaning of the start tag.
* `Xml.events_lone`, `Xml.events_misnamed` — what reading the document gives, for names and for
  other texts in the place of a name.
* `Document.parse_default_namespace` — the main statement: the element keeps its name and gets the
  namespace exactly if the namespace has no white space, unless the document is refused.
-/

namespace Text

/-- The words of a text have no white space. -/
theorem not_blank_of_mem_wordsFrom {s word w : List Char} (hword : ∀ c ∈ word, isBlank c = false)
    (hw : w ∈ wordsFrom word s) : ∀ c ∈ w, isBlank c = false := by
  induction s generalizing word with
  | nil =>
    rw [wordsFrom] at hw
    split at hw
    · cases hw
    · obtain rfl := List.mem_singleton.mp hw
      exact fun c hc => hword c (List.mem_reverse.mp hc)
  | cons d ds ih =>
    -- A blank ends the word that is being collected, and any other character joins it.
    rw [wordsFrom] at hw
    by_cases hd : isBlank d = true
    · rw [if_pos hd] at hw
      split at hw
      · exact ih (by simp) hw
      · obtain rfl | hw := List.mem_cons.mp hw
        · exact fun c hc => hword c (List.mem_reverse.mp hc)
        · exact ih (by simp) hw
    · rw [if_neg hd] at hw
      refine ih ?_ hw
      intro c hc
      obtain rfl | hc := List.mem_cons.mp hc
      · simpa using hd
      · exact hword c hc

theorem not_blank_of_mem_words {s w : List Char} (hw : w ∈ words s) :
    ∀ c ∈ w, isBlank c = false :=
  not_blank_of_mem_wordsFrom (by simp) hw

end Text

namespace Xml

open Printable

/-! ### Names -/

/-- Says that the text is a name without a colon. -/
def isLocalName : List Char → Bool
  | [] => false
  | c :: cs => isNameStart .sequences c && cs.all (isNameChar .sequences)

/-- Says that the character is legal, and that not all editions of XML may agree on whether it
stands in names. -/
def isDisputed (c : Char) : Bool :=
  0x80 ≤ c.toNat && isLegal c

/-- Says that the text may be a name without a colon in some edition of XML.  All editions agree on
the ASCII characters. -/
def mayBeName : List Char → Bool
  | [] => false
  | c :: cs =>
    (isNameStart .sequences c || isDisputed c) &&
      cs.all fun c => isNameChar .sequences c || isDisputed c

theorem isLocalName_eq {name : List Char} (h : isLocalName name = true) :
    ∃ c cs, name = c :: cs ∧ isNameStart .sequences c = true ∧
      ∀ d ∈ cs, isNameChar .sequences d = true := by
  cases name with
  | nil => cases h
  | cons c cs =>
    rw [isLocalName, Bool.and_eq_true, List.all_eq_true] at h
    exact ⟨c, cs, rfl, h⟩

theorem isPart_of_isLocalName {name : List Char} (h : isLocalName name = true) : IsPart name := by
  obtain ⟨c, cs, rfl, hstart, hcs⟩ := isLocalName_eq h
  refine ⟨List.cons_ne_nil c cs, fun d hd => ?_⟩
  have hchar : isNameChar .sequences d = true := by
    obtain rfl | hd := List.mem_cons.mp hd
    · exact isNameChar_of_isNameStart hstart
    · exact hcs d hd
  exact (isNameChar_part hchar).2 d List.mem_cons_self

theorem isLegal_of_isNameChar {c : Char} (h : isNameChar .sequences c = true) :
    isLegal c = true := by
  have hline := isInLine_of_isNameChar h
  simp only [isInLine, Bool.and_eq_true] at hline
  exact hline.1.1

/-- What may be a name is made of legal characters. -/
theorem legal_of_mayBeName {name : List Char} (h : mayBeName name = true) :
    name.all isLegal = true := by
  have hlegal {c : Char} (hc : isNameChar .sequences c = true ∨ isDisputed c = true) :
      isLegal c = true := by
    obtain hc | hc := hc
    · exact isLegal_of_isNameChar hc
    · exact (Bool.and_eq_true_iff.mp hc).2
  cases name with
  | nil => rfl
  | cons c cs =>
    rw [mayBeName, Bool.and_eq_true, Bool.or_eq_true, List.all_eq_true] at h
    rw [List.all_cons, Bool.and_eq_true, List.all_eq_true]
    refine ⟨hlegal (h.1.imp isNameChar_of_isNameStart id), fun d hd => hlegal ?_⟩
    simpa using h.2 d hd

theorem high_of_isDisputed {c : Char} (h : isDisputed c = true) : 0x80 ≤ c.toNat := by
  simpa using (Bool.and_eq_true_iff.mp h).1

/-- The first character that cannot go on with what may be a name. -/
theorem exists_first_disputed {cs : List Char}
    (hcs : ∀ c ∈ cs, (isNameChar .sequences c || isDisputed c) = true)
    (hnot : cs.all (isNameChar .sequences) = false) :
    ∃ good d bad, cs = good ++ d :: bad ∧ (∀ e ∈ good, isNameChar .sequences e = true) ∧
      isNameChar .sequences d = false ∧ 0x80 ≤ d.toNat := by
  obtain ⟨d, hfirst⟩ : ∃ d, cs.find? (fun d => !isNameChar .sequences d) = some d := by
    rw [← Option.isSome_iff_exists, List.find?_isSome]
    simpa using hnot
  obtain ⟨hd, good, bad, rfl, hgood⟩ := List.find?_eq_some_iff_append.mp hfirst
  have hd' : isNameChar .sequences d = false := by simpa using hd
  have hdisputed : isDisputed d = true := by simpa [hd'] using hcs d (by simp)
  exact ⟨good, d, bad, rfl, by simpa using hgood, hd', high_of_isDisputed hdisputed⟩

/-! ### Start tags -/

/-- The attribute that declares a default namespace, with the space before it. -/
def defaultDeclaration (written : List Char) : List Char :=
  ' ' :: ("xmlns".toList ++ '=' :: '"' :: (written ++ ['"']))

/-- A document of one element that declares a default namespace, of which `written` is the
written form. -/
def loneElement (name written : List Char) : List Char :=
  '<' :: (name ++ (defaultDeclaration written ++ '>' :: '<' :: '/' :: (name ++ ['>'])))

/-- The name that comes out for an element in the default namespace `value`, which white space
divides. -/
def apparentName? (name value : List Char) : Option ExpandedName :=
  match Text.words value with
  | [] => some ⟨none, String.ofList (value ++ ' ' :: name)⟩
  | [uri] => some ⟨some (String.ofList uri), String.ofList name⟩
  | [uri, front] => some ⟨some (String.ofList uri), String.ofList front⟩
  | _ => none

theorem name?_default {name value : List Char} (hname : IsPart name) :
    Expansion.name? ⟨some (String.ofList value), String.ofList name, none⟩ =
      apparentName? name value := by
  have hjoined : Expansion.joined ⟨some (String.ofList value), String.ofList name, none⟩ =
      value ++ ' ' :: name := by
    simp [Expansion.joined]
  have hwords : Text.words (value ++ ' ' :: name) = Text.words value ++ [name] := by
    rw [Text.words_append, hname.words]
  rw [Expansion.name?, hjoined, hwords, apparentName?]
  obtain _ | ⟨_, _ | ⟨_, _ | ⟨_, _⟩⟩⟩ := Text.words value
  all_goals simp

/-- The start tag is read up to its last bracket. -/
theorem through_default {c : Char} {cs value written : List Char}
    (hcs : ∀ d ∈ cs, isNameChar .sequences d = true) (hwritten : Writes value written)
    (cursor : Cursor) :
    ∃ a : WrittenAttribute, a.name = "xmlns" ∧ a.written = written ∧
      feedThrough TagReader.after? (TagReader.start c) cursor (cs ++ defaultDeclaration written) =
        some ⟨String.ofList (c :: cs), [a], .afterValue⟩ := by
  have hname := (TagReader.readsNames_name "" []).through_letters hcs [c] false cursor
  have hboundary : TagReader.AtBoundary (String.ofList (c :: cs))
      ⟨"", [], .name (cs.reverse ++ [c]) false⟩ := .name (by simp [spelled])
  have hspelling : IsSpelling "xmlns".toList := ⟨none, "xmlns", rfl, by decide, by simp⟩
  obtain ⟨a, ha, haw, hread⟩ :=
    hboundary.through_attribute hspelling hwritten (cursor.advanceAll cs)
  refine ⟨a, ha, haw, ?_⟩
  rw [TagReader.start, feedThrough_append hname]
  exact hread

namespace Tag

variable {k : Knowledge} {scope : Scope} {position : Position} {name value : List Char}
  {a : WrittenAttribute}

/-- A space refuses a default namespace, and so do the two namespaces that every document has. -/
theorem refusal?_default (value : List Char) :
    Scope.refusal? none (String.ofList value) =
      if ' ' ∈ value then some .misplacedToken
      else if value = xmlUri.toList ∨ value = xmlnsUri.toList then some .reservedUri
      else none := by
  have huri {uri : String} : String.ofList value = uri ↔ value = uri.toList := by
    rw [← String.toList_inj, String.toList_ofList]
  simp [Scope.refusal?, huri]

/-- A default namespace is declared by its attribute alone. -/
theorem sortWritten_default (hk : k.alphabet = .sequences) (hname : a.name = "xmlns")
    (hwritten : Writes value a.written) :
    sortWritten k [] position [] ⟨scope, [], []⟩ [a] =
      (Sorting.add ⟨scope, [], []⟩ "xmlns" (String.ofList value)).mapError
        fun problem => .fault problem position := by
  have hvalue : Value.normalize ⟨k.alphabet, true, k.entitiesKnown, position⟩ a.valueStart
      a.written = .ok value := Value.normalize_writes hk rfl a.valueStart hwritten
  rw [sortWritten, if_neg (by simp)]
  simp only [isCharacterData, List.find?_nil, hvalue, hname]
  cases Sorting.add ⟨scope, [], []⟩ "xmlns" (String.ofList value) with
  | error problem => rfl
  | ok s => rfl

/-- A declaration that is refused is a fault of its start tag. -/
theorem resolve_refused (hk : k.alphabet = .sequences) (hrules : k.attributes = [])
    (hname : a.name = "xmlns") (hwritten : Writes value a.written) {problem : Problem}
    (hrefused : Scope.refusal? none (String.ofList value) = some problem) :
    resolve k scope position ⟨String.ofList name, [a]⟩ = .error (.fault problem position) := by
  have hnone : k.attributesOf (String.ofList name) = [] := by
    simp [Knowledge.attributesOf, hrules]
  have hadd : Sorting.add ⟨scope, [], []⟩ "xmlns" (String.ofList value) = .error problem := by
    simp [Sorting.add, declaredQualifier?, Scope.bind, hrefused]
  have hsort : sortWritten k (k.attributesOf (String.ofList name)) position []
      ⟨scope, [], []⟩ [a] = .error (.fault problem position) := by
    rw [hnone, sortWritten_default hk hname hwritten, hadd]
    rfl
  have hexpanded : expanded k scope position ⟨String.ofList name, [a]⟩ =
      .error (.fault problem position) := by
    simp only [expanded, hsort]
    rfl
  rw [resolve_eq, hexpanded]
  rfl

/-- A default namespace that is declared holds of the element, and of nothing else here. -/
theorem resolve_default (hk : k.alphabet = .sequences) (hrules : k.attributes = [])
    (hpart : IsPart name) (hvalue : value ≠ []) (hname : a.name = "xmlns")
    (hwritten : Writes value a.written)
    (haccepted : Scope.refusal? none (String.ofList value) = none) :
    resolve k scope position ⟨String.ofList name, [a]⟩ =
      (apparentName? name value).elim (.error .tooManyNameParts) fun n =>
        .ok ⟨[(none, some (String.ofList value))], (none, some (String.ofList value)) :: scope,
          n, []⟩ := by
  have hnone : k.attributesOf (String.ofList name) = [] := by
    simp [Knowledge.attributesOf, hrules]
  have hne : String.ofList value ≠ "" := by simpa using hvalue
  have hadd : Sorting.add ⟨scope, [], []⟩ "xmlns" (String.ofList value) =
      .ok ⟨(none, some (String.ofList value)) :: scope, [(none, some (String.ofList value))],
        []⟩ := by
    simp [Sorting.add, declaredQualifier?, Scope.bind, haccepted, hne]
  -- The name has no colon, so it is looked up under the default that has just been declared.
  have hsplit : splitAtColon name = none := splitAtColon_of_isPart hpart
  have hexpanded : expanded k scope position ⟨String.ofList name, [a]⟩ =
      .ok ⟨⟨(none, some (String.ofList value)) :: scope, [(none, some (String.ofList value))], []⟩,
        ⟨some (String.ofList value), String.ofList name, none⟩, []⟩ := by
    apply expanded_of_ok
    · rw [hnone, sortWritten_default hk hname hwritten, hadd]
      rfl
    · rw [hnone]
      rfl
    · rfl
    · simp [Scope.expandElement, hsplit, Scope.find?]
  rw [resolve_eq, hexpanded]
  show Expanded.opening _ = _
  rw [Expanded.opening, name?_default hpart]
  cases apparentName? name value with
  | none => rfl
  | some n => rfl

end Tag

/-! ### Documents of one element -/

/-- The document begins with a bracket and a name, and is made of legal characters. -/
theorem legal_loneElement {name value written : List Char} (hname : mayBeName name = true)
    (hvalue : ∀ c ∈ value, isLegal c = true) (hwritten : Writes value written) :
    (loneElement name written).all isLegal = true := by
  have hsigns : ['<', ' ', 'x', 'm', 'l', 'n', 's', '=', '"', '>', '/'].all isLegal = true := by
    decide
  simp only [List.all_cons, Bool.and_eq_true] at hsigns
  simp [loneElement, defaultDeclaration, legal_of_mayBeName hname, hwritten.legal hvalue, hsigns]

theorem mayBeName_of_isLocalName {name : List Char} (h : isLocalName name = true) :
    mayBeName name = true := by
  obtain ⟨c, cs, rfl, hstart, hcs⟩ := isLocalName_eq h
  rw [mayBeName, hstart, Bool.true_or, Bool.true_and, List.all_eq_true]
  intro d hd
  rw [hcs d hd, Bool.true_or]

theorem loneElement_cons (c : Char) (cs written : List Char) :
    loneElement (c :: cs) written =
      ('<' :: c :: ((cs ++ defaultDeclaration written) ++ ['>'])) ++
        ('<' :: '/' :: c :: (cs ++ ['>'])) := by
  simp [loneElement]

/-- The document is read character by character. -/
theorem events_loneElement {name value written : List Char} (hname : mayBeName name = true)
    (hlegal : ∀ c ∈ value, isLegal c = true) (hwritten : Writes value written) :
    events (Text.Utf8.encode (loneElement name written)) =
      ((Reader.start .utf8 .start false).run (loneElement name written)).finish .complete := by
  have hall := legal_loneElement hname hlegal hwritten
  cases name with
  | nil => cases hname
  | cons c cs =>
    have hquestion : c ≠ '?' := by
      rintro rfl
      exact absurd hname (by simp [mayBeName, isNameStart, isAsciiLetter, isDisputed])
    exact events_encode hall hquestion

section Lone

variable {name value written : List Char} (hname : isLocalName name = true)
  (hlegal : ∀ c ∈ value, isLegal c = true) (hwritten : Writes value written)

include hname hlegal hwritten

/-- If the declaration is refused, so is the document. -/
theorem events_refused {problem : Problem}
    (hrefused : Scope.refusal? none (String.ofList value) = some problem) :
    events (Text.Utf8.encode (loneElement name written)) = .error (.fault problem ⟨1, 0⟩) := by
  rw [events_loneElement (mayBeName_of_isLocalName hname) hlegal hwritten]
  obtain ⟨c, cs, rfl, hstart, hcs⟩ := isLocalName_eq hname
  obtain ⟨a, ha, rfl, hthrough⟩ := through_default hcs hwritten
    ((Reader.start .utf8 .start false).cursor.advanceAll ['<', c])
  have hfailed := Reader.ready_start.run_refused hstart hthrough (fun _ => rfl)
    (Tag.resolve_refused rfl rfl ha hwritten hrefused)
  rw [loneElement_cons]
  exact Reader.finish_of_failed (List.prefix_append _ _) hfailed .complete

/-- Otherwise the element is reported by the name that comes out for it. -/
theorem events_lone (hvalue : value ≠ [])
    (haccepted : Scope.refusal? none (String.ofList value) = none) :
    events (Text.Utf8.encode (loneElement name written)) =
      (apparentName? name value).elim (.error .tooManyNameParts) fun n =>
        .ok [.locate 1 0, .bind none (some (String.ofList value)), .start n [], .finish] := by
  have hpart := isPart_of_isLocalName hname
  rw [events_loneElement (mayBeName_of_isLocalName hname) hlegal hwritten]
  obtain ⟨c, cs, rfl, hstart, hcs⟩ := isLocalName_eq hname
  obtain ⟨a, ha, rfl, hthrough⟩ := through_default hcs hwritten
    ((Reader.start .utf8 .start false).cursor.advanceAll ['<', c])
  have hresolve : Tag.resolve (Reader.start .utf8 .start false).knowledge
      (Reader.start .utf8 .start false).scope (Reader.start .utf8 .start false).here
        ⟨String.ofList (c :: cs), [a]⟩ = _ :=
    Tag.resolve_default rfl rfl hpart hvalue ha hwritten haccepted
  rw [loneElement_cons]
  cases happarent : apparentName? (c :: cs) value with
  | none =>
    rw [happarent] at hresolve
    have hfailed := Reader.ready_start.run_refused hstart hthrough (fun _ => rfl) hresolve
    exact Reader.finish_of_failed (List.prefix_append _ _) hfailed .complete
  | some n =>
    rw [happarent] at hresolve
    rw [Reader.run_append]
    obtain ⟨last, hrun⟩ := Reader.ready_start.run_opened hstart hthrough (fun _ => rfl) hresolve
    generalize (Reader.start .utf8 .start false).run
      ('<' :: c :: ((cs ++ defaultDeclaration a.written) ++ ['>'])) = r at hrun ⊢
    -- Behind the start tag the element is the only one that is open, and its end tag closes it.
    have halphabet : r.encoding.alphabet = .sequences := by
      rw [hrun]
      rfl
    have hstage : r.stage = .inside .between := by rw [hrun]
    have hopened : r.opened = [(String.ofList (c :: cs), Scope.initial)] := by
      rw [hrun]
      rfl
    have hevents : r.events =
        [.start n [], .bind none (some (String.ofList value)), .locate 1 0] := by
      rw [hrun]
      rfl
    obtain ⟨last', tokenStart, hclose⟩ :=
      Reader.run_close halphabet hstage hstart (fun d hd => .inl (hcs d hd)) hopened
    rw [hclose]
    simp [Reader.finish, Reader.finishAfter, hevents]

end Lone

/-- A character that no name begins with, right after a bracket. -/
theorem Reader.stage_run_bracket {c : Char} (hhigh : 0x80 ≤ c.toNat)
    (hstart : isNameStart .sequences c = false) :
    ((Reader.start .utf8 .start false).run ['<', c]).stage =
      .failed (.fault .invalidToken ⟨1, 1⟩) := by
  obtain ⟨-, -, hslash, hbang, hquestion, -⟩ := TagReader.of_high hhigh
  have hunread : Alphabet.sequences.isOpaque c = true := by
    simpa [Alphabet.isOpaque] using hhigh
  obtain ⟨last, hrun⟩ := Reader.ready_start.run_bracket hbang hquestion (by simp [hunread])
  have hless (cursor : Cursor) : Content.less.feed .sequences Encoding.utf8.units cursor c =
      .invalid cursor.position := by
    simp [Content.feed, hslash, hbang, hquestion, hstart]
  rw [hrun]
  simp [Reader.feedInside, Content.isText, Reader.start, Encoding.alphabet, hless, Reader.fail]
  rfl

/-- A character that no name has, after the beginning of a name. -/
theorem Reader.stage_run_name {c d : Char} {good : List Char}
    (hstart : isNameStart .sequences c = true)
    (hgood : ∀ e ∈ good, isNameChar .sequences e = true) (hhigh : 0x80 ≤ d.toNat)
    (hd : isNameChar .sequences d = false) :
    ∃ position, ((Reader.start .utf8 .start false).run (['<', c] ++ (good ++ [d]))).stage =
      .failed (.fault .invalidToken position) := by
  obtain ⟨hspace, hbracket, hslash, -, -, hcolon⟩ := TagReader.of_high hhigh
  obtain ⟨last, hbegin⟩ := Reader.ready_start.run_begin hstart
  have hletters (cursor : Cursor) : feedThrough TagReader.after? (TagReader.start c) cursor good =
      some ⟨"", [], .name (good.reverse ++ [c]) false⟩ :=
    (TagReader.readsNames_name "" []).through_letters hgood [c] false cursor
  have hinvalid (units : Char → Nat) (cursor : Cursor) :
      (Content.tag ⟨"", [], .name (good.reverse ++ [c]) false⟩).feed .sequences units cursor d =
        .invalid cursor.position := by
    simp [Content.feed, TagReader.feed, TagReader.feedBoundary, hd, hcolon, hspace, hbracket,
      hslash]
  rw [Reader.run_append]
  -- Only the alphabet and the stage after the first two characters matter from here on.
  generalize (Reader.start .utf8 .start false).run ['<', c] = r at hbegin ⊢
  have halphabet : r.encoding.alphabet = .sequences := by
    rw [hbegin]
    rfl
  have hstage : r.stage = .inside (.tag (TagReader.start c)) := by rw [hbegin]
  obtain ⟨last', hrun⟩ :=
    Reader.run_through hstage halphabet (Content.through_tag (hletters r.cursor))
  rw [Reader.run_append, hrun, Reader.run_cons, Reader.run_nil]
  refine ⟨(r.cursor.advanceAll good).position, Reader.stage_step_invalid rfl rfl ?_⟩
  rw [halphabet]
  exact hinvalid _ _

/-- Where another text stands in the place of a name, the document is refused. -/
theorem events_misnamed {name value written : List Char} (hname : mayBeName name = true)
    (hlocal : isLocalName name = false) (hlegal : ∀ c ∈ value, isLegal c = true)
    (hwritten : Writes value written) :
    ∃ position, events (Text.Utf8.encode (loneElement name written)) =
      .error (.fault .invalidToken position) := by
  rw [events_loneElement hname hlegal hwritten]
  cases name with
  | nil => cases hname
  | cons c cs =>
    rw [mayBeName, Bool.and_eq_true, Bool.or_eq_true, List.all_eq_true] at hname
    cases hstart : isNameStart .sequences c with
    | false =>
      have hdisputed : isDisputed c = true := hname.1.resolve_left (by simp [hstart])
      have hfront : ['<', c] <+: loneElement (c :: cs) written := ⟨_, rfl⟩
      have hfailed := Reader.stage_run_bracket (high_of_isDisputed hdisputed) hstart
      exact ⟨_, Reader.finish_of_failed hfront hfailed .complete⟩
    | true =>
      -- The reading comes to the first character that cannot stand in a name.
      rw [isLocalName, hstart, Bool.true_and] at hlocal
      obtain ⟨good, d, bad, rfl, hgood, hd, hhigh⟩ := exists_first_disputed hname.2 hlocal
      have hfront : ['<', c] ++ (good ++ [d]) <+:
          loneElement (c :: (good ++ d :: bad)) written := by
        simp [loneElement]
      obtain ⟨position, hfailed⟩ := Reader.stage_run_name hstart hgood hhigh hd
      exact ⟨position, Reader.finish_of_failed hfront hfailed .complete⟩

end Xml

namespace Document

open Xml

/-- The outcome of a document with a fault in its markup. -/
def faulty (source : String) (problem : Problem) (position : Position) : Except Halt Document :=
  .error (.reported (.documentParse source (.document source (.fault problem position))))

/-- A document of one element without attributes, on its first line. -/
def single (name : ExpandedName) : Document :=
  ⟨.node ⟨name.localName, name.uri, [], 1, 1⟩ [], [("xml", some xmlUri)]⟩

section Parsing

variable {source : String} (hsource : '\x00' ∉ source.toList) {name value written : List Char}
  (hlegal : ∀ c ∈ value, isLegal c = true) (hwritten : Writes value written)

include hsource hlegal hwritten

theorem parse_misnamed (hname : mayBeName name = true) (hlocal : isLocalName name = false) :
    ∃ position, parse source (Text.Utf8.encode (loneElement name written)) =
      faulty source .invalidToken position := by
  obtain ⟨position, hevents⟩ := events_misnamed hname hlocal hlegal hwritten
  exact ⟨position, (parse_of_not_null hsource _).1 _ hevents rfl⟩

theorem parse_refused (hname : isLocalName name = true) {problem : Problem}
    (hrefused : Scope.refusal? none (String.ofList value) = some problem) :
    parse source (Text.Utf8.encode (loneElement name written)) =
      faulty source problem ⟨1, 0⟩ :=
  (parse_of_not_null hsource _).1 _ (events_refused hname hlegal hwritten hrefused) rfl

theorem parse_lone (hname : isLocalName name = true) (hvalue : value ≠ [])
    (haccepted : Scope.refusal? none (String.ofList value) = none) :
    parse source (Text.Utf8.encode (loneElement name written)) =
      (apparentName? name value).elim (.error (.escaped (.document .tooManyNameParts)))
        fun n => .ok (single n) := by
  have hevents := events_lone hname hlegal hwritten hvalue haccepted
  obtain ⟨-, hescaped, hparsed⟩ :=
    parse_of_not_null hsource (Text.Utf8.encode (loneElement name written))
  cases happarent : apparentName? name value with
  | none =>
    rw [happarent] at hevents
    exact hescaped _ hevents rfl
  | some n =>
    rw [happarent] at hevents
    exact hparsed _ _ hevents rfl

end Parsing

/-- The namespace comes out as it is only if it has no white space. -/
theorem not_blank_of_apparentName? {name value : List Char} {n : ExpandedName}
    (h : apparentName? name value = some n) (huri : n.uri = some (String.ofList value)) :
    ∀ c ∈ value, Text.isBlank c = false := by
  -- However many words there are, the namespace that comes out is one of them.
  have hword : value ∈ Text.words value := by
    unfold apparentName? at h
    split at h
    · cases h
      cases huri
    · next heq =>
      cases h
      rw [heq]
      simpa [String.ofList_inj, eq_comm] using huri
    · next heq =>
      cases h
      rw [heq]
      simp only [Option.some.injEq, String.ofList_inj] at huri
      simp [huri]
    · cases h
  exact Text.not_blank_of_mem_words hword

/-- The element keeps its name and gets the namespace if that has no white space. -/
theorem apparentName?_of_not_blank {name value : List Char} (hvalue : value ≠ [])
    (h : ∀ c ∈ value, Text.isBlank c = false) :
    apparentName? name value = some ⟨some (String.ofList value), String.ofList name⟩ := by
  rw [apparentName?, Text.words_of_not_blank hvalue h]

theorem not_blank_of_reserved {value : List Char}
    (h : value = xmlUri.toList ∨ value = xmlnsUri.toList) :
    ∀ c ∈ value, Text.isBlank c = false := by
  have hxml : xmlUri.toList.any Text.isBlank = false := by decide
  have hxmlns : xmlnsUri.toList.any Text.isBlank = false := by decide
  obtain rfl | rfl := h
  · exact fun c hc => by simpa using List.any_eq_false.mp hxml c hc
  · exact fun c hc => by simpa using List.any_eq_false.mp hxmlns c hc

/-- Where the declaration holds, the element has its name and the namespace exactly if that has no
white space. -/
theorem keeps_name_iff {source : String} {name value : List Char}
    {outcome : Except Halt Document} (hvalue : value ≠ [])
    (hdeclared : outcome = (apparentName? name value).elim
      (.error (.escaped (.document .tooManyNameParts))) fun n => .ok (single n)) :
    (∃ problem position, outcome = faulty source problem position) ∨
        (∃ d, outcome = .ok d ∧ d.root.head.tag = String.ofList name ∧
          d.root.head.uri = some (String.ofList value)) ↔
      ∀ c ∈ value, Text.isBlank c = false := by
  constructor
  · intro hkept
    rw [hdeclared] at hkept
    cases happarent : apparentName? name value with
    | none =>
      rw [happarent] at hkept
      obtain ⟨problem, position, herror⟩ | ⟨d, hok, -⟩ := hkept
      · cases herror
      · cases hok
    | some n =>
      rw [happarent] at hkept
      obtain ⟨problem, position, herror⟩ | ⟨d, hok, -, huri⟩ := hkept
      · cases herror
      · cases hok
        exact not_blank_of_apparentName? happarent huri
  · intro hclean
    rw [apparentName?_of_not_blank hvalue hclean] at hdeclared
    exact .inr ⟨_, hdeclared, rfl, rfl⟩

/-- **A default namespace without white space leaves the name of an element as it is.**  In a
document of one element that declares a default namespace, however that is written, the element has
its name and the namespace, or the document is refused, exactly if the text in the place of the name
is no name, or the namespace has a space or no white space at all.  Any other white space divides
the namespace: then the element has the second word for its name, or its own name in a shorter
namespace, or a name with white space in no namespace, or too many parts for a name. -/
theorem parse_default_namespace (source : String) {name value written : List Char}
    (hname : mayBeName name = true) (hvalue : value ≠ []) (hlegal : ∀ c ∈ value, isLegal c = true)
    (hwritten : Writes value written) :
    let outcome := parse source (Text.Utf8.encode (loneElement name written))
    ('\x00' ∈ source.toList → outcome = .error (.escaped .nullInSource)) ∧
    ('\x00' ∉ source.toList →
      (isLocalName name = false → ∃ position, outcome = faulty source .invalidToken position) ∧
      (isLocalName name = true →
        (' ' ∈ value → outcome = faulty source .misplacedToken ⟨1, 0⟩) ∧
        (value = xmlUri.toList ∨ value = xmlnsUri.toList →
          outcome = faulty source .reservedUri ⟨1, 0⟩) ∧
        (' ' ∉ value → ¬(value = xmlUri.toList ∨ value = xmlnsUri.toList) →
          outcome = (apparentName? name value).elim
            (.error (.escaped (.document .tooManyNameParts))) fun n => .ok (single n))) ∧
      ((∃ problem position, outcome = faulty source problem position) ∨
          (∃ d, outcome = .ok d ∧ d.root.head.tag = String.ofList name ∧
            d.root.head.uri = some (String.ofList value)) ↔
        isLocalName name = false ∨ ' ' ∈ value ∨ ∀ c ∈ value, Text.isBlank c = false)) := by
  intro outcome
  refine ⟨fun hnull => parse_of_null hnull _, fun hsource => ?_⟩
  have hmisnamed (hlocal : isLocalName name = false) :
      ∃ position, outcome = faulty source .invalidToken position :=
    parse_misnamed hsource hlegal hwritten hname hlocal
  have hspace (hlocal : isLocalName name = true) (h : ' ' ∈ value) :
      outcome = faulty source .misplacedToken ⟨1, 0⟩ := by
    apply parse_refused hsource hlegal hwritten hlocal
    rw [Tag.refusal?_default, if_pos h]
  have hreserved (hlocal : isLocalName name = true)
      (h : value = xmlUri.toList ∨ value = xmlnsUri.toList) :
      outcome = faulty source .reservedUri ⟨1, 0⟩ := by
    have hblank : ' ' ∉ value := by
      obtain rfl | rfl := h <;> decide
    apply parse_refused hsource hlegal hwritten hlocal
    rw [Tag.refusal?_default, if_neg hblank, if_pos h]
  have hdeclared (hlocal : isLocalName name = true) (hblank : ' ' ∉ value)
      (h : ¬(value = xmlUri.toList ∨ value = xmlnsUri.toList)) :
      outcome = (apparentName? name value).elim
        (.error (.escaped (.document .tooManyNameParts))) fun n => .ok (single n) := by
    apply parse_lone hsource hlegal hwritten hlocal hvalue
    rw [Tag.refusal?_default, if_neg hblank, if_neg h]
  refine ⟨hmisnamed, fun hlocal => ⟨hspace hlocal, hreserved hlocal, hdeclared hlocal⟩, ?_⟩
  -- In the first three cases the document is refused, which is as it should be.
  cases hlocal : isLocalName name with
  | false =>
    obtain ⟨position, hfault⟩ := hmisnamed hlocal
    exact iff_of_true (.inl ⟨_, position, hfault⟩) (.inl rfl)
  | true =>
    by_cases hblank : ' ' ∈ value
    · exact iff_of_true (.inl ⟨_, _, hspace hlocal hblank⟩) (.inr (.inl hblank))
    · by_cases htaken : value = xmlUri.toList ∨ value = xmlnsUri.toList
      · exact iff_of_true (.inl ⟨_, _, hreserved hlocal htaken⟩)
          (.inr (.inr (not_blank_of_reserved htaken)))
      · rw [keeps_name_iff hvalue (hdeclared hlocal hblank htaken)]
        simp [hblank]

/-- A name beyond ASCII, and a namespace in which one character is written as an entity and another
one by its number. -/
theorem parse_default_namespace_references :
    parse "a.xml" (Text.Utf8.encode "<é xmlns=\"u&amp;&#x76;\"></é>".toList) =
      .ok (single ⟨some "u&v", "é"⟩) := by
  have hname : mayBeName ['é'] = true := by decide +kernel
  have hlocal : isLocalName ['é'] = true := by decide +kernel
  have hlegal : ∀ c ∈ ['u', '&', 'v'], isLegal c = true := List.all_eq_true.mp (by decide)
  have hwritten : Writes ['u', '&', 'v']
      ('u' :: '&' :: ("amp".toList ++ ';' :: '&' :: (['#', 'x', '7', '6'] ++ [';']))) :=
    .plain (by decide) (.reference (.entity (by decide))
      (.reference (.hex (by decide) (by decide) (by decide)) .nil))
  obtain ⟨-, hall⟩ := parse_default_namespace "a.xml" hname (by decide) hlegal hwritten
  exact ((hall (by decide)).2.1 hlocal).2.2 (by decide) (by decide)

/-- A reference to white space in the namespace renames the element. -/
theorem parse_divided_namespace_renames :
    parse "a.xml" (Text.Utf8.encode "<T xmlns=\"a&#9;b\"></T>".toList) =
      .ok (single ⟨some "a", "b"⟩) := by
  have hlegal : ∀ c ∈ ['a', '\t', 'b'], isLegal c = true := List.all_eq_true.mp (by decide)
  have hwritten : Writes ['a', '\t', 'b'] ('a' :: '&' :: (['#', '9'] ++ [';', 'b'])) :=
    .plain (by decide) (.reference (.decimal (by decide) (by decide) (by decide))
      (.plain (by decide) .nil))
  have hsource : '\x00' ∉ "a.xml".toList := by decide
  have hlocal : isLocalName ['T'] = true := by decide
  exact parse_lone hsource hlegal hwritten hlocal (by decide) (by decide)

end Document

end AttrLint
