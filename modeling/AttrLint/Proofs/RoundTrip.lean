import Mathlib.Data.List.TakeWhile
import AttrLint.Check
import AttrLint.Proofs.Building
import AttrLint.Proofs.Histories
import AttrLint.Proofs.StartTags
import AttrLint.Proofs.Utf8

namespace AttrLint.Xml

/-!
# Parsing undoes printing

The text of a tree is read from left to right: a start tag opens an element inside those that are
open, the texts of the children are read there, and the end tag closes it.  What is reported on the
way describes the tree, each element with the place of its start tag, and a builder rebuilds it.

* `Reader.Ready` — the reader stands where an element can begin.
* `Reader.run_startTag`, `Reader.run_endTag` — what the tags of an element do.
* `Reader.run_print` — what the text of a tree does, by recursion on the tree.
* `Document.parse_print` — the main statement.
-/

open Printable

/-! ### Places -/

/-- In a text without line ends the column counts its characters. -/
theorem Cursor.advanceAll_inLine {s : List Char} (h : s.all isInLine = true) (line column : Nat) :
    Cursor.advanceAll ⟨⟨line, column⟩, false⟩ s = ⟨⟨line, column + s.length⟩, false⟩ := by
  induction s generalizing column with
  | nil => rfl
  | cons c cs ih =>
    rw [List.all_cons, Bool.and_eq_true] at h
    have hc : c ≠ '\r' ∧ c ≠ '\n' := by
      have hline := h.1
      simp only [isInLine, Bool.and_eq_true, decide_eq_true_eq] at hline
      exact ⟨hline.2, hline.1.2⟩
    have hstep : Cursor.advance ⟨⟨line, column⟩, false⟩ c = ⟨⟨line, column + 1⟩, false⟩ := by
      simp [advance, hc]
    show advanceAll (advance _ c) cs = _
    rw [hstep, ih h.2, List.length_cons, Nat.add_assoc, Nat.add_comm 1]

/-! ### Pieces of markup -/

namespace Content

variable {units : Char → Nat}

/-- The piece that goes on, if it does. -/
def Step.more? : Step → Option Content
  | .more content => some content
  | _ => none

@[simp] theorem Step.more?_more (content : Content) : (Step.more content).more? = some content :=
  rfl

theorem Step.more?_eq_some_iff {step : Step} {content : Content} :
    step.more? = some content ↔ step = .more content := by
  cases step <;> simp [more?]

/-- A piece of markup after one more character, which does not complete it. -/
def after? (units : Char → Nat) (content : Content) (cursor : Cursor) (c : Char) :
    Option Content :=
  if content.isText then none else (content.feed .sequences units cursor c).more?

theorem after?_eq_some_iff {content next : Content} {cursor : Cursor} {c : Char} :
    content.after? units cursor c = some next ↔
      content.isText = false ∧ content.feed .sequences units cursor c = .more next := by
  rw [after?]
  cases content.isText <;> simp [Step.more?_eq_some_iff]

/-- A start tag goes on inside as it does by itself. -/
theorem through_tag {reader next : TagReader} {cursor : Cursor} {s : List Char}
    (h : feedThrough TagReader.after? reader cursor s = some next) :
    feedThrough (after? units) (Content.tag reader) cursor s = some (.tag next) := by
  induction s generalizing reader cursor with
  | nil =>
    cases h
    rfl
  | cons c cs ih =>
    obtain ⟨middle, hfeed, hrest⟩ := of_feedThrough_cons h
    rw [TagReader.after?_eq_some_iff] at hfeed
    simp [after?, isText, feed, hfeed, ih hrest]

/-- The name of an end tag is read to its end. -/
theorem through_endName {s : List Char} (hs : ∀ c ∈ s, isNameChar .sequences c = true ∨ c = ':')
    (letters : List Char) (start : Position) (cursor : Cursor) :
    feedThrough (after? units) (Content.endName letters start) cursor s =
      some (.endName (s.reverse ++ letters) start) := by
  induction s generalizing letters cursor with
  | nil => rfl
  | cons c cs ih =>
    have hc := hs c List.mem_cons_self
    have hrest := ih (fun d hd => hs d (List.mem_cons_of_mem c hd)) (c :: letters)
      (cursor.advance c)
    simp [after?, isText, feed, hc, hrest]

/-- The slash and the name of an end tag. -/
theorem through_endTag (units : Char → Nat) {c : Char} {cs : List Char}
    (hstart : isNameStart .sequences c = true)
    (hcs : ∀ d ∈ cs, isNameChar .sequences d = true ∨ d = ':') (cursor : Cursor) :
    ∃ start, feedThrough (after? units) Content.less cursor ('/' :: c :: cs) =
      some (.endName (c :: cs).reverse start) := by
  refine ⟨(cursor.advance '/').position, ?_⟩
  simp [after?, isText, feed, hstart, through_endName hcs]

end Content

namespace Reader

/-! ### Characters inside the root element -/

/-- A character that goes on with a piece of markup. -/
theorem step_more {r : Reader} {content next : Content} (hstage : r.stage = .inside content)
    (htext : content.isText = false) {c : Char}
    (hfeed : content.feed r.encoding.alphabet r.encoding.units r.cursor c = .more next) :
    r.step c = { r with
      stage := .inside next
      cursor := r.cursor.advance c
      last := r.here } := by
  simp [step, feed, hstage, feedInside, htext, hfeed, here]

/-- A character that completes a piece of markup. -/
theorem step_piece {r : Reader} {content : Content} {piece : Piece}
    (hstage : r.stage = .inside content) (htext : content.isText = false) {c : Char}
    (hfeed : content.feed r.encoding.alphabet r.encoding.units r.cursor c = .piece piece) :
    r.step c = { r.takePiece piece with cursor := r.cursor.advance c, last := r.here } := by
  simp [step, feed, hstage, feedInside, htext, hfeed, here]

/-- A character that cannot stand where it does. -/
theorem stage_step_invalid {r : Reader} {content : Content} {position : Position}
    (hstage : r.stage = .inside content) (htext : content.isText = false) {c : Char}
    (hfeed : content.feed r.encoding.alphabet r.encoding.units r.cursor c = .invalid position) :
    (r.step c).stage = .failed (.fault .invalidToken position) := by
  simp [step, feed, hstage, feedInside, htext, hfeed, fail]

/-- A failure at the front of a document is the failure of the whole. -/
theorem finish_of_failed {r : Reader} {front text : List Char} {e : Failure}
    (hfront : front <+: text) (hstage : (r.run front).stage = .failed e) (ending : Ending) :
    (r.run text).finish ending = .error e := by
  obtain ⟨rest, rfl⟩ := hfront
  rw [run_append, run_failed _ _ hstage, finish, hstage]

/-- A bracket after text begins a piece of markup. -/
theorem step_less {r : Reader} (hstage : r.stage = .inside .between) :
    r.step '<' = { r with
      tokenStart := r.here
      stage := .inside .less
      cursor := r.cursor.advance '<'
      last := r.here } := by
  simp [step, feed, hstage, feedInside, Content.between, Content.isText, Content.feed,
    Content.feedText, here]

/-- The characters of a piece of markup that goes on after them. -/
theorem run_through {r : Reader} {content next : Content} (hstage : r.stage = .inside content)
    (halphabet : r.encoding.alphabet = .sequences) {s : List Char}
    (hthrough : feedThrough (Content.after? r.encoding.units) content r.cursor s = some next) :
    ∃ last, r.run s = { r with
      stage := .inside next
      cursor := r.cursor.advanceAll s
      last := last } := by
  induction s generalizing r content with
  | nil =>
    cases hthrough
    refine ⟨r.last, ?_⟩
    obtain ⟨encoding, cursor, last, tokenStart, stage, knowledge, scope, opened, events⟩ := r
    obtain rfl : stage = _ := hstage
    rfl
  | cons c cs ih =>
    obtain ⟨middle, hmiddle, hrest⟩ := of_feedThrough_cons hthrough
    obtain ⟨htext, hfeed⟩ := Content.after?_eq_some_iff.mp hmiddle
    rw [← halphabet] at hfeed
    rw [run_cons, step_more hstage htext hfeed]
    exact ih rfl halphabet hrest

/-- A whole piece of markup. -/
theorem run_piece {r : Reader} {content next : Content} (hstage : r.stage = .inside content)
    (halphabet : r.encoding.alphabet = .sequences) {s : List Char}
    (hthrough : feedThrough (Content.after? r.encoding.units) content r.cursor s = some next)
    (htext : next.isText = false) {c : Char} {piece : Piece}
    (hfeed : next.feed .sequences r.encoding.units (r.cursor.advanceAll s) c = .piece piece) :
    ∃ last last', r.run (s ++ [c]) = {
      takePiece { r with
        stage := .inside next
        cursor := r.cursor.advanceAll s
        last := last } piece with
      cursor := r.cursor.advanceAll (s ++ [c])
      last := last' } := by
  obtain ⟨last, hrun⟩ := run_through hstage halphabet hthrough
  rw [← halphabet] at hfeed
  refine ⟨last, (r.cursor.advanceAll s).position, ?_⟩
  rw [run_append, hrun, run_cons, step_piece rfl htext hfeed, run_nil]
  simp [Cursor.advanceAll, here]

/-! ### Tags -/

/-- Says that the reader of a document without declarations stands behind `before` characters of its
only line, where an element can begin: at the very start, or inside another element. -/
structure Ready (r : Reader) (before : Nat) : Prop where
  encoding : r.encoding = .utf8
  cursor : r.cursor = ⟨⟨1, before⟩, false⟩
  alphabet : r.knowledge.alphabet = .sequences
  rules : r.knowledge.attributes = []
  noDefault : r.scope.find? none = none
  stage : r.stage = .before (.root false) .idle ∨ r.stage = .inside .between

theorem ready_start : Ready (.start .utf8 .start false) 0 :=
  ⟨rfl, rfl, rfl, rfl, rfl, Or.inl rfl⟩

theorem Ready.alphabet_eq {r : Reader} {before : Nat} (hr : Ready r before) :
    r.encoding.alphabet = .sequences := by
  rw [hr.encoding]
  rfl

/-- A bracket, and a character that an element may begin with as far as its first unit shows. -/
theorem Ready.run_bracket {r : Reader} {before : Nat} (hr : Ready r before) {c : Char}
    (hbang : c ≠ '!') (hquestion : c ≠ '?')
    (hletter : (isKeywordChar .sequences c || Alphabet.sequences.isOpaque c) = true) :
    ∃ last, r.run ['<', c] = {
      feedInside { r with
        tokenStart := r.here
        stage := .inside .less
        cursor := r.cursor.advance '<'
        last := r.here } .less c with
      cursor := r.cursor.advanceAll ['<', c]
      last := last } := by
  refine ⟨(r.cursor.advance '<').position, ?_⟩
  rcases hr.stage with hstage | hstage
  · -- Before the root element the bracket is kept until it is clear that an element begins.
    have hbracket : r.step '<' = { r with
        tokenStart := r.here
        stage := .before (.root false) .less
        cursor := r.cursor.advance '<'
        last := r.here } := by
      have hspace : isSpace '<' = false := by decide
      simp [step, feed, hstage, Lexing.feed, Lexing.feedIdle, hspace, here]
    have htoken : Lexing.less.feed r.encoding.alphabet (r.cursor.advance '<').position c =
        .before .element := by
      rw [hr.alphabet_eq, Lexing.feed, if_neg hbang, if_neg hquestion, if_pos hletter]
    rw [run_cons, hbracket]
    simp [run, step, feed, here, htoken, Cursor.advanceAll]
  · rw [run_cons, step_less hstage]
    rfl

/-- The first two characters of a start tag. -/
theorem Ready.run_begin {r : Reader} {before : Nat} (hr : Ready r before) {c : Char}
    (hstart : isNameStart .sequences c = true) :
    ∃ last, r.run ['<', c] = { r with
      tokenStart := r.here
      stage := .inside (.tag (TagReader.start c))
      cursor := r.cursor.advanceAll ['<', c]
      last := last } := by
  obtain ⟨-, -, hslash, hbang, hquestion, hletter⟩ := TagReader.of_isNameStart hstart
  obtain ⟨last, hrun⟩ := hr.run_bracket hbang hquestion hletter
  have hless (cursor : Cursor) : Content.less.feed r.encoding.alphabet r.encoding.units cursor c =
      .more (.tag (TagReader.start c)) := by
    simp [Content.feed, hr.alphabet_eq, hslash, hbang, hquestion, hstart]
  refine ⟨last, ?_⟩
  rw [hrun]
  simp [feedInside, Content.isText, hless]

/-- What is reported before the start of an element that stands behind `before` characters. -/
def announcing (before : Nat) (h : Head) : List Event :=
  .locate 1 before :: h.bindings.map bindEvent

/-- What is reported up to the start of an element. -/
def opening (before : Nat) (h : Head) : List Event :=
  announcing before h ++
    [.start ⟨h.space.map Space.uri, h.name.text⟩ (h.attributes.map Attribute.expanded)]

section StartTag

variable {r : Reader} {before : Nat} {c : Char} {s : List Char} {reader : TagReader} {tag : Tag}

/-- A start tag is read to its last bracket, and then its meaning counts. -/
theorem Ready.run_tag (hr : Ready r before) (hstart : isNameStart .sequences c = true)
    (hthrough : feedThrough TagReader.after? (TagReader.start c) (r.cursor.advanceAll ['<', c]) s =
      some reader)
    (hdone : ∀ cursor, reader.feed .sequences cursor '>' = .done tag false) :
    ∃ middle last last', r.run ('<' :: c :: (s ++ ['>'])) = {
      openElement { r with
        tokenStart := r.here
        stage := .inside (.tag reader)
        cursor := middle
        last := last } tag false with
      cursor := r.cursor.advanceAll ('<' :: c :: (s ++ ['>']))
      last := last' } := by
  obtain ⟨last, hbegin⟩ := hr.run_begin hstart
  have hbracket (cursor : Cursor) :
      (Content.tag reader).feed .sequences r.encoding.units cursor '>' =
        .piece (.startTag tag false) := by
    simp [Content.feed, hdone]
  obtain ⟨last', last'', hpiece⟩ := run_piece (r := { r with
    tokenStart := r.here
    stage := .inside (.tag (TagReader.start c))
    cursor := r.cursor.advanceAll ['<', c]
    last := last }) rfl hr.alphabet_eq (Content.through_tag hthrough) rfl (hbracket _)
  -- Two characters begin the tag, the others are gone through, and the bracket ends it.
  have hsplit : '<' :: c :: (s ++ ['>']) = ['<', c] ++ (s ++ ['>']) := rfl
  refine ⟨(r.cursor.advanceAll ['<', c]).advanceAll s, last', last'', ?_⟩
  rw [hsplit, run_append, hbegin, hpiece, takePiece]
  simp [Cursor.advanceAll]

/-- A start tag that has a meaning opens its element. -/
theorem Ready.run_opened (hr : Ready r before) (hstart : isNameStart .sequences c = true)
    (hthrough : feedThrough TagReader.after? (TagReader.start c) (r.cursor.advanceAll ['<', c]) s =
      some reader)
    (hdone : ∀ cursor, reader.feed .sequences cursor '>' = .done tag false) {o : Opening}
    (hresolve : tag.resolve r.knowledge r.scope r.here = .ok o) :
    ∃ last, r.run ('<' :: c :: (s ++ ['>'])) = { r with
      tokenStart := r.here
      stage := .inside .between
      cursor := r.cursor.advanceAll ('<' :: c :: (s ++ ['>']))
      last := last
      scope := o.scope
      opened := (tag.name, r.scope) :: r.opened
      events := .start o.name o.attributes :: ((o.bindings.map bindEvent).reverse ++
        .locate r.here.line r.here.column :: r.events) } := by
  obtain ⟨middle, last, last', hrun⟩ := hr.run_tag hstart hthrough hdone
  refine ⟨last', ?_⟩
  rw [hrun, openElement, hresolve]
  rfl

/-- A start tag without a meaning ends the reading. -/
theorem Ready.run_refused (hr : Ready r before) (hstart : isNameStart .sequences c = true)
    (hthrough : feedThrough TagReader.after? (TagReader.start c) (r.cursor.advanceAll ['<', c]) s =
      some reader)
    (hdone : ∀ cursor, reader.feed .sequences cursor '>' = .done tag false) {e : Failure}
    (hresolve : tag.resolve r.knowledge r.scope r.here = .error e) :
    (r.run ('<' :: c :: (s ++ ['>']))).stage = .failed e := by
  obtain ⟨middle, last, last', hrun⟩ := hr.run_tag hstart hthrough hdone
  rw [hrun, openElement, hresolve]

end StartTag

/-- **A start tag opens its element.**  Its namespaces come into force, and its start is reported
with its place. -/
theorem Ready.run_startTag {r : Reader} {before : Nat} (hr : Ready r before) (h : Head) :
    ∃ last, r.run h.startTag = { r with
      tokenStart := ⟨1, before⟩
      stage := .inside .between
      cursor := ⟨⟨1, before + h.startTag.length⟩, false⟩
      last := last
      scope := h.scopeIn r.scope
      opened := (String.ofList h.spelling, r.scope) :: r.opened
      events := (opening before h).reverse ++ r.events } := by
  obtain ⟨c, cs, isQualified, hspelling, hstart, hname⟩ :=
    (TagReader.readsNames_name "" []).through_spelling h.isSpelling_spelling
  have hhere : r.here = ⟨1, before⟩ := by
    rw [here, hr.cursor]
  have hsplit : h.startTag = '<' :: c :: ((cs ++ h.written.flatMap writeAttribute) ++ ['>']) := by
    simp [Head.startTag, hspelling]
  have hcursor : r.cursor.advanceAll h.startTag =
      ⟨⟨1, before + h.startTag.length⟩, false⟩ := by
    rw [hr.cursor, Cursor.advanceAll_inLine h.inLine_startTag]
  -- The tag is read up to its last bracket.
  have hboundary : TagReader.AtBoundary (String.ofList h.spelling)
      ⟨"", [], .name h.spelling.reverse isQualified⟩ := .name (by simp [spelled])
  obtain ⟨found, reader, hfound, hreader, hattributes, hwritten⟩ :=
    hboundary.through_written (fun pair hpair => (Head.of_mem_written hpair).1)
      ((r.cursor.advanceAll ['<', c]).advanceAll cs)
  have hthrough : feedThrough TagReader.after? (TagReader.start c) (r.cursor.advanceAll ['<', c])
      (cs ++ h.written.flatMap writeAttribute) = some reader := by
    rw [TagReader.start, feedThrough_append (hname _)]
    exact hwritten
  have hdone (cursor : Cursor) : reader.feed .sequences cursor '>' =
      .done ⟨String.ofList h.spelling, found⟩ false := by
    simp [hreader.feed_bracket, hattributes]
  obtain ⟨last, hrun⟩ := hr.run_opened hstart hthrough hdone
    (Tag.resolve_printed hr.alphabet hr.rules h hr.noDefault r.here hfound)
  refine ⟨last, ?_⟩
  rw [← hcursor, hsplit, hrun]
  simp [opening, announcing, hhere]

/-- An end tag closes its element.  The namespaces around it are in force again. -/
theorem run_close {r : Reader} (halphabet : r.encoding.alphabet = .sequences)
    (hstage : r.stage = .inside .between) {c : Char} {cs : List Char}
    (hstart : isNameStart .sequences c = true)
    (hcs : ∀ d ∈ cs, isNameChar .sequences d = true ∨ d = ':') {outer : Scope}
    {rest : List (String × Scope)}
    (hopened : r.opened = (String.ofList (c :: cs), outer) :: rest) :
    ∃ last tokenStart, r.run ('<' :: '/' :: c :: (cs ++ ['>'])) = { r with
      tokenStart := tokenStart
      stage := if rest.isEmpty then .after .idle else .inside .between
      cursor := r.cursor.advanceAll ('<' :: '/' :: c :: (cs ++ ['>']))
      last := last
      scope := outer
      opened := rest
      events := .finish :: r.events } := by
  obtain ⟨start, hthrough⟩ :=
    Content.through_endTag r.encoding.units hstart hcs (r.cursor.advance '<')
  have hdone (cursor : Cursor) :
      (Content.endName (c :: cs).reverse start).feed .sequences r.encoding.units cursor '>' =
        .piece (.endTag (String.ofList (c :: cs)) start) := by
    have hname : isNameChar .sequences '>' = false := by decide
    have hspace : isSpace '>' = false := by decide
    simp [Content.feed, hname, hspace, spelled]
  obtain ⟨last, last', hpiece⟩ := run_piece (r := { r with
    tokenStart := r.here
    stage := .inside .less
    cursor := r.cursor.advance '<'
    last := r.here }) rfl halphabet hthrough rfl (hdone _)
  -- The bracket is one step, the characters up to the last are gone through, and that one ends it.
  have hsplit : '<' :: '/' :: c :: (cs ++ ['>']) = '<' :: (('/' :: c :: cs) ++ ['>']) := rfl
  refine ⟨last', r.here, ?_⟩
  rw [hsplit, run_cons, step_less hstage, hpiece]
  simp [takePiece, closeElement, hopened, Cursor.advanceAll]

/-- **An end tag closes its element**, in a document of one line. -/
theorem run_endTag {r : Reader} {before : Nat} (halphabet : r.encoding.alphabet = .sequences)
    (hcursor : r.cursor = ⟨⟨1, before⟩, false⟩) (hstage : r.stage = .inside .between) (h : Head)
    {outer : Scope} {rest : List (String × Scope)}
    (hopened : r.opened = (String.ofList h.spelling, outer) :: rest) :
    ∃ last tokenStart, r.run h.endTag = { r with
      tokenStart := tokenStart
      stage := if rest.isEmpty then .after .idle else .inside .between
      cursor := ⟨⟨1, before + h.endTag.length⟩, false⟩
      last := last
      scope := outer
      opened := rest
      events := .finish :: r.events } := by
  obtain ⟨c, cs, hspelling, hstart, hcs⟩ := h.isSpelling_spelling.eq_cons
  have hsplit : h.endTag = '<' :: '/' :: c :: (cs ++ ['>']) := by
    simp [Head.endTag, hspelling]
  have hend : r.cursor.advanceAll h.endTag = ⟨⟨1, before + h.endTag.length⟩, false⟩ := by
    rw [hcursor, Cursor.advanceAll_inLine h.inLine_endTag]
  rw [hspelling] at hopened
  obtain ⟨last, tokenStart, hrun⟩ := run_close halphabet hstage hstart hcs hopened
  refine ⟨last, tokenStart, ?_⟩
  rw [← hend, hsplit, hrun]

/-! ### Trees -/

/-- Trees that are reported one after the other. -/
theorem reports_append {s t : List Event} {es fs : List Element} (hs : Reports s es)
    (ht : Reports t fs) : Reports (s ++ t) (es ++ fs) := by
  induction hs with
  | nil => exact ht
  | @cons inner rest children siblings head bound hinner _ _ ih =>
    have hall := Reports.cons head bound hinner ih
    simpa using hall

/-- An element is reported by its start, its children and its end. -/
theorem reports_node {before : Nat} {h : Head} {inner : List Event} {children : List Element}
    (hinner : Reports inner children) :
    Reports (opening before h ++ (inner ++ [Event.finish])) [.node (h.place before) children] := by
  have hall := Reports.cons (h.place before) h.bindings hinner .nil
  simpa [opening, announcing, Head.place] using hall

/-- Inside an element that has been opened, its children can begin. -/
theorem Ready.inside {r : Reader} {before : Nat} (hr : Ready r before) (h : Head)
    (last tokenStart : Position) (opened : List (String × Scope)) (events : List Event) :
    Ready { r with
      tokenStart := tokenStart
      stage := .inside .between
      cursor := ⟨⟨1, before + h.startTag.length⟩, false⟩
      last := last
      scope := h.scopeIn r.scope
      opened := opened
      events := events } (before + h.startTag.length) where
  encoding := hr.encoding
  cursor := rfl
  alphabet := hr.alphabet
  rules := hr.rules
  noDefault := by
    rw [h.find?_scopeIn_none]
    exact hr.noDefault
  stage := Or.inr rfl

mutual

/-- **The text of a tree is read as the tree.**  What is reported describes it, with the places of
its start tags, and nothing else has changed when it ends. -/
theorem run_print {r : Reader} {before : Nat} (hr : Ready r before) :
    (t : Tree) → ∃ (inner : List Event) (last tokenStart : Position),
      Reports (opening before t.head ++ (inner ++ [Event.finish])) [t.place before] ∧
      r.run t.print = { r with
        tokenStart := tokenStart
        stage := if r.opened.isEmpty then .after .idle else .inside .between
        cursor := ⟨⟨1, before + t.print.length⟩, false⟩
        last := last
        events := (opening before t.head ++ (inner ++ [Event.finish])).reverse ++ r.events }
  | .node head children => by
    obtain ⟨last, hstart⟩ := hr.run_startTag head
    -- The children are read inside the element, with its namespaces in force.
    have hready := hr.inside head last ⟨1, before⟩
      ((String.ofList head.spelling, r.scope) :: r.opened)
      ((opening before head).reverse ++ r.events)
    obtain ⟨inner, last', tokenStart', hinner, hchildren⟩ :=
      run_printAll hready rfl (List.cons_ne_nil _ _) children
    obtain ⟨last'', tokenStart'', hend⟩ := run_endTag (r := { r with
      tokenStart := tokenStart'
      stage := .inside .between
      cursor := ⟨⟨1, before + head.startTag.length + (printAll children).length⟩, false⟩
      last := last'
      scope := head.scopeIn r.scope
      opened := (String.ofList head.spelling, r.scope) :: r.opened
      events := inner.reverse ++ ((opening before head).reverse ++ r.events) })
      hr.alphabet_eq rfl rfl head rfl
    -- The end tag brings back the namespaces and the open elements of before.
    refine ⟨inner, last'', tokenStart'', reports_node hinner, ?_⟩
    rw [Tree.print, run_append, hstart, run_append, hchildren, hend]
    simp [Tree.head, Nat.add_assoc]

/-- The texts of several trees inside an element. -/
theorem run_printAll {r : Reader} {before : Nat} (hr : Ready r before)
    (hstage : r.stage = .inside .between) (hopened : r.opened ≠ []) :
    (ts : List Tree) → ∃ (events : List Event) (last tokenStart : Position),
      Reports events (placeAll before ts) ∧
      r.run (printAll ts) = { r with
        tokenStart := tokenStart
        cursor := ⟨⟨1, before + (printAll ts).length⟩, false⟩
        last := last
        events := events.reverse ++ r.events }
  | [] => by
    refine ⟨[], r.last, r.tokenStart, .nil, ?_⟩
    obtain ⟨encoding, cursor, last, tokenStart, stage, knowledge, scope, opened, events⟩ := r
    obtain rfl : cursor = _ := hr.cursor
    rfl
  | t :: ts => by
    obtain ⟨inner, last, tokenStart, hreports, hrun⟩ := run_print hr t
    -- Other elements are still open, so the tree is not the root.
    have hinside : (if r.opened.isEmpty then Stage.after .idle else .inside .between) =
        r.stage := by
      rw [hstage, if_neg (by simpa using hopened)]
    rw [hinside] at hrun
    have hready : Ready { r with
        tokenStart := tokenStart
        cursor := ⟨⟨1, before + t.print.length⟩, false⟩
        last := last
        events := (opening before t.head ++ (inner ++ [Event.finish])).reverse ++ r.events }
        (before + t.print.length) :=
      ⟨hr.encoding, rfl, hr.alphabet, hr.rules, hr.noDefault, Or.inr hstage⟩
    obtain ⟨events, last', tokenStart', hlater, hrest⟩ := run_printAll hready hstage hopened ts
    refine ⟨_, last', tokenStart', reports_append hreports hlater, ?_⟩
    rw [printAll, run_append, hrun, hrest]
    simp [Nat.add_assoc]

end

end Reader

/-! ### Bytes -/

/-- Legal characters are read from their bytes. -/
theorem decodeUtf8_encode {s : List Char} (h : s.all isLegal = true) :
    decodeUtf8 (Text.Utf8.encode s) = ⟨s, .complete⟩ := by
  have hscan : Text.Utf8.scan (Text.Utf8.encode s) = (s, []) := by
    have hall := Text.Utf8.scanFrom_encode [] s []
    rw [List.append_nil, List.append_nil] at hall
    simp [Text.Utf8.scan, hall, Text.Utf8.scanFrom]
  have hspan : s.span isLegal = (s, []) := by
    have hdrop : s.dropWhile isLegal = [] :=
      List.dropWhile_eq_nil_iff.mpr (List.all_eq_true.mp h)
    have htake := List.takeWhile_append_dropWhile (p := isLegal) (l := s)
    rw [hdrop, List.append_nil] at htake
    rw [List.span_eq_takeWhile_dropWhile, htake, hdrop]
  simp only [decodeUtf8, hscan, hspan, utf8Ending]

/-- The first byte of a character other than NUL is no zero byte. -/
theorem exists_encodeChar {c : Char} (hc : c ≠ '\x00') :
    ∃ b rest, Text.Utf8.encodeChar c = b :: rest ∧ b ≠ 0 := by
  have hvalid : c.toNat < 0xd800 ∨ 0xdfff < c.toNat ∧ c.toNat < 0x110000 := c.valid
  have hzero : c.toNat ≠ 0 := fun h => hc (Char.toNat_inj.mp h)
  have hbyte {n : Nat} (hpos : 0 < n) (hn : n < 0x100) : UInt8.ofNat n ≠ 0 := by
    intro h
    rw [← UInt8.toNat_inj, UInt8.toNat_ofNat', Nat.mod_eq_of_lt hn] at h
    exact absurd h (by simpa using hpos.ne')
  unfold Text.Utf8.encodeChar
  dsimp only
  split
  · exact ⟨_, _, rfl, hbyte (by omega) (by omega)⟩
  · split
    · exact ⟨_, _, rfl, hbyte (by omega) (by omega)⟩
    · split
      · exact ⟨_, _, rfl, hbyte (by omega) (by omega)⟩
      · exact ⟨_, _, rfl, hbyte (by omega) (by omega)⟩

/-- A document that begins with a bracket and another character is taken for UTF-8: no zero byte
stands beside the bracket. -/
theorem sniff_encode {c : Char} (hc : c ≠ '\x00') (rest : List Char) (bytes : List UInt8) :
    sniff (Text.Utf8.encode ('<' :: c :: rest) ++ bytes) = .encoding .utf8 0 := by
  obtain ⟨b, tail, hfirst, hb⟩ := exists_encodeChar hc
  have hbracket : Text.Utf8.encodeChar '<' = [0x3c] := by decide
  have hbytes : Text.Utf8.encode ('<' :: c :: rest) ++ bytes =
      0x3c :: b :: (tail ++ (Text.Utf8.encode rest ++ bytes)) := by
    simp [Text.Utf8.encode, hbracket, hfirst]
  simp [hbytes, sniff, hb]

/-- Of the characters, those before the first that is not legal are read. -/
theorem chars_decodeUtf8 (bytes : List UInt8) :
    (decodeUtf8 bytes).chars = (Text.Utf8.scan bytes).1.takeWhile isLegal := by
  unfold decodeUtf8
  cases Text.Utf8.scan bytes with
  | mk chars rest =>
    dsimp only
    rw [List.span_eq_takeWhile_dropWhile]
    cases chars.dropWhile isLegal <;> rfl

/-- Legal characters are read from their bytes, whatever bytes follow. -/
theorem chars_decodeUtf8_append {s : List Char} (h : s.all isLegal = true) (bytes : List UInt8) :
    ∃ more, (decodeUtf8 (Text.Utf8.encode s ++ bytes)).chars = s ++ more := by
  obtain ⟨more, hmore, -⟩ := Text.Utf8.scanFrom_eq (s.reverse ++ []) bytes
  refine ⟨more.takeWhile isLegal, ?_⟩
  rw [chars_decodeUtf8, Text.Utf8.scan, Text.Utf8.scanFrom_encode, hmore, List.append_nil,
    List.reverse_reverse, List.takeWhile_append_of_pos (List.all_eq_true.mp h)]

/-- A document that begins with a bracket has no declaration without a question mark, and is read
as UTF-8 from its first byte on. -/
theorem body_encode {c : Char} {rest : List Char} (hlegal : ('<' :: c :: rest).all isLegal = true)
    (hquestion : c ≠ '?') (bytes : List UInt8) :
    body (Text.Utf8.encode ('<' :: c :: rest) ++ bytes) =
      .ok ⟨.utf8, .start, false, Text.Utf8.encode ('<' :: c :: rest) ++ bytes⟩ := by
  have hnull : c ≠ '\x00' := by
    rintro rfl
    exact absurd hlegal (by simp [isLegal])
  obtain ⟨more, hchars⟩ := chars_decodeUtf8_append hlegal bytes
  have hdeclaration : declarationBody? ('<' :: c :: (rest ++ more)) = none := by
    simp [declarationBody?, hquestion]
  simp only [body, sniff_encode hnull, List.drop_zero, Encoding.decode, hchars, List.cons_append,
    hdeclaration]
  rfl

/-- Such a document is read character by character. -/
theorem events_encode {c : Char} {rest : List Char}
    (hlegal : ('<' :: c :: rest).all isLegal = true) (hquestion : c ≠ '?') :
    events (Text.Utf8.encode ('<' :: c :: rest)) =
      ((Reader.start .utf8 .start false).run ('<' :: c :: rest)).finish .complete := by
  have hbody := body_encode hlegal hquestion []
  rw [List.append_nil] at hbody
  simp only [events, hbody, Body.events, Body.reader, Body.decoded, Encoding.decode,
    decodeUtf8_encode hlegal]

/-- The text of a tree begins with a bracket and the first character of a name. -/
theorem Printable.Tree.print_eq_cons (t : Tree) :
    ∃ c rest, t.print = '<' :: c :: rest ∧ isNameStart .sequences c = true := by
  obtain ⟨head, children⟩ := t
  obtain ⟨c, cs, hspelling, hstart, -⟩ := head.isSpelling_spelling.eq_cons
  have hprint : ∃ rest, (Tree.node head children).print = '<' :: c :: rest := by
    simp [Tree.print, Head.startTag, hspelling]
  obtain ⟨rest, hprint⟩ := hprint
  exact ⟨c, rest, hprint, hstart⟩

/-- **Printed trees are read.**  The events are the start of the root, what is inside it, and its
end. -/
theorem events_print (t : Tree) :
    ∃ inner, Reports (Reader.opening 0 t.head ++ (inner ++ [Event.finish])) [t.place 0] ∧
      events (Text.Utf8.encode t.print) =
        .ok (Reader.opening 0 t.head ++ (inner ++ [Event.finish])) := by
  obtain ⟨inner, last, tokenStart, hreports, hrun⟩ := Reader.run_print Reader.ready_start t
  obtain ⟨c, rest, hprint, hstart⟩ := t.print_eq_cons
  obtain ⟨-, -, -, -, hquestion, -⟩ := TagReader.of_isNameStart hstart
  have hlegal : t.print.all isLegal = true := by
    rw [List.all_eq_true]
    intro d hd
    have hline := List.all_eq_true.mp t.inLine_print d hd
    simp only [isInLine, Bool.and_eq_true] at hline
    exact hline.1.1
  refine ⟨inner, hreports, ?_⟩
  have hevents : events (Text.Utf8.encode t.print) =
      ((Reader.start .utf8 .start false).run t.print).finish .complete := by
    rw [hprint] at hlegal ⊢
    exact events_encode hlegal hquestion
  -- No element is open around the root, so the document is complete behind it.
  rw [hevents, hrun]
  simp [Reader.finish, Reader.start, Reader.finishAfter]

end AttrLint.Xml

namespace AttrLint

/-! ### Documents -/

namespace Builder

open Xml Printable

/-- A builder that has taken all events is as it is after the calls that tell it of them. -/
theorem eq_after_of_handleAll {b b' : Builder} {events : List Event}
    (h : b.handleAll events = .ok b') : b' = b.after (events.map .event) := by
  induction events generalizing b with
  | nil =>
    cases h
    rfl
  | cons event events ih =>
    rw [handleAll] at h
    cases hevent : b.handle event with
    | error e =>
      rw [hevent] at h
      cases h
    | ok next =>
      rw [hevent] at h
      rw [List.map_cons, after_cons, call, hevent]
      exact ih h

/-- Before its start an element is only located, and its namespaces are bound. -/
theorem isStart_announcing (before : Nat) (h : Head) :
    ∀ c ∈ (Reader.announcing before h).map Call.event, c.isStart = false := by
  intro c hc
  obtain ⟨event, hevent, rfl⟩ := List.mem_map.mp hc
  rcases List.mem_cons.mp hevent with rfl | hevent
  · rfl
  · obtain ⟨binding, -, rfl⟩ := List.mem_map.mp hevent
    rfl

theorem binding?_announcing (before : Nat) (h : Head) :
    ((Reader.announcing before h).map Call.event).filterMap Call.binding? =
      h.namespaces.tail := by
  rw [Reader.announcing, List.map_cons, List.filterMap_cons_none rfl]
  simp [Head.bindings, Head.namespaces, bindEvent, Call.binding?, Function.comp_def]

/-- The first element that starts fixes the namespaces, whatever follows it. -/
theorem rootNamespaces_opening {b : Builder} {before : Nat} {h : Head} {events : List Event}
    (hb : handleAll {} (Reader.opening before h ++ events) = .ok b) :
    b.rootNamespaces = some h.namespaces := by
  obtain ⟨hroot, hpending⟩ := after_of_not_start (isStart_announcing before h) {}
  rw [binding?_announcing] at hpending
  -- No qualifier is repeated, so what is bound adds up.
  have hdeclared : Entries.override [] h.namespaces.tail = h.namespaces.tail :=
    Entries.override_of_nodup (List.nodup_cons.mp h.nodup_namespaces).2
  have hall : Entries.override implicitNamespaces h.namespaces.tail = h.namespaces :=
    Entries.override_of_nodup h.nodup_namespaces
  rw [eq_after_of_handleAll hb, Reader.opening, List.append_assoc, List.map_append, after_append,
    List.singleton_append, List.map_cons, after_cons]
  apply rootNamespaces_after_of_some
  simp only [call, handle, start, hroot, Option.getD_none, hpending, hdeclared, hall]

end Builder

/-- **Parsing undoes printing.**  The text of a tree is parsed to the tree itself, each element at
the place of its start tag; the namespaces of the document are those that its root declares, and the
one that every document has. -/
theorem Document.parse_print (source : String) (t : Xml.Printable.Tree) :
    Document.parse source (Text.Utf8.encode t.print) =
      if source.toList.contains '\x00' then .error (.escaped .nullInSource)
      else .ok ⟨t.place 0, t.head.namespaces⟩ := by
  obtain ⟨inner, hreports, hevents⟩ := Xml.events_print t
  obtain ⟨b, hb, hshape⟩ := Builder.handleAll_reports hreports {}
  have hroot : b.root = some (t.place 0) := congrArg Prod.snd hshape
  have hnamespaces := Builder.rootNamespaces_opening hb
  simp only [Document.parse, hevents, Document.ofEvents, hb, Builder.document, hroot, hnamespaces,
    Option.getD_some]

open Xml.Printable in
example :
    let space : Space := ⟨"u", by decide, by simp [Xml.isLegal],
      by simp [Text.isBlank, Text.inRanges, Text.blankRanges], by decide, by decide⟩
    let inner : Xml.Printable.Tree :=
      .node ⟨⟨"c", by decide, by decide⟩, none, [], by decide, .repeated⟩ []
    let outer : Head := ⟨⟨"a", by decide, by decide⟩, some space,
      [⟨⟨"b", by decide, by decide⟩, some space, "<", by simp [Xml.isLegal]⟩],
      by decide, .repeated⟩
    Xml.Printable.Tree.print (.node outer [inner]) =
      "<n:a xmlns:n=\"u\" n:b=\"&lt;\"><c></c></n:a>".toList := by
  decide

end AttrLint
