import AttrLint.Proofs.Building
import AttrLint.Proofs.NameParts

namespace AttrLint.Xml

/-!
# What the reader does with a character

Most characters change nothing but what is being read.  One that completes a start tag opens an
element, and one that completes an end tag closes the innermost one.  From this it follows what
holds at every moment of every document.

* `Reader.Quiet` — what all other characters leave as it is.
* `Reader.step_cases` — the three kinds of characters.
* `Reader.Sound` — the events so far are accepted by a builder, which has as many open elements as
  the reader, and all names at hand are names.
* `Reader.sound_step`, `Reader.sound_run` — it holds after every character.
* `Reader.run_eq_tooManyNameParts_iff` — the documents that fail for the parts of a name.
-/

/-- Says that the names of a start tag that is being read are names. -/
def Content.WellNamed : Content → Prop
  | .tag reader => reader.WellNamed
  | _ => True

/-- Says that the names at hand are names. -/
def Stage.WellNamed : Stage → Prop
  | .before expect lexing => expect.WellNamed ∧ lexing.WellNamed
  | .inside content => content.WellNamed
  | .after lexing => lexing.WellNamed
  | .failed _ => True

/-- Says that the root element has not ended and nothing is wrong. -/
def Stage.isUnderWay : Stage → Bool
  | .before _ _ | .inside _ => true
  | .after _ | .failed _ => false

/-- Says that a piece of content has names only. -/
def Content.Step.WellNamed : Content.Step → Prop
  | .more content => content.WellNamed
  | .piece (.startTag complete _) => complete.WellNamed
  | _ => True

/-- A character of the content keeps all names as they have to be, and completes only tags with such
names. -/
theorem Content.feed_wellNamed {content : Content} (h : content.WellNamed) (a : Alphabet)
    (units : Char → Nat) (cursor : Cursor) (c : Char) :
    (content.feed a units cursor c).WellNamed := by
  cases content with
  | tag reader =>
    have hreader := TagReader.feed_wellNamed h a cursor c
    simp only [feed]
    split
    · rename_i hmore
      rw [hmore] at hreader
      exact hreader
    · rename_i hdone
      rw [hdone] at hreader
      exact hreader
    · trivial
  | less =>
    simp only [feed]
    grind [Content.Step.WellNamed, Content.WellNamed, TagReader.WellNamed, TagReader.start,
      TagPart.WellNamed, Letters.start]
  | cdataStart rest =>
    cases rest <;>
      grind [feed, feedCdata, feedBroken, Content.Step.WellNamed, Content.WellNamed]
  | _ =>
    grind [feed, feedText, feedCdata, feedBroken, between, Content.Step.WellNamed,
      Content.WellNamed]

/-- A piece is complete only after markup has begun. -/
theorem Content.isText_of_feed {content : Content} {a : Alphabet} {units : Char → Nat}
    {cursor : Cursor} {c : Char} {piece : Piece}
    (h : content.feed a units cursor c = .piece piece) : content.isText = false := by
  cases content with
  | text brackets => grind [feed, feedText]
  | _ => rfl

/-- The character after a bracket completes nothing. -/
theorem Content.feed_less_ne_piece (a : Alphabet) (units : Char → Nat) (cursor : Cursor) (c : Char)
    (piece : Piece) : Content.less.feed a units cursor c ≠ .piece piece := by
  grind [feed]

namespace Reader

/-- Says that the names at hand and the names of declared attributes are names. -/
def WellNamed (r : Reader) : Prop :=
  r.stage.WellNamed ∧ r.knowledge.WellNamed

/-- Says that the reader stands after the root element. -/
def isAfter (r : Reader) : Bool :=
  match r.stage with
  | .after _ => true
  | _ => false

/-! ### Characters without an event -/

/-- What a character does that opens and closes nothing: the events and the open elements stay, the
root element does not end, and if it is a fault, it is reported as one. -/
structure Quiet (r r' : Reader) : Prop where
  events : r'.events = r.events
  opened : r'.opened = r.opened
  after : r'.isAfter = true → r.isAfter = true
  reported : ∀ e, r'.stage = .failed e → r.stage = .failed e ∨ e.isReported = true
  wellNamed : r.WellNamed → r'.WellNamed

theorem Quiet.refl (r : Reader) : Quiet r r :=
  ⟨rfl, rfl, id, fun _ => Or.inl, id⟩

/-- As long as reading is under way, only the events, the open elements and the names matter. -/
theorem Quiet.of_isUnderWay {r r' : Reader} (hstage : r'.stage.isUnderWay = true)
    (hevents : r'.events = r.events) (hopened : r'.opened = r.opened)
    (hnames : r.WellNamed → r'.WellNamed) : Quiet r r' where
  events := hevents
  opened := hopened
  after := by
    intro hafter
    unfold isAfter at hafter
    cases h : r'.stage with
    | after lexing =>
      rw [h] at hstage
      cases hstage
    | _ => simp [h] at hafter
  reported := by
    intro e he
    rw [he] at hstage
    cases hstage
  wellNamed := hnames

/-- Two quiet characters are as quiet as one. -/
theorem Quiet.trans {r r' r'' : Reader} (h : Quiet r r') (h' : Quiet r' r'') : Quiet r r'' where
  events := h'.events.trans h.events
  opened := h'.opened.trans h.opened
  after := fun hr => h.after (h'.after hr)
  reported := by
    intro e he
    rcases h'.reported e he with he | he
    · exact h.reported e he
    · exact Or.inr he
  wellNamed := fun hr => h'.wellNamed (h.wellNamed hr)

/-- A fault in the markup is quiet: it is reported. -/
theorem Quiet.fail {r r' : Reader} (h : Quiet r r') (problem : Problem) (position : Position) :
    Quiet r (r'.fail problem position) where
  events := h.events
  opened := h.opened
  after := by
    intro hr
    cases hr
  reported := by
    rintro e ⟨⟩
    exact Or.inr rfl
  wellNamed := fun hr => ⟨trivial, (h.wellNamed hr).2⟩

/-- The reader with the start of the next token moved. -/
theorem Quiet.mark (r : Reader) (position : Position) :
    Quiet r { r with tokenStart := position } :=
  ⟨rfl, rfl, id, fun _ => Or.inl, id⟩

/-- Says that the reader is outside the root element, or inside right after its first character. -/
def isOutside (r : Reader) : Bool :=
  match r.stage with
  | .before _ _ | .after _ | .inside .less | .failed _ => true
  | .inside _ => false

/-! ### Around the root element -/

/-- Takes a complete token before the root element, which may be the beginning of that. -/
def takeBefore (expect : Expect) (r : Reader) (token : Token) : Reader :=
  match expect, token with
  | .root _, .element => { r with stage := .inside .less }
  | _, _ => r.takeToken expect token

/-- The reader with the start of its next token, if none has begun. -/
def marked (r : Reader) : Lexing → Reader
  | .idle => { r with tokenStart := r.here }
  | _ => r

/-- To mark the start of a token changes nothing else. -/
theorem marked_eq (r : Reader) (lexing : Lexing) :
    ∃ position, r.marked lexing = { r with tokenStart := position } := by
  cases lexing with
  | idle => exact ⟨r.here, rfl⟩
  | _ => exact ⟨r.tokenStart, rfl⟩

/-- One more character of the token `lexing` around the root element.  What is read of it is kept by
`keep`, a complete token is taken by `take`, and `again` goes on with the same character. -/
def turn (again : Reader → Reader) (keep : Reader → Lexing → Reader)
    (take : Reader → Token → Reader) (r : Reader) (lexing : Lexing) (c : Char) : Reader :=
  let r := r.marked lexing
  match lexing.feed r.encoding.alphabet r.here c with
  | .more lexing => keep r lexing
  | .invalid => r.fail .invalidToken r.here
  | .invalidAt position => r.fail .invalidToken position
  | .token token => take r token
  | .before token => again (take r token)
  | .split token start lexing =>
    let r := take r token
    match r.stage with
    | .before expect _ => again { r with tokenStart := start, stage := .before expect lexing }
    | _ => r

/-- A character before the root element goes to the token that is being read. -/
theorem feed_before {r : Reader} {expect : Expect} {lexing : Lexing}
    (h : r.stage = .before expect lexing) (turns : Nat) (c : Char) :
    feed (turns + 1) r c =
      turn (fun r => feed turns r c) (fun r lexing => { r with stage := .before expect lexing })
        (takeBefore expect) r lexing c := by
  obtain ⟨encoding, cursor, last, tokenStart, stage, knowledge, scope, opened, events⟩ := r
  obtain rfl : stage = .before expect lexing := h
  rfl

/-- So does a character after the root element. -/
theorem feed_after {r : Reader} {lexing : Lexing} (h : r.stage = .after lexing) (turns : Nat)
    (c : Char) :
    feed (turns + 1) r c =
      turn (fun r => feed turns r c) (fun r lexing => { r with stage := .after lexing })
        takeTrailing r lexing c := by
  obtain ⟨encoding, cursor, last, tokenStart, stage, knowledge, scope, opened, events⟩ := r
  obtain rfl : stage = .after lexing := h
  rfl

/-- If keeping and taking are quiet, a turn is, however many tokens it completes. -/
theorem turn_quiet {again : Reader → Reader} {keep : Reader → Lexing → Reader}
    {take : Reader → Token → Reader} {r : Reader} {lexing : Lexing} {c : Char}
    (hlexing : r.WellNamed → lexing.WellNamed)
    (hagain : ∀ r', r'.isOutside = true → Quiet r' (again r'))
    (hkeep : ∀ position next, (r.WellNamed → next.WellNamed) →
      Quiet r (keep { r with tokenStart := position } next))
    (htake : ∀ position token, (r.WellNamed → token.WellNamed) →
      Quiet r (take { r with tokenStart := position } token) ∧
        (take { r with tokenStart := position } token).isOutside = true) :
    Quiet r (turn again keep take r lexing c) := by
  obtain ⟨position, hmarked⟩ := marked_eq r lexing
  have hstep (hr : r.WellNamed) : (lexing.feed r.encoding.alphabet r.here c).WellNamed :=
    Lexing.feed_wellNamed (hlexing hr) _ _ _
  have hfeed : lexing.feed (r.marked lexing).encoding.alphabet (r.marked lexing).here c =
      lexing.feed r.encoding.alphabet r.here c := by
    rw [hmarked]
    rfl
  unfold turn
  dsimp only
  rw [hfeed, hmarked]
  split
  · rename_i next h
    rw [h] at hstep
    exact hkeep position next hstep
  · exact (Quiet.mark r position).fail _ _
  · exact (Quiet.mark r position).fail _ _
  · rename_i token h
    rw [h] at hstep
    exact (htake position token hstep).1
  · rename_i token h
    rw [h] at hstep
    obtain ⟨hquiet, houtside⟩ := htake position token hstep
    exact hquiet.trans (hagain _ houtside)
  · -- The token ends before the character, and what was read after it begins another one.
    rename_i token start next h
    rw [h] at hstep
    obtain ⟨hquiet, houtside⟩ := htake position token fun hr => (hstep hr).1
    split
    · rename_i expect before hstage
      refine Quiet.trans ?_ (hagain _ rfl)
      refine Quiet.of_isUnderWay rfl hquiet.events hquiet.opened fun hr => ?_
      obtain ⟨hbefore, hknowledge⟩ := hquiet.wellNamed hr
      rw [hstage] at hbefore
      exact ⟨⟨hbefore.1, (hstep hr).2⟩, hknowledge⟩
    · exact hquiet

/-- A token before the root element opens no element. -/
theorem takeToken_quiet {r : Reader} {expect : Expect} {token : Token}
    (h : r.WellNamed → expect.WellNamed ∧ token.WellNamed) :
    Quiet r (r.takeToken expect token) ∧ (r.takeToken expect token).isOutside = true := by
  unfold takeToken
  split
  · rename_i e he
    refine ⟨⟨rfl, rfl, ?_, ?_, fun hr => ⟨trivial, hr.2⟩⟩, rfl⟩
    · intro hafter
      cases hafter
    · rintro e' ⟨⟩
      exact Or.inr (Expect.accept_reported _ _ _ _ e he)
  · rename_i next knowledge hok
    refine ⟨Quiet.of_isUnderWay rfl rfl rfl fun hr => ?_, rfl⟩
    obtain ⟨hexpect, htoken⟩ := h hr
    have haccepted := Expect.accept_wellNamed hexpect hr.2 htoken r.tokenStart
    rw [hok] at haccepted
    exact ⟨⟨haccepted.1, trivial⟩, haccepted.2⟩

/-- The same if the token may be the end of all that comes before the root element. -/
theorem takeBefore_quiet (r : Reader) (expect : Expect) (token : Token)
    (h : r.WellNamed → expect.WellNamed ∧ token.WellNamed) :
    Quiet r (r.takeBefore expect token) ∧ (r.takeBefore expect token).isOutside = true := by
  unfold takeBefore
  split
  · exact ⟨Quiet.of_isUnderWay rfl rfl rfl fun hr => ⟨trivial, hr.2⟩, rfl⟩
  · exact takeToken_quiet h

/-- A token after the root element opens no element either. -/
theorem takeTrailing_quiet {r : Reader} (hr : r.isAfter = true) (token : Token) :
    Quiet r (r.takeTrailing token) ∧ (r.takeTrailing token).isOutside = true := by
  unfold takeTrailing
  split
  · refine ⟨⟨rfl, rfl, fun _ => hr, ?_, fun hr => ⟨trivial, hr.2⟩⟩, rfl⟩
    rintro e ⟨⟩
  · exact ⟨(Quiet.refl r).fail _ _, rfl⟩

/-! ### Inside the root element -/

/-- Says that the character completes the given start tag. -/
def Starts (r : Reader) (c : Char) (tag : Tag) (empty : Bool) : Prop :=
  ∃ content, r.stage = .inside content ∧
    content.feed r.encoding.alphabet r.encoding.units r.cursor c = .piece (.startTag tag empty)

/-- Says that the character completes an end tag with the given name. -/
def Ends (r : Reader) (c : Char) (name : String) (position : Position) : Prop :=
  ∃ content, r.stage = .inside content ∧
    content.feed r.encoding.alphabet r.encoding.units r.cursor c = .piece (.endTag name position)

/-- Characters that only go on with a piece of content are quiet. -/
theorem quiet_inside {r : Reader} {content content' : Content} (hr : r.stage = .inside content)
    (position : Position) (h : content.WellNamed → content'.WellNamed) :
    Quiet r { r with tokenStart := position, stage := .inside content' } := by
  refine Quiet.of_isUnderWay rfl rfl rfl fun hnames => ?_
  rw [WellNamed, hr] at hnames
  exact ⟨h hnames.1, hnames.2⟩

/-- A piece of content other than a tag is quiet. -/
theorem takePiece_quiet {r : Reader} {content : Content} (hr : r.stage = .inside content)
    {piece : Piece} (hstart : ∀ tag empty, piece ≠ .startTag tag empty)
    (hend : ∀ name position, piece ≠ .endTag name position) : Quiet r (r.takePiece piece) := by
  have hbetween : Quiet r { r with stage := .inside .between } :=
    quiet_inside hr r.tokenStart fun _ => trivial
  cases piece with
  | aside declaration =>
    cases declaration with
    | true => exact (Quiet.refl r).fail _ _
    | false => exact hbetween
  | entity name =>
    unfold takePiece
    dsimp only
    split
    · exact (Quiet.refl r).fail _ _
    · exact hbetween
  | code n =>
    unfold takePiece
    dsimp only
    split
    · exact hbetween
    · exact (Quiet.refl r).fail _ _
  | startTag tag empty => exact absurd rfl (hstart tag empty)
  | endTag name position => exact absurd rfl (hend name position)

/-- A character inside the root element is quiet or completes a tag. -/
theorem feedInside_cases {r : Reader} {content : Content} (hr : r.stage = .inside content)
    (c : Char) :
    Quiet r (r.feedInside content c) ∨
    (∃ tag empty, r.Starts c tag empty ∧ r.feedInside content c = r.openElement tag empty) ∨
    ∃ name position, r.Ends c name position ∧
      r.feedInside content c = r.closeElement name position := by
  -- In text, every character may begin markup; a piece is complete only where the start stays.
  have hmarked : ∃ position, (if content.isText then { r with tokenStart := r.here } else r) =
      { r with tokenStart := position } ∧ (content.isText = false → position = r.tokenStart) := by
    cases content.isText with
    | true => exact ⟨r.here, rfl, by simp⟩
    | false => exact ⟨r.tokenStart, rfl, fun _ => rfl⟩
  obtain ⟨position, hmarked, hkept⟩ := hmarked
  have hstep (h : content.WellNamed) :=
    Content.feed_wellNamed h r.encoding.alphabet r.encoding.units r.cursor c
  unfold feedInside
  dsimp only
  rw [hmarked]
  dsimp only
  split
  · rename_i next h
    rw [h] at hstep
    exact Or.inl (quiet_inside hr position hstep)
  · rename_i piece h
    obtain rfl := hkept (Content.isText_of_feed h)
    by_cases hstart : ∃ tag empty, piece = .startTag tag empty
    · obtain ⟨tag, empty, rfl⟩ := hstart
      exact Or.inr (Or.inl ⟨tag, empty, ⟨content, hr, h⟩, rfl⟩)
    by_cases hend : ∃ name position, piece = .endTag name position
    · obtain ⟨name, position, rfl⟩ := hend
      exact Or.inr (Or.inr ⟨name, position, ⟨content, hr, h⟩, rfl⟩)
    · exact Or.inl (takePiece_quiet hr (fun tag empty h => hstart ⟨tag, empty, h⟩)
        fun name position h => hend ⟨name, position, h⟩)
  · exact Or.inl ((Quiet.mark r position).fail _ _)

/-- Right after the first character of the root element, no tag is complete yet. -/
theorem feedInside_less_quiet {r : Reader} (hstage : r.stage = .inside .less) (c : Char) :
    Quiet r (r.feedInside .less c) := by
  rcases feedInside_cases hstage c with hquiet | ⟨_, _, hstarts, -⟩ | ⟨_, _, hends, -⟩
  · exact hquiet
  · obtain ⟨content, hcontent, hpiece⟩ := hstarts
    cases hstage.symm.trans hcontent
    exact absurd hpiece (Content.feed_less_ne_piece _ _ _ _ _)
  · obtain ⟨content, hcontent, hpiece⟩ := hends
    cases hstage.symm.trans hcontent
    exact absurd hpiece (Content.feed_less_ne_piece _ _ _ _ _)

/-- Around the root element and at its first character, every character is quiet. -/
theorem feed_quiet (turns : Nat) {r : Reader} (hr : r.isOutside = true) (c : Char) :
    Quiet r (feed turns r c) := by
  induction turns generalizing r with
  | zero => exact Quiet.refl r
  | succ turns ih =>
    cases hstage : r.stage with
    | before expect lexing =>
      have hnames (h : r.WellNamed) : expect.WellNamed ∧ lexing.WellNamed := by
        rw [WellNamed, hstage] at h
        exact h.1
      rw [feed_before hstage]
      refine turn_quiet (fun h => (hnames h).2) (fun r' hr' => ih hr') ?_ ?_
      · intro position next hnext
        exact Quiet.of_isUnderWay rfl rfl rfl fun h => ⟨⟨(hnames h).1, hnext h⟩, h.2⟩
      · intro position token htoken
        obtain ⟨hquiet, houtside⟩ := takeBefore_quiet { r with tokenStart := position } expect token
          fun h => ⟨(hnames h).1, htoken h⟩
        exact ⟨(Quiet.mark r position).trans hquiet, houtside⟩
    | after lexing =>
      have hafter : r.isAfter = true := by rw [isAfter, hstage]
      rw [feed_after hstage]
      refine turn_quiet ?_ (fun r' hr' => ih hr') ?_ ?_
      · intro h
        rw [WellNamed, hstage] at h
        exact h.1
      · intro position next hnext
        refine ⟨rfl, rfl, fun _ => hafter, ?_, fun h => ⟨hnext h, h.2⟩⟩
        rintro e ⟨⟩
      · intro position token htoken
        have hmarked : ({ r with tokenStart := position } : Reader).isAfter = true := hafter
        obtain ⟨hquiet, houtside⟩ := takeTrailing_quiet hmarked token
        exact ⟨(Quiet.mark r position).trans hquiet, houtside⟩
    | inside content =>
      obtain rfl : content = .less := by
        unfold isOutside at hr
        rw [hstage] at hr
        cases content with
        | less => rfl
        | _ => cases hr
      have hfeed : feed (turns + 1) r c = r.feedInside .less c := by
        unfold feed
        simp only [hstage]
      rw [hfeed]
      exact feedInside_less_quiet hstage c
    | failed e =>
      unfold feed
      simp only [hstage]
      exact Quiet.refl r

/-! ### One character -/

/-- The reader past a character. -/
def past (r : Reader) (cursor : Cursor) (c : Char) : Reader :=
  { r with cursor := cursor.advance c, last := cursor.position }

/-- To move on behind a quiet character is quiet. -/
theorem Quiet.past {r r' : Reader} (h : Quiet r r') (cursor : Cursor) (c : Char) :
    Quiet r (r'.past cursor c) :=
  ⟨h.events, h.opened, h.after, h.reported, h.wellNamed⟩

/-- **What a character does.**  It is quiet, opens an element or closes one. -/
theorem step_cases (r : Reader) (c : Char) :
    Quiet r (r.step c) ∨
    (∃ tag empty, r.Starts c tag empty ∧
      r.step c = (r.openElement tag empty).past r.cursor c) ∨
    ∃ name position, r.Ends c name position ∧
      r.step c = (r.closeElement name position).past r.cursor c := by
  cases hstage : r.stage with
  | failed e =>
    rw [step_failed r e hstage]
    exact Or.inl (Quiet.refl r)
  | inside content =>
    have hstep : r.step c = (r.feedInside content c).past r.cursor c := by
      simp only [step, hstage, feed, Reader.past]
    rw [hstep]
    rcases feedInside_cases hstage c with h | ⟨tag, empty, hstarts, h⟩ | ⟨name, position, hends, h⟩
    · exact Or.inl (h.past r.cursor c)
    · exact Or.inr (Or.inl ⟨tag, empty, hstarts, by rw [h]⟩)
    · exact Or.inr (Or.inr ⟨name, position, hends, by rw [h]⟩)
  | before _ _ | after _ =>
    have hstep : r.step c = (feed 3 r c).past r.cursor c := by
      simp only [step, hstage, Reader.past]
    rw [hstep]
    exact Or.inl ((feed_quiet 3 (by rw [isOutside, hstage]) c).past r.cursor c)

/-- A character that completes a start tag opens its element. -/
theorem step_of_starts {r : Reader} {c : Char} {tag : Tag} {empty : Bool}
    (h : r.Starts c tag empty) : r.step c = (r.openElement tag empty).past r.cursor c := by
  obtain ⟨content, hstage, hpiece⟩ := h
  have htext := Content.isText_of_feed hpiece
  simp only [step, hstage, feed, Reader.past, feedInside, htext, Bool.false_eq_true, if_false,
    hpiece, takePiece]

/-! ### What holds at every moment -/

/-- Says that a builder accepts the events so far, that it has as many open elements as the reader,
and that it has its document once the root element has ended; and that all names are names. -/
structure Sound (r : Reader) : Prop where
  built : ∃ b : Builder, Builder.handleAll {} r.events.reverse = .ok b ∧
    b.opened.length = r.opened.length ∧ (r.isAfter = true → b.root.isSome = true)
  wellNamed : r.WellNamed

/-- A reader starts with no events, as a builder does. -/
theorem sound_start (encoding : Encoding) (cursor : Cursor) (standalone : Bool) :
    (start encoding cursor standalone).Sound where
  built := ⟨{}, rfl, rfl, fun h => by cases h⟩
  wellNamed := ⟨⟨trivial, trivial⟩, fun entry h => by cases h⟩

/-- Quiet characters give a builder nothing to do. -/
theorem Sound.quiet {r r' : Reader} (hr : r.Sound) (h : Quiet r r') : r'.Sound where
  built := by
    obtain ⟨b, hb, hopened, hroot⟩ := hr.built
    rw [h.events, h.opened]
    exact ⟨b, hb, hopened, fun hafter => hroot (h.after hafter)⟩
  wellNamed := h.wellNamed hr.wellNamed

/-- To move on behind a character changes nothing that matters here. -/
theorem Sound.past {r : Reader} (h : r.Sound) (cursor : Cursor) (c : Char) :
    (r.past cursor c).Sound :=
  ⟨h.built, h.wellNamed⟩

end Reader

/-- The events of a start tag open one more element. -/
theorem handleAll_startTag (b : Builder) (line column : Int) (bindings : List Binding)
    (name : ExpandedName) (attributes : List ExpandedName) :
    ∃ b', b.handleAll (.locate line column :: bindings.map bindEvent ++ [.start name attributes]) =
        .ok b' ∧ b'.opened.length = b.opened.length + 1 := by
  obtain ⟨b', hb', hshape⟩ := b.handleAll_opening
    ⟨name.localName, name.uri, attributes, line, column + 1⟩ bindings
  rw [Int.add_sub_cancel] at hb'
  refine ⟨b', hb', ?_⟩
  rw [(Prod.mk.inj hshape).1, List.length_cons]

/-- An end closes an element if one is open, and the last one is the root. -/
theorem handle_finish {b : Builder} {n : Nat} (h : b.opened.length = n + 1) :
    ∃ b', b.handle .finish = .ok b' ∧ b'.opened.length = n ∧ (n = 0 → b'.root.isSome = true) := by
  match hopened : b.opened with
  | [] =>
    rw [hopened] at h
    cases h
  | [e] =>
    rw [hopened, List.length_singleton] at h
    refine ⟨{ b with opened := [], root := some e.close }, ?_, ?_, fun _ => rfl⟩
    · simp only [Builder.handle, Builder.finish, hopened]
    · show 0 = n
      omega
  | e :: outer :: rest =>
    rw [hopened, List.length_cons, List.length_cons] at h
    refine ⟨{ b with opened := { outer with children := e.close :: outer.children } :: rest },
      ?_, ?_, ?_⟩
    · simp only [Builder.handle, Builder.finish, hopened]
    · show rest.length + 1 = n
      omega
    · omega

namespace Reader

/-- One more event that a builder accepts. -/
theorem handleAll_reverse_cons {events : List Event} {b b' : Builder} {event : Event}
    (h : Builder.handleAll {} events.reverse = .ok b) (h' : b.handle event = .ok b') :
    Builder.handleAll {} (event :: events).reverse = .ok b' := by
  rw [List.reverse_cons, Builder.handleAll_append h]
  simp only [Builder.handleAll, h']

/-- An end tag closes an element of the builder, or is a fault. -/
theorem sound_closeElement {r : Reader} (hr : r.Sound) (name : String) (position : Position) :
    (r.closeElement name position).Sound := by
  unfold closeElement
  split
  · exact hr.quiet ((Quiet.refl r).fail _ _)
  rename_i opened scope rest hopened
  split
  · exact hr.quiet ((Quiet.refl r).fail _ _)
  obtain ⟨b, hb, hlength, -⟩ := hr.built
  rw [hopened, List.length_cons] at hlength
  obtain ⟨b', hb', hlength', hroot⟩ := handle_finish hlength
  refine ⟨⟨b', handleAll_reverse_cons hb hb', hlength', ?_⟩, ?_, hr.wellNamed.2⟩
  · intro hafter
    apply hroot
    cases rest with
    | nil => rfl
    | cons _ _ => cases hafter
  · cases rest <;> exact trivial

/-- A start tag opens an element of the builder, or is a failure. -/
theorem sound_openElement {r : Reader} (hr : r.Sound) (tag : Tag) (empty : Bool) :
    (r.openElement tag empty).Sound := by
  unfold openElement
  obtain ⟨b, hb, hlength, -⟩ := hr.built
  split
  · exact ⟨⟨b, hb, hlength, fun h => by cases h⟩, trivial, hr.wellNamed.2⟩
  rename_i opening hresolve
  -- The events are held newest first; the builder takes them after those so far.
  obtain ⟨b₁, hb₁, hlength₁⟩ := handleAll_startTag b r.tokenStart.line r.tokenStart.column
    opening.bindings opening.name opening.attributes
  have hevents : Builder.handleAll {} (.start opening.name opening.attributes ::
      ((opening.bindings.map fun b => Event.bind b.1 b.2).reverse ++
        .locate r.tokenStart.line r.tokenStart.column :: r.events)).reverse = .ok b₁ := by
    have hreverse : (.start opening.name opening.attributes ::
        ((opening.bindings.map fun b => Event.bind b.1 b.2).reverse ++
          .locate r.tokenStart.line r.tokenStart.column :: r.events)).reverse =
        r.events.reverse ++ (.locate r.tokenStart.line r.tokenStart.column ::
          opening.bindings.map bindEvent ++ [.start opening.name opening.attributes]) := by
      simp [bindEvent]
    rw [hreverse, Builder.handleAll_append hb]
    exact hb₁
  rw [hlength] at hlength₁
  dsimp only
  split
  · -- An empty element ends at once.
    obtain ⟨b₂, hb₂, hlength₂, hroot⟩ := handle_finish hlength₁
    refine ⟨⟨b₂, handleAll_reverse_cons hevents hb₂, hlength₂, ?_⟩, ?_, hr.wellNamed.2⟩
    · intro hafter
      apply hroot
      cases hopened : r.opened with
      | nil => rfl
      | cons _ _ => simp [isAfter, hopened] at hafter
    · cases r.opened <;> exact trivial
  · exact ⟨⟨b₁, hevents, hlength₁, fun h => by cases h⟩, trivial, hr.wellNamed.2⟩

/-- One character keeps reader and builder in step. -/
theorem sound_step {r : Reader} (hr : r.Sound) (c : Char) : (r.step c).Sound := by
  rcases r.step_cases c with h | ⟨tag, empty, -, h⟩ | ⟨name, position, -, h⟩
  · exact hr.quiet h
  · rw [h]
    exact (sound_openElement hr tag empty).past r.cursor c
  · rw [h]
    exact (sound_closeElement hr name position).past r.cursor c

/-- **Reader and builder stay in step**, by induction on the characters. -/
theorem sound_run {r : Reader} (hr : r.Sound) (s : List Char) : (r.run s).Sound := by
  induction s generalizing r with
  | nil => exact hr
  | cons c cs ih => exact ih (sound_step hr c)

/-- A document that has been read to its end has events that make a document. -/
theorem ofEvents_finish {r : Reader} (hr : r.Sound) {ending : Ending} {events : List Event}
    (h : r.finish ending = .ok events) : ∃ d, Document.ofEvents events = .ok d := by
  unfold finish at h
  split at h
  · cases h
  · cases h
  · cases h
  · rename_i lexing hstage
    split at h
    · cases h
    obtain rfl := Except.ok.inj h
    obtain ⟨b, hb, -, hroot⟩ := hr.built
    obtain ⟨root, hsome⟩ := Option.isSome_iff_exists.1 (hroot (by rw [isAfter, hstage]))
    refine ⟨⟨root, b.rootNamespaces.getD []⟩, ?_⟩
    simp only [Document.ofEvents, hb, Builder.document, hsome]

/-! ### Failures -/

/-- A character that fails is a fault, or completes a start tag without a meaning. -/
theorem step_failure {r : Reader} {c : Char} {e : Failure} (h : (r.step c).stage = .failed e) :
    r.stage = .failed e ∨ e.isReported = true ∨
      ∃ tag empty, r.Starts c tag empty ∧
        tag.resolve r.knowledge r.scope r.tokenStart = .error e := by
  rcases r.step_cases c with hquiet | ⟨tag, empty, hstarts, hstep⟩ | ⟨name, position, -, hstep⟩
  · rcases hquiet.reported e h with h | h
    · exact Or.inl h
    · exact Or.inr (Or.inl h)
  · refine Or.inr (Or.inr ⟨tag, empty, hstarts, ?_⟩)
    have hopen : (r.openElement tag empty).stage = .failed e := by rwa [hstep] at h
    unfold openElement at hopen
    split at hopen
    · rename_i e' he
      cases hopen
      exact he
    · dsimp only at hopen
      split at hopen
      · dsimp only at hopen
        split at hopen <;> cases hopen
      · cases hopen
  · have hclose : (r.closeElement name position).stage = .failed e := by rwa [hstep] at h
    unfold closeElement at hclose
    split at hclose
    · cases hclose
      exact Or.inr (Or.inl rfl)
    · split at hclose
      · cases hclose
        exact Or.inr (Or.inl rfl)
      · dsimp only at hclose
        split at hclose <;> cases hclose

/-- A failure has been there from the start, is reported, or is about the parts of a name. -/
theorem run_failure {r : Reader} {s : List Char} {e : Failure} (h : (r.run s).stage = .failed e) :
    r.stage = .failed e ∨ e.isReported = true ∨ e = .tooManyNameParts := by
  induction s generalizing r with
  | nil => exact Or.inl h
  | cons c cs ih =>
    rcases ih h with hstep | hreported | hparts
    · rcases step_failure hstep with hstage | hreported | ⟨tag, empty, -, hresolve⟩
      · exact Or.inl hstage
      · exact Or.inr (Or.inl hreported)
      · exact Or.inr (Tag.resolve_failure hresolve)
    · exact Or.inr (Or.inl hreported)
    · exact Or.inr (Or.inr hparts)

/-- Says that the text has a start tag with an overlong name, before which nothing is wrong. -/
def MeetsOverlong (r : Reader) (s : List Char) : Prop :=
  ∃ front c back tag empty x e,
    s = front ++ c :: back ∧ (r.run front).Starts c tag empty ∧
      tag.expanded (r.run front).knowledge (r.run front).scope (r.run front).tokenStart = .ok x ∧
      e ∈ x.expansions ∧ e.isOverlong = true

/-- A start tag that is completed has names. -/
theorem Starts.wellNamed {r : Reader} {c : Char} {tag : Tag} {empty : Bool}
    (h : r.Starts c tag empty) (hr : r.WellNamed) : tag.WellNamed := by
  obtain ⟨content, hstage, hpiece⟩ := h
  rw [WellNamed, hstage] at hr
  have hstep := Content.feed_wellNamed hr.1 r.encoding.alphabet r.encoding.units r.cursor c
  rw [hpiece] at hstep
  exact hstep

/-- **Names of too many parts.**  Reading fails for them exactly if it meets one. -/
theorem run_eq_tooManyNameParts_iff {r : Reader} (hr : r.Sound)
    (hstage : r.stage ≠ .failed .tooManyNameParts) (s : List Char) :
    (r.run s).stage = .failed .tooManyNameParts ↔ r.MeetsOverlong s := by
  constructor
  · -- The failure comes from one of the characters; the reader before it is sound.
    intro h
    induction s generalizing r with
    | nil => exact absurd h hstage
    | cons c cs ih =>
      by_cases hstep : (r.step c).stage = .failed .tooManyNameParts
      · rcases step_failure hstep with hfailed | hreported | ⟨tag, empty, hstarts, hresolve⟩
        · exact absurd hfailed hstage
        · cases hreported
        · obtain ⟨x, hx, e, he, hlong⟩ := (Tag.resolve_eq_tooManyNameParts_iff hr.wellNamed.2
            (hstarts.wellNamed hr.wellNamed)).1 hresolve
          exact ⟨[], c, cs, tag, empty, x, e, rfl, hstarts, hx, he, hlong⟩
      · obtain ⟨front, d, back, tag, empty, x, e, hsplit, hrest⟩ := ih (sound_step hr c) hstep h
        exact ⟨c :: front, d, back, tag, empty, x, e, by rw [hsplit, List.cons_append], hrest⟩
  · -- A failed reader stays as it is, whatever follows.
    rintro ⟨front, c, back, tag, empty, x, e, rfl, hstarts, hx, he, hlong⟩
    have hfront := sound_run hr front
    have hresolve := (Tag.resolve_eq_tooManyNameParts_iff hfront.wellNamed.2
      (hstarts.wellNamed hfront.wellNamed)).2 ⟨x, hx, e, he, hlong⟩
    have hstep : ((r.run front).step c).stage = .failed .tooManyNameParts := by
      rw [step_of_starts hstarts, openElement, hresolve]
      rfl
    have hsplit : r.run (front ++ c :: back) = ((r.run front).step c).run back := by
      rw [run_append]
      rfl
    rw [hsplit, run_failed _ _ hstep]
    exact hstep

end Reader

end AttrLint.Xml
