import AttrLint.Document.Event
import AttrLint.Xml.Content
import AttrLint.Xml.Declaration
import AttrLint.Xml.Encoding
import AttrLint.Xml.Subset.Grammar

namespace AttrLint.Xml

/-!
# Reading a document

The reader takes a document character by character and reports its events.  A failure ends it: no
later character changes anything.

* `Reader.step` — one more character.
* `Reader.finish` — the end of the document.
* `body` — what follows a document's byte order mark and declaration, and how it is read.
* `events` — the events of a document given as bytes, or why it cannot be read.
-/

/-- Where the reader stands: before, inside or after the root element, or at a failure. -/
inductive Stage where
  | before (expect : Expect) (lexing : Lexing)
  | inside (content : Content)
  | after (lexing : Lexing)
  | failed (failure : Failure)

/-- A document being read. -/
structure Reader where
  /-- The encoding that the document's characters are counted in. -/
  encoding : Encoding
  /-- The place of the next character. -/
  cursor : Cursor
  /-- The place of the last character. -/
  last : Position
  /-- The place where the token being read starts. -/
  tokenStart : Position
  stage : Stage
  knowledge : Knowledge
  /-- The namespaces in force. -/
  scope : Scope
  /-- The open elements, innermost first: their written names and the namespaces around them. -/
  opened : List (String × Scope)
  /-- The events so far, newest first. -/
  events : List Event

namespace Reader

/-- A reader before the first character of a document, or before the first one after its
declaration. -/
def start (encoding : Encoding) (cursor : Cursor) (standalone : Bool) : Reader where
  encoding := encoding
  cursor := cursor
  last := cursor.position
  tokenStart := cursor.position
  stage := .before (.root false) .idle
  knowledge := { alphabet := encoding.alphabet, standalone := standalone }
  scope := Scope.initial
  opened := []
  events := []

/-- Where the next character stands. -/
def here (r : Reader) : Position :=
  r.cursor.position

/-- Stops with a problem. -/
def fail (r : Reader) (problem : Problem) (position : Position) : Reader :=
  { r with stage := .failed (.fault problem position) }

/-! ### Inside the root element -/

/-- Opens the element of a start tag; an empty one is closed at once. -/
def openElement (r : Reader) (tag : Tag) (empty : Bool) : Reader :=
  match tag.resolve r.knowledge r.scope r.tokenStart with
  | .error e => { r with stage := .failed e }
  | .ok opening =>
    let bindings := opening.bindings.map fun b => Event.bind b.1 b.2
    let located := Event.locate r.tokenStart.line r.tokenStart.column
    let events :=
      .start opening.name opening.attributes :: (bindings.reverse ++ located :: r.events)
    if empty then
      let stage := if r.opened.isEmpty then Stage.after .idle else .inside .between
      { r with events := .finish :: events, stage := stage }
    else
      { r with
        events := events
        opened := (tag.name, r.scope) :: r.opened
        scope := opening.scope
        stage := .inside .between }

/-- Closes the innermost element, whose name the end tag at `position` has to repeat. -/
def closeElement (r : Reader) (name : String) (position : Position) : Reader :=
  match r.opened with
  | [] => r.fail .mismatchedTag position
  | (opened, scope) :: rest =>
    if opened ≠ name then r.fail .mismatchedTag position
    else
      { r with
        events := .finish :: r.events
        opened := rest
        scope := scope
        stage := if rest.isEmpty then .after .idle else .inside .between }

/-- Takes a complete piece of content. -/
def takePiece (r : Reader) (piece : Piece) : Reader :=
  match piece with
  | .aside true => r.fail .misplacedDeclaration r.tokenStart
  | .aside false => { r with stage := .inside .between }
  | .entity name =>
    if r.knowledge.entitiesKnown && (predefinedEntity? name).isNone then
      r.fail .undefinedEntity r.tokenStart
    else { r with stage := .inside .between }
  | .code n =>
    if (codeChar? n).isSome then { r with stage := .inside .between }
    else r.fail .badCharacterNumber r.tokenStart
  | .startTag tag empty => r.openElement tag empty
  | .endTag name position => r.closeElement name position

/-- One more character inside the root element. -/
def feedInside (r : Reader) (content : Content) (c : Char) : Reader :=
  let r := if content.isText then { r with tokenStart := r.here } else r
  match content.feed r.encoding.alphabet r.encoding.units r.cursor c with
  | .more content => { r with stage := .inside content }
  | .piece piece => r.takePiece piece
  | .invalid position => r.fail .invalidToken position

/-! ### Around the root element -/

/-- Takes a complete token before the root element. -/
def takeToken (r : Reader) (expect : Expect) (token : Token) : Reader :=
  match expect.accept r.knowledge r.tokenStart token with
  | .error e => { r with stage := .failed e }
  | .ok (expect, knowledge) => { r with stage := .before expect .idle, knowledge := knowledge }

/-- Takes a complete token after the root element: only comments and processing instructions may
come there. -/
def takeTrailing (r : Reader) (token : Token) : Reader :=
  match token with
  | .aside false => { r with stage := .after .idle }
  | _ => r.fail .junk r.tokenStart

/-- One more character.  Outside the root element it may first complete up to two tokens that end
before it, which is what `turns` counts down. -/
def feed (turns : Nat) (r : Reader) (c : Char) : Reader :=
  match turns with
  | 0 => r
  | turns + 1 =>
    let go (lexing : Lexing) (keep : Reader → Lexing → Reader) (take : Reader → Token → Reader) :
        Reader :=
      let r := match lexing with
        | .idle => { r with tokenStart := r.here }
        | _ => r
      match lexing.feed r.encoding.alphabet r.here c with
      | .more lexing => keep r lexing
      | .invalid => r.fail .invalidToken r.here
      | .invalidAt position => r.fail .invalidToken position
      | .token token => take r token
      | .before token => feed turns (take r token) c
      | .split token start lexing =>
        let r := take r token
        match r.stage with
        | .before expect _ =>
          feed turns { r with tokenStart := start, stage := .before expect lexing } c
        | _ => r
    match r.stage with
    | .before expect lexing =>
      go lexing (fun r lexing => { r with stage := .before expect lexing }) fun r token =>
        match expect, token with
        | .root _, .element => { r with stage := .inside .less }
        | _, _ => r.takeToken expect token
    | .after lexing => go lexing (fun r lexing => { r with stage := .after lexing }) takeTrailing
    | .inside content => r.feedInside content c
    | .failed _ => r

/-! ### Characters -/

/-- One more character of the document. -/
def step (r : Reader) (c : Char) : Reader :=
  match r.stage with
  | .failed _ => r
  | _ =>
    let cursor := r.cursor
    { feed 3 r c with cursor := cursor.advance c, last := cursor.position }

/-- All characters of a text. -/
def run (r : Reader) (s : List Char) : Reader :=
  s.foldl step r

@[simp] theorem run_nil (r : Reader) : r.run [] = r :=
  rfl

@[simp] theorem run_cons (r : Reader) (c : Char) (s : List Char) :
    r.run (c :: s) = (r.step c).run s :=
  rfl

/-- A failure stays, whatever follows. -/
theorem step_failed (r : Reader) (e : Failure) (h : r.stage = .failed e) (c : Char) :
    r.step c = r := by
  simp [step, h]

theorem run_failed (r : Reader) (e : Failure) (h : r.stage = .failed e) (s : List Char) :
    r.run s = r := by
  induction s with
  | nil => rfl
  | cons c cs ih => simp [step_failed r e h c, ih]

@[simp] theorem run_append (r : Reader) (s t : List Char) : r.run (s ++ t) = (r.run s).run t := by
  simp [run]

/-! ### The end of the document -/

/-- The failure of a document that ends inside its root element. -/
def finishInside (r : Reader) (content : Content) (ending : Ending) : Failure :=
  let stops (missing left : Nat) (wrong : Position) : Failure :=
    if missing ≤ left then .fault .invalidToken wrong else .fault .unclosedToken r.tokenStart
  match content, ending with
  | .cdataStart rest, .malformed left _ | .cdataStart rest, .cut left =>
    stops rest.length left r.here
  | .cdataBroken wrong missing, .malformed left _ | .cdataBroken wrong missing, .cut left =>
    stops missing left wrong
  | _, .malformed _ _ => .fault .invalidToken r.here
  | .text _, .cut _ => .fault .cutCharacter r.here
  | content, .cut _ =>
    if (content.cdataEnd? r.here).isSome then .fault .cutCharacter r.here
    else if content.asciiOnly then .fault .invalidToken r.here
    else .fault .cutCharacter r.tokenStart
  | .text brackets, ending =>
    if ending = .half && brackets = 0 && !r.cursor.afterReturn then .fault .unclosedToken r.here
    else .fault .noElement (if r.cursor.afterReturn then r.last else r.here)
  | content, _ =>
    match content.cdataEnd? r.here with
    | some position => .fault .unclosedCdata position
    | none => .fault .unclosedToken r.tokenStart

/-- The tokens that are complete before something that is no character, with their places, and the
token that is open after them. -/
def settle (start : Position) : Lexing → List (Position × Token) × Position × Lexing
  | .bracket => ([(start, .closeBracket)], start, .idle)
  | .brackets second => ([(start, .closeBracket), (second, .closeBracket)], start, .idle)
  | .keywordPercent letters percent =>
    ([(start, .declaration (spelled letters))], percent, .percent)
  | lexing => ([], start, lexing)

/-- Takes tokens before the root element one after the other. -/
def acceptAll (expect : Expect) (k : Knowledge) :
    List (Position × Token) → Except Failure (Expect × Knowledge)
  | [] => .ok (expect, k)
  | (start, token) :: rest =>
    match expect.accept k start token with
    | .error e => .error e
    | .ok (expect, k) => acceptAll expect k rest

/-- The failure of a document that ends before its root element. -/
def finishBefore (r : Reader) (expect : Expect) (lexing : Lexing) (ending : Ending) : Failure :=
  match ending with
  | .complete | .half =>
    match lexing.close? with
    | some token =>
      let token := if ending = .half then token.blurred else token
      match expect.accept r.knowledge r.tokenStart token with
      | .error e => e
      | .ok _ =>
        if ending = .half && token.isLiteral && expect.looksInside r.knowledge then
          .fault .invalidToken r.last
        else .fault .noElement r.here
    | none =>
      match lexing with
      | .idle =>
        if ending = .half then .fault .unclosedToken r.here else .fault .noElement r.here
      | _ => .fault .unclosedToken r.tokenStart
  | .malformed _ _ | .cut _ =>
    let (tokens, start, lexing) := settle r.tokenStart lexing
    match acceptAll expect r.knowledge tokens with
    | .error e => e
    | .ok (expect, _) =>
      match ending, lexing, expect with
      | .malformed _ true, .less, .root _ => .fault .invalidToken r.here
      | .malformed _ true, .less, _ => .fault .misplacedToken start
      | .malformed _ _, _, _ => .fault .invalidToken r.here
      | _, .idle, _ => .fault .cutCharacter r.here
      | _, .less, .root _ => .fault .cutCharacter start
      | _, .less, _ => .fault .misplacedToken start
      | _, lexing, _ =>
        if lexing.asciiOnly then .fault .invalidToken r.here else .fault .cutCharacter start

/-- The failure of a document that does not end well after its root element, if there is one. -/
def finishAfter (r : Reader) (lexing : Lexing) (ending : Ending) : Option Failure :=
  match ending with
  | .complete | .half =>
    match lexing with
    | .idle => if ending = .half then some (.fault .unclosedToken r.here) else none
    | _ =>
      if lexing.close?.isSome then some (.fault .junk r.tokenStart)
      else some (.fault .unclosedToken r.tokenStart)
  | .malformed _ _ | .cut _ =>
    let (tokens, start, lexing) := settle r.tokenStart lexing
    if !tokens.isEmpty then some (.fault .junk r.tokenStart)
    else
      match ending, lexing with
      | .malformed _ true, .less => some (.fault .junk start)
      | .malformed _ _, _ => some (.fault .invalidToken r.here)
      | _, .idle => some (.fault .cutCharacter r.here)
      | _, .less => some (.fault .junk start)
      | _, lexing =>
        if lexing.asciiOnly then some (.fault .invalidToken r.here)
        else some (.fault .cutCharacter start)

/-- The events of a document after its last character, or why it cannot be read. -/
def finish (r : Reader) (ending : Ending) : Except Failure (List Event) :=
  match r.stage with
  | .failed e => .error e
  | .before expect lexing => .error (r.finishBefore expect lexing ending)
  | .inside content => .error (r.finishInside content ending)
  | .after lexing =>
    match r.finishAfter lexing ending with
    | some e => .error e
    | none => .ok r.events.reverse

end Reader

/-! ### Documents as bytes -/

/-- The part of a document after its byte order mark and its declaration, and how it is read. -/
structure Body where
  encoding : Encoding
  /-- Where it starts. -/
  cursor : Cursor
  /-- Says that the document declares itself complete without anything outside it. -/
  standalone : Bool
  bytes : List UInt8

namespace Body

/-- The characters of the body, and how they end. -/
def decoded (b : Body) : Decoded :=
  b.encoding.decode b.bytes

/-- The reader before the first character of the body. -/
def reader (b : Body) : Reader :=
  .start b.encoding b.cursor b.standalone

/-- The events of the body, or why it cannot be read. -/
def events (b : Body) : Except Failure (List Event) :=
  (b.reader.run b.decoded.chars).finish b.decoded.ending

end Body

/-- Where a text goes on after its first bytes, each of which is a character of its own. -/
def afterBytes (bytes : List UInt8) : Cursor :=
  Cursor.start.advanceAll (bytes.map fun b => Char.ofNat b.toNat)

/-- Where a document goes on after the bytes `front` of its mark and declaration, which end at
`cursor`.  If the encoding changes, they are counted again in the new one. -/
def switched (old new : Encoding) (cursor : Cursor) (front : List UInt8) : Cursor :=
  if old = new then cursor else afterBytes front

/-- What a registered encoding that cannot be read leads to; it is named at `position`. -/
def codingFailure (name : String) (position : Position) : Option Coding → Failure
  | none => .unknownEncoding name
  | some .multiByte => .multiByteEncoding
  | some (.single _) | some .unfit => .fault .unfitEncoding position
  | some .notText => .transformation name
  | some .hostNames => .hostNameEncoding name
  | some .undefined => .undefinedEncoding name
  | some .labels => .labelEncoding

/-- Where the first character of a document stands that has a byte order mark of `mark` bytes. -/
def markedStart (mark : Nat) : Cursor :=
  if mark = 0 then .start else ⟨⟨1, 1⟩, false⟩

/-- Where the text of a declaration starts. -/
def declarationStart (mark : Nat) : Cursor :=
  (markedStart mark).advanceAll ['<', '?', 'x', 'm', 'l']

/-- The body of a document whose declaration has the text `text`, in the encoding that the
declaration asks for.  The byte order mark takes `mark` bytes. -/
def declaredBody (encoding : Encoding) (mark : Nat) (text : List Char) (bytes : List UInt8) :
    Except Failure Body :=
  let afterwards := ((declarationStart mark).advanceAll text).advanceAll ['?', '>']
  match XmlDeclaration.parse (declarationStart mark) text with
  | .error position => .error (.fault .badDeclaration position)
  | .ok declaration =>
    let (front, rest) := bytes.splitAt (mark + (text.length + 7) * encoding.unitSize)
    match declaration.encoding with
    | none => .ok ⟨encoding, afterwards, declaration.standalone, rest⟩
    | some (name, position) =>
      match encoding.named name with
      | .encoding new =>
        .ok ⟨new, switched encoding new afterwards front, declaration.standalone, rest⟩
      | .mismatch => .error (.fault .wrongEncoding position)
      | .registered coding => .error (codingFailure (String.ofList name) position coding)

/-- The body of a document, or why it cannot be told from its front. -/
def body (bytes : List UInt8) : Except Failure Body :=
  match sniff bytes with
  | .tooShort => .error (.fault .unclosedToken ⟨1, 0⟩)
  | .encoding encoding mark =>
    let rest := bytes.drop mark
    match declarationBody? (encoding.decode rest).chars with
    | none => .ok ⟨encoding, markedStart mark, false, rest⟩
    | some text => declaredBody encoding mark text bytes

/-- The events of a document, or why it cannot be read. -/
def events (bytes : List UInt8) : Except Failure (List Event) :=
  match body bytes with
  | .error e => .error e
  | .ok body => body.events

end AttrLint.Xml
