import AttrLint.Xml.Aside
import AttrLint.Xml.Tag

namespace AttrLint.Xml

/-!
# Markup inside elements

* `Content` — what has been read of a piece of markup inside the root element.
* `Content.feed` — one more character, and the piece that it completes.
-/

/-- What has been read of a piece of an element's content. -/
inductive Content where
  /-- Text, with the number of closing brackets at its end; two stand for more. -/
  | text (brackets : Nat)
  /-- A reference in text. -/
  | reference (ref : Reference)
  /-- `<`. -/
  | less
  /-- `<!`. -/
  | bang
  | aside (inner : Aside)
  /-- `<![` and part of the keyword after it; `rest` is the part that has to come. -/
  | cdataStart (rest : List Char)
  /-- `<![` and a wrong character at `wrong`; `missing` code units decide whether the piece could
  have been complete. -/
  | cdataBroken (wrong : Position) (missing : Nat)
  /-- The text of a CDATA section. -/
  | cdata
  /-- A closing bracket at `first` in a CDATA section. -/
  | cdataBracket (first : Position)
  /-- Two closing brackets in a CDATA section, the first of them at `first` and the second at
  `second`. -/
  | cdataBrackets (first second : Position)
  /-- A carriage return at `first` at the end of the text of a CDATA section. -/
  | cdataReturn (first : Position)
  /-- `</`. -/
  | endStart
  /-- `</` and a name, newest character first, which starts at `start`. -/
  | endName (letters : List Char) (start : Position)
  /-- An end tag's name and white space after it. -/
  | endGap (letters : List Char) (start : Position)
  | tag (reader : TagReader)

/-- A complete piece of an element's content. -/
inductive Piece where
  /-- A comment or processing instruction; `declaration` says that its target is `xml`. -/
  | aside (declaration : Bool)
  /-- A reference to an entity. -/
  | entity (name : String)
  /-- A reference to a character by its number. -/
  | code (value : Nat)
  | startTag (tag : Tag) (empty : Bool)
  /-- An end tag, and where its name stands. -/
  | endTag (name : String) (position : Position)

/-- What one more character makes of a piece of content. -/
inductive Content.Step where
  /-- The piece goes on. -/
  | more (content : Content)
  /-- The piece is complete. -/
  | piece (piece : Piece)
  /-- Something cannot stand where it does. -/
  | invalid (position : Position)

/-- The text after `<![` that opens a CDATA section. -/
def cdataKeyword : List Char := ['C', 'D', 'A', 'T', 'A', '[']

namespace Content

/-- The state between two pieces. -/
def between : Content := .text 0

/-- One more character of text. -/
def feedText (brackets : Nat) (here : Position) (c : Char) : Step :=
  if c = '<' then .more .less
  else if c = '&' then .more (.reference .start)
  else if c = ']' then .more (.text (min 2 (brackets + 1)))
  else if c = '>' && brackets = 2 then .invalid here
  else .more (.text 0)

/-- One more character of a CDATA section's text, outside closing brackets. -/
def feedCdata (here : Position) (c : Char) : Step :=
  if c = ']' then .more (.cdataBracket here)
  else if c = '\r' then .more (.cdataReturn here)
  else .more .cdata

/-- The keyword of a CDATA section goes wrong with `c`: that is a fault there, once it is clear that
as many code units follow as the keyword has. -/
def feedBroken (units : Char → Nat) (wrong : Position) (missing : Nat) (c : Char) : Step :=
  if missing ≤ units c then .invalid wrong else .more (.cdataBroken wrong (missing - units c))

/-- One more character of content, at the place `cursor`; `alphabet` classes the characters of the
document's encoding, and `units` counts their code units. -/
def feed (alphabet : Alphabet) (units : Char → Nat) (content : Content) (cursor : Cursor)
    (c : Char) : Step :=
  let here := cursor.position
  match content with
  | .text brackets => feedText brackets here c
  | .reference ref =>
    match ref.feed alphabet c with
    | .more ref => .more (.reference ref)
    | .entity name => .piece (.entity name)
    | .code n => .piece (.code n)
    | .invalid => .invalid here
  | .less =>
    if c = '!' then .more .bang
    else if c = '?' then .more (.aside .question)
    else if c = '/' then .more .endStart
    else if isNameStart alphabet c then .more (.tag (TagReader.start c))
    else .invalid here
  | .bang =>
    if c = '-' then .more (.aside .dash)
    else if c = '[' then .more (.cdataStart cdataKeyword)
    else .invalid here
  | .aside inner =>
    match inner.feed alphabet c with
    | .more inner => .more (.aside inner)
    | .done declaration => .piece (.aside declaration)
    | .invalid => .invalid here
  | .cdataStart [] => feedCdata here c
  | .cdataStart (expected :: rest) =>
    if c = expected then .more (if rest.isEmpty then .cdata else .cdataStart rest)
    else feedBroken units here (rest.length + 1) c
  | .cdataBroken wrong missing => feedBroken units wrong missing c
  | .cdata => feedCdata here c
  | .cdataReturn _ => feedCdata here c
  | .cdataBracket first =>
    if c = ']' then .more (.cdataBrackets first here) else feedCdata here c
  | .cdataBrackets _ second =>
    if c = '>' then .more between
    else if c = ']' then .more (.cdataBrackets second here)
    else feedCdata here c
  | .endStart =>
    if isNameStart alphabet c then .more (.endName [c] here) else .invalid here
  | .endName letters start =>
    if isNameChar alphabet c || c = ':' then .more (.endName (c :: letters) start)
    else if isSpace c then .more (.endGap letters start)
    else if c = '>' then .piece (.endTag (spelled letters) start)
    else .invalid here
  | .endGap letters start =>
    if isSpace c then .more content
    else if c = '>' then .piece (.endTag (spelled letters) start)
    else .invalid here
  | .tag reader =>
    match reader.feed alphabet cursor c with
    | .more reader => .more (.tag reader)
    | .done complete empty => .piece (.startTag complete empty)
    | .invalid => .invalid here

/-- Says that only ASCII characters can go on here. -/
def asciiOnly : Content → Bool
  | .reference ref => ref.asciiOnly
  | .bang | .endGap .. => true
  | .aside inner => inner.asciiOnly
  | .tag reader => reader.asciiOnly
  | _ => false

/-- Says that a text is being read and no piece is open. -/
def isText : Content → Bool
  | .text _ => true
  | _ => false

/-- Where a CDATA section that is never closed is reported, for a document that ends at
`finish`; nothing outside CDATA sections. -/
def cdataEnd? (finish : Position) : Content → Option Position
  | .cdata => some finish
  | .cdataBracket first | .cdataBrackets first _ | .cdataReturn first => some first
  | _ => none

end Content

end AttrLint.Xml
