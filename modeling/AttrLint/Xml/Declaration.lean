import AttrLint.Xml.Name
import AttrLint.Xml.Position

namespace AttrLint.Xml

/-!
# The XML declaration

A document may open with a declaration of its version, its encoding, and whether it stands alone.

* `declarationBody?` — the text of a declaration at the front of a document.
* `XmlDeclaration.parse` — what the declaration says, or the place where it goes wrong.
-/

/-- The text up to the first `?>`; `done` holds the text so far, newest first. -/
def beforeInstructionEnd (done : List Char) : List Char → Option (List Char)
  | '?' :: '>' :: _ => some done.reverse
  | c :: cs => beforeInstructionEnd (c :: done) cs
  | [] => none

/-- The text between `<?xml` and `?>` at the front of a document. -/
def declarationBody? : List Char → Option (List Char)
  | '<' :: '?' :: 'x' :: 'm' :: 'l' :: c :: rest =>
    if isSpace c then beforeInstructionEnd [] (c :: rest)
    else
      match c, rest with
      | '?', '>' :: _ => some []
      | _, _ => none
  | _ => none

/-- What an XML declaration says. -/
structure XmlDeclaration where
  /-- The name of the encoding, and where it stands. -/
  encoding : Option (List Char × Position)
  standalone : Bool
  deriving Repr

/-- A name and a quoted value in an XML declaration, and what follows them. -/
structure PseudoAttribute where
  name : List Char
  namePosition : Position
  value : List Char
  valuePosition : Position
  cursor : Cursor
  rest : List Char

/-- Skips white space. -/
def skipSpaces (cursor : Cursor) : List Char → Cursor × List Char
  | [] => (cursor, [])
  | c :: cs => if isSpace c then skipSpaces (cursor.advance c) cs else (cursor, c :: cs)

/-- Reads a name up to an equals sign or white space; fails where the text ends or leaves ASCII. -/
def readPseudoName (cursor : Cursor) (done : List Char) :
    List Char → Except Position (List Char × Cursor × List Char)
  | [] => .error cursor.position
  | c :: cs =>
    if c = '=' || isSpace c then .ok (done.reverse, cursor, c :: cs)
    else if 0x80 ≤ c.toNat then .error cursor.position
    else readPseudoName (cursor.advance c) (c :: done) cs

/-- Says that a value in an XML declaration may contain the character. -/
def isPseudoValueChar (c : Char) : Bool :=
  isAsciiLetter c || c.isDigit || c = '.' || c = '-' || c = '_'

/-- Reads a value up to its closing quote. -/
def readPseudoValue (quote : Char) (cursor : Cursor) (done : List Char) :
    List Char → Except Position (List Char × Cursor × List Char)
  | [] => .error cursor.position
  | c :: cs =>
    if c = quote then .ok (done.reverse, cursor.advance c, cs)
    else if isPseudoValueChar c then readPseudoValue quote (cursor.advance c) (c :: done) cs
    else .error cursor.position

/-- The next name and value after white space; none at the end of the declaration. -/
def nextPseudoAttribute (cursor : Cursor) (text : List Char) :
    Except Position (Option PseudoAttribute) := do
  match text with
  | [] => return none
  | c :: _ =>
    if !isSpace c then throw cursor.position
    let (nameCursor, text) := skipSpaces cursor text
    if text.isEmpty then return none
    let (name, cursor, text) ← readPseudoName nameCursor [] text
    let (cursor, text) := skipSpaces cursor text
    match text with
    | '=' :: text =>
      if name.isEmpty then throw cursor.position
      let (cursor, text) := skipSpaces (cursor.advance '=') text
      match text with
      | quote :: text =>
        if quote ≠ '"' ∧ quote ≠ '\'' then throw cursor.position
        let valueCursor := cursor.advance quote
        let (value, cursor, rest) ← readPseudoValue quote valueCursor [] text
        return some
          ⟨name, nameCursor.position, value, valueCursor.position, cursor, rest⟩
      | [] => throw cursor.position
    | _ => throw cursor.position

namespace XmlDeclaration

/-- Reads whether the document stands alone, which comes last. -/
def parseStandalone (encoding : Option (List Char × Position)) (p : PseudoAttribute) :
    Except Position XmlDeclaration := do
  if String.ofList p.name ≠ "standalone" then throw p.namePosition
  let value := String.ofList p.value
  if value ≠ "yes" ∧ value ≠ "no" then throw p.valuePosition
  match skipSpaces p.cursor p.rest with
  | (_, []) => return ⟨encoding, value = "yes"⟩
  | (cursor, _) => throw cursor.position

/-- Reads the text of a declaration, which starts at `cursor`: a version, then, if given, an
encoding, then, if given, whether the document stands alone. -/
def parse (cursor : Cursor) (body : List Char) : Except Position XmlDeclaration := do
  let some version ← nextPseudoAttribute cursor body | throw cursor.position
  if String.ofList version.name ≠ "version" then throw version.namePosition
  let some second ← nextPseudoAttribute version.cursor version.rest | return ⟨none, false⟩
  if String.ofList second.name ≠ "encoding" then parseStandalone none second
  else
    if !(second.value.head?.any isAsciiLetter) then throw second.valuePosition
    let encoding := some (second.value, second.valuePosition)
    match ← nextPseudoAttribute second.cursor second.rest with
    | none => return ⟨encoding, false⟩
    | some third => parseStandalone encoding third

end XmlDeclaration

end AttrLint.Xml
