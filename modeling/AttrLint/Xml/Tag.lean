import AttrLint.Xml.Scope
import AttrLint.Xml.Subset.Knowledge
import AttrLint.Xml.Value

namespace AttrLint.Xml

/-!
# Start tags

A start tag is first read character by character and then given its meaning: namespace
declarations come into force, declared attributes are added, and names are expanded.

* `TagReader.feed` — one more character of a start tag.
* `Tag.resolve` — the meaning of a complete start tag, or what is wrong with it.
-/

/-- An attribute as written. -/
structure WrittenAttribute where
  name : String
  /-- Where its name stands. -/
  position : Position
  /-- Where its value starts, after the quote. -/
  valueStart : Cursor
  /-- The text between its quotes. -/
  written : List Char
  deriving Repr

/-- A start tag as written. -/
structure Tag where
  name : String
  attributes : List WrittenAttribute
  deriving Repr

/-- The part of a start tag that is being read; texts are held newest character first. -/
inductive TagPart where
  /-- The element's name; `qualified` says that it had its colon. -/
  | name (letters : List Char) (qualified : Bool)
  /-- The element's name, up to its colon. -/
  | nameColon (letters : List Char)
  /-- White space before an attribute or the end of the tag. -/
  | gap
  /-- An attribute's name and its place. -/
  | attrName (letters : List Char) (qualified : Bool) (start : Position)
  /-- An attribute's name, up to its colon. -/
  | attrColon (letters : List Char) (start : Position)
  /-- White space after an attribute's name. -/
  | beforeEquals (letters : List Char) (start : Position)
  /-- The equals sign and white space after it. -/
  | afterEquals (letters : List Char) (start : Position)
  /-- An attribute's value after the given quote, and the reference being read in it. -/
  | value (letters : List Char) (start : Position) (quote : Char) (first : Cursor)
      (written : List Char) (reference : Option Reference)
  /-- The quote that closes a value. -/
  | afterValue
  /-- The slash before the end of the tag. -/
  | slash

/-- A start tag being read. -/
structure TagReader where
  /-- The element's name, once it is complete. -/
  name : String
  /-- The complete attributes, newest first. -/
  attributes : List WrittenAttribute
  part : TagPart

/-- What one more character makes of a start tag. -/
inductive TagReader.Step where
  /-- The tag goes on. -/
  | more (reader : TagReader)
  /-- The tag is complete; `empty` says that it closes its element, too. -/
  | done (tag : Tag) (empty : Bool)
  /-- The character cannot stand here. -/
  | invalid

namespace TagReader

/-- A tag whose name begins with `c`. -/
def start (c : Char) : TagReader :=
  ⟨"", [], .name [c] false⟩

/-- The tag as read so far. -/
def tag (reader : TagReader) : Tag :=
  ⟨reader.name, reader.attributes.reverse⟩

/-- A character after white space, where an attribute may begin. -/
def feedGap (alphabet : Alphabet) (reader : TagReader) (here : Position) (c : Char) : Step :=
  if isSpace c then .more { reader with part := .gap }
  else if c = '>' then .done reader.tag false
  else if c = '/' then .more { reader with part := .slash }
  else if isNameStart alphabet c then .more { reader with part := .attrName [c] false here }
  else .invalid

/-- A character right after the element's name or right after a value. -/
def feedBoundary (reader : TagReader) (c : Char) : Step :=
  if isSpace c then .more { reader with part := .gap }
  else if c = '>' then .done reader.tag false
  else if c = '/' then .more { reader with part := .slash }
  else .invalid

/-- A character of a value outside references. -/
def feedValue (reader : TagReader) (letters : List Char) (start : Position) (quote : Char)
    (first : Cursor) (written : List Char) (c : Char) : Step :=
  if c = quote then
    let complete : WrittenAttribute := ⟨spelled letters, start, first, written.reverse⟩
    .more { reader with attributes := complete :: reader.attributes, part := .afterValue }
  else if c = '<' then .invalid
  else
    let reference := if c = '&' then some Reference.start else none
    .more { reader with part := .value letters start quote first (c :: written) reference }

/-- One more character of a start tag, at the place `cursor`. -/
def feed (alphabet : Alphabet) (reader : TagReader) (cursor : Cursor) (c : Char) : Step :=
  match reader.part with
  | .name letters qualified =>
    if isNameChar alphabet c then .more { reader with part := .name (c :: letters) qualified }
    else if c = ':' && !qualified then .more { reader with part := .nameColon (c :: letters) }
    else feedBoundary { reader with name := spelled letters } c
  | .nameColon letters =>
    if isNameStart alphabet c then .more { reader with part := .name (c :: letters) true }
    else .invalid
  | .gap => feedGap alphabet reader cursor.position c
  | .attrName letters qualified start =>
    if isNameChar alphabet c then
      .more { reader with part := .attrName (c :: letters) qualified start }
    else if c = ':' && !qualified then
      .more { reader with part := .attrColon (c :: letters) start }
    else if isSpace c then .more { reader with part := .beforeEquals letters start }
    else if c = '=' then .more { reader with part := .afterEquals letters start }
    else .invalid
  | .attrColon letters start =>
    if isNameStart alphabet c then .more { reader with part := .attrName (c :: letters) true start }
    else .invalid
  | .beforeEquals letters start =>
    if isSpace c then .more reader
    else if c = '=' then .more { reader with part := .afterEquals letters start }
    else .invalid
  | .afterEquals letters start =>
    if isSpace c then .more reader
    else if c = '"' || c = '\'' then
      .more { reader with part := .value letters start c (cursor.advance c) [] none }
    else .invalid
  | .value letters start quote first written none =>
    feedValue reader letters start quote first written c
  | .value letters start quote first written (some reference) =>
    match reference.feed alphabet c with
    | .more reference =>
      .more { reader with part := .value letters start quote first (c :: written) (some reference) }
    | .entity _ | .code _ =>
      .more { reader with part := .value letters start quote first (c :: written) none }
    | .invalid => .invalid
  | .afterValue => feedBoundary reader c
  | .slash => if c = '>' then .done reader.tag true else .invalid

/-- Says that only ASCII characters can go on here. -/
def asciiOnly (reader : TagReader) : Bool :=
  match reader.part with
  | .beforeEquals .. | .afterEquals .. | .afterValue | .slash => true
  | .value _ _ _ _ _ (some reference) => reference.asciiOnly
  | _ => false

end TagReader

/-! ### The meaning of a start tag -/

/-- What a start tag does: the namespaces it declares, in order, the scope inside it, and the
expanded names of its element and attributes. -/
structure Opening where
  bindings : List Binding
  scope : Scope
  name : ExpandedName
  attributes : List ExpandedName
  deriving Repr

namespace Tag

/-- The attributes of a tag while its namespace declarations are taken out. -/
structure Sorting where
  scope : Scope
  /-- The namespace declarations so far, newest first. -/
  bindings : List Binding
  /-- The names of the other attributes so far, newest first. -/
  names : List String

/-- Adds an attribute with its value: a namespace declaration comes into force, anything else is
kept by name. -/
def Sorting.add (s : Sorting) (name : String) (value : String) : Except Problem Sorting :=
  match declaredQualifier? name with
  | none => .ok { s with names := name :: s.names }
  | some qualifier =>
    match s.scope.bind qualifier value with
    | .error problem => .error problem
    | .ok scope =>
      let uri := if value = "" then none else some value
      .ok { s with scope := scope, bindings := (qualifier, uri) :: s.bindings }

/-- Says that the value of an attribute is character data: by its first declaration, and without
one always. -/
def isCharacterData (rules : List AttributeRule) (name : String) : Bool :=
  match rules.find? (fun rule => rule.name == name) with
  | some rule => rule.characterData
  | none => true

/-- Takes the written attributes of a tag at `position` in order; `seen` holds the names before. -/
def sortWritten (k : Knowledge) (rules : List AttributeRule) (position : Position)
    (seen : List String) (s : Sorting) : List WrittenAttribute → Except Failure Sorting
  | [] => .ok s
  | a :: rest =>
    if seen.contains a.name then .error (.fault .duplicateAttribute a.position)
    else
      let rule : ValueRule :=
        ⟨k.alphabet, isCharacterData rules a.name, k.entitiesKnown, position⟩
      match Value.normalize rule a.valueStart a.written with
      | .error e => .error e
      | .ok value =>
        match s.add a.name (String.ofList value) with
        | .error problem => .error (.fault problem position)
        | .ok s => sortWritten k rules position (a.name :: seen) s rest

/-- Takes the declared values of attributes that are not written. -/
def sortDeclared (seen : List String) (s : Sorting) : List AttributeRule → Except Problem Sorting
  | [] => .ok s
  | rule :: rest =>
    match rule.value with
    | none => sortDeclared seen s rest
    | some value =>
      if seen.contains rule.name then sortDeclared seen s rest
      else
        match s.add rule.name value with
        | .error problem => .error problem
        | .ok s => sortDeclared seen s rest

/-- Expands the names of attributes in order; two qualified ones must not become the same. -/
def expandAttributes (scope : Scope) (done : List Expansion) :
    List String → Except Problem (List Expansion)
  | [] => .ok done.reverse
  | name :: rest =>
    match scope.expandAttribute name with
    | .error problem => .error problem
    | .ok e =>
      if e.uri.isSome && done.any (fun d => d.uri == e.uri && d.localPart == e.localPart) then
        .error .duplicateAttribute
      else expandAttributes scope (e :: done) rest

/-- The expanded names, unless one of them has too many parts. -/
def names? (es : List Expansion) : Option (List ExpandedName) :=
  es.mapM Expansion.name?

/-- The meaning of a start tag at `position`.  The written attributes come first, then the declared
ones, then their names, then the name of the element. -/
def resolve (k : Knowledge) (scope : Scope) (position : Position) (tag : Tag) :
    Except Failure Opening := do
  let rules := k.attributesOf tag.name
  let atTag {α : Type} : Except Problem α → Except Failure α :=
    Except.mapError fun problem => .fault problem position
  let s ← sortWritten k rules position [] ⟨scope, [], []⟩ tag.attributes
  let s ← atTag (sortDeclared (tag.attributes.map (·.name)) s rules)
  let attributes ← atTag (expandAttributes s.scope [] s.names.reverse)
  let element ← atTag (s.scope.expandElement tag.name)
  match element.name?, names? attributes with
  | some name, some names => .ok ⟨s.bindings.reverse, s.scope, name, names⟩
  | _, _ => .error .tooManyNameParts

end Tag

end AttrLint.Xml
