import AttrLint.Xml.Failure
import AttrLint.Xml.Reference

namespace AttrLint.Xml

/-!
# Attribute values

An attribute's value is not what is written between its quotes: white space becomes spaces and
references become characters.  Values of a declared type other than character data also lose their
outer spaces, and inner runs of spaces shrink to one.

* `Value.normalize` — the value of a written text, or what is wrong with it and where.
* `checkEntityValue` — what is wrong with the text of an entity declaration that is not kept.
-/

/-- How a value is to be read. -/
structure ValueRule where
  /-- How the characters of names in references are classed. -/
  alphabet : Alphabet
  /-- Says that the value is character data, so that its spaces all stay. -/
  characterData : Bool
  /-- Says that a reference to an entity that is not predefined is a fault; otherwise it is
  skipped. -/
  entitiesKnown : Bool
  /-- Where a reference to an unknown entity is reported. -/
  reportPosition : Position

/-- A value being read. -/
structure Value where
  /-- The place of the next written character. -/
  cursor : Cursor
  /-- The characters of the value so far, newest first. -/
  chars : List Char
  /-- The reference being read and the place of its `&`. -/
  pending : Option (Reference × Position)

namespace Value

/-- Adds a space: for values other than character data only between other characters. -/
def addSpace (characterData : Bool) (chars : List Char) : List Char :=
  if characterData then ' ' :: chars
  else
    match chars with
    | [] => []
    | last :: _ => if last = ' ' then chars else ' ' :: chars

/-- Adds the character that a number refers to, if there is one. -/
def addCode? (rule : ValueRule) (chars : List Char) (n : Nat) : Option (List Char) :=
  (codeChar? n).map fun c => if c = ' ' then addSpace rule.characterData chars else c :: chars

/-- Adds the character of a predefined entity; any other entity is a fault or is skipped. -/
def addEntity (rule : ValueRule) (chars : List Char) (name : String) :
    Except Failure (List Char) :=
  match predefinedEntity? name with
  | some c => .ok (c :: chars)
  | none =>
    if rule.entitiesKnown then .error (.fault .undefinedEntity rule.reportPosition)
    else .ok chars

/-- One more character outside a reference. -/
def feedText (rule : ValueRule) (value : Value) (c : Char) : Except Failure Value :=
  let here := value.cursor.position
  let next := value.cursor.advance c
  if c = '&' then .ok { value with cursor := next, pending := some (.start, here) }
  else if c = '<' then .error (.fault .invalidToken here)
  else if c = '\n' && value.cursor.afterReturn then .ok { value with cursor := next }
  else if isSpace c then
    .ok { value with cursor := next, chars := addSpace rule.characterData value.chars }
  else .ok { value with cursor := next, chars := c :: value.chars }

/-- One more character of the reference that started at `ampersand`. -/
def feedReference (rule : ValueRule) (value : Value) (reference : Reference)
    (ampersand : Position) (c : Char) : Except Failure Value :=
  let next := value.cursor.advance c
  match reference.feed rule.alphabet c with
  | .more reference => .ok { value with cursor := next, pending := some (reference, ampersand) }
  | .invalid => .error (.fault .invalidToken value.cursor.position)
  | .code n =>
    match addCode? rule value.chars n with
    | some chars => .ok ⟨next, chars, none⟩
    | none => .error (.fault .badCharacterNumber ampersand)
  | .entity name =>
    match addEntity rule value.chars name with
    | .ok chars => .ok ⟨next, chars, none⟩
    | .error e => .error e

/-- Reads the rest of a written value. -/
def feedAll (rule : ValueRule) (value : Value) : List Char → Except Failure Value
  | [] => .ok value
  | c :: cs =>
    let fed :=
      match value.pending with
      | none => feedText rule value c
      | some (reference, ampersand) => feedReference rule value reference ampersand c
    match fed with
    | .ok value => feedAll rule value cs
    | .error e => .error e

/-- The characters of a value that has been read to its end; a last space stays in character data
only. -/
def finish (rule : ValueRule) (value : Value) : Except Failure (List Char) :=
  match value.pending with
  | some (_, ampersand) => .error (.fault .invalidToken ampersand)
  | none =>
    match value.chars with
    | ' ' :: rest => .ok (if rule.characterData then value.chars else rest).reverse
    | chars => .ok chars.reverse

/-- The value of the text `written`, which starts at `start`. -/
def normalize (rule : ValueRule) (start : Cursor) (written : List Char) :
    Except Failure (List Char) :=
  match feedAll rule ⟨start, [], none⟩ written with
  | .ok value => finish rule value
  | .error e => .error e

end Value

/-! ### Texts of entities -/

/-- The part of an entity's text that is being read. -/
inductive EntityText where
  | plain
  /-- A reference to an entity or a character, and the place of its `&`. -/
  | reference (reference : Reference) (start : Position)
  /-- A reference to a parameter entity, and the place of its `%`; `named` says that its name has
  begun. -/
  | parameter (named : Bool) (start : Position)

/-- Looks for what is wrong with the text of an entity, from the place `cursor` on: references have
to be complete, numbers have to be those of characters, and parameter entities must not be referred
to. -/
def checkEntityText (alphabet : Alphabet) (part : EntityText) (cursor : Cursor) :
    List Char → Option Failure
  | [] =>
    match part with
    | .plain => none
    | .reference _ start | .parameter _ start => some (.fault .invalidToken start)
  | c :: cs =>
    let here := cursor.position
    let next := cursor.advance c
    match part with
    | .plain =>
      if c = '&' then checkEntityText alphabet (.reference .start here) next cs
      else if c = '%' then checkEntityText alphabet (.parameter false here) next cs
      else checkEntityText alphabet .plain next cs
    | .reference reference start =>
      match reference.feed alphabet c with
      | .more reference => checkEntityText alphabet (.reference reference start) next cs
      | .invalid => some (.fault .invalidToken here)
      | .entity _ => checkEntityText alphabet .plain next cs
      | .code n =>
        if (codeChar? n).isSome then checkEntityText alphabet .plain next cs
        else some (.fault .badCharacterNumber start)
    | .parameter named start =>
      if named && c = ';' then some (.fault .misplacedParameterReference start)
      else if (if named then isNameChar alphabet c else isNameStart alphabet c) then
        checkEntityText alphabet (.parameter true start) next cs
      else some (.fault .invalidToken here)

end AttrLint.Xml
