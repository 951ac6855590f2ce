import AttrLint.Xml.Reference
import AttrLint.Xml.Subset.Knowledge
import AttrLint.Xml.Subset.Token
import AttrLint.Xml.Value

namespace AttrLint.Xml

/-!
# Declarations before the root element

* `Expect` — what may come next before the root element.
* `Expect.accept` — one more token: what may come after it, and what is known then.
-/

/-- The part of an element declaration's content model that is being read; `connectors` holds the
connector of each open group, innermost first, once it has one. -/
inductive ModelPart where
  /-- The opening parenthesis of the model. -/
  | first
  /-- A name or a group has to come. -/
  | item (connectors : List (Option Token))
  /-- A connector or a closing parenthesis has to come. -/
  | connector (connectors : List (Option Token))
  /-- The text keyword has been read. -/
  | text
  /-- A name has to come in a model with text. -/
  | textItem
  /-- A bar or the end has to come in a model with text. -/
  | textConnector

/-- The declared attribute that is being read. -/
structure AttributeHead where
  element : String
  name : String
  characterData : Bool := false
  identifier : Bool := false

/-- What may come next before the root element. -/
inductive Expect where
  /-- The document type declaration, unless `typed` says that it has come, or the root element. -/
  | root (typed : Bool)
  | typeName
  /-- An external identifier, the internal subset, or the end of the declaration. -/
  | typeBody
  | typePublic
  | typeSystem (publicId : Option String)
  /-- The internal subset or the end of the declaration. -/
  | typeSubset
  /-- The end of the document type declaration. -/
  | typeEnd
  /-- A declaration in the internal subset, or its end. -/
  | subset
  /-- The end of a declaration. -/
  | close
  | entityStart
  | parameterName
  /-- The text or the external identifier of an entity. -/
  | entityBody (parameter : Bool) (name : String)
  | entityPublic (parameter : Bool) (name : String)
  | entitySystem (parameter : Bool) (name : String) (publicId : Option String)
  | entityEnd (parameter : Bool) (name : String) (id : ExternalId)
  /-- The name of the data format of an entity. -/
  | entityData (name : String) (id : ExternalId)
  | formatName
  | formatBody
  | formatPublic
  | formatSystem
  /-- A system identifier or the end. -/
  | formatEnd
  | attributesElement
  /-- An attribute's name, or the end. -/
  | attributeName (element : String)
  | attributeType (head : AttributeHead)
  /-- A value of an enumeration; `format` says that the values name data formats. -/
  | enumValue (head : AttributeHead) (format : Bool)
  | enumConnector (head : AttributeHead) (format : Bool)
  /-- The opening parenthesis before names of data formats. -/
  | formatList (head : AttributeHead)
  | attributeDefault (head : AttributeHead)
  | fixedValue (head : AttributeHead)
  | elementName
  | elementModel
  | model (part : ModelPart)

namespace Expect

/-- A token that may not come here. -/
def reject (start : Position) (token : Token) : Failure :=
  match token with
  | .parameterReference => .fault .misplacedParameterReference start
  | .aside true => .fault .misplacedDeclaration start
  | _ => .fault .misplacedToken start

/-! ### Quoted texts -/

/-- Says that a public identifier may contain the character. -/
def isPublicIdChar (c : Char) : Bool :=
  isAsciiLetter c || c.isDigit || " \r\n-()+,./:=?;!*#$_%".toList.contains c ||
    c = '\'' || c.toNat = 0x40

/-- The place of the first character that a public identifier may not contain. -/
def badPublicIdChar? (cursor : Cursor) : List Char → Option Position
  | [] => none
  | c :: cs =>
    if isPublicIdChar c then badPublicIdChar? (cursor.advance c) cs else some cursor.position

/-- The words of a public identifier with one space between them. -/
def normalPublicId (body : List Char) : String :=
  let step (acc : List Char) (c : Char) : List Char :=
    if c = ' ' || c = '\r' || c = '\n' then Value.addSpace false acc else c :: acc
  match body.foldl step [] with
  | ' ' :: rest => String.ofList rest.reverse
  | chars => String.ofList chars.reverse

/-- A public identifier, given the place of its quote. -/
def publicId (start : Position) (body : List Char) : Except Failure String :=
  match badPublicIdChar? ⟨⟨start.line, start.column + 1⟩, false⟩ body with
  | some position => .error (.fault .badPublicId position)
  | none => .ok (normalPublicId body)

/-- The place after a quote at `start`. -/
def afterQuote (start : Position) : Cursor :=
  ⟨⟨start.line, start.column + 1⟩, false⟩

/-! ### Effects of declarations -/

/-- The end of the document type declaration: an external subset is refused, unless the document
stands alone. -/
def closeType (k : Knowledge) : Except Failure (Expect × Knowledge) :=
  match k.external with
  | some id => if k.standalone then .ok (.root true, k) else .error (.external id)
  | none => .ok (.root true, k)

/-- Says that a declared entity counts: it is no predefined one, and declarations still count. -/
def isKept (k : Knowledge) (parameter : Bool) (name : String) : Bool :=
  !k.ignoring && (parameter || (predefinedEntity? name).isNone)

/-- The text of a declared entity: one that counts is refused, and the text of one that is
predefined has to be in order. -/
def entityText (k : Knowledge) (start : Position) (parameter : Bool) (name : String)
    (body : List Char) : Except Failure (Expect × Knowledge) :=
  if isKept k parameter name then .error (.entity name ⟨none, none⟩)
  else if k.ignoring then .ok (.close, k)
  else
    match checkEntityText k.alphabet .plain (afterQuote start) body with
    | some e => .error e
    | none => .ok (.close, k)

/-- The end of a declared entity with an external identifier: one that counts is refused. -/
def entityExternal (k : Knowledge) (parameter : Bool) (name : String) (id : ExternalId)
    (next : Expect) : Except Failure (Expect × Knowledge) :=
  if isKept k parameter name then .error (.entity name id) else .ok (next, k)

/-- A declared attribute without a value. -/
def declareAttribute (k : Knowledge) (head : AttributeHead) : Knowledge :=
  if k.ignoring then k
  else k.define head.element ⟨head.name, head.characterData, none⟩ head.identifier

/-- A declared attribute with a value. -/
def declareDefault (k : Knowledge) (start : Position) (head : AttributeHead) (body : List Char) :
    Except Failure Knowledge :=
  if k.ignoring then .ok k
  else
    let rule : ValueRule := ⟨k.alphabet, head.characterData, k.entitiesKnown, start⟩
    match Value.normalize rule (afterQuote start) body with
    | .error e => .error e
    | .ok value =>
      .ok (k.define head.element
        ⟨head.name, head.characterData, some (String.ofList value)⟩ false)

/-- Says that a keyword is a type of attribute. -/
def isAttributeType (keyword : String) : Bool :=
  ["CDATA", "ID", "IDREF", "IDREFS", "ENTITY", "ENTITIES", "NMTOKEN", "NMTOKENS"].contains keyword

/-! ### Content models -/

/-- One more token of a content model; nothing if it may not come here. -/
def acceptModel (part : ModelPart) (token : Token) : Option Expect :=
  let item (connectors : List (Option Token)) : Option Expect :=
    match token with
    | .openParen => some (.model (.item (none :: connectors)))
    | .name .plain _ _ | .name .qualified _ _ => some (.model (.connector connectors))
    | _ => none
  match part with
  | .first =>
    match token with
    | .pound keyword => if keyword = "PCDATA" then some (.model .text) else none
    | _ => item [none]
  | .item connectors => item connectors
  | .connector [] => none
  | .connector (connector :: outer) =>
    match token with
    | .closeParen _ _ => some (if outer.isEmpty then .close else .model (.connector outer))
    | .comma | .bar =>
      if connector.isNone || connector = some token then
        some (.model (.item (some token :: outer)))
      else none
    | _ => none
  | .text =>
    match token with
    | .closeParen star counted => if star || !counted then some .close else none
    | .bar => some (.model .textItem)
    | _ => none
  | .textItem =>
    match token with
    | .name .plain _ false | .name .qualified _ false => some (.model .textConnector)
    | _ => none
  | .textConnector =>
    match token with
    | .closeParen true _ => some .close
    | .bar => some (.model .textItem)
    | _ => none

/-! ### Tokens -/

/-- One more token of the internal subset, outside its declarations. -/
def acceptSubset (k : Knowledge) (start : Position) (token : Token) :
    Except Failure (Expect × Knowledge) :=
  match token with
  | .aside false => .ok (.subset, k)
  | .parameterReference => .ok (.subset, k.meetParameterReference)
  | .closeBracket => .ok (.typeEnd, k)
  | .declaration keyword =>
    if keyword = "ENTITY" then .ok (.entityStart, k)
    else if keyword = "ATTLIST" then .ok (.attributesElement, k)
    else if keyword = "ELEMENT" then .ok (.elementName, k)
    else if keyword = "NOTATION" then .ok (.formatName, k)
    else .error (reject start token)
  | _ => .error (reject start token)

/-- One more token, which starts at `start`. -/
def accept (expect : Expect) (k : Knowledge) (start : Position) (token : Token) :
    Except Failure (Expect × Knowledge) :=
  let fail : Except Failure (Expect × Knowledge) := .error (reject start token)
  let go (next : Expect) : Except Failure (Expect × Knowledge) := .ok (next, k)
  match expect, token with
  | .root typed, .aside false => go (.root typed)
  | .root false, .declaration keyword => if keyword = "DOCTYPE" then go .typeName else fail
  | .typeName, .name .plain _ false | .typeName, .name .qualified _ false => go .typeBody
  | .typeBody, .openBracket | .typeSubset, .openBracket => go .subset
  | .typeBody, .greater | .typeSubset, .greater | .typeEnd, .greater => closeType k
  | .typeBody, .name .plain keyword false =>
    if keyword = "SYSTEM" then go (.typeSystem none)
    else if keyword = "PUBLIC" then go .typePublic
    else fail
  | .typePublic, .literal body =>
    match publicId start body with
    | .ok id => .ok (.typeSystem (some id), { k with unreadDeclarations := true })
    | .error e => .error e
  | .typeSystem id, .literal body =>
    let external : ExternalId := ⟨some (String.ofList body), id⟩
    .ok (.typeSubset, { k with unreadDeclarations := true, external := some external })
  | .subset, token => acceptSubset k start token
  | .close, .greater => go .subset
  | .entityStart, .percent => go .parameterName
  | .entityStart, .name .plain name false => go (.entityBody false name)
  | .parameterName, .name .plain name false => go (.entityBody true name)
  | .entityBody parameter name, .literal body => entityText k start parameter name body
  | .entityBody parameter name, .name .plain keyword false =>
    if keyword = "SYSTEM" then go (.entitySystem parameter name none)
    else if keyword = "PUBLIC" then go (.entityPublic parameter name)
    else fail
  | .entityPublic parameter name, .literal body =>
    match publicId start body with
    | .ok id => go (.entitySystem parameter name (some id))
    | .error e => .error e
  | .entitySystem parameter name id, .literal body =>
    go (.entityEnd parameter name ⟨some (String.ofList body), id⟩)
  | .entityEnd parameter name id, .greater => entityExternal k parameter name id .subset
  | .entityEnd false name id, .name .plain keyword false =>
    if keyword = "NDATA" then go (.entityData name id) else fail
  | .entityData name id, .name .plain _ false => entityExternal k false name id .close
  | .formatName, .name .plain _ false => go .formatBody
  | .formatBody, .name .plain keyword false =>
    if keyword = "SYSTEM" then go .formatSystem
    else if keyword = "PUBLIC" then go .formatPublic
    else fail
  | .formatPublic, .literal body =>
    match publicId start body with
    | .ok _ => go .formatEnd
    | .error e => .error e
  | .formatSystem, .literal _ | .formatEnd, .literal _ => go .close
  | .formatEnd, .greater => go .subset
  | .attributesElement, .name .plain element false
  | .attributesElement, .name .qualified element false => go (.attributeName element)
  | .attributeName _, .greater => go .subset
  | .attributeName element, .name .plain name false
  | .attributeName element, .name .qualified name false =>
    go (.attributeType ⟨element, name, false, false⟩)
  | .attributeType head, .openParen => go (.enumValue head false)
  | .attributeType head, .name .plain keyword false =>
    if isAttributeType keyword then
      go (.attributeDefault
        { head with characterData := keyword == "CDATA", identifier := keyword == "ID" })
    else if keyword = "NOTATION" then go (.formatList head)
    else fail
  | .formatList head, .openParen => go (.enumValue head true)
  | .enumValue head format, .name form _ false =>
    if format && form != .plain then fail else go (.enumConnector head format)
  | .enumConnector head format, .bar => go (.enumValue head format)
  | .enumConnector head _, .closeParen _ false => go (.attributeDefault head)
  | .attributeDefault head, .pound keyword =>
    if keyword = "IMPLIED" || keyword = "REQUIRED" then
      .ok (.attributeName head.element, declareAttribute k head)
    else if keyword = "FIXED" then go (.fixedValue head)
    else fail
  | .attributeDefault head, .literal body | .fixedValue head, .literal body =>
    match declareDefault k start head body with
    | .ok k => .ok (.attributeName head.element, k)
    | .error e => .error e
  | .elementName, .name .plain _ false | .elementName, .name .qualified _ false =>
    go .elementModel
  | .elementModel, .openParen => go (.model .first)
  | .elementModel, .name .plain keyword false =>
    if keyword = "EMPTY" || keyword = "ANY" then go .close else fail
  | .model part, token =>
    match acceptModel part token with
    | some next => go next
    | none => fail
  | _, _ => fail

/-- Says that a quoted text that comes next is looked into, rather than kept as it is. -/
def looksInside (expect : Expect) (k : Knowledge) : Bool :=
  match expect with
  | .entityBody .. | .attributeDefault _ | .fixedValue _ => !k.ignoring
  | _ => false

end Expect

end AttrLint.Xml
