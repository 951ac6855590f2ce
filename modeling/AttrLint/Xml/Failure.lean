import AttrLint.Text.Quoted
import AttrLint.Xml.Position

namespace AttrLint.Xml

/-!
# Why a document cannot be read

* `Problem` — what can be wrong with the markup, with its wording.
* `Failure` — a problem at a position, a refused feature, or a document that is outside what the
  reader handles at all.
-/

/-- What is wrong at a place of a document. -/
inductive Problem where
  | noElement
  | unclosedToken
  | cutCharacter
  | unclosedCdata
  | invalidToken
  | misplacedToken
  | mismatchedTag
  | duplicateAttribute
  | junk
  | unboundQualifier
  | undefinedEntity
  | badCharacterNumber
  | misplacedDeclaration
  | badDeclaration
  | wrongEncoding
  | unfitEncoding
  | undeclaredQualifier
  | reservedXml
  | reservedXmlns
  | reservedUri
  | misplacedParameterReference
  | badPublicId
  deriving DecidableEq, Repr

/-- The wording of a problem. -/
def Problem.text : Problem → String
  | .noElement => "no element found"
  | .unclosedToken => "unclosed token"
  | .cutCharacter => "partial character"
  | .unclosedCdata => "unclosed CDATA section"
  | .invalidToken => "not well-formed (invalid token)"
  | .misplacedToken => "syntax error"
  | .mismatchedTag => "mismatched tag"
  | .duplicateAttribute => "duplicate attribute"
  | .junk => "junk after document element"
  | .unboundQualifier => "unbound prefix"
  | .undefinedEntity => "undefined entity"
  | .badCharacterNumber => "reference to invalid character number"
  | .misplacedDeclaration => "XML or text declaration not at start of entity"
  | .badDeclaration => "XML declaration not well-formed"
  | .wrongEncoding => "encoding specified in XML declaration is incorrect"
  | .unfitEncoding => "unknown encoding"
  | .undeclaredQualifier => "must not undeclare prefix"
  | .reservedXml =>
    "reserved prefix (xml) must not be undeclared or bound to another namespace name"
  | .reservedXmlns => "reserved prefix (xmlns) must not be declared or undeclared"
  | .reservedUri => "prefix must not be bound to one of the reserved namespace names"
  | .misplacedParameterReference => "illegal parameter entity reference"
  | .badPublicId => "illegal character(s) in public id"

/-- The identifiers of something that stands outside the document. -/
structure ExternalId where
  systemId : Option String
  publicId : Option String
  deriving DecidableEq, Repr

/-- Why reading a document stops. -/
inductive Failure where
  /-- The markup is wrong at a position. -/
  | fault (problem : Problem) (position : Position)
  /-- The document declares an entity, which is refused. -/
  | entity (name : String) (id : ExternalId)
  /-- The document refers to an external subset, which is refused. -/
  | external (id : ExternalId)
  /-- The declared encoding is not known. -/
  | unknownEncoding (name : String)
  /-- The declared encoding is not one of texts. -/
  | transformation (name : String)
  /-- The declared encoding has characters of several bytes and is not supported. -/
  | multiByteEncoding
  /-- The declared encoding is that of host names, which nothing else can be read in. -/
  | hostNameEncoding (name : String)
  /-- The declared encoding cannot read anything. -/
  | undefinedEncoding (name : String)
  /-- The declared encoding is that of labels in host names, which are ASCII only. -/
  | labelEncoding
  /-- White space in a namespace name divides an expanded name into too many parts. -/
  | tooManyNameParts
  deriving DecidableEq, Repr

/-- The failure in words, for a document called `source`. -/
def Failure.message (source : String) : Failure → String
  | .fault problem position =>
    source ++ ":" ++ toString position.line ++ ":" ++ toString position.column ++ ": " ++
      problem.text
  | .entity name id =>
    "EntitiesForbidden(name='" ++ name ++ "', system_id=" ++ Text.quoted? id.systemId ++
      ", public_id=" ++ Text.quoted? id.publicId ++ ")"
  | .external id =>
    "ExternalReferenceForbidden(system_id='" ++ id.systemId.getD "None" ++ "', public_id=" ++
      id.publicId.getD "None" ++ ")"
  | .unknownEncoding name => "unknown encoding: " ++ name
  | .transformation name =>
    "'" ++ String.ofList (name.toList.take 400) ++
      "' is not a text encoding; use codecs.decode() to handle arbitrary codecs"
  | .hostNameEncoding name =>
    "decoding with '" ++ name ++
      "' codec failed (UnicodeError: Unsupported error handling replace)"
  | .undefinedEncoding name =>
    "decoding with '" ++ name ++ "' codec failed (UnicodeError: undefined encoding)"
  | .labelEncoding =>
    "'ascii' codec can't decode byte 0x80 in position 82: ordinal not in range(128)"
  | .multiByteEncoding => "multi-byte encodings are not supported"
  | .tooManyNameParts => "too many values to unpack (expected 2)"

/-- Says that the failure lies in the document and is reported as such; the others end a run. -/
def Failure.isReported : Failure → Bool
  | .fault .. | .entity .. | .external .. => true
  | .unknownEncoding .. | .transformation .. | .multiByteEncoding | .hostNameEncoding ..
  | .undefinedEncoding .. | .labelEncoding | .tooManyNameParts => false

end AttrLint.Xml
