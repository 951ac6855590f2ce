import AttrLint.Xml.Aside
import AttrLint.Xml.Position

namespace AttrLint.Xml

/-!
# Tokens outside elements

The markup before and after the root element consists of tokens: names, quoted texts, declarations'
keywords, brackets and the like.

* `Token` — the tokens.
* `Lexing` — what has been read of a token.
* `Lexing.feed` — one more character.
* `Lexing.close?` — the token that the end of the document completes.
-/

/-- The form of a name in a declaration. -/
inductive NameForm where
  /-- A name without a colon. -/
  | plain
  /-- A name with a colon and something before and after it. -/
  | qualified
  /-- Name characters that are neither. -/
  | loose
  deriving DecidableEq, Repr

/-- The tokens of the markup outside elements. -/
inductive Token where
  /-- A comment or processing instruction; `declaration` says that its target is `xml`. -/
  | aside (declaration : Bool)
  /-- A quoted text. -/
  | literal (body : List Char)
  /-- `<!` and a keyword. -/
  | declaration (keyword : String)
  /-- `<![`. -/
  | conditionStart
  /-- `]]>`. -/
  | conditionEnd
  /-- `<` and the start of an element's name. -/
  | element
  | percent
  /-- A reference to a parameter entity. -/
  | parameterReference
  | comma
  | bar
  | openBracket
  | closeBracket
  | openParen
  /-- A closing parenthesis; `star` says that `*` follows it, and `counted` that `*`, `?` or `+`
  does. -/
  | closeParen (star counted : Bool)
  | greater
  /-- `#` and a keyword. -/
  | pound (keyword : String)
  /-- A name; `counted` says that `*`, `?` or `+` follows it. -/
  | name (form : NameForm) (text : String) (counted : Bool)
  deriving DecidableEq, Repr

/-- The token as it is taken when half a code unit follows it: the text of a keyword is not seen. -/
def Token.blurred : Token → Token
  | .pound _ => .pound ""
  | .name form _ counted => .name form "" counted
  | token => token

/-- Says that the token is a quoted text. -/
def Token.isLiteral : Token → Bool
  | .literal _ => true
  | _ => false

/-- What has been read of a token; texts are held newest character first. -/
inductive Lexing where
  /-- Nothing yet. -/
  | idle
  /-- `<`. -/
  | less
  /-- `<!`. -/
  | bang
  /-- `<!` and letters. -/
  | keyword (letters : List Char)
  /-- `<!`, letters and `%`, and the place of the last. -/
  | keywordPercent (letters : List Char) (percent : Position)
  | aside (inner : Aside)
  /-- A quoted text that is not closed. -/
  | literal (quote : Char) (body : List Char)
  /-- A quoted text and its closing quote. -/
  | quoted (body : List Char)
  | percent
  /-- `%` and the start of a name. -/
  | reference
  | bracket
  /-- Two closing brackets, and the place of the second. -/
  | brackets (second : Position)
  | paren
  /-- `#`. -/
  | pound
  /-- `#` and the start of a name. -/
  | poundName (letters : List Char)
  | name (form : NameForm) (letters : List Char)
  /-- A name without a colon, and a colon. -/
  | nameColon (letters : List Char)
  deriving Repr

/-- What one more character makes of a token. -/
inductive Lexing.Step where
  /-- The token goes on. -/
  | more (lexing : Lexing)
  /-- The character completes a token. -/
  | token (token : Token)
  /-- A token is complete before the character, which starts the next. -/
  | before (token : Token)
  /-- A token is complete, the next one has started at `start`, and the character goes on with
  it. -/
  | split (token : Token) (start : Position) (lexing : Lexing)
  /-- The character cannot stand here. -/
  | invalid
  /-- The character shows that the one at `position` cannot stand there. -/
  | invalidAt (position : Position)

namespace Lexing

/-- The name token of letters held newest first. -/
def nameToken (form : NameForm) (letters : List Char) (counted : Bool) : Token :=
  .name form (spelled letters) counted

/-- The first character of a token. -/
def feedIdle (alphabet : Alphabet) (c : Char) : Step :=
  if isSpace c then .more .idle
  else if c = '<' then .more .less
  else if c = '"' || c = '\'' then .more (.literal c [])
  else if c = '%' then .more .percent
  else if c = ',' then .token .comma
  else if c = '[' then .token .openBracket
  else if c = ']' then .more .bracket
  else if c = '(' then .token .openParen
  else if c = ')' then .more .paren
  else if c = '|' then .token .bar
  else if c = '>' then .token .greater
  else if c = '#' then .more .pound
  else if isNameStart alphabet c then .more (.name .plain [c])
  else if isNameChar alphabet c || c = ':' then .more (.name .loose [c])
  else .invalid

/-- A character after the characters of a name. -/
def feedName (alphabet : Alphabet) (form : NameForm) (letters : List Char) (c : Char) : Step :=
  if isNameChar alphabet c then .more (.name form (c :: letters))
  else if c = ':' then
    match form with
    | .plain => .more (.nameColon (c :: letters))
    | _ => .more (.name .loose (c :: letters))
  else if isSpace c || c = '>' || c = ')' || c = ',' || c = '|' || c = '[' || c = '%' then
    .before (nameToken form letters false)
  else if c = '+' || c = '*' || c = '?' then
    if form = .loose then .invalid else .token (nameToken form letters true)
  else .invalid

/-- One more character, at the place `here`. -/
def feed (alphabet : Alphabet) (lexing : Lexing) (here : Position) (c : Char) : Step :=
  match lexing with
  | .idle => feedIdle alphabet c
  | .less =>
    if c = '!' then .more .bang
    else if c = '?' then .more (.aside .question)
    else if isKeywordChar alphabet c || alphabet.isOpaque c then .before .element
    else .invalid
  | .bang =>
    if c = '-' then .more (.aside .dash)
    else if c = '[' then .token .conditionStart
    else if isKeywordChar alphabet c then .more (.keyword [c])
    else .invalid
  | .keyword letters =>
    if isKeywordChar alphabet c then .more (.keyword (c :: letters))
    else if isSpace c then .before (.declaration (spelled letters))
    else if c = '%' then .more (.keywordPercent letters here)
    else .invalid
  | .keywordPercent letters sign =>
    if isSpace c || c = '%' then .invalidAt sign
    else .split (.declaration (spelled letters)) sign .percent
  | .aside inner =>
    match inner.feed alphabet c with
    | .more inner => .more (.aside inner)
    | .done declaration => .token (.aside declaration)
    | .invalid => .invalid
  | .literal quote body =>
    if c = quote then .more (.quoted body) else .more (.literal quote (c :: body))
  | .quoted body =>
    if isSpace c || c = '>' || c = '%' || c = '[' then .before (.literal body.reverse)
    else .invalid
  | .percent =>
    if isNameStart alphabet c then .more .reference
    else if isSpace c || c = '%' then .before .percent
    else .invalid
  | .reference =>
    if isNameChar alphabet c then .more .reference
    else if c = ';' then .token .parameterReference
    else .invalid
  | .bracket => if c = ']' then .more (.brackets here) else .before .closeBracket
  | .brackets second =>
    if c = '>' then .token .conditionEnd else .split .closeBracket second .bracket
  | .paren =>
    if c = '*' then .token (.closeParen true true)
    else if c = '?' || c = '+' then .token (.closeParen false true)
    else if isSpace c || c = '>' || c = ',' || c = '|' || c = ')' then
      .before (.closeParen false false)
    else .invalid
  | .pound => if isNameStart alphabet c then .more (.poundName [c]) else .invalid
  | .poundName letters =>
    if isNameChar alphabet c then .more (.poundName (c :: letters))
    else if isSpace c || c = ')' || c = '>' || c = '%' || c = '|' then
      .before (.pound (spelled letters))
    else .invalid
  | .name form letters => feedName alphabet form letters c
  | .nameColon letters =>
    if isNameChar alphabet c then .more (.name .qualified (c :: letters))
    else if 0x80 ≤ c.toNat then .invalid
    else feedName alphabet .loose letters c

/-- The token that the end of the document completes, if any. -/
def close? : Lexing → Option Token
  | .quoted body => some (.literal body.reverse)
  | .bracket => some .closeBracket
  | .paren => some (.closeParen false false)
  | .poundName letters => some (.pound (spelled letters))
  | .name form letters => some (nameToken form letters false)
  | _ => none

/-- Says that only ASCII characters can go on here. -/
def asciiOnly : Lexing → Bool
  | .bang | .keyword _ | .quoted _ | .paren => true
  | .aside inner => inner.asciiOnly
  | _ => false

end Lexing

end AttrLint.Xml
