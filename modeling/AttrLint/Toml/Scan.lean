import AttrLint.Toml.Error

namespace AttrLint.Toml

/-!
# White space, comments and literal text

* `isGap`, `isControl` — classes of characters.
* `literalUntil` — a text up to closing quotes, without control characters.
* `skipComment`, `skipLines` — what may stand between the parts of a document.
-/

/-- Says that the character is a space or a tab. -/
def isGap (c : Char) : Bool :=
  c = ' ' || c = '\t'

/-- Says that the character is a space, a tab or a line feed. -/
def isGapOrLine (c : Char) : Bool :=
  isGap c || c = '\n'

/-- Says that the character is a control character other than a tab. -/
def isControl (c : Char) : Bool :=
  (c.toNat < 0x20 && c ≠ '\t') || c.toNat = 0x7f

/-- Says that a text may not contain the character: a control character, with an exception for line
feeds in text of several lines. -/
def isIllegal (multiline : Bool) (c : Char) : Bool :=
  isControl c && !(multiline && c = '\n')

/-- What follows spaces and tabs. -/
def skipGaps (s : List Char) : List Char :=
  s.dropWhile isGap

/-- Splits a text before the first occurrence of `closing`; `done` holds the text so far, newest
first. -/
def splitBefore (closing : List Char) (done : List Char) :
    List Char → Option (List Char × List Char)
  | [] => if closing.isEmpty then some (done.reverse, []) else none
  | c :: cs =>
    if closing.isPrefixOf (c :: cs) then some (done.reverse, c :: cs)
    else splitBefore closing (c :: done) cs

/-- Fails at the first character of `s` that may not stand in a text; `length` characters of `s`
belong to the text. -/
def checkLegal (multiline : Bool) : Nat → List Char → Except Stop Unit
  | 0, _ => .ok ()
  | _, [] => .ok ()
  | length + 1, c :: cs =>
    if isIllegal multiline c then .error (.problem (.foundCharacter c) (c :: cs))
    else checkLegal multiline length cs

/-- A text without escapes up to closing quotes, and what follows them.  The quotes are looked for
before the text is checked. -/
def literalUntil (multiline : Bool) (closing : List Char) (s : List Char) :
    Except Stop (List Char × List Char) :=
  match splitBefore closing [] s with
  | none => .error (.problem (.expectedClosing (String.ofList closing)) [])
  | some (text, rest) =>
    match checkLegal multiline text.length s with
    | .error e => .error e
    | .ok _ => .ok (text, rest.drop closing.length)

/-- What follows the text of a comment: the end of the line or of the document. -/
def afterComment : List Char → Except Stop (List Char)
  | [] => .ok []
  | c :: cs =>
    if c = '\n' then .ok (c :: cs)
    else if isIllegal false c then .error (.problem (.foundCharacter c) (c :: cs))
    else afterComment cs

/-- What follows a comment, if there is one. -/
def skipComment (s : List Char) : Except Stop (List Char) :=
  match s with
  | '#' :: s => afterComment s
  | s => .ok s

/-- What follows white space, line ends and comments; `comment` says that a comment has begun. -/
def skipLinesFrom (comment : Bool) : List Char → Except Stop (List Char)
  | [] => .ok []
  | c :: cs =>
    if comment then
      if c = '\n' then skipLinesFrom false cs
      else if isIllegal false c then .error (.problem (.foundCharacter c) (c :: cs))
      else skipLinesFrom true cs
    else if isGapOrLine c then skipLinesFrom false cs
    else if c = '#' then skipLinesFrom true cs
    else .ok (c :: cs)

/-- What follows white space, line ends and comments. -/
def skipLines (s : List Char) : Except Stop (List Char) :=
  skipLinesFrom false s

end AttrLint.Toml
