import AttrLint.Xml.Name

namespace AttrLint.Xml

/-!
# Comments and processing instructions

Both may stand between any two other pieces of markup and say nothing about the document.

* `Aside` — what has been read of one, from the character after its `<` or `<!` on.
* `Aside.feed` — one more character of it.
-/

/-- What has been read of a comment or of a processing instruction. -/
inductive Aside where
  /-- The first dash of a comment. -/
  | dash
  /-- A comment's text. -/
  | comment
  /-- A comment's text and a dash after it. -/
  | commentDash
  /-- A comment's text and two dashes after it. -/
  | commentDashes
  /-- The question mark that opens an instruction. -/
  | question
  /-- The characters of an instruction's target, newest first. -/
  | target (letters : List Char)
  /-- A target and a question mark after it; `declaration` says that the target is `xml`. -/
  | targetEnd (declaration : Bool)
  /-- An instruction's text. -/
  | body (declaration : Bool)
  /-- An instruction's text and a question mark after it. -/
  | bodyEnd (declaration : Bool)
  deriving DecidableEq, Repr

/-- What one more character makes of a comment or instruction. -/
inductive Aside.Step where
  /-- It goes on. -/
  | more (aside : Aside)
  /-- It is complete; `declaration` says that it is an instruction with the target `xml`. -/
  | done (declaration : Bool)
  /-- The character cannot stand here. -/
  | invalid

namespace Aside

/-- What a target says about its instruction: whether it is an XML declaration, or nothing for a
target that is reserved because it spells `xml` with other letter cases. -/
def targetKind? (letters : List Char) : Option Bool :=
  match letters with
  | [l, m, x] =>
    if (x = 'x' ∨ x = 'X') ∧ (m = 'm' ∨ m = 'M') ∧ (l = 'l' ∨ l = 'L') then
      if x = 'x' ∧ m = 'm' ∧ l = 'l' then some true else none
    else some false
  | _ => some false

/-- One more character of a comment or instruction. -/
def feed (alphabet : Alphabet) (aside : Aside) (c : Char) : Step :=
  match aside with
  | .dash => if c = '-' then .more .comment else .invalid
  | .comment => .more (if c = '-' then .commentDash else .comment)
  | .commentDash => .more (if c = '-' then .commentDashes else .comment)
  | .commentDashes => if c = '>' then .done false else .invalid
  | .question => if isNameStart alphabet c then .more (.target [c]) else .invalid
  | .target letters =>
    if isNameChar alphabet c then .more (.target (c :: letters))
    else if isSpace c then
      match targetKind? letters with
      | some declaration => .more (.body declaration)
      | none => .invalid
    else if c = '?' then
      match targetKind? letters with
      | some declaration => .more (.targetEnd declaration)
      | none => .invalid
    else .invalid
  | .targetEnd declaration => if c = '>' then .done declaration else .invalid
  | .body declaration => .more (if c = '?' then .bodyEnd declaration else .body declaration)
  | .bodyEnd declaration =>
    if c = '>' then .done declaration
    else .more (if c = '?' then .bodyEnd declaration else .body declaration)

/-- Says that only ASCII characters can go on here. -/
def asciiOnly : Aside → Bool
  | .dash | .commentDashes | .targetEnd _ => true
  | _ => false

end Aside

end AttrLint.Xml
