import AttrLint.Text.Hex
import AttrLint.Xml.Name

namespace AttrLint.Xml

/-!
# References

A reference stands between `&` and `;` and names an entity or gives the number of a character.

* `Reference` — what has been read of a reference after its `&`.
* `Reference.feed` — one more character of it.
* `codeChar?` — the character with a given number, if a document may refer to it.
* `predefinedEntity?` — the five entities that every document has.
-/

/-- What has been read of a reference, after its `&`. -/
inductive Reference where
  /-- Nothing. -/
  | start
  /-- The characters of a name, newest first. -/
  | name (letters : List Char)
  /-- The sign before a number. -/
  | number
  /-- At least one decimal digit. -/
  | decimal (value : Nat)
  /-- The sign before a hexadecimal number. -/
  | hexStart
  /-- At least one hexadecimal digit. -/
  | hex (value : Nat)
  deriving DecidableEq, Repr

/-- What one more character makes of a reference. -/
inductive Reference.Step where
  /-- The reference goes on. -/
  | more (reference : Reference)
  /-- The reference is complete and names an entity. -/
  | entity (name : String)
  /-- The reference is complete and gives a number. -/
  | code (value : Nat)
  /-- The character cannot stand here. -/
  | invalid

/-- The first number that is no character's; larger ones count as this one. -/
def codeLimit : Nat := 0x110000

namespace Reference

/-- One more character of a reference. -/
def feed (alphabet : Alphabet) (r : Reference) (c : Char) : Step :=
  match r with
  | .start =>
    if c = '#' then .more .number
    else if isNameStart alphabet c then .more (.name [c])
    else .invalid
  | .name letters =>
    if c = ';' then .entity (String.ofList letters.reverse)
    else if isNameChar alphabet c then .more (.name (c :: letters))
    else .invalid
  | .number =>
    if c = 'x' then .more .hexStart
    else if c.isDigit then .more (.decimal (c.toNat - 0x30))
    else .invalid
  | .decimal value =>
    if c = ';' then .code value
    else if c.isDigit then .more (.decimal (min codeLimit (value * 10 + (c.toNat - 0x30))))
    else .invalid
  | .hexStart =>
    match Text.hexValue? c with
    | some digit => .more (.hex digit)
    | none => .invalid
  | .hex value =>
    if c = ';' then .code value
    else
      match Text.hexValue? c with
      | some digit => .more (.hex (min codeLimit (value * 16 + digit)))
      | none => .invalid

/-- Says that only ASCII characters can go on here. -/
def asciiOnly : Reference → Bool
  | .start | .name _ => false
  | _ => true

end Reference

/-- The character with the given number, if a document may contain it. -/
def codeChar? (n : Nat) : Option Char :=
  if codeLimit ≤ n ∨ (0xd800 ≤ n ∧ n < 0xe000) then none
  else if isLegal (Char.ofNat n) then some (Char.ofNat n)
  else none

/-- The character of an entity that every document has. -/
def predefinedEntity? (name : String) : Option Char :=
  if name = "lt" then some '<'
  else if name = "gt" then some '>'
  else if name = "amp" then some '&'
  else if name = "quot" then some '"'
  else if name = "apos" then some '\''
  else none

end AttrLint.Xml
