namespace AttrLint.Xml

/-!
# Positions in a document

* `Position` — a line, counted from one, and a column, counted from zero.
* `Cursor.advance` — the position after one more character; a line feed, a carriage return, and the
  two together each end one line.
-/

/-- A place in a text: the line from one, the column from zero. -/
structure Position where
  line : Nat
  column : Nat
  deriving DecidableEq, Repr, Inhabited

/-- The place of the next character. -/
structure Cursor where
  /-- Where the next character stands. -/
  position : Position
  /-- Says that the last character was a carriage return. -/
  afterReturn : Bool
  deriving DecidableEq, Repr, Inhabited

namespace Cursor

/-- The start of a text. -/
def start : Cursor :=
  ⟨⟨1, 0⟩, false⟩

/-- The cursor after the character `c`. -/
def advance (cursor : Cursor) (c : Char) : Cursor :=
  if c = '\r' then ⟨⟨cursor.position.line + 1, 0⟩, true⟩
  else if c = '\n' then
    if cursor.afterReturn then ⟨cursor.position, false⟩
    else ⟨⟨cursor.position.line + 1, 0⟩, false⟩
  else ⟨⟨cursor.position.line, cursor.position.column + 1⟩, false⟩

/-- The cursor after all characters of a text. -/
def advanceAll (cursor : Cursor) (s : List Char) : Cursor :=
  s.foldl advance cursor

end Cursor

end AttrLint.Xml
