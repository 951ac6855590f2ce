namespace AttrLint.Xml

/-!
# Character sets

A character set writes each of its characters as one byte.

* `CharSet` — the characters of the bytes.
* `CharSet.char?` — the character of a byte.
* `CharSet.ascii`, `CharSet.latin1` — the sets that others are built on.
-/

/-- A set of characters of one byte each.  The bytes below 0x80 are those of ASCII. -/
structure CharSet where
  /-- The characters of the bytes from 0x80 on, in rows of eight.  U+FFFD stands for a byte without
  a character, and so does the end of the rows. -/
  upper : List String
  /-- The bytes below 0x80 that have no character. -/
  missing : List Nat := []
  deriving DecidableEq, Repr

namespace CharSet

/-- The character of a byte below 0x80. -/
def lowerChar? (s : CharSet) (n : Nat) : Option Char :=
  if s.missing.contains n then none else some (Char.ofNat n)

/-- The character that a place in the rows stands for. -/
def upperChar? (c : Char) : Option Char :=
  if c = '\ufffd' then none else some c

/-- The characters of all bytes. -/
def table (s : CharSet) : Array (Option Char) :=
  ((List.range 0x80).map s.lowerChar? ++ (s.upper.flatMap String.toList).map upperChar?).toArray

/-- The character of a byte. -/
def char? (s : CharSet) (b : UInt8) : Option Char :=
  s.table.getD b.toNat none

/-- US-ASCII. -/
def ascii : CharSet where
  upper := []

/-- ASCII without the tilde, which introduces escape sequences. -/
def asciiWithoutTilde : CharSet where
  upper := []
  missing := ['~'.toNat]

/-- ISO-8859-1, in which the byte of a character is its code point. -/
def latin1 : CharSet where
  upper := (List.range 16).map fun row =>
    String.ofList ((List.range 8).map fun n => Char.ofNat (0x80 + 8 * row + n))

end CharSet

end AttrLint.Xml
