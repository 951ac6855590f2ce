import AttrLint.Text.Utf8
import AttrLint.Xml.CharSet.Names
import AttrLint.Xml.Name

namespace AttrLint.Xml

/-!
# Encodings of documents

A document starts in an encoding that its first bytes show, and may name another one in its XML
declaration.

* `sniff` — the encoding that the first bytes show, and how many of them form a byte order mark.
* `Encoding.decode` — the legal characters of a text, and how they end.
* `Encoding.named` — the encoding that a declaration asks for.
-/

/-- The encodings that can be read. -/
inductive Encoding where
  | utf8
  | utf16 (bigEndian : Bool)
  | latin1
  | ascii
  /-- A registered encoding of one byte per character. -/
  | single (set : CharSet)
  deriving DecidableEq, Repr

/-- How many bytes make a code unit. -/
def Encoding.unitSize : Encoding → Nat
  | .utf16 _ => 2
  | _ => 1

/-- How many code units make a character. -/
def Encoding.units : Encoding → Char → Nat
  | .utf8, c => c.utf8Size
  | .utf16 _, c => if c.toNat < 0x10000 then 1 else 2
  | _, _ => 1

/-- How the encoding classes characters. -/
def Encoding.alphabet : Encoding → Alphabet
  | .utf8 => .sequences
  | .utf16 _ => .wide
  | .latin1 | .ascii => .latin
  | .single _ => .listed

/-- What follows the last character that could be read. -/
inductive Ending where
  /-- Nothing. -/
  | complete
  /-- One byte of a code unit of two. -/
  | half
  /-- A character that is not legal, or bytes that are no character, and how many code units are
  left; `lead` says that the first of them is one that starts characters of several units. -/
  | malformed (units : Nat) (lead : Bool)
  /-- The beginning of a character, and how many code units are left. -/
  | cut (units : Nat)
  deriving DecidableEq, Repr

/-- The characters of a text as far as they are legal, and what follows them. -/
structure Decoded where
  chars : List Char
  ending : Ending
  deriving DecidableEq, Repr

/-! ### UTF-8 -/

/-- How many bytes a UTF-8 sequence has by its first byte; one for a byte that starts none. -/
def sequenceLength (a : UInt8) : Nat :=
  if a < 0xc0 then 1 else if a < 0xe0 then 2 else if a < 0xf0 then 3 else if a < 0xf5 then 4 else 1

/-- What the bytes that are no UTF-8 sequence amount to: too few bytes for their first byte are a
cut character, whatever they are. -/
def utf8Ending : List UInt8 → Ending
  | [] => .complete
  | a :: rest =>
    let left := rest.length + 1
    if left < sequenceLength a then .cut left else .malformed left (1 < sequenceLength a)

/-- Reads UTF-8. -/
def decodeUtf8 (bytes : List UInt8) : Decoded :=
  let (chars, rest) := Text.Utf8.scan bytes
  match chars.span isLegal with
  | (legal, []) => ⟨legal, utf8Ending rest⟩
  | (legal, c :: left) =>
    let size := (c :: left).foldl (fun size c => size + c.utf8Size) 0
    ⟨legal, .malformed (size + rest.length) (1 < c.utf8Size)⟩

/-! ### UTF-16 -/

/-- The value of a code unit from its bytes in the order of the text. -/
def unit16 (bigEndian : Bool) (a b : UInt8) : Nat :=
  if bigEndian then a.toNat * 0x100 + b.toNat else b.toNat * 0x100 + a.toNat

/-- Reads UTF-16; `done` holds the characters so far, newest first.  A leading surrogate takes the
unit after it for the trailing one, whatever it is. -/
def decodeUtf16From (bigEndian : Bool) (done : List Char) : List UInt8 → Decoded
  | [] => ⟨done.reverse, .complete⟩
  | [_] => ⟨done.reverse, .half⟩
  | a :: b :: rest =>
    let unit := unit16 bigEndian a b
    if 0xd800 ≤ unit ∧ unit < 0xdc00 then
      match rest with
      | c :: d :: rest =>
        let trail := unit16 bigEndian c d
        let c := Char.ofNat (0x10000 + (unit - 0xd800) * 0x400 + trail % 0x400)
        decodeUtf16From bigEndian (c :: done) rest
      | _ => ⟨done.reverse, .cut 1⟩
    else if ¬(0xdc00 ≤ unit ∧ unit < 0xe000) ∧ isLegal (Char.ofNat unit) then
      decodeUtf16From bigEndian (Char.ofNat unit :: done) rest
    else ⟨done.reverse, .malformed (1 + rest.length / 2) false⟩

/-! ### One byte per character -/

/-- Reads an encoding of one byte per character; `done` holds the characters so far, newest
first. -/
def decodeBytesFrom (char? : UInt8 → Option Char) (done : List Char) : List UInt8 → Decoded
  | [] => ⟨done.reverse, .complete⟩
  | b :: rest =>
    match char? b with
    | some c =>
      if isLegal c then decodeBytesFrom char? (c :: done) rest
      else ⟨done.reverse, .malformed (rest.length + 1) false⟩
    | none => ⟨done.reverse, .malformed (rest.length + 1) false⟩

/-- Reads a text in a character set. -/
def decodeSet (set : CharSet) (bytes : List UInt8) : Decoded :=
  let table := set.table
  decodeBytesFrom (fun b => table.getD b.toNat none) [] bytes

/-- Reads a text in the given encoding as far as it is legal. -/
def Encoding.decode : Encoding → List UInt8 → Decoded
  | .utf8, bytes => decodeUtf8 bytes
  | .utf16 bigEndian, bytes => decodeUtf16From bigEndian [] bytes
  | .latin1, bytes => decodeSet .latin1 bytes
  | .ascii, bytes => decodeSet .ascii bytes
  | .single set, bytes => decodeSet set bytes

/-! ### Recognition -/

/-- What the first bytes of a document show. -/
inductive Sniffed where
  /-- The encoding, and the length of the byte order mark in bytes. -/
  | encoding (encoding : Encoding) (mark : Nat)
  /-- There are too few bytes to tell. -/
  | tooShort

/-- The encoding that the first bytes show: by a byte order mark, or by a zero byte beside the
first character, and UTF-8 otherwise. -/
def sniff : List UInt8 → Sniffed
  | [] => .encoding .utf8 0
  | [b] => if b = 0x00 ∨ b = 0x3c ∨ b = 0xef ∨ b = 0xfe ∨ b = 0xff then .tooShort
    else .encoding .utf8 0
  | a :: b :: rest =>
    if a = 0xfe ∧ b = 0xff then .encoding (.utf16 true) 2
    else if a = 0xff ∧ b = 0xfe then .encoding (.utf16 false) 2
    else if a = 0xef ∧ b = 0xbb then
      match rest with
      | [] => .tooShort
      | c :: _ => if c = 0xbf then .encoding .utf8 3 else .encoding .utf8 0
    else if a = 0 then .encoding (.utf16 true) 0
    else if b = 0 then .encoding (.utf16 false) 0
    else .encoding .utf8 0

/-! ### Names of encodings -/

/-- What a declared encoding name asks for. -/
inductive Named where
  /-- An encoding that can be read from here on. -/
  | encoding (encoding : Encoding)
  /-- An encoding whose code units have another size than those of the declaration. -/
  | mismatch
  /-- A registered encoding that may be of no use; none if the name is not registered. -/
  | registered (coding : Option Coding)
  deriving DecidableEq, Repr

/-- An ASCII letter in upper case. -/
def upperAscii (c : Char) : Char :=
  if 'a' ≤ c ∧ c ≤ 'z' then Char.ofNat (c.toNat - 32) else c

/-- The encoding that the declared `name` asks for in a text that has been read as `current` so far.
Registered encodings of one byte per character can follow any declaration. -/
def Encoding.named (current : Encoding) (name : List Char) : Named :=
  let upper := String.ofList (name.map upperAscii)
  let fitting (encoding : Encoding) : Named :=
    if encoding.unitSize = current.unitSize then .encoding encoding else .mismatch
  if upper = "UTF-8" then fitting .utf8
  else if upper = "ISO-8859-1" then fitting .latin1
  else if upper = "US-ASCII" then fitting .ascii
  else if upper = "UTF-16" then
    match current with
    | .utf16 _ => .encoding current
    | _ => .mismatch
  else if upper = "UTF-16BE" then
    if current = .utf16 true then .encoding current else .mismatch
  else if upper = "UTF-16LE" then
    if current = .utf16 false then .encoding current else .mismatch
  else
    match Coding.named? name with
    | some (.single set) => .encoding (.single set)
    | coding => .registered coding

end AttrLint.Xml
