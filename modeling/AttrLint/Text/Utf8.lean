import AttrLint.Text.Hex

namespace AttrLint.Text.Utf8

/-!
# UTF-8

Bytes are read as far as they form well-formed sequences; what is left tells why reading stopped.

* `scan` — the characters of the longest well-formed beginning, and the bytes after it.
* `encode` — the bytes of a text.
* `decode` — all characters, or the reason why the bytes are no UTF-8 text.
* `DecodeError.message` — that reason in words.
-/

/-- Says that the byte continues a sequence. -/
def isTail (b : UInt8) : Bool :=
  0x80 ≤ b && b ≤ 0xbf

/-- Says that `b` may stand second in a sequence that starts with `a`: it continues a sequence, and
neither an overlong form nor a surrogate nor a value above U+10FFFF begins this way. -/
def isSecond (a b : UInt8) : Bool :=
  if a = 0xe0 then 0xa0 ≤ b && b ≤ 0xbf
  else if a = 0xed then 0x80 ≤ b && b ≤ 0x9f
  else if a = 0xf0 then 0x90 ≤ b && b ≤ 0xbf
  else if a = 0xf4 then 0x80 ≤ b && b ≤ 0x8f
  else isTail b

/-- How many bytes follow the first byte `a` of a sequence; none for a byte that starts no
sequence. -/
def tailCount? (a : UInt8) : Option Nat :=
  if a < 0x80 then some 0
  else if a < 0xc2 then none
  else if a < 0xe0 then some 1
  else if a < 0xf0 then some 2
  else if a < 0xf5 then some 3
  else none

/-- The character of a two-byte sequence. -/
def char2 (a b : UInt8) : Char :=
  Char.ofNat ((a.toNat - 0xc0) * 0x40 + (b.toNat - 0x80))

/-- The character of a three-byte sequence. -/
def char3 (a b c : UInt8) : Char :=
  Char.ofNat ((a.toNat - 0xe0) * 0x1000 + (b.toNat - 0x80) * 0x40 + (c.toNat - 0x80))

/-- The character of a four-byte sequence. -/
def char4 (a b c d : UInt8) : Char :=
  Char.ofNat ((a.toNat - 0xf0) * 0x40000 + (b.toNat - 0x80) * 0x1000 +
    (c.toNat - 0x80) * 0x40 + (d.toNat - 0x80))

/-- Reads well-formed sequences; `chars` holds the characters read before, newest first. -/
def scanFrom (chars : List Char) : List UInt8 → List Char × List UInt8
  | [] => (chars.reverse, [])
  | a :: bytes =>
    match tailCount? a, bytes with
    | some 0, rest => scanFrom (Char.ofNat a.toNat :: chars) rest
    | some 1, b :: rest =>
      if isSecond a b then scanFrom (char2 a b :: chars) rest
      else (chars.reverse, a :: b :: rest)
    | some 2, b :: c :: rest =>
      if isSecond a b && isTail c then scanFrom (char3 a b c :: chars) rest
      else (chars.reverse, a :: b :: c :: rest)
    | some 3, b :: c :: d :: rest =>
      if isSecond a b && isTail c && isTail d then scanFrom (char4 a b c d :: chars) rest
      else (chars.reverse, a :: b :: c :: d :: rest)
    | _, rest => (chars.reverse, a :: rest)

/-- The characters of the longest well-formed beginning, and the bytes that follow it. -/
def scan (bytes : List UInt8) : List Char × List UInt8 :=
  scanFrom [] bytes

/-! ### Why bytes are no text -/

/-- What is wrong with a sequence. -/
inductive Defect where
  /-- Its first byte starts no sequence. -/
  | badStart
  /-- A byte that had to continue it does not. -/
  | badTail
  /-- The bytes end inside it. -/
  | cut
  deriving DecidableEq, Repr

/-- The wording of a defect. -/
def Defect.text : Defect → String
  | .badStart => "invalid start byte"
  | .badTail => "invalid continuation byte"
  | .cut => "unexpected end of data"

/-- Bytes that are no UTF-8 text: the place and length of the first ill-formed sequence. -/
structure DecodeError where
  /-- The first byte of the sequence. -/
  byte : UInt8
  /-- How many bytes stand before it. -/
  offset : Nat
  /-- How many bytes belong to it. -/
  length : Nat
  /-- What is wrong with it. -/
  defect : Defect
  deriving DecidableEq, Repr

/-- The ill-formed sequence at the front of bytes that `scan` has left. -/
def diagnose (offset : Nat) : List UInt8 → Option DecodeError
  | [] => none
  | a :: rest =>
    match tailCount? a, rest with
    | none, _ | some 0, _ => some ⟨a, offset, 1, .badStart⟩
    | some (_ + 1), [] => some ⟨a, offset, 1, .cut⟩
    | some (n + 1), b :: rest =>
      if !isSecond a b then some ⟨a, offset, 1, .badTail⟩
      else
        let tails := (rest.take n).takeWhile isTail
        if tails.length = rest.length then some ⟨a, offset, 2 + tails.length, .cut⟩
        else some ⟨a, offset, 2 + tails.length, .badTail⟩

/-- All characters of a UTF-8 text, or its first ill-formed sequence. -/
def decode (bytes : List UInt8) : Except DecodeError (List Char) :=
  let (chars, rest) := scan bytes
  match diagnose (bytes.length - rest.length) rest with
  | none => .ok chars
  | some e => .error e

/-- The error in words: one byte is shown, several are given by their places. -/
def DecodeError.message (e : DecodeError) : String :=
  if e.length = 1 then
    "'utf-8' codec can't decode byte 0x" ++ String.ofList (hexPadded 2 e.byte.toNat) ++
      " in position " ++ toString e.offset ++ ": " ++ e.defect.text
  else
    "'utf-8' codec can't decode bytes in position " ++ toString e.offset ++ "-" ++
      toString (e.offset + e.length - 1) ++ ": " ++ e.defect.text

/-! ### Writing -/

/-- The bytes of a character. -/
def encodeChar (c : Char) : List UInt8 :=
  let n := c.toNat
  if n < 0x80 then [UInt8.ofNat n]
  else if n < 0x800 then [UInt8.ofNat (0xc0 + n / 0x40), UInt8.ofNat (0x80 + n % 0x40)]
  else if n < 0x10000 then
    [UInt8.ofNat (0xe0 + n / 0x1000), UInt8.ofNat (0x80 + n / 0x40 % 0x40),
      UInt8.ofNat (0x80 + n % 0x40)]
  else
    [UInt8.ofNat (0xf0 + n / 0x40000), UInt8.ofNat (0x80 + n / 0x1000 % 0x40),
      UInt8.ofNat (0x80 + n / 0x40 % 0x40), UInt8.ofNat (0x80 + n % 0x40)]

/-- The bytes of a text. -/
def encode (s : List Char) : List UInt8 :=
  s.flatMap encodeChar

end AttrLint.Text.Utf8
