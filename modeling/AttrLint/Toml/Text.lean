import AttrLint.Text.Hex
import AttrLint.Toml.Scan

namespace AttrLint.Toml

/-!
# Strings

* `basicUntil` — a string with escapes, up to its closing quotes.
* `multilineString` — a string between three quotes on each side, of either kind.
-/

/-- What a backslash at the end of a line does to the characters after it. -/
inductive Trim where
  /-- Nothing. -/
  | off
  /-- The rest of the line has to be empty. -/
  | line
  /-- White space and line ends are dropped. -/
  | lines
  deriving DecidableEq, Repr

/-- The character that a short escape stands for. -/
def shortEscape? (c : Char) : Option Char :=
  if c = 'b' then some '\x08'
  else if c = 't' then some '\t'
  else if c = 'n' then some '\n'
  else if c = 'f' then some '\x0c'
  else if c = 'r' then some '\r'
  else if c = '"' then some '"'
  else if c = '\\' then some '\\'
  else none

/-- The number that hexadecimal digits give; none if one is no digit. -/
def hexNumber? (digits : List Char) : Option Nat :=
  digits.foldl (fun n c => n.bind fun n => (Text.hexValue? c).map fun d => n * 16 + d) (some 0)

/-- The character of an escape by number: `digits` stand at the front of `s`, and `rest` follows
them. -/
def escapedChar (digits s rest : List Char) : Except Stop Char :=
  match hexNumber? digits with
  | none => .error (.problem .invalidHex s)
  | some n =>
    if n < 0xd800 ∨ (0xe000 ≤ n ∧ n < 0x110000) then .ok (Char.ofNat n)
    else .error (.problem .notScalar rest)

/-- A string with escapes up to its closing quotes, and what follows them; `done` holds the string
so far, newest character first. -/
def basicFrom (multiline : Bool) (trim : Trim) (done : List Char) :
    List Char → Except Stop (List Char × List Char)
  | [] => .error (.problem .unterminatedString [])
  | c :: cs =>
    if trim = .line && isGap c then basicFrom multiline .line done cs
    else if trim = .line && c = '\n' then basicFrom multiline .lines done cs
    else if trim = .line then .error (.problem .unescapedBackslash (c :: cs))
    else if trim = .lines && isGapOrLine c then basicFrom multiline .lines done cs
    else if c = '"' then
      if multiline then
        match cs with
        | '"' :: '"' :: rest => .ok (done.reverse, rest)
        | cs => basicFrom multiline .off (c :: done) cs
      else .ok (done.reverse, cs)
    else if c = '\\' then
      match cs with
      | [] => .error (.problem .unescapedBackslash [])
      | e :: cs =>
        if multiline && e = '\n' then basicFrom multiline .lines done cs
        else if multiline && isGap e then basicFrom multiline .line done cs
        else if e = 'u' then
          match cs with
          | a :: b :: c :: d :: rest =>
            match escapedChar [a, b, c, d] cs rest with
            | .ok char => basicFrom multiline .off (char :: done) rest
            | .error e => .error e
          | cs => .error (.problem .invalidHex cs)
        else if e = 'U' then
          match cs with
          | a :: b :: c :: d :: a' :: b' :: c' :: d' :: rest =>
            match escapedChar [a, b, c, d, a', b', c', d'] cs rest with
            | .ok char => basicFrom multiline .off (char :: done) rest
            | .error e => .error e
          | cs => .error (.problem .invalidHex cs)
        else
          match shortEscape? e with
          | some char => basicFrom multiline .off (char :: done) cs
          | none => .error (.problem .unescapedBackslash cs)
    else if isIllegal multiline c then .error (.problem (.illegalCharacter c) (c :: cs))
    else basicFrom multiline .off (c :: done) cs

/-- A string of one line after its opening quote. -/
def basicString (s : List Char) : Except Stop (List Char × List Char) :=
  basicFrom false .off [] s

/-- A string of one line without escapes, after its opening quote. -/
def literalString (s : List Char) : Except Stop (List Char × List Char) :=
  literalUntil false ['\''] s

/-- Up to two more quotes right after the closing ones belong to the string. -/
def extraQuotes (quote : Char) (text : List Char) (rest : List Char) : List Char × List Char :=
  match rest with
  | a :: rest =>
    if a = quote then
      match rest with
      | b :: rest' => if b = quote then (text ++ [a, b], rest') else (text ++ [a], rest)
      | [] => (text ++ [a], [])
    else (text, a :: rest)
  | [] => (text, [])

/-- A string between three quotes on each side, after the opening ones; a line end right after them
does not count. -/
def multilineString (quote : Char) (s : List Char) : Except Stop (List Char × List Char) :=
  let s := match s with
    | '\n' :: s => s
    | s => s
  let read :=
    if quote = '"' then basicFrom true .off [] s
    else literalUntil true [quote, quote, quote] s
  match read with
  | .ok (text, rest) => .ok (extraQuotes quote text rest)
  | .error e => .error e

end AttrLint.Toml
