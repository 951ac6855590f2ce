import AttrLint.Sink
import AttrLint.Text.Hex
import AttrLint.Violation

namespace AttrLint

/-!
# Reports

Violations are reported as lines of text while they are found, or as one JSON array at the end.

* `Format.reportViolation`, `Format.reportResult` — the two moments of reporting.
* `Json.report` — the array, in ASCII, with two spaces for each level.
-/

/-- The forms of a report. -/
inductive Format where
  | text
  | json
  deriving DecidableEq, Repr

/-- The format with the given name. -/
def Format.ofName? (name : String) : Option Format :=
  if name = "json" then some .json
  else if name = "text" then some .text
  else none

namespace Json

/-- The escape of a sixteen-bit unit. -/
def unitEscape (n : Nat) : List Char :=
  '\\' :: 'u' :: Text.hexPadded 4 n

/-- How a character is written between quotes: in ASCII, with a pair of surrogates for characters
above U+FFFF. -/
def escapeChar (c : Char) : List Char :=
  let n := c.toNat
  if c = '"' then ['\\', '"']
  else if c = '\\' then ['\\', '\\']
  else if c = '\n' then ['\\', 'n']
  else if c = '\r' then ['\\', 'r']
  else if c = '\t' then ['\\', 't']
  else if c = '\x0c' then ['\\', 'f']
  else if c = '\x08' then ['\\', 'b']
  else if 0x20 ≤ n ∧ n < 0x7f then [c]
  else if n < 0x10000 then unitEscape n
  else unitEscape (0xd800 + (n - 0x10000) / 0x400) ++ unitEscape (0xdc00 + (n - 0x10000) % 0x400)

/-- A text between quotes. -/
def string (s : String) : List Char :=
  '"' :: s.toList.flatMap escapeChar ++ ['"']

/-- A field on a line of its own, without the line end. -/
def field (name : String) (value : List Char) : List Char :=
  "    ".toList ++ string name ++ ": ".toList ++ value

/-- The object of a violation. -/
def object (v : Violation) : List Char :=
  let number (n : Int) : List Char := (toString n).toList
  "  \x7b\n".toList ++ field "path" (string v.path) ++ ",\n".toList ++
    field "line" (number v.line) ++ ",\n".toList ++
    field "column" (number v.column) ++ ",\n".toList ++
    field "tag" (string v.tag) ++ ",\n".toList ++
    field "attribute" (string v.requirement) ++ "\n  \x7d".toList

/-- Objects with commas between them. -/
def objects : List Violation → List Char
  | [] => []
  | [v] => object v
  | v :: vs => object v ++ ",\n".toList ++ objects vs

/-- The array of violations and a line end. -/
def report (vs : List Violation) : String :=
  match vs with
  | [] => "[]\n"
  | vs => String.ofList ("[\n".toList ++ objects vs ++ "\n]\n".toList)

end Json

/-- Reports a violation when it is found. -/
def Format.reportViolation (f : Format) (sink : Sink) (v : Violation) :
    Sink × Option StreamError :=
  match f with
  | .text => sink.write (v.toString ++ "\n")
  | .json => (sink, none)

/-- Reports the end of a run that has found the given violations. -/
def Format.reportResult (f : Format) (sink : Sink) (vs : List Violation) :
    Sink × Option StreamError :=
  match f with
  | .text => sink.flush
  | .json =>
    match sink.write (Json.report vs) with
    | (sink, none) => sink.flush
    | (sink, some e) => (sink, some e)

end AttrLint
