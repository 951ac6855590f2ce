import AttrLint.Text.Hex
import AttrLint.Text.Printable

namespace AttrLint.Text

/-!
# Quoted text in messages

A message shows a text between quotes so that its ends and its odd characters can be seen.

* `quoteFor` — single quotes, unless the text has a single quote and no double quote.
* `quoted` — the text between the chosen quotes, everything a reader could not see escaped.
-/

/-- The quote that encloses a text: double only if that saves escaping single ones. -/
def quoteFor (s : List Char) : Char :=
  if s.contains '\'' && !s.contains '"' then '"' else '\''

/-- How a character is shown inside text quoted with `quote`. -/
def quotedChar (quote c : Char) : List Char :=
  if c = quote ∨ c = '\\' then ['\\', c]
  else if c = '\n' then ['\\', 'n']
  else if c = '\r' then ['\\', 'r']
  else if c = '\t' then ['\\', 't']
  else if isPrintable c then [c]
  else if c.toNat ≤ 0xff then '\\' :: 'x' :: hexPadded 2 c.toNat
  else if c.toNat ≤ 0xffff then '\\' :: 'u' :: hexPadded 4 c.toNat
  else '\\' :: 'U' :: hexPadded 8 c.toNat

/-- The text between quotes, with escapes for what could not be read otherwise. -/
def quoted (s : String) : String :=
  let quote := quoteFor s.toList
  String.ofList (quote :: s.toList.flatMap (quotedChar quote) ++ [quote])

/-- An optional text: quoted, or the word for nothing. -/
def quoted? : Option String → String
  | some s => quoted s
  | none => "None"

end AttrLint.Text
