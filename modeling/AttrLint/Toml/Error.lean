import AttrLint.Text.Quoted

namespace AttrLint.Toml

/-!
# Errors of TOML documents

* `Problem` — what can be wrong with a document, with its wording.
* `Stop` — a problem and what is left of the document where it was found.
* `ParseError` — a problem with its line and column.
-/

/-- A dotted key. -/
abbrev Key := List String

/-- A key in a message: its quoted parts between parentheses. -/
def showKey : Key → String
  | [part] => "(" ++ Text.quoted part ++ ",)"
  | key => "(" ++ ", ".intercalate (key.map Text.quoted) ++ ")"

/-- What is wrong with a document. -/
inductive Problem where
  | invalidStatement
  | expectedLineEnd
  | invalidKeyStart
  | expectedEquals
  | redefinedNamespace (key : Key)
  | immutableNamespace (key : Key)
  | overwrittenValue
  | declaredTwice (key : Key)
  | expectedTableEnd
  | expectedArrayEnd
  | invalidValue
  | invalidMoment
  | unterminatedString
  | illegalCharacter (c : Char)
  | unescapedBackslash
  | invalidHex
  | notScalar
  | expectedClosing (quotes : String)
  | foundCharacter (c : Char)
  | unclosedArray
  | unclosedTable
  | duplicateInlineKey (key : String)
  deriving DecidableEq, Repr

/-- The wording of a problem. -/
def Problem.text : Problem → String
  | .invalidStatement => "Invalid statement"
  | .expectedLineEnd => "Expected newline or end of document after a statement"
  | .invalidKeyStart => "Invalid initial character for a key part"
  | .expectedEquals => "Expected '=' after a key in a key/value pair"
  | .redefinedNamespace key => "Cannot redefine namespace " ++ showKey key
  | .immutableNamespace key => "Cannot mutate immutable namespace " ++ showKey key
  | .overwrittenValue => "Cannot overwrite a value"
  | .declaredTwice key => "Cannot declare " ++ showKey key ++ " twice"
  | .expectedTableEnd => "Expected ']' at the end of a table declaration"
  | .expectedArrayEnd => "Expected ']]' at the end of an array declaration"
  | .invalidValue => "Invalid value"
  | .invalidMoment => "Invalid date or datetime"
  | .unterminatedString => "Unterminated string"
  | .illegalCharacter c => "Illegal character " ++ Text.quoted (String.ofList [c])
  | .unescapedBackslash => "Unescaped '\\' in a string"
  | .invalidHex => "Invalid hex value"
  | .notScalar => "Escaped character is not a Unicode scalar value"
  | .expectedClosing quotes => "Expected " ++ Text.quoted quotes
  | .foundCharacter c => "Found invalid character " ++ Text.quoted (String.ofList [c])
  | .unclosedArray => "Unclosed array"
  | .unclosedTable => "Unclosed inline table"
  | .duplicateInlineKey key => "Duplicate inline table key " ++ Text.quoted key

/-- Why reading a document stops. -/
inductive Stop where
  /-- Something is wrong; `rest` is what is left of the document there. -/
  | problem (problem : Problem) (rest : List Char)
  /-- A decimal integer has more digits than can be converted. -/
  | tooManyDigits (digits : Nat)
  /-- Arrays and inline tables are nested too deeply. -/
  | tooDeep
  deriving DecidableEq, Repr

/-- A problem at a place of a document. -/
inductive ParseError where
  /-- At a line and a column, both counted from one. -/
  | located (problem : Problem) (line column : Nat)
  /-- At the end of the document. -/
  | atEnd (problem : Problem)
  deriving DecidableEq, Repr

/-- The error in words. -/
def ParseError.message : ParseError → String
  | .located problem line column =>
    problem.text ++ " (at line " ++ toString line ++ ", column " ++ toString column ++ ")"
  | .atEnd problem => problem.text ++ " (at end of document)"

/-- The line and column after a text, both counted from one. -/
def placeAfter (read : List Char) : Nat × Nat :=
  read.foldl (fun (line, column) c => if c = '\n' then (line + 1, 1) else (line, column + 1)) (1, 1)

/-- The error for a problem of `source` where `rest` is left of it. -/
def ParseError.locate (source : List Char) (problem : Problem) (rest : List Char) : ParseError :=
  if rest.isEmpty then .atEnd problem
  else
    let (line, column) := placeAfter (source.take (source.length - rest.length))
    .located problem line column

end AttrLint.Toml
