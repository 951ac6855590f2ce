import AttrLint.Text.Decimal
import AttrLint.Toml.Number
import AttrLint.Toml.Text

namespace AttrLint.Toml

/-!
# Reading TOML documents

* `readKey` — a dotted key.
* `readValue` — a value of any kind.
* `parse` — the table of a whole document.
-/

/-! ### Keys -/

/-- Says that the character can stand in a key without quotes. -/
def isBareKeyChar (c : Char) : Bool :=
  ('a' ≤ c && c ≤ 'z') || ('A' ≤ c && c ≤ 'Z') || c.isDigit || c = '-' || c = '_'

/-- One part of a key: bare or quoted. -/
def readKeyPart (s : List Char) : Except Stop (String × List Char) :=
  match s with
  | [] => .error (.problem .invalidKeyStart [])
  | c :: cs =>
    if isBareKeyChar c then
      .ok (String.ofList (s.takeWhile isBareKeyChar), s.dropWhile isBareKeyChar)
    else if c = '\'' then (literalString cs).map fun (text, rest) => (String.ofList text, rest)
    else if c = '"' then (basicString cs).map fun (text, rest) => (String.ofList text, rest)
    else .error (.problem .invalidKeyStart s)

/-- The parts of a dotted key from `s` on, with white space around them; `done` holds the parts
before, newest first, and `fuel` bounds their number. -/
def readKey (fuel : Nat) (done : Key) (s : List Char) : Except Stop (Key × List Char) :=
  match fuel with
  | 0 => .ok (done.reverse, s)
  | fuel + 1 =>
    match readKeyPart s with
    | .error e => .error e
    | .ok (part, rest) =>
      match skipGaps rest with
      | '.' :: rest => readKey fuel (part :: done) (skipGaps rest)
      | rest => .ok ((part :: done).reverse, rest)

/-! ### Inline tables -/

/-- An inline table being read: its entries, and the keys whose values can no longer be added to. -/
structure InlineTable where
  entries : Table := []
  frozen : List Key := []

/-- Says that one of the keys is the beginning of `key`. -/
def isFrozen (frozen : List Key) (key : Key) : Bool :=
  frozen.any fun f => f.isPrefixOf key

/-- Adds a pair to an inline table; `rest` is what follows the pair. -/
def InlineTable.add (t : InlineTable) (key : Key) (value : Value) (rest : List Char) :
    Except Stop InlineTable :=
  if isFrozen t.frozen key then .error (.problem (.immutableNamespace key) rest)
  else
    let last := key.getLast?.getD ""
    let insert (entries : Table) : Except Problem Table :=
      if (entries.lookup last).isSome then .error (.duplicateInlineKey last)
      else .ok (entries ++ [(last, value)])
    match updateAt false .overwrittenValue insert key.dropLast t.entries with
    | .error problem => .error (.problem problem rest)
    | .ok entries =>
      let frozen := if value.isCompound then key :: t.frozen else t.frozen
      .ok ⟨entries, frozen⟩

/-! ### Values -/

/-- The most digits that a decimal integer may have. -/
def digitLimit : Nat := Text.digitLimit

/-- How deep values may be nested.  Values are read by calls inside each other, and this stands for
the interpreter's limit on such calls, less those that are under way when a direct caller loads a
rule file.  A caller that is itself called deep inside others has less to spend. -/
def depthLimit : Nat := 990

/-- What an array counts for in the depth. -/
def arrayDepth : Nat := 2

/-- What an inline table counts for in the depth. -/
def tableDepth : Nat := 3

/-- A value that is neither a string nor an array nor an inline table. -/
def readScalar (s : List Char) : Except Stop (Value × List Char) :=
  let word (text : String) : Bool := text.toList.isPrefixOf s
  if word "true" then .ok (.boolean true, s.drop 4)
  else if word "false" then .ok (.boolean false, s.drop 5)
  else
    match moment? s with
    | some (true, rest) => .ok (.moment, rest)
    | some (false, _) => .error (.problem .invalidMoment s)
    | none =>
      match number? s with
      | some ⟨some digits, rest⟩ =>
        if digitLimit < digits then .error (.tooManyDigits digits)
        else .ok (.number, rest)
      | some ⟨none, rest⟩ => .ok (.number, rest)
      | none =>
        if word "inf" || word "nan" then .ok (.number, s.drop 3)
        else if word "+inf" || word "-inf" || word "+nan" || word "-nan" then
          .ok (.number, s.drop 4)
        else .error (.problem .invalidValue s)

/-- A string of any kind, given its first quote and what follows it. -/
def readString (quote : Char) (s : List Char) : Except Stop (Value × List Char) :=
  let read :=
    match s with
    | a :: b :: rest =>
      if a = quote ∧ b = quote then multilineString quote rest
      else if quote = '"' then basicString s
      else literalString s
    | s => if quote = '"' then basicString s else literalString s
  read.map fun (text, rest) => (.string (String.ofList text), rest)

mutual

/-- A value at the front of `s`, in arrays and inline tables of the given depth; `fuel` bounds the
steps. -/
def readValue (fuel depth : Nat) (s : List Char) : Except Stop (Value × List Char) :=
  match fuel with
  | 0 => .error (.problem .invalidValue s)
  | fuel + 1 =>
    match s with
    | [] => .error (.problem .invalidValue [])
    | c :: cs =>
      if c = '"' || c = '\'' then readString c cs
      else if c = '[' then
        if depthLimit < depth + arrayDepth then .error .tooDeep
        else
          match skipLines cs with
          | .error e => .error e
          | .ok (']' :: rest) => .ok (.array [], rest)
          | .ok rest => readItems fuel (depth + arrayDepth) [] rest
      else if c = '\x7b' then
        if depthLimit < depth + tableDepth then .error .tooDeep
        else
          match skipGaps cs with
          | '\x7d' :: rest => .ok (.table [], rest)
          | rest => readPairs fuel (depth + tableDepth) {} rest
      else readScalar s

/-- The items of an array from `s` on; `done` holds those before, newest first. -/
def readItems (fuel depth : Nat) (done : List Value) (s : List Char) :
    Except Stop (Value × List Char) :=
  match fuel with
  | 0 => .error (.problem .unclosedArray s)
  | fuel + 1 =>
    match readValue fuel depth s with
    | .error e => .error e
    | .ok (value, rest) =>
      match skipLines rest with
      | .error e => .error e
      | .ok (']' :: rest) => .ok (.array (value :: done).reverse, rest)
      | .ok (',' :: rest) =>
        match skipLines rest with
        | .error e => .error e
        | .ok (']' :: rest) => .ok (.array (value :: done).reverse, rest)
        | .ok rest => readItems fuel depth (value :: done) rest
      | .ok rest => .error (.problem .unclosedArray rest)

/-- The pairs of an inline table from `s` on. -/
def readPairs (fuel depth : Nat) (t : InlineTable) (s : List Char) :
    Except Stop (Value × List Char) :=
  match fuel with
  | 0 => .error (.problem .unclosedTable s)
  | fuel + 1 =>
    match readKey fuel [] s with
    | .error e => .error e
    | .ok (key, '=' :: rest) =>
      match readValue fuel depth (skipGaps rest) with
      | .error e => .error e
      | .ok (value, rest) =>
        match t.add key value rest with
        | .error e => .error e
        | .ok t =>
          match skipGaps rest with
          | '\x7d' :: rest => .ok (.table t.entries, rest)
          | ',' :: rest => readPairs fuel depth t (skipGaps rest)
          | rest => .error (.problem .unclosedTable rest)
    | .ok (_, rest) => .error (.problem .expectedEquals rest)

end

/-! ### Documents -/

/-- A document being read. -/
structure Draft where
  entries : Table := []
  /-- The table that pairs are added to. -/
  header : Key := []
  /-- The keys declared as tables. -/
  declared : List Key := []
  /-- The keys that count as declared from the next header on. -/
  pending : List Key := []
  /-- The keys whose values, with all that is in them, can no longer be added to. -/
  frozen : List Key := []

namespace Draft

/-- Marks the tables on the way to a pair; one that has been declared cannot be entered this way. -/
def enterAll (d : Draft) (rest : List Char) : List Key → Except Stop Draft
  | [] => .ok d
  | key :: keys =>
    if d.declared.contains key then .error (.problem (.redefinedNamespace key) rest)
    else enterAll { d with pending := key :: d.pending } rest keys

/-- The keys of the tables on the way to the pair with the given key, outermost first. -/
def pathKeys (header key : Key) : List Key :=
  (List.range (key.length - 1)).map fun n => header ++ key.take (n + 1)

/-- Adds a pair; `rest` is what follows it. -/
def addPair (d : Draft) (key : Key) (value : Value) (rest : List Char) : Except Stop Draft :=
  match d.enterAll rest (pathKeys d.header key) with
  | .error e => .error e
  | .ok d =>
    let parent := d.header ++ key.dropLast
    if isFrozen d.frozen parent then .error (.problem (.immutableNamespace parent) rest)
    else
      let last := key.getLast?.getD ""
      let insert (entries : Table) : Except Problem Table :=
        if (entries.lookup last).isSome then .error .overwrittenValue
        else .ok (entries ++ [(last, value)])
      match updateAt true .overwrittenValue insert parent d.entries with
      | .error problem => .error (.problem problem rest)
      | .ok entries =>
        let frozen := if value.isCompound then (d.header ++ key) :: d.frozen else d.frozen
        .ok { d with entries := entries, frozen := frozen }

/-- Reads a pair; `fuel` bounds the steps. -/
def readPair (fuel : Nat) (d : Draft) (s : List Char) : Except Stop (Draft × List Char) :=
  match readKey fuel [] s with
  | .error e => .error e
  | .ok (key, '=' :: rest) =>
    match readValue fuel 0 (skipGaps rest) with
    | .error e => .error e
    | .ok (value, rest) => (d.addPair key value rest).map fun d => (d, rest)
  | .ok (_, rest) => .error (.problem .expectedEquals rest)

/-- Makes the keys that were waiting for a header count as declared. -/
def settle (d : Draft) : Draft :=
  { d with declared := d.pending ++ d.declared, pending := [] }

/-- Reads the header of a table after its bracket. -/
def readTableHeader (fuel : Nat) (d : Draft) (s : List Char) : Except Stop (Draft × List Char) :=
  match readKey fuel [] (skipGaps s) with
  | .error e => .error e
  | .ok (key, rest) =>
    if d.declared.contains key || isFrozen d.frozen key then
      .error (.problem (.declaredTwice key) rest)
    else
      match updateAt true Problem.overwrittenValue .ok key d.entries with
      | .error problem => .error (.problem problem rest)
      | .ok entries =>
        match rest with
        | ']' :: rest =>
          .ok ({ d with entries := entries, header := key, declared := key :: d.declared }, rest)
        | rest => .error (.problem .expectedTableEnd rest)

/-- Adds an empty table to the array under a name, which is made if there is nothing. -/
def appendTable (name : String) (entries : Table) : Except Problem Table :=
  match entries.lookup name with
  | none => .ok (entries ++ [(name, .array [.table []])])
  | some (.array items) => .ok (Entries.put entries name (.array (items ++ [.table []])))
  | some _ => .error .overwrittenValue

/-- Reads the header of a table in an array, after its brackets. -/
def readArrayHeader (fuel : Nat) (d : Draft) (s : List Char) : Except Stop (Draft × List Char) :=
  match readKey fuel [] (skipGaps s) with
  | .error e => .error e
  | .ok (key, rest) =>
    if isFrozen d.frozen key then .error (.problem (.immutableNamespace key) rest)
    else
      let append := appendTable (key.getLast?.getD "")
      match updateAt true Problem.overwrittenValue append key.dropLast d.entries with
      | .error problem => .error (.problem problem rest)
      | .ok entries =>
        match rest with
        | ']' :: ']' :: rest =>
          let outside (k : Key) : Bool := !key.isPrefixOf k
          .ok ({ d with
            entries := entries
            header := key
            declared := key :: d.declared.filter outside
            frozen := d.frozen.filter outside }, rest)
        | rest => .error (.problem .expectedArrayEnd rest)

/-- Reads a statement, which starts with `c`: a pair, a header, or nothing before a comment. -/
def readStatement (fuel : Nat) (d : Draft) (c : Char) (s : List Char) :
    Except Stop (Draft × List Char) :=
  if isBareKeyChar c || c = '"' || c = '\'' then d.readPair fuel (c :: s)
  else if c = '[' then
    match s with
    | '[' :: s => d.settle.readArrayHeader fuel s
    | s => d.settle.readTableHeader fuel s
  else if c = '#' then .ok (d, c :: s)
  else .error (.problem .invalidStatement (c :: s))

/-- Reads statements, one a line; `turns` bounds their number and `fuel` the steps in each. -/
def readAll (fuel turns : Nat) (d : Draft) (s : List Char) : Except Stop Draft :=
  match turns with
  | 0 => .ok d
  | turns + 1 =>
    match skipGaps s with
    | [] => .ok d
    | '\n' :: rest => readAll fuel turns d rest
    | c :: rest =>
      match d.readStatement fuel c rest with
      | .error e => .error e
      | .ok (d, rest) =>
        match skipComment (skipGaps rest) with
        | .error e => .error e
        | .ok [] => .ok d
        | .ok ('\n' :: rest) => readAll fuel turns d rest
        | .ok rest => .error (.problem .expectedLineEnd rest)

end Draft

/-- What is wrong with a document as a whole. -/
inductive Failure where
  /-- It is no TOML document. -/
  | invalid (error : ParseError)
  /-- A decimal integer has more digits than can be converted. -/
  | tooManyDigits (digits : Nat)
  /-- Arrays and inline tables are nested too deeply. -/
  | tooDeep
  deriving DecidableEq, Repr

/-- The failure in words. -/
def Failure.message : Failure → String
  | .invalid error => error.message
  | .tooManyDigits digits =>
    Text.limitMessage (": value has " ++ toString digits ++ " digits")
  | .tooDeep => "maximum recursion depth exceeded"

/-- The table of a document. -/
def parse (source : List Char) : Except Failure Table :=
  match Draft.readAll (2 * source.length + 2) (source.length + 1) {} source with
  | .ok d => .ok d.entries
  | .error (.problem problem rest) => .error (.invalid (.locate source problem rest))
  | .error (.tooManyDigits digits) => .error (.tooManyDigits digits)
  | .error .tooDeep => .error .tooDeep

end AttrLint.Toml
