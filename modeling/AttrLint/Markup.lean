namespace AttrLint.Markup

/-!
# Console markup

Console messages carry style tags in square brackets.  Text from outside has to be escaped, so that
what looks like a tag in it is shown and not obeyed.

* `segments` — a text divided into plain characters and what looks like a tag.
* `escape` — a text with its look-alikes made harmless.
* `render` — what a console without styles shows.
-/

/-- A piece of a text. -/
inductive Segment where
  | char (c : Char)
  /-- Something between brackets that looks like a tag, after a number of backslashes. -/
  | tag (slashes : Nat) (body : List Char)
  deriving DecidableEq, Repr

/-- Says that a tag can begin with the character. -/
def isTagStart (c : Char) : Bool :=
  ('a' ≤ c && c ≤ 'z') || c = '#' || c = '/' || c.toNat = 0x40

/-- The text up to the first closing bracket, if no opening one comes before it, and what follows;
`done` holds the text so far, newest first. -/
def bodyFrom (done : List Char) : List Char → Option (List Char × List Char)
  | [] => none
  | c :: cs =>
    if c = ']' then some (done.reverse, cs)
    else if c = '[' then none
    else bodyFrom (c :: done) cs

/-- The inside of a tag after its opening bracket, and what follows the closing one. -/
def tagBody? : List Char → Option (List Char × List Char)
  | [] => none
  | c :: cs => if isTagStart c then bodyFrom [c] cs else none

/-- The pieces of a text; `turns` bounds their number. -/
def segmentsFor (turns : Nat) (s : List Char) : List Segment :=
  match turns with
  | 0 => []
  | turns + 1 =>
    let slashes := s.takeWhile (· == '\\')
    match s.dropWhile (· == '\\') with
    | [] => slashes.map .char
    | c :: rest =>
      let plain := slashes.map .char ++ .char c :: segmentsFor turns rest
      if c = '[' then
        match tagBody? rest with
        | some (body, rest) => .tag slashes.length body :: segmentsFor turns rest
        | none => plain
      else plain

/-- The pieces of a text from left to right. -/
def segments (s : List Char) : List Segment :=
  segmentsFor s.length s

/-- A piece that is not obeyed as a tag: its backslashes twice and one more before the bracket. -/
def escapeSegment : Segment → List Char
  | .char c => [c]
  | .tag slashes body =>
    List.replicate (2 * slashes + 1) '\\' ++ '[' :: body ++ [']']

/-- Doubles a single backslash at the end of a text, where it would escape what is put after it. -/
def closeSlash (s : List Char) : List Char :=
  match s.reverse with
  | '\\' :: '\\' :: _ => s
  | '\\' :: _ => s ++ ['\\']
  | _ => s

/-- The text with everything that looks like a tag made harmless. -/
def escape (s : List Char) : List Char :=
  closeSlash ((segments s).flatMap escapeSegment)

/-- Drops the backslash before an opening bracket. -/
def dropBracketSlash : List Char → List Char
  | '\\' :: '[' :: rest => '[' :: dropBracketSlash rest
  | c :: rest => c :: dropBracketSlash rest
  | [] => []

/-- What a console shows of pieces; `plain` holds the plain characters before them, newest first. -/
def renderFrom (plain : List Char) : List Segment → List Char
  | [] => dropBracketSlash plain.reverse
  | .char c :: rest => renderFrom (c :: plain) rest
  | .tag slashes body :: rest =>
    let shown := if slashes % 2 = 1 then '[' :: body ++ [']'] else []
    dropBracketSlash plain.reverse ++ List.replicate (slashes / 2) '\\' ++ shown ++
      renderFrom [] rest

/-- What a console without styles shows of a text with markup: half of the backslashes before a tag,
the tag itself if their number is odd, and no backslash before other brackets. -/
def render (s : List Char) : List Char :=
  renderFrom [] (segments s)

end AttrLint.Markup
