import AttrLint.Text.Blank

namespace AttrLint

/-!
# Paths

A path is a count of leading slashes and a list of names.  Empty names and `.` say nothing and are
dropped; `..` is kept, because what it means depends on the file system.

* `Path.ofString`, `Path.toString` — reading and showing a path.
* `Path.absolute` — the names of a path seen from a working directory, with `..` resolved by name
  alone.
* `Path.anchored` — the same as a path.
-/

/-- A path: the slashes it starts with (none, one or two) and the names after them. -/
structure Path where
  /-- The number of leading slashes: zero for a relative path. -/
  slashes : Nat
  /-- The names in order. -/
  parts : List String
  deriving DecidableEq, Repr

namespace Path

/-- Exactly two leading slashes are kept, and any other positive count is one slash. -/
def leadingSlashes (s : List Char) : Nat :=
  match (s.takeWhile (· == '/')).length with
  | 0 => 0
  | 2 => 2
  | _ => 1

/-- The path written as `s`. -/
def ofString (s : String) : Path where
  slashes := leadingSlashes s.toList
  parts := ((Text.fields '/' s.toList).map String.ofList).filter fun part =>
    part != "" && part != "."

/-- The path as text; the path without names and slashes is `.`. -/
def toString (p : Path) : String :=
  let text := String.ofList (List.replicate p.slashes '/') ++ "/".intercalate p.parts
  if text == "" then "." else text

/-- Resolves `..` by dropping the name before it; above the root there is only the root.
`done` holds the names kept so far, newest first. -/
def resolveParts (done : List String) : List String → List String
  | [] => done.reverse
  | part :: rest =>
    if part == ".." then resolveParts done.tail rest else resolveParts (part :: done) rest

/-- The names of the path from the root, seen from the working directory `cwd`, with `..` resolved
by name alone. -/
def absolute (cwd : List String) (p : Path) : List String :=
  resolveParts [] (if p.slashes = 0 then cwd ++ p.parts else p.parts)

/-- The absolute path that the path stands for, seen from the working directory `cwd`.  Two leading
slashes stay. -/
def anchored (cwd : List String) (p : Path) : Path :=
  ⟨if p.slashes = 2 then 2 else 1, p.absolute cwd⟩

/-- The absolute path with the given names. -/
def ofAbsolute (parts : List String) : Path :=
  ⟨1, parts⟩

/-- The path extended by one name. -/
def child (p : Path) (name : String) : Path :=
  { p with parts := p.parts ++ [name] }

end Path

end AttrLint
