import AttrLint.Entries
import AttrLint.Path
import AttrLint.Text.Quoted

namespace AttrLint

/-!
# File systems

A file system is a list of entries, each a file or a folder at a list of names from the root, and a
working directory.  Reading follows a path name by name, the way an operating system does.  Entries
have no access rights and there are no links: what exists can be looked at and read, and nothing is
refused for a lack of rights.

* `FileSystem.read` — the bytes of a file, or why there are none.
* `FileSystem.write`, `makeFolder`, `remove`, `enter` — changes.
* `FileError.message` — an operating system's wording of a refusal.
-/

/-- Why the operating system refuses a path. -/
inductive FileRefusal where
  /-- A name on the way does not exist. -/
  | missing
  /-- Something on the way is not a folder. -/
  | notFolder
  /-- The path names a folder, and a file was asked for. -/
  | isFolder
  /-- A name, or the whole path, is too long. -/
  | tooLong
  deriving DecidableEq, Repr

/-- The number of the refusal. -/
def FileRefusal.code : FileRefusal → Nat
  | .missing => 2
  | .notFolder => 20
  | .isFolder => 21
  | .tooLong => 36

/-- The wording of the refusal. -/
def FileRefusal.text : FileRefusal → String
  | .missing => "No such file or directory"
  | .notFolder => "Not a directory"
  | .isFolder => "Is a directory"
  | .tooLong => "File name too long"

/-- The refusal in words. -/
def FileRefusal.message (r : FileRefusal) : String :=
  "[Errno " ++ toString r.code ++ "] " ++ r.text

/-- A refused path. -/
structure FileError where
  refusal : FileRefusal
  path : String
  deriving DecidableEq, Repr

/-- The refusal in words, with the path in quotes. -/
def FileError.message (e : FileError) : String :=
  e.refusal.message ++ ": " ++ Text.quoted e.path

/-- Why a file could not be opened. -/
inductive AccessError where
  /-- The operating system refused the path. -/
  | refused (error : FileError)
  /-- The path holds the character NUL, which no operating system accepts in a path. -/
  | nullInPath
  deriving DecidableEq, Repr

/-- What stands at a place of the file system. -/
inductive Entry where
  | file (content : List UInt8)
  | folder
  deriving DecidableEq, Repr

/-- A file system and the directory from which relative paths are read. -/
structure FileSystem where
  /-- The entries below the root, by the names that lead to them. -/
  entries : List (List String × Entry) := []
  /-- The working directory, as names from the root. -/
  cwd : List String := []
  /-- How many folders at the end of the working directory have been removed since it was
  entered. -/
  lost : Nat := 0

/-- Where a walk along a path has come to. -/
structure Spot where
  /-- The names that lead there from the root. -/
  place : List String
  /-- How many folders at the end of the place have been removed.  They hold nothing any more, but
  can be left upwards. -/
  lost : Nat := 0
  deriving DecidableEq, Repr

/-- The folder above. -/
def Spot.up (s : Spot) : Spot :=
  ⟨s.place.dropLast, s.lost - 1⟩

namespace FileSystem

/-- What stands at a place; the root is always a folder. -/
def entry? (fs : FileSystem) : List String → Option Entry
  | [] => some .folder
  | place => fs.entries.lookup place

/-- The longest name, in bytes. -/
def nameLimit : Nat := 255

/-- The length from which on a path is too long, in bytes. -/
def pathLimit : Nat := 4096

/-- What stands at a spot. -/
def entryAt? (fs : FileSystem) (s : Spot) : Option Entry :=
  if s.lost = 0 then fs.entry? s.place else some .folder

/-- Follows names from a spot: only folders can be entered, `..` goes up, and a name has to fit the
limit before it is looked up. -/
def follow (fs : FileSystem) (s : Spot) : List String → Except FileRefusal Spot
  | [] => .ok s
  | name :: rest =>
    match fs.entryAt? s with
    | some .folder =>
      if name == ".." then follow fs s.up rest
      else if s.lost ≠ 0 then .error .missing
      else if nameLimit < name.utf8ByteSize then .error .tooLong
      else
        match fs.entry? (s.place ++ [name]) with
        | none => .error .missing
        | some _ => follow fs { place := s.place ++ [name] } rest
    | some (.file _) => .error .notFolder
    | none => .error .missing

/-- The spot from which a path is followed. -/
def origin (fs : FileSystem) (p : Path) : Spot :=
  if p.slashes = 0 then ⟨fs.cwd, fs.lost⟩ else ⟨[], 0⟩

/-- The spot that a path leads to. -/
def locate (fs : FileSystem) (p : Path) : Except FileRefusal Spot :=
  if pathLimit ≤ p.toString.utf8ByteSize then .error .tooLong
  else fs.follow (fs.origin p) p.parts

/-- The bytes of the file at a path. -/
def read (fs : FileSystem) (p : Path) : Except AccessError (List UInt8) :=
  if p.toString.toList.contains '\x00' then .error .nullInPath
  else
    match fs.locate p with
    | .error refusal => .error (.refused ⟨refusal, p.toString⟩)
    | .ok spot =>
      match fs.entryAt? spot with
      | some (.file content) => .ok content
      | some .folder => .error (.refused ⟨.isFolder, p.toString⟩)
      | none => .error (.refused ⟨.missing, p.toString⟩)

/-- Says whether a path leads to a file.  A path that leads nowhere is an answer; a path that is
too long is an error. -/
def isFile (fs : FileSystem) (p : Path) : Except FileError Bool :=
  match fs.locate p with
  | .ok spot =>
    match fs.entryAt? spot with
    | some (.file _) => .ok true
    | _ => .ok false
  | .error .tooLong => .error ⟨.tooLong, p.toString⟩
  | .error _ => .ok false

/-! ### Changes -/

/-- The proper beginnings of a place other than the root, shortest first. -/
def ancestors (place : List String) : List (List String) :=
  (List.range (place.length - 1)).map fun n => place.take (n + 1)

/-- Makes a folder, and the folders above it that are missing. -/
def makeFolder (fs : FileSystem) (place : List String) : FileSystem :=
  let places := (ancestors place ++ [place]).filter fun p => (fs.entry? p).isNone
  { fs with entries := fs.entries ++ places.map fun p => (p, .folder) }

/-- Writes a file, and makes the folders above it that are missing. -/
def write (fs : FileSystem) (place : List String) (content : List UInt8) : FileSystem :=
  let fs := fs.makeFolder place.dropLast
  { fs with entries := Entries.put fs.entries place (.file content) }

/-- Removes what stands at a place, with everything below it.  The working directory may be lost. -/
def remove (fs : FileSystem) (place : List String) : FileSystem where
  entries := fs.entries.filter fun entry => !(place.isPrefixOf entry.1)
  cwd := fs.cwd
  lost :=
    if place.isPrefixOf fs.cwd then max fs.lost (fs.cwd.length + 1 - place.length) else fs.lost

/-- Makes the folder that a path leads to the working directory. -/
def enter (fs : FileSystem) (p : Path) : Except FileRefusal FileSystem :=
  match fs.locate p with
  | .error refusal => .error refusal
  | .ok spot =>
    match fs.entryAt? spot with
    | some .folder => .ok { fs with cwd := spot.place, lost := spot.lost }
    | some (.file _) => .error .notFolder
    | none => .error .missing

/-- The place that a path names, with `..` resolved by name alone.  A path that stays in folders
that have been removed names none. -/
def placeOf (fs : FileSystem) (p : Path) : Except FileRefusal (List String) :=
  if p.slashes = 0 ∧ (p.parts.takeWhile (· == "..")).length < fs.lost then .error .missing
  else .ok (p.absolute fs.cwd)

/-- Opens a file for appending, by an absolute path without `..`: the place of the file, which need
not exist yet as long as its folder does. -/
def openToAppend (fs : FileSystem) (p : Path) : Except AccessError (List String) :=
  let path := p.toString
  let refuse (refusal : FileRefusal) : Except AccessError (List String) :=
    .error (.refused ⟨refusal, path⟩)
  if path.toList.contains '\x00' then .error .nullInPath
  else if pathLimit ≤ path.utf8ByteSize then refuse .tooLong
  else
    match fs.follow ⟨[], 0⟩ p.parts.dropLast with
    | .error refusal => refuse refusal
    | .ok ⟨folder, _⟩ =>
      match p.parts.getLast?, fs.entry? folder with
      | none, _ => refuse .isFolder
      | some name, some .folder =>
        if nameLimit < name.utf8ByteSize then refuse .tooLong
        else
          match fs.entry? (folder ++ [name]) with
          | some .folder => refuse .isFolder
          | _ => .ok (folder ++ [name])
      | some _, _ => refuse .notFolder

/-- Adds bytes at the end of the file at a place, which is made if it is missing. -/
def append (fs : FileSystem) (place : List String) (content : List UInt8) : FileSystem :=
  match fs.entry? place with
  | some (.file before) => fs.write place (before ++ content)
  | _ => fs.write place content

end FileSystem

end AttrLint
