import AttrLint.Halt
import AttrLint.Requirement
import AttrLint.TextFile

namespace AttrLint

/-!
# Rule files

* `RuleFile.load` — the rule set of a rule file.
* `RuleFile.find` — the nearest rule file from a folder upwards.
-/

namespace RuleFile

/-- Why a rule file without readable text ends a run. -/
def haltOf (path : String) : TextError → Halt
  | .access .nullInPath => .escaped .nullInPath
  | .access (.refused e) => .reported (.configRead path (.file e))
  | .undecodable e => .reported (.configRead path (.undecodable e))

/-- What loading a rule file comes to: its rules or why there are none, and the warnings. -/
structure Loaded where
  rules : Except Halt RuleSet
  log : List LogRecord := []

/-- The rules of a table, for a rule file at `path`. -/
def ofTable (path : String) (table : Toml.Table) : Loaded :=
  match RuleShape.extract table with
  | (log, .ok mapping) => ⟨.ok (RuleSet.ofMapping mapping), log⟩
  | (log, .error e) => ⟨.error (.reported (.configParse path (.shape e))), log⟩

/-- The rules of a text, for a rule file at `path`. -/
def ofText (path : String) (text : List Char) : Loaded :=
  match Toml.parse text with
  | .ok table => ofTable path table
  | .error (.invalid e) => ⟨.error (.reported (.configParse path (.toml e))), []⟩
  | .error (.tooManyDigits digits) => ⟨.error (.escaped (.integer digits)), []⟩
  | .error .tooDeep => ⟨.error (.escaped .nesting), []⟩

/-- Loads a rule file. -/
def load (fs : FileSystem) (path : Path) : Loaded :=
  match fs.readText path with
  | .error e => ⟨.error (haltOf path.toString e), []⟩
  | .ok text => ofText path.toString text

/-! ### Discovery -/

/-- The place itself and everything above it, innermost first. -/
def upwards (place : List String) : List (List String) :=
  (List.range (place.length + 1)).map fun n => place.take (place.length - n)

/-- The first of the folders that has a rule file. -/
def findIn (fs : FileSystem) : List (List String) → Except FileError (Option Path)
  | [] => .ok none
  | folder :: rest =>
    let candidate := (Path.ofAbsolute folder).child ruleFileName
    match fs.isFile candidate with
    | .error e => .error e
    | .ok true => .ok (some candidate)
    | .ok false => findIn fs rest

/-- The nearest rule file from `start` upwards, or from the working directory, which must not have
been removed if the search depends on it. -/
def find (fs : FileSystem) (start : Option Path) : Except Escape (Option Path) :=
  let start := start.getD ⟨0, []⟩
  if start.toString.toList.contains '\x00' then .error .nullInPath
  else if start.slashes = 0 ∧ 0 < fs.lost then .error .lostFolder
  else (findIn fs (upwards (start.absolute fs.cwd))).mapError .file

end RuleFile

end AttrLint
