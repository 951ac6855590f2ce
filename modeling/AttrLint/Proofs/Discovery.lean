import Mathlib.Control.Monad.Basic
import Mathlib.Logic.Function.Iterate
import AttrLint.Proofs.Console
import AttrLint.Proofs.Outcomes
import AttrLint.Proofs.Paths

namespace AttrLint

/-!
# The nearest rule file

Without a given rule file, a check looks for one in the working directory and in the folders above
it.  The search resolves `..` by name, passes over folders that bear the name of a rule file, and
does not ask whether the start exists.

* `RuleFile.IsNearest` — the first folder on the way up that has a rule file.
* `RuleFile.findIn_upwards` — the search as one for the least number of folders to go up.
* `Request.parse_config` — a rule file before all other arguments.
* `Command.runIn_config` — a check with the rule file that is found is the check without one.
* `RuleFile.find_exact` — the main statement: the search gives the nearest rule file, unless the
  first candidate is too long for a path, and a check without a rule file uses what it gives.
-/

/-! ### The search -/

namespace RuleFile

open FileSystem (AreSteps IsName pathLimit nameLimit)

variable {fs : FileSystem}

/-- The place of the rule file that is looked for `i` folders above a place. -/
def candidate (place : List String) (i : Nat) : List String :=
  List.dropLast^[i] place ++ [ruleFileName]

/-- Says that the nearest rule file stands `i` folders above a place. -/
def IsNearest (fs : FileSystem) (place : List String) (i : Nat) : Prop :=
  i ≤ place.length ∧ fs.HasFile (candidate place i) ∧ ∀ j < i, ¬ fs.HasFile (candidate place j)

/-- A candidate has a name, that of the rule file. -/
theorem candidate_ne_nil (place : List String) (i : Nat) : candidate place i ≠ [] := by
  simp [candidate]

/-- Going up takes names from the end. -/
theorem iterate_dropLast (place : List String) (i : Nat) :
    List.dropLast^[i] place = place.take (place.length - i) := by
  induction i with
  | zero => simp
  | succ i ih =>
    rw [Function.iterate_succ_apply', ih, List.dropLast_eq_take, List.take_take, List.length_take]
    congr 1
    omega

/-- The search in folders in which every candidate is short enough for a path. -/
theorem findIn_eq {folders : List (List String)}
    (hfolders : ∀ folder ∈ folders, AreSteps (folder ++ [ruleFileName]) ∧
      (Path.ofAbsolute (folder ++ [ruleFileName])).toString.utf8ByteSize < pathLimit) :
    findIn fs folders =
      .ok ((folders.find? fun folder => decide (fs.HasFile (folder ++ [ruleFileName]))).map
        fun folder => Path.ofAbsolute (folder ++ [ruleFileName])) := by
  induction folders with
  | nil => rfl
  | cons folder rest ih =>
    obtain ⟨hsteps, hsize⟩ := hfolders folder List.mem_cons_self
    have hfile : fs.isFile ((Path.ofAbsolute folder).child ruleFileName) =
        .ok (decide (fs.HasFile (folder ++ [ruleFileName]))) :=
      FileSystem.isFile_ofAbsolute hsteps hsize
    have htail := ih fun other hmem => hfolders other (List.mem_cons_of_mem folder hmem)
    rw [findIn]
    by_cases hhas : fs.HasFile (folder ++ [ruleFileName])
    · rw [decide_eq_true hhas] at hfile
      simp only [hfile, List.find?_cons, decide_eq_true hhas]
      rfl
    · rw [decide_eq_false hhas] at hfile
      simp only [hfile, List.find?_cons, decide_eq_false hhas]
      exact htail

/-- The names of a candidate are those of the place, and the rule file. -/
theorem mem_candidate {place : List String} {i : Nat} {name : String}
    (h : name ∈ candidate place i) : name ∈ place ∨ name = ruleFileName := by
  rw [candidate, iterate_dropLast] at h
  obtain h | h := List.mem_append.mp h
  · exact .inl (List.mem_of_mem_take h)
  · exact .inr (List.mem_singleton.mp h)

/-- Going up from usable names meets usable names only. -/
theorem areSteps_candidate {place : List String} (hplace : AreSteps place) (i : Nat) :
    AreSteps (candidate place i) := by
  intro name hmem
  obtain hmem | rfl := mem_candidate hmem
  · exact hplace name hmem
  · decide

/-- Candidates get shorter on the way up. -/
theorem size_candidate_le (place : List String) (i : Nat) :
    (Path.ofAbsolute (candidate place i)).toString.utf8ByteSize ≤
      (Path.ofAbsolute (candidate place 0)).toString.utf8ByteSize := by
  have htake := Path.bytes_take_le place (place.length - i)
  rw [Path.utf8ByteSize_ofAbsolute (candidate_ne_nil place i),
    Path.utf8ByteSize_ofAbsolute (candidate_ne_nil place 0), candidate, candidate,
    iterate_dropLast, Path.bytes_append, Path.bytes_append]
  exact Nat.add_le_add_right htake _

/-- The search from a place upwards, as a search by the number of folders. -/
theorem findIn_upwards {place : List String} (hplace : AreSteps place)
    (hsize : (Path.ofAbsolute (candidate place 0)).toString.utf8ByteSize < pathLimit) :
    findIn fs (upwards place) =
      .ok (((List.range (place.length + 1)).find? fun i =>
        decide (fs.HasFile (candidate place i))).map fun i =>
          Path.ofAbsolute (candidate place i)) := by
  have hfolders : upwards place =
      (List.range (place.length + 1)).map fun i => List.dropLast^[i] place :=
    List.map_congr_left fun i _ => (iterate_dropLast place i).symm
  rw [hfolders, findIn_eq, List.find?_map, Option.map_map]
  · rfl
  · intro folder hmem
    obtain ⟨i, -, rfl⟩ := List.mem_map.mp hmem
    exact ⟨areSteps_candidate hplace i, Nat.lt_of_le_of_lt (size_candidate_le place i) hsize⟩

/-- **What the search finds** is the nearest rule file. -/
theorem findIn_upwards_eq_some_iff {place : List String} (hplace : AreSteps place)
    (hsize : (Path.ofAbsolute (candidate place 0)).toString.utf8ByteSize < pathLimit)
    {path : Path} :
    findIn fs (upwards place) = .ok (some path) ↔
      ∃ i, IsNearest fs place i ∧ path = Path.ofAbsolute (candidate place i) := by
  rw [findIn_upwards hplace hsize, Except.ok.injEq, Option.map_eq_some_iff]
  refine exists_congr fun i => and_congr ?_ eq_comm
  rw [List.find?_range_eq_some]
  simp only [decide_eq_true_eq, List.mem_range, Bool.not_eq_true', decide_eq_false_iff_not,
    IsNearest, Nat.lt_succ_iff]
  tauto

/-- **The search finds nothing** exactly if there is no rule file on the way up. -/
theorem findIn_upwards_eq_none_iff {place : List String} (hplace : AreSteps place)
    (hsize : (Path.ofAbsolute (candidate place 0)).toString.utf8ByteSize < pathLimit) :
    findIn fs (upwards place) = .ok none ↔
      ∀ i ≤ place.length, ¬ fs.HasFile (candidate place i) := by
  rw [findIn_upwards hplace hsize, Except.ok.injEq, Option.map_eq_none_iff,
    List.find?_range_eq_none]
  simp only [decide_eq_false_iff_not, Bool.not_eq_true', Nat.lt_succ_iff]

/-- A first candidate that is too long ends the search at once. -/
theorem findIn_upwards_tooLong {place : List String}
    (hsize : pathLimit ≤ (Path.ofAbsolute (candidate place 0)).toString.utf8ByteSize) :
    findIn fs (upwards place) =
      .error ⟨.tooLong, (Path.ofAbsolute (candidate place 0)).toString⟩ := by
  have hfirst : upwards place = place :: (upwards place).tail := by
    simp [upwards, List.range_succ_eq_map]
  have hfile : fs.isFile ((Path.ofAbsolute place).child ruleFileName) =
      .error ⟨.tooLong, (Path.ofAbsolute (candidate place 0)).toString⟩ :=
    FileSystem.isFile_tooLong hsize
  rw [hfirst, findIn]
  simp only [hfile]

/-- The path that a search starts from. -/
def startOf (given : Option Path) : Path :=
  given.getD ⟨0, []⟩

/-- Says that the operating system takes every name of a given path, and the path too. -/
def IsUsable (given : Option Path) : Prop :=
  ∀ start ∈ given,
    (∀ name ∈ start.parts, name.utf8ByteSize ≤ nameLimit) ∧ '\x00' ∉ start.toString.toList

/-- The names of the start are short enough, also if none is given. -/
theorem IsUsable.short {given : Option Path} (h : IsUsable given) :
    ∀ name ∈ (startOf given).parts, name.utf8ByteSize ≤ nameLimit := by
  cases given with
  | none => simp [startOf]
  | some start => exact (h start rfl).1

/-- Nor does the start hold the character NUL. -/
theorem IsUsable.no_null {given : Option Path} (h : IsUsable given) :
    '\x00' ∉ (startOf given).toString.toList := by
  cases given with
  | none => decide
  | some start => exact (h start rfl).2

/-- The search needs the working directory only for a relative start. -/
theorem find_eq {given : Option Path} (hgiven : IsUsable given) :
    find fs given =
      if (startOf given).slashes = 0 ∧ 0 < fs.lost then .error .lostFolder
      else (findIn fs (upwards ((startOf given).absolute fs.cwd))).mapError .file := by
  have hnull : (startOf given).toString.toList.contains '\x00' = false := by
    simpa using hgiven.no_null
  unfold find
  exact if_neg (by rw [← startOf, hnull]; simp)

/-- The absolute place of a usable start has usable names. -/
theorem areSteps_absolute {given : Option Path} (hgiven : IsUsable given)
    (hcwd : ∀ name ∈ fs.cwd, IsName name) :
    AreSteps ((startOf given).absolute fs.cwd) := by
  intro name hmem
  obtain hmem | ⟨hmem, hup⟩ := Path.mem_resolveParts hmem
  · cases hmem
  · refine ⟨hup, ?_⟩
    split at hmem
    · obtain hmem | hmem := List.mem_append.mp hmem
      · exact (hcwd name hmem).short
      · exact hgiven.short name hmem
    · exact hgiven.short name hmem

end RuleFile

/-! ### The rule file among the arguments -/

namespace Arguments

/-- The arguments with a rule file, unless they have one. -/
def withConfig (value : String) (a : Arguments) : Arguments :=
  { a with config := a.config.or (some value) }

/-- A flag does not set the rule file. -/
theorem setFlag_withConfig (value : String) (a : Arguments) (flag : FlagOption) :
    (a.withConfig value).setFlag flag = (a.setFlag flag).withConfig value := by
  cases flag <;> rfl

/-- An option with a value sets the rule file, or leaves it as it is. -/
theorem setValue_withConfig (value : String) (a : Arguments) (option : ValueOption)
    (other : String) :
    (a.withConfig value).setValue option other = (a.setValue option other).withConfig value := by
  cases option <;> rfl

/-- Options by letter do the same. -/
theorem takeLetters_withConfig (value : String) (a : Arguments) (letters : List Char)
    (rest : List String) :
    (a.withConfig value).takeLetters letters rest =
      (a.takeLetters letters rest).map (Prod.map (withConfig value) id) := by
  fun_induction takeLetters a letters rest with
  | case1 => rfl
  | case2 => simp_all [takeLetters]
  | case3 a c cs rest flag hoption ih =>
    simp only [takeLetters, hoption, setFlag_withConfig, ih]
  | case4 => simp_all [takeLetters]
  | case5 => simp_all [takeLetters, setValue_withConfig]
  | case6 => simp_all [takeLetters, setValue_withConfig]

/-- So do all options. -/
theorem takeOption_withConfig (value : String) (a : Arguments) (argument : List Char)
    (rest : List String) :
    (a.withConfig value).takeOption argument rest =
      (a.takeOption argument rest).map (Prod.map (withConfig value) id) := by
  simp only [takeOption, setValue_withConfig, setFlag_withConfig, takeLetters_withConfig]
  split
  case h_6 => split <;> rfl
  all_goals rfl

/-- An option takes what follows it from the front. -/
theorem length_takeLetters {a a' : Arguments} {letters : List Char} {rest rest' : List String}
    (h : a.takeLetters letters rest = some (a', rest')) : rest'.length ≤ rest.length := by
  fun_induction takeLetters a letters rest with
  | case3 a c cs rest flag hoption ih => exact ih h
  | _ => simp_all

/-- So does an option by its name. -/
theorem length_takeOption {a a' : Arguments} {argument : List Char} {rest rest' : List String}
    (h : a.takeOption argument rest = some (a', rest')) : rest'.length ≤ rest.length := by
  simp only [takeOption] at h
  split at h
  case h_6 =>
    split at h
    · cases h
    · exact length_takeLetters h
  all_goals simp_all

/-- A rule file that is set before the arguments are taken is overwritten by one among them. -/
theorem takeAll_withConfig (value : String) (turns : Nat) (a : Arguments)
    (arguments : List String) :
    takeAll turns (a.withConfig value) arguments =
      (takeAll turns a arguments).map (withConfig value) := by
  induction turns generalizing a arguments with
  | zero => simp [takeAll]
  | succ turns ih =>
    cases arguments with
    | nil => simp [takeAll]
    | cons argument rest =>
      simp only [takeAll, takeOption_withConfig]
      split
      · rfl
      · cases a.takeOption _ rest with
        | none => rfl
        | some taken => exact ih taken.1 taken.2
      · exact ih { a with files := argument :: a.files } rest

/-- As many turns as there are arguments are enough. -/
theorem takeAll_succ {turns : Nat} {arguments : List String} (h : arguments.length ≤ turns)
    (a : Arguments) : takeAll (turns + 1) a arguments = takeAll turns a arguments := by
  induction turns generalizing a arguments with
  | zero =>
    rw [List.length_eq_zero_iff.mp (Nat.le_zero.mp h)]
    rfl
  | succ turns ih =>
    cases arguments with
    | nil => rfl
    | cons argument rest =>
      have hrest : rest.length ≤ turns := by simpa using h
      rw [takeAll, takeAll]
      split
      · rfl
      · cases htaken : a.takeOption _ rest with
        | none => rfl
        | some taken =>
          -- An option takes its value along, so no more arguments are left than before.
          have hlength := length_takeOption htaken
          exact ih (by omega) taken.1
      · exact ih hrest _

/-- A rule file before all other arguments is the same as one that is set before. -/
theorem takeAll_config (value : String) (arguments : List String) :
    takeAll ("--config" :: value :: arguments).length {} ("--config" :: value :: arguments) =
      (takeAll arguments.length {} arguments).map (withConfig value) := by
  have hfirst : takeAll ("--config" :: value :: arguments).length {}
      ("--config" :: value :: arguments) =
        takeAll (arguments.length + 1) (withConfig value {}) arguments := rfl
  rw [hfirst, takeAll_succ (Nat.le_refl _), takeAll_withConfig]

end Arguments

namespace Request

/-- The request of a check, with its two reasons to be refused made plain. -/
theorem checkOf?_eq (a : Arguments) :
    checkOf? a = (a.format.elim (some .text) format?).bind fun format =>
      if a.config.any hasNull || a.files.any hasNull then none
      else some {
        config := a.config.map Path.ofString
        format := format
        verbose := a.verbose
        files := a.files.reverse.map Path.ofString } := by
  unfold checkOf?
  cases a.format <;> rfl

/-- A rule file is added to a request that has none. -/
theorem checkOf?_withConfig {a : Arguments} {request : CheckRequest}
    (h : checkOf? a = some request) (hconfig : request.config = none) {value : String}
    (hvalue : '\x00' ∉ value.toList) :
    checkOf? (a.withConfig value) =
      some { request with config := some (Path.ofString value) } := by
  have hnull : hasNull value = false := by simpa [hasNull] using hvalue
  rw [checkOf?_eq] at h ⊢
  obtain ⟨format, hformat, h⟩ := Option.bind_eq_some_iff.mp h
  by_cases hany : (a.config.any hasNull || a.files.any hasNull) = true
  · rw [if_pos hany] at h
    cases h
  · rw [if_neg hany] at h
    cases h
    have hnone : a.config = none := by simpa using hconfig
    have hfiles : a.files.any hasNull = false := by simpa [hnone] using hany
    simp only [Arguments.withConfig]
    rw [hformat]
    simp [hnone, hnull, hfiles]

/-- A rule file before all other arguments is the rule file of a check that has none. -/
theorem parse_config {arguments : List String} {request : CheckRequest}
    (h : parse arguments = .check request) (hconfig : request.config = none) {value : String}
    (hvalue : '\x00' ∉ value.toList) :
    parse ("--config" :: value :: arguments) =
      .check { request with config := some (Path.ofString value) } := by
  unfold parse at h ⊢
  rw [Arguments.takeAll_config]
  cases htaken : Arguments.takeAll arguments.length {} arguments with
  | none => simp [htaken] at h
  | some a =>
    -- What is answered before a check does not depend on the rule file.
    have heager : (a.withConfig value).eager = a.eager := rfl
    simp only [htaken, Option.map_some, ofArguments, heager] at h ⊢
    split at h
    · cases h
    · cases h
    · split at h
      · next hcheck =>
        cases h
        simp only [checkOf?_withConfig hcheck hconfig hvalue]
      · cases h

end Request

/-! ### Checks without a rule file -/

namespace Command

variable {view : View} {sink : Sink} {request : CheckRequest}

/-- What a check tells that finds no rule file from `cwd` upwards. -/
def notFoundSignals (cwd : List String) : List Signal :=
  [.notice .handshake,
    .notice (.error (RunError.configRead ruleFileName
      (.noRuleFile (Path.ofAbsolute cwd).toString)).text)]

/-- A check that is given the file it would find does the same. -/
theorem check_found (hconfig : request.config = none) {path : Path}
    (h : RuleFile.find (view [.notice .handshake]) none = .ok (some path)) :
    check view sink { request with config := some path } = check view sink request := by
  have hpath : configPath (view [.notice .handshake]) request.config = .ok path := by
    simp only [configPath, hconfig, h]
  have hgiven : configPath (view [.notice .handshake]) (some path) = .ok path := rfl
  simp only [check_eq, told, checkRun, greeted, hpath, hgiven]

/-- A check that finds no rule file reports that, and ends with status two. -/
theorem check_notFound (hconfig : request.config = none)
    (h : RuleFile.find (view [.notice .handshake]) none = .ok none) :
    check view sink request =
      ⟨.ok 2, sink,
        (Telemetry.standard request.verbose).console
          (notFoundSignals (view [.notice .handshake]).cwd),
        (Telemetry.standard request.verbose).log
          (notFoundSignals (view [.notice .handshake]).cwd)⟩ := by
  have hpath : configPath (view [.notice .handshake]) request.config =
      .error (.reported (.configRead ruleFileName
        (.noRuleFile (Path.ofAbsolute (view [.notice .handshake]).cwd).toString))) := by
    simp only [configPath, hconfig, h]
  simp only [check_eq, told, checkRun, greeted, hpath]
  rfl

/-- A check whose search fails ends with that error, after the greeting. -/
theorem check_searchFailed (hconfig : request.config = none) {e : Escape}
    (h : RuleFile.find (view [.notice .handshake]) none = .error e) :
    check view sink request =
      ⟨.error e, sink, (Telemetry.standard request.verbose).console [.notice .handshake],
        (Telemetry.standard request.verbose).log [.notice .handshake]⟩ := by
  have hpath : configPath (view [.notice .handshake]) request.config = .error (.escaped e) := by
    simp only [configPath, hconfig, h]
  simp only [check_eq, told, checkRun, greeted, hpath]
  rfl

/-- A command that asks for a check is that check. -/
theorem runIn_check {texts : Texts} {arguments : List String}
    (h : Request.parse arguments = .check request) :
    runIn texts view sink arguments = check view sink request := by
  simp only [runIn, h]

/-- A check without a rule file is the check with the one that is found. -/
theorem runIn_config {texts : Texts} {arguments : List String}
    (h : Request.parse arguments = .check request) (hconfig : request.config = none)
    {place : List String} (hne : place ≠ [])
    (hplace : ∀ name ∈ place, FileSystem.IsName name)
    (hfind : RuleFile.find (view [.notice .handshake]) none =
      .ok (some (Path.ofAbsolute place))) :
    runIn texts view sink ("--config" :: (Path.ofAbsolute place).toString :: arguments) =
      runIn texts view sink arguments := by
  have hnull : '\x00' ∉ (Path.ofAbsolute place).toString.toList :=
    Path.no_null_toString fun name hmem => (hplace name hmem).no_null
  rw [runIn_check (Request.parse_config h hconfig hnull), runIn_check h,
    Path.ofString_toString hne hplace, check_found hconfig hfind]

end Command

namespace RuleFile

open FileSystem (IsName pathLimit nameLimit)

variable {fs : FileSystem}

/-- The names of a candidate are names, so that its text leads back to it. -/
theorem isName_candidate {place : List String} (hplace : ∀ name ∈ place, IsName name) (i : Nat) :
    ∀ name ∈ candidate place i, IsName name := by
  intro name hmem
  obtain hmem | rfl := mem_candidate hmem
  · exact hplace name hmem
  · decide

/-- Without a start the search begins in the working directory. -/
theorem absolute_startOf_none (hcwd : ∀ name ∈ fs.cwd, IsName name) :
    (startOf none).absolute fs.cwd = fs.cwd := by
  have hup : ".." ∉ fs.cwd := fun hmem => (hcwd ".." hmem).ne_up rfl
  show Path.resolveParts [] (fs.cwd ++ []) = fs.cwd
  rw [Path.resolveParts_names hup]
  simp [Path.resolveParts]

/-- What is found from the working directory is one of its candidates. -/
theorem exists_candidate_of_find (hcwd : ∀ name ∈ fs.cwd, IsName name) {path : Path}
    (h : find fs none = .ok (some path)) :
    ∃ i, path = Path.ofAbsolute (candidate fs.cwd i) := by
  have husable : IsUsable none := by simp [IsUsable]
  have hsteps : FileSystem.AreSteps ((startOf none).absolute fs.cwd) :=
    areSteps_absolute husable hcwd
  rw [find_eq husable] at h
  rw [absolute_startOf_none hcwd] at h hsteps
  split at h
  · cases h
  · by_cases hsize :
        (Path.ofAbsolute (candidate fs.cwd 0)).toString.utf8ByteSize < pathLimit
    · obtain ⟨i, -, hpath⟩ :=
        (findIn_upwards_eq_some_iff hsteps hsize).mp (mapError_eq_ok_iff.mp h)
      exact ⟨i, hpath⟩
    · rw [findIn_upwards_tooLong (by omega)] at h
      cases h

/-- The search gives the nearest rule file from the absolute place of the start upwards, whether or
not the start exists, and nothing if there is none.  The absolute place is the one that the start
leads to if it exists.  Only a relative start in a removed working directory, and a start whose
first candidate is too long for a path, end the search with an error, also if there is a rule file
further up; a lack of access rights is not among the errors, since files have none here.  A check
without a rule file does what the check with the one from the working directory does; without any,
it ends with status two before it looks at a document. -/
theorem find_exact (fs : FileSystem) (given : Option Path)
    (hcwd : ∀ name ∈ fs.cwd, IsName name) (hgiven : IsUsable given) :
    let start := startOf given
    let place := start.absolute fs.cwd
    let first := (Path.ofAbsolute (candidate place 0)).toString
    (∀ spot, fs.locate start = .ok spot → spot.place = place) ∧
    (start.slashes = 0 ∧ 0 < fs.lost → find fs given = .error .lostFolder) ∧
    (¬(start.slashes = 0 ∧ 0 < fs.lost) →
      (pathLimit ≤ first.utf8ByteSize → find fs given = .error (.file ⟨.tooLong, first⟩)) ∧
      (first.utf8ByteSize < pathLimit →
        (∀ path, find fs given = .ok (some path) ↔
          ∃ i, IsNearest fs place i ∧ path = Path.ofAbsolute (candidate place i)) ∧
        (find fs given = .ok none ↔ ∀ i ≤ place.length, ¬ fs.HasFile (candidate place i)))) ∧
    ∀ (texts : Command.Texts) (view : View) (sink : Sink) (arguments : List String)
      (request : CheckRequest),
      view [.notice .handshake] = fs → Request.parse arguments = .check request →
      request.config = none →
      (∀ path, find fs none = .ok (some path) →
        Command.runIn texts view sink ("--config" :: path.toString :: arguments) =
          Command.runIn texts view sink arguments) ∧
      (find fs none = .ok none →
        Command.runIn texts view sink arguments =
          ⟨.ok 2, sink,
            (Telemetry.standard request.verbose).console (Command.notFoundSignals fs.cwd),
            (Telemetry.standard request.verbose).log (Command.notFoundSignals fs.cwd)⟩) ∧
      (∀ e, find fs none = .error e →
        Command.runIn texts view sink arguments =
          ⟨.error e, sink, (Telemetry.standard request.verbose).console [.notice .handshake],
            (Telemetry.standard request.verbose).log [.notice .handshake]⟩) := by
  intro start place first
  have hup : ".." ∉ fs.cwd := fun hmem => (hcwd ".." hmem).ne_up rfl
  have hsteps : FileSystem.AreSteps place := areSteps_absolute hgiven hcwd
  refine ⟨fun spot h => FileSystem.place_of_locate hup h, ?_, ?_, ?_⟩
  · intro hlost
    rw [find_eq hgiven, if_pos hlost]
  · -- With an absolute place, the length of the first candidate decides, since it is the longest.
    intro hlost
    rw [find_eq hgiven, if_neg hlost]
    refine ⟨fun hsize => ?_, fun hsize => ⟨fun path => ?_, ?_⟩⟩
    · rw [findIn_upwards_tooLong hsize]
      rfl
    · rw [mapError_eq_ok_iff, findIn_upwards_eq_some_iff hsteps hsize]
    · rw [mapError_eq_ok_iff, findIn_upwards_eq_none_iff hsteps hsize]
  · rintro texts view sink arguments request rfl hparse hconfig
    rw [Command.runIn_check hparse]
    refine ⟨fun path hfind => ?_, Command.check_notFound hconfig,
      fun e => Command.check_searchFailed hconfig⟩
    -- What is found is a candidate, so its text is read as the same path when it is given.
    obtain ⟨i, rfl⟩ := exists_candidate_of_find hcwd hfind
    rw [← Command.runIn_check hparse]
    exact Command.runIn_config hparse hconfig (candidate_ne_nil _ i) (isName_candidate hcwd i) hfind

/-- Files with a rule file above the working directory, in which a folder has that name. -/
def shadowedFiles : FileSystem where
  entries := [(["w"], .folder), (["w", ruleFileName], .file []), (["w", "d"], .folder),
    (["w", "d", ruleFileName], .folder)]
  cwd := ["w", "d"]

/-- The rule file is found past the folder of that name, from a start that does not exist, and a
check uses it. -/
theorem find_exact_past_folder :
    find shadowedFiles (some (Path.ofString "gone/../x.xml")) =
        .ok (some (Path.ofAbsolute ["w", ruleFileName])) ∧
      Command.run ⟨[], ""⟩ shadowedFiles {} ["--config", "/w/xml-requirements.toml", "a.xml"] =
        Command.run ⟨[], ""⟩ shadowedFiles {} ["a.xml"] := by
  have hcwd : ∀ name ∈ shadowedFiles.cwd, IsName name := by decide
  have hgiven : IsUsable (some (Path.ofString "gone/../x.xml")) := by
    rintro start ⟨⟩
    decide
  have hnone : IsUsable none := by simp [IsUsable]
  have hfind : find shadowedFiles none = .ok (some (Path.ofAbsolute ["w", ruleFileName])) := by
    decide +kernel
  constructor
  · obtain ⟨-, -, hsearch, -⟩ := find_exact shadowedFiles _ hcwd hgiven
    apply (((hsearch (by decide)).2 (by decide +kernel)).1 _).mpr
    exact ⟨2, by unfold IsNearest; decide +kernel, by decide +kernel⟩
  · obtain ⟨-, -, -, hcheck⟩ := find_exact shadowedFiles none hcwd hnone
    have hsame := (hcheck ⟨[], ""⟩ (fun _ => shadowedFiles) {} ["a.xml"]
      ⟨none, .text, false, [Path.ofString "a.xml"]⟩ rfl rfl rfl).1 _ hfind
    have htext : (Path.ofAbsolute ["w", ruleFileName]).toString = "/w/xml-requirements.toml" := by
      decide +kernel
    rw [htext] at hsame
    rw [Command.run, Command.run, hsame]

/-- A folder with a rule file, and nothing else. -/
def lonelyFiles : FileSystem where
  entries := [([ruleFileName], .file [])]

/-- A start that lies `depth` folders below the working directory. -/
def deepStart (depth : Nat) : Path where
  slashes := 0
  parts := List.replicate depth "a"

/-- The start itself is one that the operating system takes. -/
theorem isUsable_deepStart (depth : Nat) : IsUsable (some (deepStart depth)) := by
  rintro start ⟨⟩
  have hname : ∀ name ∈ (deepStart depth).parts, name = "a" :=
    fun name => List.eq_of_mem_replicate
  refine ⟨fun name hmem => ?_, Path.no_null_toString fun name hmem => ?_⟩
  · rw [hname name hmem]
    decide
  · rw [hname name hmem]
    decide

/-- Seen from the root, it has the same names. -/
theorem absolute_deepStart (depth : Nat) :
    (deepStart depth).absolute [] = List.replicate depth "a" := by
  have hup : ".." ∉ List.replicate depth "a" :=
    fun hmem => absurd (List.eq_of_mem_replicate hmem) (by decide)
  have hnames := Path.resolveParts_names hup [] []
  rw [List.append_nil] at hnames
  show Path.resolveParts [] (List.replicate depth "a") = _
  rw [hnames]
  simp [Path.resolveParts]

/-- The rule file is at the root, so it is the nearest one. -/
theorem isNearest_deepStart (depth : Nat) :
    IsNearest lonelyFiles (List.replicate depth "a") depth := by
  refine ⟨by simp, ?_, ?_⟩
  · have hroot : candidate (List.replicate depth "a") depth = [ruleFileName] := by
      simp [candidate, iterate_dropLast]
    rw [hroot]
    decide
  · rintro j hj ⟨⟨content, hentry⟩, -⟩
    -- A candidate further down has a name before that of the rule file.
    have hlength : 1 < (candidate (List.replicate depth "a") j).length := by
      simp only [candidate, iterate_dropLast, List.length_append, List.length_take,
        List.length_replicate, List.length_singleton]
      omega
    obtain ⟨place, hplace⟩ : ∃ place, candidate (List.replicate depth "a") j = place := ⟨_, rfl⟩
    rw [hplace] at hentry hlength
    have hne : (place == [ruleFileName]) = false := by
      rw [beq_eq_false_iff_ne]
      rintro rfl
      exact absurd hlength (by simp)
    cases place with
    | nil => simp at hlength
    | cons name rest => simp [FileSystem.entry?, lonelyFiles, List.lookup_cons, hne] at hentry

/-- A start that is deep enough ends the search. -/
theorem find_deepStart {depth : Nat} (h : pathLimit ≤ depth * 2) :
    find lonelyFiles (some (deepStart depth)) =
      .error (.file ⟨.tooLong,
        (Path.ofAbsolute (List.replicate depth "a" ++ [ruleFileName])).toString⟩) := by
  have hsize : pathLimit ≤
      (Path.ofAbsolute (candidate (List.replicate depth "a") 0)).toString.utf8ByteSize := by
    rw [Path.utf8ByteSize_ofAbsolute (candidate_ne_nil _ 0), candidate, Function.iterate_zero, id,
      Path.bytes_append, Path.bytes_replicate]
    exact Nat.le_trans h (Nat.le_add_right _ _)
  have hplace : (startOf (some (deepStart depth))).absolute lonelyFiles.cwd =
      List.replicate depth "a" := absolute_deepStart depth
  rw [find_eq (isUsable_deepStart depth), if_neg (fun hlost => absurd hlost.2 (by decide)), hplace,
    findIn_upwards_tooLong hsize]
  rfl

/-- Not every rule file is found: from a start that is deep enough the search fails at the first
candidate, and does not come to the rule file in the working directory. -/
theorem find_deep_start_escapes :
    IsUsable (some (deepStart 2100)) ∧
      IsNearest lonelyFiles ((deepStart 2100).absolute lonelyFiles.cwd) 2100 ∧
      find lonelyFiles (some (deepStart 2100)) =
        .error (.file ⟨.tooLong,
          (Path.ofAbsolute (List.replicate 2100 "a" ++ [ruleFileName])).toString⟩) := by
  have hnearest : IsNearest lonelyFiles ((deepStart 2100).absolute []) 2100 :=
    (absolute_deepStart 2100).symm ▸ isNearest_deepStart 2100
  exact ⟨isUsable_deepStart 2100, hnearest, find_deepStart (by decide)⟩

end RuleFile

end AttrLint
