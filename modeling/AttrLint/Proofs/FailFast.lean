import Mathlib.Control.Monad.Basic
import AttrLint.Proofs.Runs

namespace AttrLint

/-!
# Runs that stop early have not looked further

A run that stops at a file has seen the rule file and the files up to that one, and nothing else.
So two runs that agree on these are the same run, whatever the other files are.

* `Check.SameFile` — a path leads to the same bytes, or is refused alike, in two views.
* `Check.StopsAt` — a run stops at the file with the given number.
* `Check.checkAll_append`, `Check.checkAll_congr` — files are checked one by one, and each by its
  own bytes.
* `Check.fails_fast` — the main statement.
-/

namespace Check

/-! ### What a run depends on -/

/-- Says that a path leads to the same bytes, or is refused alike, in two views. -/
def SameFile (view view' : View) (path : Path) : Prop :=
  ∀ told, (view' told).read path = (view told).read path

section Congruence

variable {view view' : View}

theorem load_congr {fs fs' : FileSystem} {path : Path} (h : fs'.read path = fs.read path) :
    Document.load fs' path = Document.load fs path := by
  simp only [Document.load, h]

theorem rules_congr {fs fs' : FileSystem} {config : Path} (h : fs'.read config = fs.read config) :
    RuleFile.load fs' config = RuleFile.load fs config := by
  simp only [RuleFile.load, FileSystem.readText, h]

/-- What a run starts with depends on the rule file only. -/
theorem start_congr {config : Path} (h : SameFile view view' config) :
    start view' config = start view config := by
  simp only [start, rules_congr (h [loading config])]

/-- What comes of files depends on these files only. -/
theorem checkAll_congr {paths : List Path} (h : ∀ path ∈ paths, SameFile view view' path)
    (format : Format) (rules : RuleSet) (number : Nat) (p : Progress) :
    checkAll view' format rules number p paths = checkAll view format rules number p paths := by
  induction paths generalizing number p with
  | nil => rfl
  | cons path rest ih =>
    have hload := load_congr (h path List.mem_cons_self
      (p.tell (.step ("Checking " ++ path.toString))).signals.reverse)
    have hrest := ih (fun other hother => h other (List.mem_cons_of_mem path hother))
    simp only [checkAll, hload, hrest]

end Congruence

/-! ### Runs that stop -/

/-- Files in two parts are checked one part after the other. -/
theorem checkAll_append (view : View) (format : Format) (rules : RuleSet) (number : Nat)
    (p : Progress) (front back : List Path) :
    checkAll view format rules number p (front ++ back) =
      match checkAll view format rules number p front with
      | .error run => .error run
      | .ok p => checkAll view format rules (number + front.length) p back := by
  induction front generalizing number p with
  | nil => rfl
  | cons path front ih =>
    rw [List.cons_append, checkAll, checkAll]
    -- The first file decides whether the rest of the first part is reached.
    cases Document.load (view (p.tell (.step ("Checking " ++ path.toString))).signals.reverse) path
      with
    | error halt => rfl
    | ok d =>
      dsimp only
      cases reportAll format number (p.tell (.step ("Checking " ++ path.toString)))
        (checkDocument rules d path.toString) with
      | error run => rfl
      | ok p =>
        dsimp only
        rw [ih, List.length_cons, Nat.add_assoc, Nat.add_comm 1]

/-- Says that a file ends a run that has come to `p` before it: the file cannot be read or parsed,
or a report of one of its violations fails. -/
def Ends (view : View) (format : Format) (rules : RuleSet) (number : Nat) (p : Progress)
    (path : Path) : Prop :=
  let p := p.tell (.step ("Checking " ++ path.toString))
  (∃ halt, Document.load (view p.signals.reverse) path = .error halt) ∨
    ∃ d run, Document.load (view p.signals.reverse) path = .ok d ∧
      reportAll format number p (checkDocument rules d path.toString) = .error run

/-- A file ends a run exactly if the run does not get through it. -/
theorem ends_iff (view : View) (format : Format) (rules : RuleSet) (number : Nat) (p : Progress)
    (path : Path) :
    Ends view format rules number p path ↔
      ∃ run, checkAll view format rules number p [path] = .error run := by
  simp only [Ends, checkAll]
  cases Document.load (view (p.tell (.step ("Checking " ++ path.toString))).signals.reverse) path
    with
  | error halt => simp
  | ok d =>
    cases hreport : reportAll format number (p.tell (.step ("Checking " ++ path.toString)))
        (checkDocument rules d path.toString) with
    | error run => simp [hreport]
    | ok p => simp [hreport]

/-- Says that a run stops at its `k`-th file, counted from one: it loads its rules and gets through
the files before, and this one ends it. -/
def StopsAt (view : View) (format : Format) (sink : Sink) (config : Path) (paths : List Path)
    (k : Nat) : Prop :=
  ∃ rules told front path back p,
    start view config = .ok (rules, told) ∧
    paths = front ++ path :: back ∧ k = front.length + 1 ∧
    checkAll view format rules 1 ⟨sink, told.reverse, []⟩ front = .ok p ∧
    Ends view format rules k p path

/-- A run that stops at its `k`-th file is over once its first `k` files have been checked. -/
theorem StopsAt.checkAll_take {view : View} {format : Format} {sink : Sink} {config : Path}
    {paths : List Path} {k : Nat} (h : StopsAt view format sink config paths k) :
    ∃ rules told run, start view config = .ok (rules, told) ∧
      checkAll view format rules 1 ⟨sink, told.reverse, []⟩ (paths.take k) = .error run := by
  obtain ⟨rules, told, front, path, back, p, hstart, rfl, rfl, hfront, hends⟩ := h
  obtain ⟨run, hpath⟩ := (ends_iff ..).mp hends
  refine ⟨rules, told, run, hstart, ?_⟩
  have htake : (front ++ path :: back).take (front.length + 1) = front ++ [path] := by
    rw [List.take_length_add_append, List.take_succ_cons, List.take_zero]
  rw [Nat.add_comm front.length 1] at hpath
  rw [htake, checkAll_append, hfront]
  exact hpath

/-- A run whose first `k` files end it is what they make of it. -/
theorem runIn_of_take {view : View} {format : Format} {sink : Sink} {config : Path}
    {paths : List Path} {rules : RuleSet} {told : List Signal} {run : Run} {k : Nat}
    (hstart : start view config = .ok (rules, told))
    (h : checkAll view format rules 1 ⟨sink, told.reverse, []⟩ (paths.take k) = .error run) :
    runIn view format sink config paths = run := by
  have hall := checkAll_append view format rules 1 ⟨sink, told.reverse, []⟩ (paths.take k)
    (paths.drop k)
  rw [List.take_append_drop, h] at hall
  rw [runIn_loaded hstart, hall]

/-- If files end a run, it is one of them that does. -/
theorem exists_ends {view : View} {format : Format} {rules : RuleSet} {number : Nat} {p : Progress}
    {paths : List Path} {run : Run} (h : checkAll view format rules number p paths = .error run) :
    ∃ front path back p', paths = front ++ path :: back ∧
      checkAll view format rules number p front = .ok p' ∧
      Ends view format rules (number + front.length) p' path := by
  induction paths generalizing number p with
  | nil => cases h
  | cons path rest ih =>
    have hsplit := checkAll_append view format rules number p [path] rest
    cases hpath : checkAll view format rules number p [path] with
    | error run' => exact ⟨[], path, rest, p, rfl, rfl, (ends_iff ..).mpr ⟨run', hpath⟩⟩
    | ok p₁ =>
      -- The first file is passed, so the rest ends the run.
      rw [hpath, List.singleton_append, h] at hsplit
      obtain ⟨front, other, back, p₂, rfl, hfront, hends⟩ := ih hsplit.symm
      refine ⟨path :: front, other, back, p₂, rfl, ?_, ?_⟩
      · have hfirst := checkAll_append view format rules number p [path] front
        rw [hpath] at hfirst
        exact hfirst.trans hfront
      · rw [List.length_cons, Nat.add_comm front.length 1, ← Nat.add_assoc]
        exact hends

/-! ### The main statement -/

/-- **A run that stops early has not looked further.**  A run whose rules load either concludes or
stops at one of its files.  If it stops at the `k`-th, then it is the same run, with the same result
or error, the same sink and the same signals, in all views that have the same rule file and the same
first `k` files, and for all lists of files with the same first `k` entries.  If the rules do not
load, it is the same run in all views with the same rule file, and for all lists of files. -/
theorem fails_fast (view view' : View) (format : Format) (sink : Sink) (config : Path)
    (paths paths' : List Path) (hconfig : SameFile view view' config) :
    (∀ k, StopsAt view format sink config paths k →
      (∀ path ∈ paths.take k, SameFile view view' path) → paths'.take k = paths.take k →
      runIn view' format sink config paths' = runIn view format sink config paths) ∧
    (∀ halt, (RuleFile.load (view [loading config]) config).rules = .error halt →
      runIn view' format sink config paths' = runIn view format sink config paths) ∧
    ((∃ halt, (RuleFile.load (view [loading config]) config).rules = .error halt) ∨
      (∃ k, StopsAt view format sink config paths k) ∨
      ∃ p, runIn view format sink config paths = conclude format paths.length p) := by
  refine ⟨?_, ?_, ?_⟩
  · intro k hstops hfiles hpaths
    obtain ⟨rules, told, run, hstart, hrun⟩ := hstops.checkAll_take
    have hrun' : checkAll view' format rules 1 ⟨sink, told.reverse, []⟩ (paths'.take k) =
        .error run := by
      rw [hpaths, checkAll_congr hfiles]
      exact hrun
    rw [runIn_of_take hstart hrun, runIn_of_take ((start_congr hconfig).trans hstart) hrun']
  · intro halt hrules
    have hstart : start view config = .error halt := by simp only [start, hrules]
    rw [runIn_unloaded hstart, runIn_unloaded ((start_congr hconfig).trans hstart),
      rules_congr (hconfig [loading config])]
  · cases hstart : start view config with
    | error halt =>
      left
      cases hrules : (RuleFile.load (view [loading config]) config).rules with
      | error halt' => exact ⟨halt', rfl⟩
      | ok rules =>
        simp only [start, hrules] at hstart
        cases hstart
    | ok loaded =>
      right
      obtain ⟨rules, told⟩ := loaded
      cases hall : checkAll view format rules 1 ⟨sink, told.reverse, []⟩ paths with
      | error run =>
        obtain ⟨front, path, back, p, rfl, hfront, hends⟩ := exists_ends hall
        rw [Nat.add_comm 1] at hends
        exact Or.inl ⟨_, rules, told, front, path, back, p, hstart, rfl, rfl, hfront, hends⟩
      | ok p =>
        refine Or.inr ⟨p, ?_⟩
        rw [runIn_loaded hstart, hall]

/-- The files of the sample, and a malformed one with the name that comes fourth. -/
def sampleFilesMore : FileSystem where
  entries := (["four"], .file [0x3c]) :: sampleFiles.entries

/-- A run over the sample in JSON stops at the missing third file, so a fourth one makes no
difference, although it is malformed. -/
theorem fails_fast_missing_third :
    runIn (fun _ => sampleFilesMore) .json {} (Path.ofString ruleFileName)
        (samplePaths ++ [Path.ofString "four"]) =
      runIn (fun _ => sampleFiles) .json {} (Path.ofString ruleFileName) samplePaths := by
  have hsurvey : surveyIn (fun _ => sampleFiles) (Path.ofString ruleFileName) (samplePaths.take 2) =
      .ok ⟨sampleSurvey.blocks, none⟩ := by decide +kernel
  obtain ⟨rules, told, hstart, hs⟩ := surveyIn_eq_ok hsurvey
  have hfront := checkAll_clear (p := ⟨{}, told.reverse, []⟩) (List.reverse_reverse told)
    (congrArg Survey.halt hs).symm (f := .json) rfl 1
  have hread : sampleFiles.read (Path.ofString "three") =
      .error (.refused ⟨.missing, "three"⟩) := by decide +kernel
  have hload : Document.load sampleFiles (Path.ofString "three") =
      .error (.reported (.documentRead (Path.ofString "three").toString
        (.file ⟨.missing, "three"⟩))) := by
    simp only [Document.load, hread]
  have hstops :
      StopsAt (fun _ => sampleFiles) .json {} (Path.ofString ruleFileName) samplePaths 3 := by
    exact ⟨rules, told, samplePaths.take 2, Path.ofString "three", [], _, hstart, by decide +kernel,
      by decide +kernel, hfront, Or.inl ⟨_, hload⟩⟩
  have hconfig : sampleFilesMore.read (Path.ofString ruleFileName) =
      sampleFiles.read (Path.ofString ruleFileName) := by decide +kernel
  obtain ⟨hsame, _⟩ := fails_fast (fun _ => sampleFiles) (fun _ => sampleFilesMore) .json {}
    (Path.ofString ruleFileName) samplePaths (samplePaths ++ [Path.ofString "four"])
    (fun _ => hconfig)
  refine hsame 3 hstops ?_ (by decide +kernel)
  intro path hpath _
  have hall : ∀ path ∈ samplePaths, sampleFilesMore.read path = sampleFiles.read path := by
    decide +kernel
  exact hall path (List.mem_of_mem_take hpath)

end Check

end AttrLint
