import AttrLint.Check
import AttrLint.Proofs.Output

namespace AttrLint

/-!
# What a run comes to

A run loads the rules, and then reads, checks and reports file after file.  Three things can end it
early: rules that do not load, a file that cannot be read or parsed, and a report that the sink does
not take.  To say which of them does, this file separates what there is to report from the
reporting:

* `Check.Survey` — the violations of each file before the first that cannot be read or parsed, and
  why that one cannot; neither the sink nor the format has a say in it.
* `Check.runIn_clear`, `Check.runIn_halted`, `Check.runIn_refused` — the run for a given survey, if
  nothing ends it early, if a file does, and if the sink does.
-/

namespace Check

/-! ### Surveys -/

/-- The announcement of a file. -/
def checking (path : Path) : Signal :=
  .notice (.step ("Checking " ++ path.toString))

/-- The announcement of a rule file. -/
def loading (config : Path) : Signal :=
  .notice (.step ("Loading rules from " ++ config.toString))

/-- What there is to report about files. -/
structure Survey where
  /-- The violations of each file before the first that cannot be read or parsed. -/
  blocks : List (List Violation)
  /-- Why that file cannot be read or parsed, if there is one. -/
  halt : Option Halt
  deriving DecidableEq

/-- All violations of a survey, in the order of the files. -/
def Survey.found (s : Survey) : List Violation :=
  s.blocks.flatten

/-- The survey of files; `told` is what the run has told before the first of them. -/
def survey (view : View) (rules : RuleSet) (told : List Signal) : List Path → Survey
  | [] => ⟨[], none⟩
  | path :: rest =>
    let told := told ++ [checking path]
    match Document.load (view told) path with
    | .error halt => ⟨[], some halt⟩
    | .ok d =>
      let others := survey view rules told rest
      ⟨checkDocument rules d path.toString :: others.blocks, others.halt⟩

/-- The rules of a run and what it tells before the first file: the announcement of the rule file,
the warnings about it and the number of rules. -/
def start (view : View) (config : Path) : Except Halt (RuleSet × List Signal) :=
  let loaded := RuleFile.load (view [loading config]) config
  match loaded.rules with
  | .error halt => .error halt
  | .ok rules =>
    let size := Signal.notice (.debug (toString rules.size ++ " tag rule(s) loaded"))
    .ok (rules, loading config :: loaded.log.map Signal.log ++ [size])

/-- The survey of a run, unless its rules do not load. -/
def surveyIn (view : View) (config : Path) (paths : List Path) : Except Halt Survey :=
  match start view config with
  | .error halt => .error halt
  | .ok (rules, told) => .ok (survey view rules told paths)

/-! ### Progress -/

namespace Progress

/-- The progress after files have been announced and violations have been reported. -/
def through (p : Progress) (f : Format) (paths : List Path) (vs : List Violation) : Progress :=
  ⟨f.after p.sink vs, (paths.map checking).reverse ++ p.signals, vs.reverse ++ p.found⟩

/-- The progress after files have been announced and violations have been written, when the write of
the last one has failed. -/
def refused (p : Progress) (paths : List Path) (vs : List Violation) : Progress :=
  ⟨{ Format.text.after p.sink vs.dropLast with writes := p.sink.writes + vs.length },
    (paths.map checking).reverse ++ p.signals, vs.reverse ++ p.found⟩

/-- The end of a run whose report has failed in the file with the given number. -/
def breakOff (p : Progress) (error : StreamError) (number : Nat) : Run :=
  if error.kind.stopsOutput then p.stopOutput error number
  else p.stop (.error (.escaped (.stream error)))

/-- Announcing a file. -/
theorem tell_checking (p : Progress) (f : Format) (path : Path) :
    p.tell (.step ("Checking " ++ path.toString)) = p.through f [path] [] := by
  cases f <;> rfl

/-- What is told after files have been announced. -/
@[simp] theorem signals_through (p : Progress) (f : Format) (paths : List Path)
    (vs : List Violation) :
    (p.through f paths vs).signals.reverse = p.signals.reverse ++ paths.map checking := by
  simp [through]

/-- Progress is made step by step. -/
@[simp] theorem through_through (p : Progress) (f : Format) (paths paths' : List Path)
    (vs ws : List Violation) :
    (p.through f paths vs).through f paths' ws = p.through f (paths ++ paths') (vs ++ ws) := by
  simp [through, Format.after_append]

/-- A failed write after progress has been made. -/
@[simp] theorem refused_through (p : Progress) (paths paths' : List Path) (vs ws : List Violation)
    (h : ws ≠ []) :
    (p.through .text paths vs).refused paths' ws = p.refused (paths ++ paths') (vs ++ ws) := by
  -- The violation whose write failed is the last of `ws`, and so the last of both together.
  have hsink : Format.text.after (Format.text.after p.sink vs) ws.dropLast =
      Format.text.after p.sink (vs ++ ws).dropLast := by
    rw [Format.after_append, List.dropLast_append_of_ne_nil h]
  have hwrites : (Format.text.after p.sink vs).writes + ws.length =
      p.sink.writes + (vs ++ ws).length := by
    simp only [Format.after, Sink.took, List.length_reverse, List.length_map, List.length_append]
    omega
  unfold refused through
  simp only [hsink, hwrites]
  simp

end Progress

/-! ### Reporting the violations of one file -/

/-- As many violations as there are at least are not none. -/
theorem take_ne_nil {vs : List Violation} {n : Nat} (hpos : 0 < n) (hn : n ≤ vs.length) :
    vs.take n ≠ [] := by
  intro hnil
  have hlength := congrArg List.length hnil
  rw [List.length_take, List.length_nil] at hlength
  omega

/-- A report that is taken is a step of progress. -/
theorem reportAll_cons_taken {f : Format} {p : Progress} (h : f.failsWithin p.sink 1 = false)
    (number : Nat) (v : Violation) (vs : List Violation) :
    reportAll f number p (v :: vs) = reportAll f number (p.through f [] [v]) vs := by
  rw [reportAll, Format.reportViolation_taken h]
  rfl

/-- Violations are all reported if none of the reports fails. -/
theorem reportAll_taken {f : Format} {p : Progress} {vs : List Violation}
    (h : f.failsWithin p.sink vs.length = false) (number : Nat) :
    reportAll f number p vs = .ok (p.through f [] vs) := by
  induction vs generalizing p with
  | nil => cases f <;> rfl
  | cons v vs ih =>
    have hfirst : f.failsWithin p.sink 1 = false :=
      Format.failsWithin_mono (by rw [List.length_cons]; omega) h
    have hrest : f.failsWithin (f.after p.sink [v]) vs.length = false := by
      rw [Format.failsWithin_after hfirst, List.length_singleton, Nat.add_comm]
      exact h
    have hothers := ih (p := p.through f [] [v]) hrest
    rw [reportAll_cons_taken hfirst, hothers, Progress.through_through, List.append_nil,
      List.singleton_append]

/-- If the `n`-th write fails, the run ends there: the violations up to the `n`-th count as found,
and those before it have been written. -/
theorem reportAll_refused {p : Progress} {vs : List Violation} {n : Nat}
    (h : p.sink.firstFailure .write = some n) (hn : n ≤ vs.length) (number : Nat) :
    ∃ error, (∃ k, p.sink.answer .write k = some error) ∧
      reportAll .text number p vs = .error ((p.refused [] (vs.take n)).breakOff error number) := by
  induction vs generalizing p n with
  | nil =>
    have := Sink.firstFailure_pos h
    rw [List.length_nil] at hn
    omega
  | cons v vs ih =>
    by_cases hone : n = 1
    · -- This very write fails.
      subst hone
      have hfails : p.sink.failsWithin .write 1 = true :=
        (Sink.failsWithin_iff _ _ _).mpr ⟨1, h, Nat.le_refl 1⟩
      obtain ⟨error, hanswer, hwrite⟩ := Sink.write_refused hfails (v.toString ++ "\n")
      refine ⟨error, ⟨_, hanswer⟩, ?_⟩
      rw [reportAll, Format.reportViolation, hwrite]
      simp only [Progress.breakOff]
      split <;> rfl
    · -- This write is taken, and the failing one is among the rest.
      have hpos := Sink.firstFailure_pos h
      have hfirst : Format.text.failsWithin p.sink 1 = false := by
        rw [Format.failsWithin, Sink.failsWithin_eq_false_iff, h]
        rintro m ⟨⟩
        omega
      -- The sink counts on from the write that was taken.
      have htook : (p.through .text [] [v]).sink.firstFailure .write = some (n - 1) := by
        have htaken : (p.sink.took [v.reportLine]).firstFailure .write = _ :=
          Sink.firstFailure_took hfirst
        rw [h] at htaken
        exact htaken
      rw [List.length_cons] at hn
      obtain ⟨error, ⟨k, hanswer⟩, hrest⟩ := ih htook (by omega)
      refine ⟨error, ⟨k, hanswer⟩, ?_⟩
      have hne : vs.take (n - 1) ≠ [] := take_ne_nil (by omega) (by omega)
      have htake : (v :: vs).take n = [v] ++ vs.take (n - 1) := by
        obtain ⟨m, rfl⟩ : ∃ m, n = m + 1 := ⟨n - 1, by omega⟩
        rw [List.take_succ_cons, Nat.add_sub_cancel, List.singleton_append]
      rw [reportAll_cons_taken hfirst, hrest, Progress.refused_through p [] [] [v] _ hne, htake,
        List.append_nil]

/-! ### Checking one file -/

section Files

variable {view : View} {rules : RuleSet} {told : List Signal} {path : Path} {rest : List Path}

/-- A file that cannot be read or parsed ends a survey. -/
theorem survey_cons_error {halt : Halt}
    (hload : Document.load (view (told ++ [checking path])) path = .error halt) :
    survey view rules told (path :: rest) = ⟨[], some halt⟩ := by
  simp only [survey, hload]

/-- A file that is read and parsed puts its violations in front. -/
theorem survey_cons_ok {d : Document}
    (hload : Document.load (view (told ++ [checking path])) path = .ok d) :
    survey view rules told (path :: rest) =
      ⟨checkDocument rules d path.toString ::
          (survey view rules (told ++ [checking path]) rest).blocks,
        (survey view rules (told ++ [checking path]) rest).halt⟩ := by
  simp only [survey, hload]

/-- A file that cannot be read or parsed ends the run. -/
theorem checkAll_cons_error {p : Progress} {halt : Halt} (hp : p.signals.reverse = told)
    (hload : Document.load (view (told ++ [checking path])) path = .error halt) (f : Format)
    (number : Nat) :
    checkAll view f rules number p (path :: rest) =
      .error ((p.through f [path] []).stop (.error halt)) := by
  rw [checkAll, Progress.tell_checking p f path, Progress.signals_through, hp]
  simp only [List.map_cons, List.map_nil, hload]

/-- If the reports of a file are all taken, the run goes on with the next file. -/
theorem checkAll_cons_taken {f : Format} {p : Progress} {d : Document}
    (hp : p.signals.reverse = told)
    (hload : Document.load (view (told ++ [checking path])) path = .ok d)
    (htaken : f.failsWithin p.sink (checkDocument rules d path.toString).length = false)
    (number : Nat) :
    checkAll view f rules number p (path :: rest) =
      checkAll view f rules (number + 1)
        (p.through f [path] (checkDocument rules d path.toString)) rest := by
  have hsink : (p.through f [path] []).sink = p.sink := by cases f <;> rfl
  have hreport := reportAll_taken (p := p.through f [path] []) (hsink.symm ▸ htaken) number
  rw [checkAll, Progress.tell_checking p f path, Progress.signals_through, hp]
  simp only [List.map_cons, List.map_nil, hload, hreport, Progress.through_through]
  rfl

/-- If a report of a file is not taken, the run ends with this file. -/
theorem checkAll_cons_refused {p : Progress} {d : Document} {n : Nat}
    (hp : p.signals.reverse = told)
    (hload : Document.load (view (told ++ [checking path])) path = .ok d)
    (h : p.sink.firstFailure .write = some n)
    (hn : n ≤ (checkDocument rules d path.toString).length) (number : Nat) (rest : List Path) :
    ∃ error, (∃ k, p.sink.answer .write k = some error) ∧
      checkAll view .text rules number p (path :: rest) =
        .error ((p.refused [path] ((checkDocument rules d path.toString).take n)).breakOff error
          number) := by
  obtain ⟨error, hanswer, hreport⟩ :=
    reportAll_refused (p := p.through .text [path] []) h hn number
  refine ⟨error, hanswer, ?_⟩
  have hne : (checkDocument rules d path.toString).take n ≠ [] :=
    take_ne_nil (Sink.firstFailure_pos h) hn
  rw [checkAll, Progress.tell_checking p .text path, Progress.signals_through, hp]
  simp only [List.map_cons, List.map_nil, hload, hreport]
  rw [Progress.refused_through p [path] [] [] _ hne]
  rfl

end Files

/-! ### Checking all files -/

section AllFiles

variable {view : View} {rules : RuleSet} {told : List Signal} {p : Progress} {paths : List Path}

/-- What has been told once a file has been announced, whatever was reported. -/
theorem signals_announced (hp : p.signals.reverse = told) (f : Format) (path : Path)
    (vs : List Violation) : (p.through f [path] vs).signals.reverse = told ++ [checking path] := by
  rw [Progress.signals_through, hp, List.map_singleton]

/-- If every file is read and parsed and every report is taken, the run gets through. -/
theorem checkAll_clear {f : Format} (hp : p.signals.reverse = told)
    (hhalt : (survey view rules told paths).halt = none)
    (htaken : f.failsWithin p.sink (survey view rules told paths).found.length = false)
    (number : Nat) :
    checkAll view f rules number p paths =
      .ok (p.through f paths (survey view rules told paths).found) := by
  -- The next file starts with the sink and the signals that this one leaves, so both vary.
  induction paths generalizing p told number with
  | nil => cases f <;> rfl
  | cons path rest ih =>
    cases hload : Document.load (view (told ++ [checking path])) path with
    | error halt =>
      rw [survey_cons_error hload] at hhalt
      cases hhalt
    | ok d =>
      rw [survey_cons_ok hload] at hhalt htaken ⊢
      simp only [Survey.found, List.flatten_cons, List.length_append] at htaken ⊢
      have hfirst := Format.failsWithin_mono (Nat.le_add_right _ _) htaken
      have hrest := (Format.failsWithin_after hfirst _).trans htaken
      rw [checkAll_cons_taken hp hload hfirst, ih (signals_announced hp f path _) hhalt hrest,
        Progress.through_through]
      rfl

/-- If a file cannot be read or parsed and every report before it is taken, the run ends there. -/
theorem checkAll_halted {f : Format} {halt : Halt} (hp : p.signals.reverse = told)
    (hhalt : (survey view rules told paths).halt = some halt)
    (htaken : f.failsWithin p.sink (survey view rules told paths).found.length = false)
    (number : Nat) :
    checkAll view f rules number p paths =
      .error ((p.through f (paths.take ((survey view rules told paths).blocks.length + 1))
        (survey view rules told paths).found).stop (.error halt)) := by
  induction paths generalizing p told number with
  | nil => cases hhalt
  | cons path rest ih =>
    cases hload : Document.load (view (told ++ [checking path])) path with
    | error halt' =>
      rw [survey_cons_error hload] at hhalt ⊢
      cases hhalt
      rw [checkAll_cons_error hp hload]
      rfl
    | ok d =>
      rw [survey_cons_ok hload] at hhalt htaken ⊢
      simp only [Survey.found, List.flatten_cons, List.length_append, List.length_cons,
        List.take_succ_cons] at htaken ⊢
      have hfirst := Format.failsWithin_mono (Nat.le_add_right _ _) htaken
      have hrest := (Format.failsWithin_after hfirst _).trans htaken
      rw [checkAll_cons_taken hp hload hfirst, ih (signals_announced hp f path _) hhalt hrest,
        Progress.through_through]
      rfl

/-- If the `n`-th write fails, and there are as many violations before a file ends the run, then the
run ends in the file that has the `n`-th violation, the one after the first `k` files. -/
theorem checkAll_refused {n : Nat} (hp : p.signals.reverse = told)
    (h : p.sink.firstFailure .write = some n)
    (hn : n ≤ (survey view rules told paths).found.length) (number : Nat) :
    ∃ k error, (∃ j, p.sink.answer .write j = some error) ∧
      ((survey view rules told paths).blocks.take k).flatten.length < n ∧
      n ≤ ((survey view rules told paths).blocks.take (k + 1)).flatten.length ∧
      checkAll view .text rules number p paths =
        .error ((p.refused (paths.take (k + 1))
          ((survey view rules told paths).found.take n)).breakOff error (number + k)) := by
  have hpos := Sink.firstFailure_pos h
  induction paths generalizing p told n number with
  | nil =>
    rw [survey, Survey.found, List.flatten_nil, List.length_nil] at hn
    omega
  | cons path rest ih =>
    cases hload : Document.load (view (told ++ [checking path])) path with
    | error halt =>
      rw [survey_cons_error hload, Survey.found, List.flatten_nil, List.length_nil] at hn
      omega
    | ok d =>
      rw [survey_cons_ok hload] at hn ⊢
      simp only [Survey.found, List.flatten_cons, List.length_append, List.take_succ_cons] at hn ⊢
      by_cases hfile : n ≤ (checkDocument rules d path.toString).length
      · -- The write fails in this file.
        obtain ⟨error, hanswer, hrun⟩ := checkAll_cons_refused hp hload h hfile number rest
        refine ⟨0, error, hanswer, ?_, ?_, ?_⟩
        · rw [List.take_zero, List.flatten_nil]; exact hpos
        · rw [List.take_zero, List.flatten_nil, List.length_nil]; exact hfile
        · rw [hrun, List.take_append_of_le_length hfile]
          rfl
      · -- The write fails in a later file: count from there.
        have hfirst : Format.text.failsWithin p.sink
            (checkDocument rules d path.toString).length = false := by
          rw [Format.failsWithin, Sink.failsWithin_eq_false_iff, h]
          rintro m ⟨⟩
          exact Nat.lt_of_not_le hfile
        have hafter := Format.firstFailure_after hfirst
        rw [h, Option.map_some] at hafter
        have hleft : n - (checkDocument rules d path.toString).length ≤
            (survey view rules (told ++ [checking path]) rest).found.length := by
          rw [Survey.found]; omega
        obtain ⟨k, error, hanswer, hbefore, hupto, hrun⟩ :=
          ih (signals_announced hp .text path _) hafter hleft (number + 1) (by omega)
        refine ⟨k + 1, error, hanswer, ?_, ?_, ?_⟩
        · rw [List.take_succ_cons, List.flatten_cons, List.length_append]; omega
        · omega
        · have hall : (checkDocument rules d path.toString).take n =
              checkDocument rules d path.toString := List.take_of_length_le (by omega)
          rw [checkAll_cons_taken hp hload hfirst, hrun,
            Progress.refused_through _ _ _ _ _ (take_ne_nil (by omega) hleft), List.take_append,
            hall, Nat.add_assoc number 1 k, Nat.add_comm 1 k]
          rfl

end AllFiles

/-! ### Whole runs -/

/-- The warning that output has stopped. -/
def stopped (error : StreamError) : Signal :=
  .notice (.warning (RunError.output (.stream error)).text)

/-- What is told at the end of a run that gets through. -/
def summary (found files : Nat) : Signal :=
  .notice (.step (toString found ++ " violation(s) in " ++ toString files ++ " file(s)"))

section End

variable {f : Format} {p : Progress}

/-- The end of a run whose last report is taken. -/
theorem conclude_taken (h : f.resultFails p.sink = false) (files : Nat) :
    conclude f files p =
      ⟨.ok ⟨p.found.reverse, files, false⟩, (f.reportResult p.sink p.found.reverse).1,
        p.signals.reverse ++ [summary p.found.length files]⟩ := by
  have hnone := (Format.reportResult_eq_none_iff f p.sink p.found.reverse).mpr h
  rcases hreport : f.reportResult p.sink p.found.reverse with ⟨sink, answer⟩
  rw [hreport] at hnone
  subst hnone
  simp [conclude, hreport, Progress.tell, Progress.stop, summary]

/-- The end of a run whose last report is not taken: only violations that have been found make a
result of it. -/
theorem conclude_failed (h : f.resultFails p.sink = true) (hsink : p.sink.BreaksOrderly)
    (files : Nat) :
    ∃ error, conclude f files p =
      if p.found.isEmpty then
        ⟨.error (.reported (.output (.stream error))),
          (f.reportResult p.sink p.found.reverse).1, p.signals.reverse⟩
      else
        ⟨.ok ⟨p.found.reverse, files, true⟩, (f.reportResult p.sink p.found.reverse).1,
          p.signals.reverse ++ [stopped error]⟩ := by
  have hiff := Format.reportResult_eq_none_iff f p.sink p.found.reverse
  rcases hreport : f.reportResult p.sink p.found.reverse with ⟨sink, answer⟩
  cases answer with
  | none =>
    rw [hreport, h] at hiff
    exact absurd (hiff.mp rfl) Bool.noConfusion
  | some error =>
    obtain ⟨call, n, hanswer⟩ := Format.reportResult_error (congrArg Prod.snd hreport)
    have hkind := hsink _ _ _ hanswer
    refine ⟨error, ?_⟩
    by_cases hfound : p.found = []
    · rw [hfound, List.reverse_nil] at hreport
      simp [conclude, hreport, hkind, hfound, Progress.stop, Halt.ofStream]
    · simp [conclude, hreport, hkind, hfound, Progress.stopOutput, Progress.tell, Progress.stop,
        stopped]

end End

section Whole

variable {view : View} {sink : Sink} {config : Path} {paths : List Path} {rules : RuleSet}
  {told : List Signal}

/-- A survey is made under the rules of the run, after what the run has told of them. -/
theorem surveyIn_eq_ok {s : Survey} (h : surveyIn view config paths = .ok s) :
    ∃ rules told, start view config = .ok (rules, told) ∧ s = survey view rules told paths := by
  rw [surveyIn] at h
  cases hstart : start view config with
  | error halt =>
    rw [hstart] at h
    cases h
  | ok loaded =>
    rw [hstart] at h
    cases h
    exact ⟨loaded.1, loaded.2, rfl, rfl⟩

/-- There is no survey only if the rules do not load. -/
theorem surveyIn_eq_error {halt : Halt} (h : surveyIn view config paths = .error halt) :
    start view config = .error halt := by
  rw [surveyIn] at h
  cases hstart : start view config with
  | error halt' =>
    rw [hstart] at h
    cases h
    rfl
  | ok loaded =>
    rw [hstart] at h
    cases h

/-- Without rules a run ends at once. -/
theorem runIn_unloaded {halt : Halt} (h : start view config = .error halt) (f : Format) :
    runIn view f sink config paths =
      ⟨.error halt, sink,
        loading config :: (RuleFile.load (view [loading config]) config).log.map Signal.log⟩ := by
  cases hrules : (RuleFile.load (view [loading config]) config).rules with
  | ok rules =>
    simp only [start, hrules] at h
    cases h
  | error halt' =>
    simp only [start, hrules] at h
    cases h
    simp only [loading] at hrules ⊢
    simp only [runIn, Progress.tell, List.reverse_cons, List.reverse_nil, List.nil_append, hrules,
      Progress.stop]
    simp

/-- With rules a run goes through the files, and concludes if it gets through. -/
theorem runIn_loaded (h : start view config = .ok (rules, told)) (f : Format) :
    runIn view f sink config paths =
      match checkAll view f rules 1 ⟨sink, told.reverse, []⟩ paths with
      | .error run => run
      | .ok p => conclude f paths.length p := by
  cases hrules : (RuleFile.load (view [loading config]) config).rules with
  | error halt =>
    simp only [start, hrules] at h
    cases h
  | ok rules' =>
    simp only [start, hrules] at h
    cases h
    simp only [loading, List.reverse_cons, List.reverse_nil, List.nil_append, List.reverse_append,
      List.cons_append] at hrules ⊢
    -- Both sides go on with what comes of the files.
    generalize hall : checkAll view f rules 1 _ paths = all
    cases all <;>
      simp only [runIn, Progress.tell, List.reverse_cons, List.reverse_nil, List.nil_append, hrules,
        hall]

/-- A run whose `n`-th write fails, if there are that many violations before a file ends it. -/
theorem runIn_refused (hstart : start view config = .ok (rules, told)) (hsink : sink.BreaksOrderly)
    {n : Nat} (h : sink.firstFailure .write = some n)
    (hn : n ≤ (survey view rules told paths).found.length) :
    ∃ k error,
      ((survey view rules told paths).blocks.take k).flatten.length < n ∧
      n ≤ ((survey view rules told paths).blocks.take (k + 1)).flatten.length ∧
      runIn view .text sink config paths =
        ⟨.ok ⟨(survey view rules told paths).found.take n, (1 + k : Nat), true⟩,
          { Format.text.after sink ((survey view rules told paths).found.take (n - 1)) with
            writes := sink.writes + n },
          told ++ (paths.take (k + 1)).map checking ++ [stopped error]⟩ := by
  obtain ⟨k, error, ⟨j, hanswer⟩, hbefore, hupto, hrun⟩ :=
    checkAll_refused (p := ⟨sink, told.reverse, []⟩) (List.reverse_reverse told) h hn 1
  refine ⟨k, error, hbefore, hupto, ?_⟩
  have hkind := hsink _ _ _ hanswer
  -- The last of the `n` violations counts as found, but it has not been written.
  have hlength : ((survey view rules told paths).found.take n).length = n := by
    rw [List.length_take]; omega
  have hlast : ((survey view rules told paths).found.take n).dropLast =
      (survey view rules told paths).found.take (n - 1) := by
    rw [List.dropLast_eq_take, hlength, List.take_take, Nat.min_eq_left (Nat.sub_le n 1)]
  rw [runIn_loaded hstart, hrun]
  simp only [Progress.breakOff, hkind, if_true, Progress.stopOutput, Progress.refused, Progress.tell,
    Progress.stop, hlength, hlast, stopped]
  simp

/-- A run that a file ends, if every report before it is taken. -/
theorem runIn_halted (hstart : start view config = .ok (rules, told)) {halt : Halt}
    (hhalt : (survey view rules told paths).halt = some halt) {f : Format}
    (htaken : f.failsWithin sink (survey view rules told paths).found.length = false) :
    runIn view f sink config paths =
      ⟨.error halt, f.after sink (survey view rules told paths).found,
        told ++ (paths.take ((survey view rules told paths).blocks.length + 1)).map checking⟩ := by
  have hall := checkAll_halted (p := ⟨sink, told.reverse, []⟩) (List.reverse_reverse told) hhalt
    htaken 1
  rw [runIn_loaded hstart, hall]
  simp [Progress.stop, Progress.through]

/-- A run that gets through the files. -/
theorem runIn_clear (hstart : start view config = .ok (rules, told))
    (hhalt : (survey view rules told paths).halt = none) {f : Format}
    (htaken : f.failsWithin sink (survey view rules told paths).found.length = false) :
    runIn view f sink config paths =
      conclude f paths.length
        ⟨f.after sink (survey view rules told paths).found,
          (told ++ paths.map checking).reverse, (survey view rules told paths).found.reverse⟩ := by
  have hall := checkAll_clear (p := ⟨sink, told.reverse, []⟩) (List.reverse_reverse told) hhalt
    htaken 1
  rw [runIn_loaded hstart, hall]
  simp [Progress.through]

/-- A run that gets through the files and whose last report is taken. -/
theorem runIn_concluded (hstart : start view config = .ok (rules, told))
    (hhalt : (survey view rules told paths).halt = none) {f : Format}
    (htaken : f.failsWithin sink (survey view rules told paths).found.length = false)
    (hresult : f.resultFails sink = false) :
    runIn view f sink config paths =
      ⟨.ok ⟨(survey view rules told paths).found, paths.length, false⟩,
        (f.reportResult (f.after sink (survey view rules told paths).found)
          (survey view rules told paths).found).1,
        told ++ paths.map checking ++
          [summary (survey view rules told paths).found.length paths.length]⟩ := by
  rw [← Format.resultFails_after f sink (survey view rules told paths).found] at hresult
  rw [runIn_clear hstart hhalt htaken, conclude_taken hresult]
  simp only [List.reverse_reverse, List.length_reverse]

/-- A run that gets through the files and whose last report is not taken. -/
theorem runIn_unconcluded (hstart : start view config = .ok (rules, told))
    (hsink : sink.BreaksOrderly) (hhalt : (survey view rules told paths).halt = none) {f : Format}
    (htaken : f.failsWithin sink (survey view rules told paths).found.length = false)
    (hresult : f.resultFails sink = true) :
    ∃ error, runIn view f sink config paths =
      if (survey view rules told paths).found.isEmpty then
        ⟨.error (.reported (.output (.stream error))),
          (f.reportResult (f.after sink (survey view rules told paths).found)
            (survey view rules told paths).found).1,
          told ++ paths.map checking⟩
      else
        ⟨.ok ⟨(survey view rules told paths).found, paths.length, true⟩,
          (f.reportResult (f.after sink (survey view rules told paths).found)
            (survey view rules told paths).found).1,
          told ++ paths.map checking ++ [stopped error]⟩ := by
  rw [← Format.resultFails_after f sink (survey view rules told paths).found] at hresult
  obtain ⟨error, hconclude⟩ := conclude_failed
    (p := ⟨f.after sink (survey view rules told paths).found, (told ++ paths.map checking).reverse,
      (survey view rules told paths).found.reverse⟩)
    hresult (Format.breaksOrderly_after hsink f _) paths.length
  refine ⟨error, ?_⟩
  rw [runIn_clear hstart hhalt htaken, hconclude]
  simp only [List.reverse_reverse, List.isEmpty_reverse]

end Whole

/-! ### A small case -/

/-- Two files with three violations between them, and rules for them. -/
def sampleFiles : FileSystem where
  entries := [
    ([ruleFileName],
      .file (Text.Utf8.encode "[a]\nrequired = [\"x\", \"p:y\"]\n".toList)),
    (["one"], .file (Text.Utf8.encode "<a x=\"\"/>".toList)),
    (["two"], .file (Text.Utf8.encode "<b>\n <a/></b>".toList))]

/-- The two files, and one that does not exist. -/
def samplePaths : List Path :=
  ["one", "two", "three"].map Path.ofString

/-- The survey of the two files and the missing one. -/
def sampleSurvey : Survey where
  blocks := [
    [⟨"one", 1, 1, "a", "p:y"⟩],
    [⟨"two", 2, 2, "a", "x"⟩, ⟨"two", 2, 2, "a", "p:y"⟩]]
  halt := some (.reported (.documentRead "three" (.file ⟨.missing, "three"⟩)))

/-- A sink whose third write fails, and all after it. -/
def sampleSink : Sink where
  behaviour := .fails .write 3 ⟨.brokenPipe, none⟩

/-- A broken pipe means that output has stopped. -/
theorem sampleSink_breaksOrderly : sampleSink.BreaksOrderly := by
  rw [Sink.breaksOrderly_iff]
  intro call first error h
  cases h
  rfl

end Check

end AttrLint
