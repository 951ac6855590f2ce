import Mathlib.Control.Monad.Basic
import AttrLint.Proofs.Console
import AttrLint.Proofs.Runs

namespace AttrLint

/-!
# The exit status is exact

Several things can decide how a check ends: rules that do not load, a file that cannot be read or
parsed, a line that the sink refuses, a last report that it refuses, and violations.  This file says
which of them comes first.

* `Command.surveyFor` — what there is to report in a check, or why its rules do not load.
* `Command.status_refused`, `Command.status_halted`, `Command.status_found`,
  `Command.status_unreported`, `Command.status_passed` — the status in each case.
* `Command.check_status_exact` — the main statement, with the exact condition for status zero.
-/

namespace Command

open Check

/-- What there is to report in a check, unless its rules are not found or do not load. -/
def surveyFor (view : View) (request : CheckRequest) : Except Halt Survey :=
  match configPath (greeted view []) request.config with
  | .error halt => .error halt
  | .ok config => surveyIn (greeted view) config request.files

/-- The status of a check that ends early: two if the error is reported. -/
def haltStatus : Halt → Except Escape Nat
  | .reported _ => .ok 2
  | .escaped escape => .error escape

/-- A check that ends early does not have status zero. -/
theorem haltStatus_ne_zero (halt : Halt) : haltStatus halt ≠ .ok 0 := by
  cases halt <;> intro h <;> cases h

/-- A run with a result has status zero or one, as there are violations or not. -/
@[simp] theorem checkStatus_ok (result : CheckResult) (sink : Sink) (signals : List Signal) :
    checkStatus ⟨.ok result, sink, signals⟩ = .ok (if result.violations = [] then 0 else 1) := by
  simp [checkStatus, CheckResult.exitCode, CheckResult.passed]

/-- A run that ends early has the status of what ended it. -/
@[simp] theorem checkStatus_error (halt : Halt) (sink : Sink) (signals : List Signal) :
    checkStatus ⟨.error halt, sink, signals⟩ = haltStatus halt := by
  cases halt <;> rfl

section Status

variable {view : View} {sink : Sink} {request : CheckRequest} {s : Survey}

/-- The status of a check is that of its run. -/
theorem status_eq {config : Path} (h : configPath (greeted view []) request.config = .ok config) :
    (check view sink request).status =
      checkStatus (Check.runIn (greeted view) request.format sink config request.files) := by
  have hrun : checkRun (greeted view) sink request =
      Check.runIn (greeted view) request.format sink config request.files := by
    simp only [checkRun, h]
  rw [check_eq]
  show checkStatus (checkRun (greeted view) sink request) = _
  rw [hrun]

/-- A survey is that of the run with the rule file that is given or found. -/
theorem surveyFor_eq_ok (h : surveyFor view request = .ok s) :
    ∃ config rules told, configPath (greeted view []) request.config = .ok config ∧
      start (greeted view) config = .ok (rules, told) ∧
      s = survey (greeted view) rules told request.files := by
  rw [surveyFor] at h
  cases hconfig : configPath (greeted view []) request.config with
  | error halt =>
    rw [hconfig] at h
    cases h
  | ok config =>
    rw [hconfig] at h
    obtain ⟨rules, told, hstart, hs⟩ := surveyIn_eq_ok h
    exact ⟨config, rules, told, rfl, hstart, hs⟩

/-- Rules that are not found or do not load decide the status. -/
theorem status_unloaded {halt : Halt} (h : surveyFor view request = .error halt) :
    (check view sink request).status = haltStatus halt := by
  rw [surveyFor] at h
  cases hconfig : configPath (greeted view []) request.config with
  | error halt' =>
    rw [hconfig] at h
    cases h
    have hrun : checkRun (greeted view) sink request = ⟨.error halt, sink, []⟩ := by
      simp only [checkRun, hconfig]
    rw [check_eq]
    show checkStatus (checkRun (greeted view) sink request) = _
    rw [hrun, checkStatus_error]
  | ok config =>
    rw [hconfig] at h
    rw [status_eq hconfig, runIn_unloaded (surveyIn_eq_error h), checkStatus_error]

/-- A line that the sink refuses makes the status one: a violation has been found. -/
theorem status_refused (h : surveyFor view request = .ok s) (hsink : sink.BreaksOrderly)
    (hformat : request.format = .text)
    (hfails : sink.failsWithin .write s.found.length = true) :
    (check view sink request).status = .ok 1 := by
  obtain ⟨config, rules, told, hconfig, hstart, rfl⟩ := surveyFor_eq_ok h
  obtain ⟨n, hfirst, hn⟩ := (Sink.failsWithin_iff _ _ _).mp hfails
  obtain ⟨k, error, _, _, hrun⟩ := runIn_refused hstart hsink hfirst hn
  have hfound := take_ne_nil (Sink.firstFailure_pos hfirst) hn
  rw [status_eq hconfig, hformat, hrun, checkStatus_ok, if_neg hfound]

/-- A file that cannot be read or parsed decides the status if all lines before it are taken. -/
theorem status_halted (h : surveyFor view request = .ok s)
    (htaken : request.format.failsWithin sink s.found.length = false) {halt : Halt}
    (hhalt : s.halt = some halt) : (check view sink request).status = haltStatus halt := by
  obtain ⟨config, rules, told, hconfig, hstart, rfl⟩ := surveyFor_eq_ok h
  rw [status_eq hconfig, runIn_halted hstart hhalt htaken, checkStatus_error]

/-- Violations make the status one, whether the last report goes well or not. -/
theorem status_found (h : surveyFor view request = .ok s) (hsink : sink.BreaksOrderly)
    (htaken : request.format.failsWithin sink s.found.length = false) (hhalt : s.halt = none)
    (hfound : s.found ≠ []) : (check view sink request).status = .ok 1 := by
  obtain ⟨config, rules, told, hconfig, hstart, rfl⟩ := surveyFor_eq_ok h
  rw [status_eq hconfig]
  cases hresult : request.format.resultFails sink with
  | false =>
    rw [runIn_concluded hstart hhalt htaken hresult, checkStatus_ok, if_neg hfound]
  | true =>
    obtain ⟨error, hrun⟩ := runIn_unconcluded hstart hsink hhalt htaken hresult
    rw [hrun, if_neg (fun hempty => hfound (List.isEmpty_iff.mp hempty)), checkStatus_ok,
      if_neg hfound]

/-- Without violations, a last report that fails makes the status two. -/
theorem status_unreported (h : surveyFor view request = .ok s) (hsink : sink.BreaksOrderly)
    (htaken : request.format.failsWithin sink s.found.length = false) (hhalt : s.halt = none)
    (hfound : s.found = []) (hresult : request.format.resultFails sink = true) :
    (check view sink request).status = .ok 2 := by
  obtain ⟨config, rules, told, hconfig, hstart, rfl⟩ := surveyFor_eq_ok h
  obtain ⟨error, hrun⟩ := runIn_unconcluded hstart hsink hhalt htaken hresult
  rw [status_eq hconfig, hrun, if_pos (List.isEmpty_iff.mpr hfound), checkStatus_error]
  rfl

/-- Without violations, a last report that goes well makes the status zero. -/
theorem status_passed (h : surveyFor view request = .ok s)
    (htaken : request.format.failsWithin sink s.found.length = false) (hhalt : s.halt = none)
    (hfound : s.found = []) (hresult : request.format.resultFails sink = false) :
    (check view sink request).status = .ok 0 := by
  obtain ⟨config, rules, told, hconfig, hstart, rfl⟩ := surveyFor_eq_ok h
  rw [status_eq hconfig, runIn_concluded hstart hhalt htaken hresult, checkStatus_ok,
    if_pos hfound]

/-- Status zero leaves one case only: nothing ends the check early, and nothing is found. -/
theorem survey_of_status_zero (h : surveyFor view request = .ok s) (hsink : sink.BreaksOrderly)
    (hzero : (check view sink request).status = .ok 0) :
    s.halt = none ∧ s.found = [] ∧ request.format.resultFails sink = false := by
  -- In the order in which a check can end: every other end has a status that is not zero.
  by_cases hfails : request.format = .text ∧ sink.failsWithin .write s.found.length = true
  · rw [status_refused h hsink hfails.1 hfails.2] at hzero
    cases hzero
  have htaken := Format.failsWithin_eq_false hfails
  cases hhalt : s.halt with
  | some halt =>
    rw [status_halted h htaken hhalt] at hzero
    exact absurd hzero (haltStatus_ne_zero halt)
  | none =>
    by_cases hfound : s.found = []
    · cases hresult : request.format.resultFails sink with
      | false => exact ⟨rfl, hfound, rfl⟩
      | true =>
        rw [status_unreported h hsink htaken hhalt hfound hresult] at hzero
        cases hzero
    · rw [status_found h hsink htaken hhalt hfound] at hzero
      cases hzero

end Status

/-- **The exit status is exact.**  If the rules are not found or do not load, the status is two.
Otherwise take the violations of the files before the first that cannot be read or parsed.  In text,
if one of their lines is refused, the status is one, even if such a file follows.  In all other cases
the status is two if there is such a file; without one, it is one if there are violations, and
otherwise two or zero, as the last report fails or not.  So status zero means that the rules were
loaded, every file was read and parsed and has no violation, and the last report went well. -/
theorem check_status_exact (view : View) (sink : Sink) (request : CheckRequest)
    (hsink : sink.BreaksOrderly) :
    let status := (check view sink request).status
    (∀ error, surveyFor view request = .error (.reported error) → status = .ok 2) ∧
    (∀ s, surveyFor view request = .ok s →
      (request.format = .text ∧ sink.failsWithin .write s.found.length = true → status = .ok 1) ∧
      (¬(request.format = .text ∧ sink.failsWithin .write s.found.length = true) →
        (∀ error, s.halt = some (.reported error) → status = .ok 2) ∧
        (s.halt = none →
          (s.found ≠ [] → status = .ok 1) ∧
          (s.found = [] → request.format.resultFails sink = true → status = .ok 2) ∧
          (s.found = [] → request.format.resultFails sink = false → status = .ok 0)))) ∧
    (status = .ok 0 ↔
      ∃ s, surveyFor view request = .ok s ∧ s.halt = none ∧ s.found = [] ∧
        request.format.resultFails sink = false) := by
  intro status
  refine ⟨?_, ?_, ?_, ?_⟩
  · intro error h
    exact status_unloaded h
  · intro s h
    refine ⟨fun ⟨hformat, hfails⟩ => status_refused h hsink hformat hfails, ?_⟩
    intro hnot
    have htaken := Format.failsWithin_eq_false hnot
    refine ⟨fun error hhalt => status_halted h htaken hhalt, ?_⟩
    intro hhalt
    exact ⟨status_found h hsink htaken hhalt, status_unreported h hsink htaken hhalt,
      status_passed h htaken hhalt⟩
  · -- Every other case has a status of its own, which is not zero.
    intro hzero
    cases h : surveyFor view request with
    | error halt => exact absurd ((status_unloaded h).symm.trans hzero) (haltStatus_ne_zero halt)
    | ok s => exact ⟨s, rfl, survey_of_status_zero h hsink hzero⟩
  · rintro ⟨s, h, hhalt, hfound, hresult⟩
    have htaken : request.format.failsWithin sink s.found.length = false := by
      rw [hfound]
      exact Format.failsWithin_zero request.format sink
    exact status_passed h htaken hhalt hfound hresult

/-- Violations in two files and a missing third one: the status is one if a line of the report is
refused, and two if the report is in JSON. -/
theorem check_status_refused_or_missing :
    (check (fun _ => sampleFiles) sampleSink ⟨none, .text, false, samplePaths⟩).status = .ok 1 ∧
      (check (fun _ => sampleFiles) sampleSink ⟨none, .json, false, samplePaths⟩).status =
        .ok 2 := by
  have htext : surveyFor (fun _ => sampleFiles) ⟨none, .text, false, samplePaths⟩ =
      .ok sampleSurvey := by decide +kernel
  have hjson : surveyFor (fun _ => sampleFiles) ⟨none, .json, false, samplePaths⟩ =
      .ok sampleSurvey := by decide +kernel
  constructor
  · obtain ⟨_, hsurveyed, _⟩ := check_status_exact (fun _ => sampleFiles) sampleSink
      ⟨none, .text, false, samplePaths⟩ sampleSink_breaksOrderly
    exact (hsurveyed _ htext).1 ⟨rfl, by decide⟩
  · obtain ⟨_, hsurveyed, _⟩ := check_status_exact (fun _ => sampleFiles) sampleSink
      ⟨none, .json, false, samplePaths⟩ sampleSink_breaksOrderly
    exact ((hsurveyed _ hjson).2 (by decide)).1 _ rfl

end Command

end AttrLint
