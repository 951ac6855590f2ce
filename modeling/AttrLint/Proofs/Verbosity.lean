import AttrLint.Proofs.ExitStatus

namespace AttrLint

/-!
# Verbosity changes nothing but the console

A check tells what it does call by call: each call is logged, and some calls are shown on the
console, which fails if the markup of the message is broken.  This file compares what the telemetry
puts out in the calls of a whole check, quiet and verbose.

* `Telemetry.prints_quiet` — a quiet telemetry prints what a verbose one prints for urgent notices.
* `Command.verbosity_changes_console_only` — the main statement.
-/

namespace Telemetry

/-- The record of a notice does not depend on the verbosity. -/
theorem record_standard (verbose verbose' : Bool) (n : Notice) :
    (standard verbose).record n = (standard verbose').record n := by
  cases n <;> rfl

/-- Nor does the log. -/
theorem log_standard (verbose verbose' : Bool) (signals : List Signal) :
    (standard verbose).log signals = (standard verbose').log signals := by
  rw [log, log]
  apply List.map_congr_left
  intro signal _
  cases signal with
  | notice n => exact record_standard verbose verbose' n
  | log record => rfl

/-- What a message says does not depend on the verbosity, only whether it is shown. -/
theorem printOf?_quiet (n : Notice) :
    (standard false).printOf? n =
      ((standard true).printOf? n).filter fun p => isUrgent p.notice := by
  have hmarkup : (standard false).markup n = (standard true).markup n := by cases n <;> rfl
  have hshows : (standard false).shows n = isUrgent n := by simp [shows, standard]
  have hshows' : (standard true).shows n = true := by simp [shows, standard]
  rw [printOf?, printOf?, print?, print?, hshows, hshows', hmarkup, if_pos rfl]
  cases hurgent : isUrgent n with
  | true => simp [Option.filter_some, hurgent]
  | false => simp [Option.filter_some, hurgent]

/-- A quiet telemetry prints what a verbose one prints for warnings and errors. -/
theorem prints_quiet (signals : List Signal) :
    (standard false).prints signals =
      ((standard true).prints signals).filter fun p => isUrgent p.notice := by
  rw [prints, prints, List.filter_filterMap]
  congr 1
  funext signal
  cases signal with
  | notice n => exact printOf?_quiet n
  | log record => rfl

end Telemetry

namespace Command

/-- What the telemetry of a check puts out, call by call. -/
def telemetryOf (view : View) (sink : Sink) (request : CheckRequest) :
    Except Markup.Fault Telemetry.Output :=
  (Telemetry.standard request.verbose).hearAll {} (told view sink request)

/-- **Verbosity changes nothing but the console.**  For all files, also such that change while the
check tells what it does, and for every sink, rule file, format and list of files, a quiet and a
verbose check have the same status or escape, leave the same sink, and write the same log.  In both
of them every message can be shown, and the console of the quiet one has exactly those messages of
the verbose one that come from warnings and errors, in the same order. -/
theorem verbosity_changes_console_only (view : View) (sink : Sink) (request : CheckRequest) :
    let asked (verbose : Bool) : CheckRequest := { request with verbose := verbose }
    let quiet := check view sink (asked false)
    let verbose := check view sink (asked true)
    quiet.status = verbose.status ∧ quiet.sink = verbose.sink ∧ quiet.log = verbose.log ∧
      ∃ prints : List Print,
        telemetryOf view sink (asked true) = .ok ⟨prints, verbose.log⟩ ∧
        verbose.console = prints.map Print.text ∧
        telemetryOf view sink (asked false) =
          .ok ⟨prints.filter fun p => Telemetry.isUrgent p.notice, quiet.log⟩ ∧
        quiet.console = (prints.filter fun p => Telemetry.isUrgent p.notice).map Print.text := by
  intro asked quiet verbose
  -- The run itself is not told how verbose it is to be.
  have hrun : checkRun (greeted view) sink (asked false) =
      checkRun (greeted view) sink (asked true) := rfl
  have htold : told view sink (asked false) = told view sink (asked true) :=
    congrArg checkSignals hrun
  have hquiet : quiet = _ := check_eq view sink (asked false)
  have hverbose : verbose = _ := check_eq view sink (asked true)
  let prints := (Telemetry.standard true).prints (told view sink (asked true))
  rw [hquiet, hverbose]
  refine ⟨rfl, rfl, Telemetry.log_standard false true _, prints, ?_, ?_, ?_, ?_⟩
  · exact Telemetry.hearAll_standard true {} _
  · exact Telemetry.console_eq (Telemetry.standard true) _
  · rw [← Telemetry.prints_quiet, ← htold]
    exact Telemetry.hearAll_standard false {} _
  · rw [← Telemetry.prints_quiet, ← htold]
    exact Telemetry.console_eq (Telemetry.standard false) _

end Command

end AttrLint
