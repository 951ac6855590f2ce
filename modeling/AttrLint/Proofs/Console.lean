import AttrLint.CommandLine
import AttrLint.Proofs.Escaping

namespace AttrLint

/-!
# What a check puts out

A check tells what it does call by call, and a message that cannot be shown would end it.  The
markup of the command line is never broken, so no call fails, and what the calls leave is the
console and the log of all of them.

* `Telemetry.prints`, `Telemetry.console` — the messages of signals, and their texts.
* `Telemetry.hear_standard`, `Telemetry.hearAll_standard` — the telemetry of the command line never
  fails.
* `Command.check_eq` — the outcome of a check, without its calls.
-/

namespace Telemetry

/-- What signals show on the console, in order. -/
def console (t : Telemetry) (signals : List Signal) : List String :=
  signals.filterMap fun
    | .notice n => t.print? n
    | .log _ => none

/-- The messages that signals make on the console. -/
def prints (t : Telemetry) (signals : List Signal) : List Print :=
  signals.filterMap fun
    | .notice n => t.printOf? n
    | .log _ => none

/-- The console shows the texts of the messages. -/
theorem console_eq (t : Telemetry) (signals : List Signal) :
    t.console signals = (t.prints signals).map Print.text := by
  rw [console, prints, List.map_filterMap]
  congr 1
  funext signal
  cases signal with
  | notice n => cases hprint : t.print? n <;> simp [printOf?, hprint]
  | log record => rfl

/-- The first signal makes its messages before the others make theirs. -/
theorem prints_cons (t : Telemetry) (signal : Signal) (signals : List Signal) :
    t.prints (signal :: signals) = t.prints [signal] ++ t.prints signals := by
  rw [prints, prints, prints, ← List.filterMap_append, List.singleton_append]

/-- The same for its record in the log. -/
theorem log_cons (t : Telemetry) (signal : Signal) (signals : List Signal) :
    t.log (signal :: signals) = t.log [signal] ++ t.log signals := by
  rw [log, log, log, ← List.map_append, List.singleton_append]

/-- A call to the telemetry of the command line has its effect. -/
@[simp] theorem hear_standard (verbose : Bool) (out : Output) (signal : Signal) :
    (standard verbose).hear out signal =
      .ok ⟨out.prints ++ (standard verbose).prints [signal],
        out.log ++ (standard verbose).log [signal]⟩ := by
  cases signal with
  | notice n =>
    rw [hear, fault?_standard]
    cases hprint : (standard verbose).printOf? n <;> simp [prints, log, hprint]
  | log record => simp [hear, prints, log]

/-- The telemetry of the command line never fails, and leaves its console and its log. -/
@[simp] theorem hearAll_standard (verbose : Bool) (out : Output) (signals : List Signal) :
    (standard verbose).hearAll out signals =
      .ok ⟨out.prints ++ (standard verbose).prints signals,
        out.log ++ (standard verbose).log signals⟩ := by
  induction signals generalizing out with
  | nil => simp [hearAll, prints, log]
  | cons signal signals ih =>
    rw [hearAll, hear_standard]
    -- The call has succeeded, so the others are heard by what it has left.
    show (standard verbose).hearAll _ signals = _
    rw [ih, prints_cons _ signal signals, log_cons _ signal signals, List.append_assoc,
      List.append_assoc]

end Telemetry

namespace Command

/-- What a check tells, in order. -/
def told (view : View) (sink : Sink) (request : CheckRequest) : List Signal :=
  checkSignals (checkRun (greeted view) sink request)

/-- **No message ends a check.**  Its outcome is that of its run, with the console and the log of
what it tells. -/
theorem check_eq (view : View) (sink : Sink) (request : CheckRequest) :
    check view sink request =
      ⟨checkStatus (checkRun (greeted view) sink request),
        (checkRun (greeted view) sink request).sink,
        (Telemetry.standard request.verbose).console (told view sink request),
        (Telemetry.standard request.verbose).log (told view sink request)⟩ := by
  have hheard := Telemetry.hearAll_standard request.verbose {} (told view sink request)
  rw [told, List.nil_append, List.nil_append] at hheard
  simp only [check, hheard, Telemetry.console_eq, told]

end Command

end AttrLint
