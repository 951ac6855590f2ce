import AttrLint.Halt
import AttrLint.Report

namespace AttrLint

/-!
# Reporters

A reporter takes violations from anywhere, so their numbers may be too long to be written.  It looks
at the numbers before it writes anything.

* `Reporter.reportViolation`, `Reporter.reportResult` — the two moments of reporting.
-/

/-- A reporter: the form of its report, and the sink that it writes to. -/
structure Reporter where
  format : Format
  sink : Sink

namespace Reporter

/-- The reporter after its sink has answered; a broken sink is an error. -/
def answered (r : Reporter) (answer : Sink × Option StreamError) : Reporter × Option Halt :=
  ({ r with sink := answer.1 }, answer.2.map Halt.ofStream)

/-- Reports a violation when it is found: in text it is written at once. -/
def reportViolation (r : Reporter) (v : Violation) : Reporter × Option Halt :=
  if r.format = .json ∨ v.isWritable then r.answered (r.format.reportViolation r.sink v)
  else (r, some (.escaped .longNumber))

/-- Reports the end of a run that has found the given violations: in JSON they are written now. -/
def reportResult (r : Reporter) (vs : List Violation) : Reporter × Option Halt :=
  if r.format = .text ∨ vs.all Violation.isWritable then
    r.answered (r.format.reportResult r.sink vs)
  else (r, some (.escaped .longNumber))

end Reporter

end AttrLint
