import AttrLint.Markup.Nesting

namespace AttrLint

/-!
# Messages of a run

A run tells what it does by notices.  Each notice is logged; warnings and errors are shown on the
console, too, and the others only in a verbose run.

* `Notice` — what a run tells.
* `Telemetry.print?` — what a notice shows on the console.
* `Telemetry.fault?` — why a notice cannot be shown.
* `Telemetry.record` — what it leaves in the log.
* `Telemetry.hear`, `Telemetry.hearAll` — the effect of a call, and of calls one after the other.
-/

/-- How serious a log record is. -/
inductive Level where
  | debug
  | info
  | warning
  | error
  deriving DecidableEq, Repr

/-- The name of a level in the log. -/
def Level.name : Level → String
  | .debug => "DEBUG"
  | .info => "INFO"
  | .warning => "WARNING"
  | .error => "ERROR"

/-- A record of the log. -/
structure LogRecord where
  level : Level
  logger : String
  message : String
  deriving DecidableEq, Repr

/-- What a run tells. -/
inductive Notice where
  /-- The greeting at the beginning. -/
  | handshake
  /-- What is done next. -/
  | step (text : String)
  | debug (text : String)
  | warning (text : String)
  | error (text : String)
  deriving DecidableEq, Repr

/-- A notice, or a record that goes to the log only. -/
inductive Signal where
  | notice (notice : Notice)
  | log (record : LogRecord)
  deriving DecidableEq, Repr

/-- A message on the console and the notice that it comes from. -/
structure Print where
  notice : Notice
  text : String
  deriving DecidableEq, Repr

/-- How notices are shown. -/
structure Telemetry where
  /-- The name that greets. -/
  name : String
  /-- The color of the name and of the marks before steps. -/
  color : String
  /-- The text of the greeting. -/
  welcome : String
  verbose : Bool := false
  deriving Repr

namespace Telemetry

/-- The logger of all notices. -/
def logger : String := "xml_requirements"

/-- The notices of the command line. -/
def standard (verbose : Bool) : Telemetry :=
  ⟨"XML-REQUIREMENTS", "cyan", "Checking required attributes", verbose⟩

/-- The record that a notice leaves in the log. -/
def record (t : Telemetry) : Notice → LogRecord
  | .handshake => ⟨.info, logger, t.name ++ ": " ++ t.welcome⟩
  | .step text => ⟨.info, logger, text⟩
  | .debug text => ⟨.debug, logger, text⟩
  | .warning text => ⟨.warning, logger, text⟩
  | .error text => ⟨.error, logger, text⟩

/-- A message with markup around escaped text. -/
def marked (before : String) (text : String) (after : String) : List Char :=
  before.toList ++ Markup.escape text.toList ++ after.toList

/-- The message of a notice, with markup. -/
def markup (t : Telemetry) : Notice → List Char
  | .handshake => marked ("[bold " ++ t.color ++ "]\\[" ++ t.name ++ "][/] ") t.welcome ""
  | .step text => marked ("[" ++ t.color ++ "]>[/] ") text ""
  | .debug text => marked "[dim]" text "[/]"
  | .warning text => marked "[yellow]warning:[/] " text ""
  | .error text => marked "[bold red]" text "[/]"

/-- Says that a notice is shown on the console even in a quiet run. -/
def isUrgent : Notice → Bool
  | .warning _ | .error _ => true
  | _ => false

/-- Says that a notice is shown on the console. -/
def shows (t : Telemetry) (n : Notice) : Bool :=
  t.verbose || isUrgent n

/-- What a notice shows on the console, if anything. -/
def print? (t : Telemetry) (n : Notice) : Option String :=
  if t.shows n then some (String.ofList (Markup.render (t.markup n) ++ ['\n'])) else none

/-- Why a notice cannot be shown on the console: the name or the color breaks the markup. -/
def fault? (t : Telemetry) (n : Notice) : Option Markup.Fault :=
  if t.shows n then Markup.fault? (t.markup n) else none

/-- The log of signals, in order. -/
def log (t : Telemetry) (signals : List Signal) : List LogRecord :=
  signals.map fun
    | .notice n => t.record n
    | .log r => r

/-! ### Calls -/

/-- What a telemetry has put out. -/
structure Output where
  /-- The messages on the console, in order. -/
  prints : List Print := []
  /-- The records in the log, in order. -/
  log : List LogRecord := []
  deriving DecidableEq, Repr

/-- The message that a notice makes on the console, if any. -/
def printOf? (t : Telemetry) (n : Notice) : Option Print :=
  (t.print? n).map fun text => ⟨n, text⟩

/-- The effect of a call: it is logged, and then it is shown, if it is one that is shown.  A message
that cannot be shown is an error. -/
def hear (t : Telemetry) (out : Output) : Signal → Except Markup.Fault Output
  | .log record => .ok { out with log := out.log ++ [record] }
  | .notice n =>
    match t.fault? n with
    | some fault => .error fault
    | none => .ok ⟨out.prints ++ (t.printOf? n).toList, out.log ++ [t.record n]⟩

/-- The effect of calls one after the other, up to the first that fails. -/
def hearAll (t : Telemetry) (out : Output) : List Signal → Except Markup.Fault Output
  | [] => .ok out
  | signal :: signals =>
    match t.hear out signal with
    | .error fault => .error fault
    | .ok out => hearAll t out signals

end Telemetry

end AttrLint
