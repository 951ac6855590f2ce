import AttrLint.Report
import AttrLint.RuleFile.Basic
import AttrLint.Xml.Reader

namespace AttrLint

/-!
# Checking documents

* `Document.parse` — the document of a file's bytes.
* `Check.runIn`, `Check.run` — the rules are loaded, then each file is read, parsed and checked in
  order, and each violation is reported as it is found.
-/

/-- The document that bytes describe; `source` is the name that its errors carry.  Names are Unicode
text, so a file whose name is not UTF-8 is left out of what is said here. -/
def Document.parse (source : String) (bytes : List UInt8) : Except Halt Document :=
  if source.toList.contains '\x00' then .error (.escaped .nullInSource)
  else
    match Xml.events bytes with
    | .error e =>
      if e.isReported then .error (.reported (.documentParse source (.document source e)))
      else .error (.escaped (.document e))
    | .ok events =>
      match Document.ofEvents events with
      | .ok d => .ok d
      | .error e => .error (.reported (.documentParse source (.build e)))

/-- Reads and parses the document at a path. -/
def Document.load (fs : FileSystem) (path : Path) : Except Halt Document :=
  match fs.read path with
  | .error .nullInPath => .error (.escaped .nullInPath)
  | .error (.refused e) => .error (.reported (.documentRead path.toString (.file e)))
  | .ok bytes => Document.parse path.toString bytes

/-- The files as they are after a run has told the given signals.  They change if the run's own log
is among them. -/
abbrev View := List Signal → FileSystem

namespace Check

/-- What a run comes to: its result or why there is none, what the sink has taken, and what the run
has told. -/
structure Run where
  outcome : Except Halt CheckResult
  sink : Sink
  signals : List Signal

/-- A run in progress. -/
structure Progress where
  sink : Sink
  /-- What the run has told, newest first. -/
  signals : List Signal
  /-- The violations so far, newest first. -/
  found : List Violation

namespace Progress

/-- Adds a notice. -/
def tell (p : Progress) (n : Notice) : Progress :=
  { p with signals := .notice n :: p.signals }

/-- Ends the run. -/
def stop (p : Progress) (outcome : Except Halt CheckResult) : Run :=
  ⟨outcome, p.sink, p.signals.reverse⟩

/-- Ends the run because the output has stopped, after violations have been found. -/
def stopOutput (p : Progress) (e : StreamError) (files : Nat) : Run :=
  let p := p.tell (.warning (RunError.output (.stream e)).text)
  p.stop (.ok ⟨p.found.reverse, files, true⟩)

end Progress

/-- Reports violations one after the other.  If the output stops, the run ends with the violations
found up to there, in the file with the number `number`. -/
def reportAll (format : Format) (number : Nat) (p : Progress) :
    List Violation → Except Run Progress
  | [] => .ok p
  | v :: rest =>
    match format.reportViolation p.sink v with
    | (sink, none) => reportAll format number { p with sink := sink, found := v :: p.found } rest
    | (sink, some e) =>
      let p := { p with sink := sink, found := v :: p.found }
      if e.kind.stopsOutput then .error (p.stopOutput e number)
      else .error (p.stop (.error (.escaped (.stream e))))

/-- Checks files one after the other; `number` counts them from one, and `view` gives the files as
they are after what has been told.  The first that cannot be read or parsed ends the run. -/
def checkAll (view : View) (format : Format) (rules : RuleSet) (number : Nat) (p : Progress) :
    List Path → Except Run Progress
  | [] => .ok p
  | path :: rest =>
    let p := p.tell (.step ("Checking " ++ path.toString))
    match Document.load (view p.signals.reverse) path with
    | .error halt => .error (p.stop (.error halt))
    | .ok d =>
      match reportAll format number p (checkDocument rules d path.toString) with
      | .error run => .error run
      | .ok p => checkAll view format rules (number + 1) p rest

/-- Reports the end of a run over `files` files. -/
def conclude (format : Format) (files : Nat) (p : Progress) : Run :=
  let found := p.found.reverse
  match format.reportResult p.sink found with
  | (sink, none) =>
    let p := { p with sink := sink }
    let summary :=
      toString found.length ++ " violation(s) in " ++ toString files ++ " file(s)"
    (p.tell (.step summary)).stop (.ok ⟨found, files, false⟩)
  | (sink, some e) =>
    let p := { p with sink := sink }
    if e.kind.stopsOutput && !found.isEmpty then p.stopOutput e files
    else p.stop (.error (Halt.ofStream e))

/-- Checks the files at `paths` against the rule file at `config`, in files that may change while
the run tells what it does. -/
def runIn (view : View) (format : Format) (sink : Sink) (config : Path) (paths : List Path) :
    Run :=
  let p : Progress := ⟨sink, [], []⟩
  let p := p.tell (.step ("Loading rules from " ++ config.toString))
  let loaded := RuleFile.load (view p.signals.reverse) config
  let p := { p with signals := (loaded.log.map Signal.log).reverse ++ p.signals }
  match loaded.rules with
  | .error halt => p.stop (.error halt)
  | .ok rules =>
    let p := p.tell (.debug (toString rules.size ++ " tag rule(s) loaded"))
    match checkAll view format rules 1 p paths with
    | .error run => run
    | .ok p => conclude format paths.length p

/-- Checks the files at `paths` against the rule file at `config`. -/
def run (fs : FileSystem) (format : Format) (sink : Sink) (config : Path) (paths : List Path) :
    Run :=
  runIn (fun _ => fs) format sink config paths

end Check

end AttrLint
