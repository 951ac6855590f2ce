import AttrLint.Check
import AttrLint.LogFile

namespace AttrLint

/-!
# The command line

* `Request.parse` — what the arguments ask for.
* `Command.runIn`, `Command.run` — the effect of a command: its exit status, its output and what it
  tells.
* `Command.runLogged` — the same with a log file.
* `Command.places` — the places of the file system that a command may look at.
-/

/-- The options that take a value. -/
inductive ValueOption where
  | config
  | format
  deriving DecidableEq, Repr

/-- The options without a value. -/
inductive FlagOption where
  | verbose
  | version
  | help
  deriving DecidableEq, Repr

/-- An option of the command line. -/
inductive CommandOption where
  | value (option : ValueOption)
  | flag (option : FlagOption)
  deriving DecidableEq, Repr

/-- What the arguments say, before it is checked. -/
structure Arguments where
  /-- The last value of each option. -/
  config : Option String := none
  format : Option String := none
  verbose : Bool := false
  /-- The first of the options that act before all others. -/
  eager : Option FlagOption := none
  /-- The files, newest first. -/
  files : List String := []
  deriving Repr

namespace Arguments

/-- The option of a long name. -/
def longOption? (name : List Char) : Option CommandOption :=
  let name := String.ofList name
  if name = "--config" then some (.value .config)
  else if name = "--format" then some (.value .format)
  else if name = "--verbose" then some (.flag .verbose)
  else if name = "--version" then some (.flag .version)
  else if name = "--help" then some (.flag .help)
  else none

/-- The option of a letter. -/
def shortOption? (c : Char) : Option CommandOption :=
  if c = 'c' then some (.value .config)
  else if c = 'v' then some (.flag .verbose)
  else if c = 'V' then some (.flag .version)
  else if c = 'h' then some (.flag .help)
  else none

/-- Sets a flag. -/
def setFlag (a : Arguments) : FlagOption → Arguments
  | .verbose => { a with verbose := true }
  | flag => { a with eager := a.eager.or (some flag) }

/-- Sets the value of an option. -/
def setValue (a : Arguments) (option : ValueOption) (value : String) : Arguments :=
  match option with
  | .config => { a with config := some value }
  | .format => { a with format := some value }

/-- Takes letters after a single dash: the first that takes a value takes the other letters for it,
and the next argument if there are none.  Nothing results if a letter is no option or a value is
missing. -/
def takeLetters (a : Arguments) : List Char → List String → Option (Arguments × List String)
  | [], rest => some (a, rest)
  | c :: cs, rest =>
    match shortOption? c with
    | none => none
    | some (.flag flag) => takeLetters (a.setFlag flag) cs rest
    | some (.value option) =>
      match cs, rest with
      | [], [] => none
      | [], value :: rest => some (a.setValue option value, rest)
      | cs, rest => some (a.setValue option (String.ofList cs), rest)

/-- Takes an argument that starts with a dash, with what follows it. -/
def takeOption (a : Arguments) (argument : List Char) (rest : List String) :
    Option (Arguments × List String) :=
  let (name, attached) := argument.span (· ≠ '=')
  let value? : Option String :=
    match attached with
    | [] => none
    | _ :: value => some (String.ofList value)
  match longOption? name, value?, rest with
  | some (.value option), some value, rest => some (a.setValue option value, rest)
  | some (.value option), none, value :: rest => some (a.setValue option value, rest)
  | some (.value _), none, [] => none
  | some (.flag flag), none, rest => some (a.setFlag flag, rest)
  | some (.flag _), some _, _ => none
  | none, _, rest =>
    match argument with
    | '-' :: '-' :: _ => none
    | _ => takeLetters a (argument.drop 1) rest

/-- Takes arguments from left to right, at most `turns` of them; `--` ends the options, and a single
dash is a file. -/
def takeAll (turns : Nat) (a : Arguments) (arguments : List String) : Option Arguments :=
  match turns, arguments with
  | 0, _ | _, [] => some a
  | turns + 1, argument :: rest =>
    match argument.toList with
    | ['-', '-'] => some { a with files := rest.reverse ++ a.files }
    | '-' :: c :: cs =>
      match a.takeOption ('-' :: c :: cs) rest with
      | none => none
      | some (a, rest) => takeAll turns a rest
    | _ => takeAll turns { a with files := argument :: a.files } rest

end Arguments

/-- What a check is asked to do. -/
structure CheckRequest where
  config : Option Path
  format : Format
  verbose : Bool
  files : List Path
  deriving Repr

/-- What the arguments ask for. -/
inductive Request where
  | check (request : CheckRequest)
  | version
  | help
  /-- The arguments make no sense. -/
  | usage

namespace Request

/-- A letter of the names of formats in lower case; the long s is one, too. -/
def foldLetter (c : Char) : Char :=
  if 'A' ≤ c ∧ c ≤ 'Z' then Char.ofNat (c.toNat + 32) else if c = 'ſ' then 's' else c

/-- The format with the given name in any letter case. -/
def format? (name : String) : Option Format :=
  Format.ofName? (String.ofList (name.toList.map foldLetter))

/-- Says that a path cannot be looked at. -/
def hasNull (s : String) : Bool :=
  s.toList.contains '\x00'

/-- The check that arguments ask for, unless a format is not known or a path cannot be looked at. -/
def checkOf? (a : Arguments) : Option CheckRequest := do
  let format ← match a.format with
    | some name => format? name
    | none => some .text
  if a.config.any hasNull || a.files.any hasNull then none
  else
    return {
      config := a.config.map Path.ofString
      format := format
      verbose := a.verbose
      files := a.files.reverse.map Path.ofString }

/-- What arguments ask for, once they are taken apart. -/
def ofArguments (a : Arguments) : Request :=
  match a.eager with
  | some .help => .help
  | some _ => .version
  | none =>
    match checkOf? a with
    | some request => .check request
    | none => .usage

/-- What the arguments ask for. -/
def parse (arguments : List String) : Request :=
  match Arguments.takeAll arguments.length {} arguments with
  | none => .usage
  | some a => ofArguments a

end Request

namespace Command

/-- The texts that explain the command. -/
structure Texts where
  /-- The pieces of the explanation, each of which is printed at once. -/
  help : List String
  usage : String

/-- What a command does. -/
structure Outcome where
  /-- The exit status, unless the command ends by an unexpected error. -/
  status : Except Escape Nat
  sink : Sink
  /-- What is printed on the console, in order. -/
  console : List String
  log : List LogRecord

/-- The name and version of the program. -/
def version : String := "xml-requirements 0.3.0"

/-- Writes a text to the sink, and then flushes it if `flushed` says so. -/
def print (flushed : Bool) (sink : Sink) (text : String) : Sink × Option StreamError :=
  match sink.write text with
  | (sink, none) => if flushed then sink.flush else (sink, none)
  | (sink, some e) => (sink, some e)

/-- Prints texts to the sink, one write each, until one fails. -/
def printAll (flushed : Bool) (sink : Sink) : List String → Sink × Option StreamError
  | [] => (sink, none)
  | text :: rest =>
    match print flushed sink text with
    | (sink, none) => printAll flushed sink rest
    | (sink, some e) => (sink, some e)

/-- The outcome of printing texts; without a sink nothing is printed. -/
def printed (flushed : Bool) (sink : Sink) (texts : List String) : Outcome :=
  if sink.behaviour = .absent then ⟨.ok 0, sink, [], []⟩
  else
    match printAll flushed sink texts with
    | (sink, none) => ⟨.ok 0, sink, [], []⟩
    | (sink, some e) => ⟨.error (.stream e), sink, [], []⟩

/-- The rule file of a check: the one given, or else the nearest one. -/
def configPath (fs : FileSystem) (given : Option Path) : Except Halt Path :=
  match given with
  | some path => .ok path
  | none =>
    match RuleFile.find fs none with
    | .error e => .error (.escaped e)
    | .ok (some path) => .ok path
    | .ok none =>
      let folder := (Path.ofAbsolute fs.cwd).toString
      .error (.reported (.configRead ruleFileName (.noRuleFile folder)))

/-- The run of a check. -/
def checkRun (view : View) (sink : Sink) (request : CheckRequest) : Check.Run :=
  match configPath (view []) request.config with
  | .error halt => ⟨.error halt, sink, []⟩
  | .ok config => Check.runIn view request.format sink config request.files

/-- What a check tells: the greeting, then what the run tells, then the error that ends it. -/
def checkSignals (run : Check.Run) : List Signal :=
  let ending :=
    match run.outcome with
    | .error (.reported e) => [Signal.notice (.error e.text)]
    | _ => []
  .notice .handshake :: run.signals ++ ending

/-- The exit status of a check: two for a reported error. -/
def checkStatus (run : Check.Run) : Except Escape Nat :=
  match run.outcome with
  | .ok result => .ok result.exitCode
  | .error (.reported _) => .ok 2
  | .error (.escaped e) => .error e

/-- The files as a check sees them: it greets before it looks at any. -/
def greeted (view : View) : View :=
  fun told => view (.notice .handshake :: told)

/-- Checks documents, after a greeting.  The status is the argument of the exit call; what a system
makes of it is not modelled.  A message that cannot be shown would end the check, but the telemetry
of the command line has none. -/
def check (view : View) (sink : Sink) (request : CheckRequest) : Outcome :=
  let run := checkRun (greeted view) sink request
  match (Telemetry.standard request.verbose).hearAll {} (checkSignals run) with
  | .ok out => ⟨checkStatus run, run.sink, out.prints.map Print.text, out.log⟩
  | .error fault => ⟨.error (.markup fault), run.sink, [], []⟩

/-- The effect of a command, in files that may change while it tells what it does. -/
def runIn (texts : Texts) (view : View) (sink : Sink) (arguments : List String) : Outcome :=
  match Request.parse arguments with
  | .check request => check view sink request
  | .version => printed false sink [version, "\n"]
  | .help => printed true sink texts.help
  | .usage => ⟨.ok 2, sink, [texts.usage], []⟩

/-- The effect of a command. -/
def run (texts : Texts) (fs : FileSystem) (sink : Sink) (arguments : List String) : Outcome :=
  runIn texts (fun _ => fs) sink arguments

/-! ### Log files -/

/-- The place of a log file.  A relative path needs a working directory. -/
def logPlace (fs : FileSystem) (log : String) : Except Escape (List String) :=
  let path := Path.ofString log
  if path.slashes = 0 ∧ 0 < fs.lost then .error .lostFolder
  else
    match fs.openToAppend (path.anchored fs.cwd) with
    | .ok place => .ok place
    | .error .nullInPath => .error .nullInPath
    | .error (.refused e) => .error (.file e)

/-- The files with the log of what has been told at the end of the log file. -/
def logView (fs : FileSystem) (place : List String) (stamp : String) : View :=
  fun told => fs.append place (LogFile.encode stamp ((Telemetry.standard false).log told))

/-- The effect of a command that adds its log to a file, unless the name of that file is empty or
not given; each record gets the time stamp `stamp`.  The command sees its own log.  If the log file
cannot be opened, nothing else happens. -/
def runLogged (texts : Texts) (stamp : String) (fs : FileSystem) (sink : Sink)
    (log : Option String) (arguments : List String) : Outcome × FileSystem :=
  match log.filter (· ≠ "") with
  | none => (run texts fs sink arguments, fs)
  | some log =>
    match logPlace fs log with
    | .error e => (⟨.error e, sink, [], []⟩, fs)
    | .ok place =>
      let outcome := runIn texts (logView fs place stamp) sink arguments
      (outcome, fs.append place (LogFile.encode stamp outcome.log))

/-! ### What a command looks at -/

/-- The places on the way along a path, the last included. -/
def placesAlong (cwd : List String) (p : Path) : List (List String) :=
  (List.range (p.parts.length + 1)).map fun n =>
    ({ p with parts := p.parts.take n } : Path).absolute cwd

/-- The paths that a command may read: rule files, documents and the log file. -/
def pathsRead (cwd : List String) (log : Option String) (arguments : List String) : List Path :=
  let asked :=
    match Request.parse arguments with
    | .check request =>
      let configs := match request.config with
        | some path => [path]
        | none => (RuleFile.upwards cwd).map fun folder =>
            (Path.ofAbsolute folder).child ruleFileName
      configs ++ request.files
    | _ => []
  ((log.map Path.ofString).toList ++ asked).filter fun p =>
    !(p.toString.toList.contains '\x00')

/-- Every place that a command may look at. -/
def places (cwd : List String) (log : Option String) (arguments : List String) :
    List (List String) :=
  ((Path.ofAbsolute cwd :: pathsRead cwd log arguments).flatMap (placesAlong cwd)).eraseDups

end Command

end AttrLint
