import AttrLint.CommandLine
import Std.Time.Format

namespace AttrLint

/-!
# The program

The program takes a picture of the part of the file system that a command can look at, lets
`Command.runLogged` say what the command does, and then does it: it prints, adds to the log file and
ends with the exit status.
-/

namespace Program

/-- How the program is called. -/
def usageLine : String := "Usage: xml-requirements [OPTIONS] [FILE]..."

/-- The explanations that the program prints. -/
def texts : Command.Texts where
  help := ["\n".intercalate
    [ usageLine
    , ""
    , "Report every element missing an attribute its tag requires."
    , ""
    , "Exit status: 0 when all files comply, 1 when violations were found,"
    , "2 on configuration, XML, or output errors."
    , ""
    , "Options:"
    , "  -c, --config PATH     Path to TOML configuration file (default: nearest " ++
        ruleFileName ++ ")"
    , "  --format [text|json]  Violation output: text lines or a JSON array"
    , "  -v, --verbose         Show progress on stderr"
    , "  -V, --version         Print version information and exit"
    , "  -h, --help            Show this message and exit"
    , "" ]]
  usage := usageLine ++ "\nTry 'xml-requirements -h' for help.\n"

/-- The name of the variable that holds the path of the log file. -/
def logVariable : String := "XML_REQUIREMENTS_LOG"

/-- What stands at a place, if anything. -/
def entryAt? (place : List String) : IO (Option Entry) := do
  let path := (← IO.currentDir) / (Path.ofAbsolute place).toString
  if ← path.isDir then return some .folder
  match ← (IO.FS.readBinFile path).toBaseIO with
  | .ok bytes => return some (.file bytes.toList)
  | .error _ => return none

/-- A picture of the given places, seen from the working directory `cwd`. -/
def picture (cwd : List String) (places : List (List String)) : IO FileSystem := do
  let entries ← places.filterMapM fun place =>
    return (← entryAt? place).map fun entry => (place, entry)
  return { entries := entries, cwd := cwd }

/-- The time stamp of now. -/
def stamp : IO String := do
  return (← Std.Time.DateTime.now).format "uuuu-MM-dd HH:mm:ss,SSS "

/-- Adds records to the log file at a place. -/
def addToLog (place : List String) (stamp : String) (records : List LogRecord) : IO Unit := do
  let log ← IO.FS.Handle.mk (Path.ofAbsolute place).toString .append
  log.write (ByteArray.mk (LogFile.encode stamp records).toArray)

/-- Runs the program. -/
def run (arguments : List String) : IO UInt32 := do
  let cwd := (Path.ofString (← IO.currentDir).toString).parts
  let log := (← IO.getEnv logVariable).filter (· ≠ "")
  let fs ← picture cwd (Command.places cwd log arguments)
  let stamp ← stamp
  let (outcome, _) := Command.runLogged texts stamp fs {} log arguments
  if let some path := log then
    if let .ok place := Command.logPlace fs path then
      addToLog place stamp outcome.log
  (← IO.getStdout).putStr outcome.sink.text
  (← IO.getStderr).putStr (String.join outcome.console)
  match outcome.status with
  | .ok status => return status.toUInt32
  | .error escape =>
    (← IO.getStderr).putStrLn escape.message
    return 1

end Program

end AttrLint

/-- The entry point of the command line. -/
def main (arguments : List String) : IO UInt32 :=
  AttrLint.Program.run arguments
