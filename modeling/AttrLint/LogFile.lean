import AttrLint.Path
import AttrLint.Telemetry
import AttrLint.Text.Utf8

namespace AttrLint

/-!
# Log files

A log file has a line for each record, or several if its message has several, and a time stamp at
the beginning of each record.

* `LogRecord.lines` — the lines of a record.
* `LogFile.encode` — the bytes of records.
* `LogFile.unstamped` — the text of a log file without its time stamps.
-/

/-- The record as it is written after its time stamp. -/
def LogRecord.lines (r : LogRecord) : String :=
  r.level.name ++ " " ++ r.logger ++ ": " ++ r.message ++ "\n"

namespace LogFile

/-- The bytes of records that all have the same time stamp. -/
def encode (stamp : String) (records : List LogRecord) : List UInt8 :=
  Text.Utf8.encode (records.flatMap fun r => stamp.toList ++ r.lines.toList)

/-- The form of a time stamp: a zero stands for a digit, and any other character for itself. -/
def stampForm : String := "0000-00-00 00:00:00,000 "

/-- Says that a character is as the form has it. -/
def fits (form c : Char) : Bool :=
  if form = '0' then '0' ≤ c && c ≤ '9' else c = form

/-- The rest of a line after characters of the given form; nothing if it has another form. -/
def after? : List Char → List Char → Option (List Char)
  | [], line => some line
  | _ :: _, [] => none
  | form :: forms, c :: line => if fits form c then after? forms line else none

/-- A line without its time stamp. -/
def unstampedLine (line : List Char) : List Char :=
  (after? stampForm.toList line).getD line

/-- The text of a log file without time stamps. -/
def unstamped (text : List Char) : List Char :=
  ['\n'].intercalate ((Text.fields '\n' text).map unstampedLine)

end LogFile

end AttrLint
