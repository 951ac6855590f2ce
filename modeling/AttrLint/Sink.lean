import AttrLint.Text.Quoted

namespace AttrLint

/-!
# Output sinks

A sink takes text and may stop working.

* `Sink.write`, `Sink.flush` — the two ways to use a sink.
* `StreamError` — what a broken sink answers.
-/

/-- The kinds of errors of a broken stream. -/
inductive StreamErrorKind where
  | value
  | system
  | brokenPipe
  | missingFile
  | denied
  | runtime
  | key
  deriving DecidableEq, Repr

/-- Says that an error of this kind means that output has stopped; the other kinds end the run. -/
def StreamErrorKind.stopsOutput : StreamErrorKind → Bool
  | .runtime | .key => false
  | _ => true

/-- What a broken stream answers. -/
structure StreamError where
  kind : StreamErrorKind
  text : Option String
  deriving DecidableEq, Repr

/-- The error in words; the text of a key error is a key, and is quoted. -/
def StreamError.message (e : StreamError) : String :=
  match e.text with
  | none => ""
  | some text => if e.kind = .key then Text.quoted text else text

/-- The two ways to use a stream. -/
inductive StreamCall where
  | write
  | flush
  deriving DecidableEq, Repr

/-- How a sink behaves. -/
inductive SinkBehaviour where
  /-- It takes everything. -/
  | works
  /-- There is no stream at all. -/
  | absent
  /-- The stream has been closed. -/
  | closed
  /-- From the given call of one kind on, every call of that kind fails. -/
  | fails (call : StreamCall) (first : Int) (error : StreamError)
  deriving DecidableEq, Repr

/-- A sink and what it has taken. -/
structure Sink where
  behaviour : SinkBehaviour := .works
  /-- The texts taken, newest first. -/
  chunks : List String := []
  /-- How many writes there were. -/
  writes : Nat := 0
  /-- How many flushes there were. -/
  flushes : Nat := 0
  deriving Repr

namespace Sink

/-- All text that the sink has taken. -/
def text (s : Sink) : String :=
  String.join s.chunks.reverse

/-- What the sink answers to the `n`-th call of a kind: nothing if it works. -/
def answer (s : Sink) (call : StreamCall) (n : Nat) : Option StreamError :=
  match s.behaviour with
  | .works => none
  | .absent => some ⟨.brokenPipe, some "stdout is closed"⟩
  | .closed => some ⟨.value, some "I/O operation on closed file."⟩
  | .fails failing first error => if failing = call ∧ first ≤ n then some error else none

/-- Writes a text; a failing write takes nothing. -/
def write (s : Sink) (text : String) : Sink × Option StreamError :=
  let n := s.writes + 1
  match s.answer .write n with
  | none => ({ s with writes := n, chunks := text :: s.chunks }, none)
  | some error => ({ s with writes := n }, some error)

/-- Makes sure that what was written reaches its reader. -/
def flush (s : Sink) : Sink × Option StreamError :=
  let n := s.flushes + 1
  ({ s with flushes := n }, s.answer .flush n)

end Sink

end AttrLint
