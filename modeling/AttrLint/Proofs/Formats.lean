import Mathlib.Control.Monad.Basic
import AttrLint.Proofs.Json
import AttrLint.Proofs.Runs

namespace AttrLint

/-!
# The two formats agree

A report in text is written line by line while a run is under way, one in JSON at its end.  On a sink
that never fails the format makes no other difference, and both reports say the same.

* `Sink.NeverFails` — the sink takes everything.
* `Json.Value.reportLine?` — the line of text that the fields of a decoded object make;
  `Json.reportLine?_valueOf` says that it is the line of the violation.
* `Check.formats_agree` — the two runs have the same outcome and tell the same, and their reports
  match line by line.
-/

/-! ### Sinks that never fail -/

namespace Sink

/-- Says that no call of the sink fails. -/
def NeverFails (s : Sink) : Prop :=
  ∀ call n, s.answer call n = none

/-- A fresh sink has nothing that would make it fail. -/
theorem neverFails_empty : NeverFails {} :=
  fun _ _ => rfl

/-- A sink that never fails takes any number of calls. -/
theorem NeverFails.failsWithin {s : Sink} (h : s.NeverFails) (call : StreamCall) (k : Nat) :
    s.failsWithin call k = false := by
  have hnext : s.failsWithin call (k + 1) = false :=
    (answer_eq_none_iff s call (Nat.succ_pos k)).mp (h call _)
  rw [failsWithin_eq_false_iff] at hnext ⊢
  intro n hfirst
  exact Nat.lt_of_succ_lt (hnext n hfirst)

end Sink

namespace Format

variable {s : Sink}

/-- On a sink that never fails, no report of a violation does. -/
theorem failsWithin_of_neverFails (h : s.NeverFails) (f : Format) (k : Nat) :
    f.failsWithin s k = false := by
  cases f with
  | text => exact h.failsWithin .write k
  | json => rfl

/-- Nor does the report at the end. -/
theorem resultFails_of_neverFails (h : s.NeverFails) (f : Format) : f.resultFails s = false := by
  cases f with
  | text => exact h.failsWithin .flush 1
  | json => rw [resultFails, h.failsWithin, h.failsWithin, Bool.or_false]

/-- Reports of violations do not change that a sink never fails. -/
theorem neverFails_after (h : s.NeverFails) (f : Format) (vs : List Violation) :
    (f.after s vs).NeverFails := by
  cases f with
  | text => exact h
  | json => exact h

/-- A report in text has been written when its end is reached. -/
theorem chunks_text (s : Sink) (vs : List Violation) :
    (Format.text.reportResult (Format.text.after s vs) vs).1.chunks =
      (vs.map Violation.reportLine).reverse ++ s.chunks :=
  rfl

/-- A report in JSON is written at the end, all at once. -/
theorem chunks_json (h : s.NeverFails) (vs : List Violation) :
    (Format.json.reportResult (Format.json.after s vs) vs).1.chunks = Json.report vs :: s.chunks := by
  rw [reportResult, after, Sink.write_taken (h.failsWithin .write 1)]
  rfl

end Format

/-! ### Lines from objects -/

namespace Json

namespace Value

/-- The value of the last field with the given name. -/
def field? (value : Value) (name : String) : Option Value :=
  match value with
  | .object fields => fields.reverse.lookup name
  | _ => none

/-- The text of a string. -/
def text? : Value → Option String
  | .string text => some text
  | _ => none

/-- The digits of a number. -/
def digits? : Value → Option String
  | .number n => some (toString n)
  | _ => none

/-- The line of text that the fields of an object make. -/
def reportLine? (value : Value) : Option String := do
  let path ← (← value.field? "path").text?
  let line ← (← value.field? "line").digits?
  let column ← (← value.field? "column").digits?
  let tag ← (← value.field? "tag").text?
  let wanted ← (← value.field? "attribute").text?
  return path ++ ":" ++ line ++ ":" ++ column ++ " " ++ tag ++ " missing " ++ wanted ++
    " attribute" ++ "\n"

end Value

/-- The fields of a violation make its line. -/
theorem reportLine?_valueOf (v : Violation) : (valueOf v).reportLine? = some v.reportLine :=
  rfl

end Json

namespace Check

/-- **The two formats agree.**  On a sink that never fails, a run with reports in text and one with
reports in JSON end with the same error or the same result, and tell the same.  With an error, the
second has written nothing.  With a result, it has written one array, and the object at each position
makes the line at the same position of the first; these lines are those of the violations found. -/
theorem formats_agree (view : View) (config : Path) (paths : List Path) {sink : Sink}
    (hsink : sink.NeverFails) :
    let text := runIn view .text sink config paths
    let json := runIn view .json sink config paths
    json.outcome = text.outcome ∧ json.signals = text.signals ∧
      (∀ halt, text.outcome = .error halt → json.sink = sink) ∧
      ∀ result, text.outcome = .ok result →
        ∃ lines report objects,
          text.sink.chunks = lines.reverse ++ sink.chunks ∧
          json.sink.chunks = report :: sink.chunks ∧
          Json.decode report = some (.array objects) ∧
          objects.map Json.Value.reportLine? = lines.map some ∧
          lines = result.violations.map Violation.reportLine := by
  intro text json
  -- What there is to report does not depend on the format, and no report fails.
  have htaken (f : Format) (k : Nat) := Format.failsWithin_of_neverFails hsink f k
  have hresult (f : Format) := Format.resultFails_of_neverFails hsink f
  cases hstart : start view config with
  | error halt =>
    have htext : text = _ := runIn_unloaded hstart .text
    have hjson : json = _ := runIn_unloaded hstart .json
    rw [htext, hjson]
    refine ⟨rfl, rfl, fun _ _ => rfl, ?_⟩
    intro result hok
    cases hok
  | ok loaded =>
    obtain ⟨rules, told⟩ := loaded
    cases hhalt : (survey view rules told paths).halt with
    | some halt =>
      have htext : text = _ := runIn_halted hstart hhalt (htaken .text _)
      have hjson : json = _ := runIn_halted hstart hhalt (htaken .json _)
      rw [htext, hjson]
      refine ⟨rfl, rfl, fun _ _ => rfl, ?_⟩
      intro result hok
      cases hok
    | none =>
      have htext : text = _ := runIn_concluded hstart hhalt (htaken .text _) (hresult .text)
      have hjson : json = _ := runIn_concluded hstart hhalt (htaken .json _) (hresult .json)
      rw [htext, hjson]
      refine ⟨rfl, rfl, ?_, ?_⟩
      · intro halt herror
        cases herror
      · intro result hok
        cases hok
        refine ⟨_, _, _, Format.chunks_text sink _, Format.chunks_json hsink _,
          Json.decode_report _, ?_, rfl⟩
        -- Objects and lines come from the same violations, one by one.
        rw [List.map_map, List.map_map]
        apply List.map_congr_left
        intro v _
        exact Json.reportLine?_valueOf v

/-- Three violations in two files are reported in three lines of text or in an array of three objects
that make these lines. -/
theorem formats_agree_two_files :
    let text := runIn (fun _ => sampleFiles) .text {} (Path.ofString ruleFileName)
      (samplePaths.take 2)
    let json := runIn (fun _ => sampleFiles) .json {} (Path.ofString ruleFileName)
      (samplePaths.take 2)
    json.outcome = text.outcome ∧
      ∃ report objects, json.sink.chunks = [report] ∧ Json.decode report = some (.array objects) ∧
        objects.map Json.Value.reportLine? = text.sink.chunks.reverse.map some ∧
        objects.length = 3 := by
  have hnever := Sink.neverFails_empty
  have hfound : (runIn (fun _ => sampleFiles) .text {} (Path.ofString ruleFileName)
      (samplePaths.take 2)).outcome = .ok ⟨sampleSurvey.found, 2, false⟩ := by decide +kernel
  obtain ⟨houtcome, _, _, hreports⟩ :=
    formats_agree (fun _ => sampleFiles) (Path.ofString ruleFileName) (samplePaths.take 2) hnever
  obtain ⟨lines, report, objects, htext, hjson, hdecode, hlines, hviolations⟩ := hreports _ hfound
  refine ⟨houtcome, report, objects, hjson, hdecode, ?_, ?_⟩
  · rw [htext, List.append_nil, List.reverse_reverse]
    exact hlines
  · have hlength := congrArg List.length hlines
    rw [List.length_map, List.length_map, hviolations] at hlength
    exact hlength

end Check

end AttrLint
