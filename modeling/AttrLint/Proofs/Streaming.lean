import Mathlib.Control.Monad.Basic
import AttrLint.Proofs.Runs

namespace AttrLint

/-!
# Reports in text are written as violations are found

A report in text is written line by line, so a sink that stops working leaves a part of it.  This
file says which part, and what the result of the run still tells.

* `reportText` — the lines of violations as one text.
* `Check.streamed_refused`, `Check.streamed_halted`, `Check.streamed_flushed`,
  `Check.streamed_unflushed` — the four ways in which a run with rules ends.
* `Check.streamed_text_cut`, `Check.streamed_result_cut` — the text and the result if a write fails;
  `Check.streamed_text`, `Check.streamed_result` — the same if none does.
* `Check.streams_exact_prefix` — the main statement: what has been written is a prefix of the
  report, cut right before the write that failed, and the result agrees with it.
-/

/-- The lines of violations, one after the other. -/
def reportText (vs : List Violation) : String :=
  String.join (vs.map Violation.reportLine)

/-- Says that a signal is a warning to the user. -/
def Signal.isWarning : Signal → Bool
  | .notice (.warning _) => true
  | _ => false

/-- The text of a sink that has taken the lines of violations. -/
theorem text_after (sink : Sink) (vs : List Violation) :
    (Format.text.after sink vs).text = sink.text ++ reportText vs := by
  rw [Format.after, Sink.text_took, List.reverse_reverse, reportText]

namespace Check

/-- Announcing files is no warning. -/
theorem countP_checking (paths : List Path) :
    (paths.map checking).countP Signal.isWarning = 0 := by
  rw [List.countP_eq_zero]
  intro signal hsignal
  obtain ⟨path, _, rfl⟩ := List.mem_map.mp hsignal
  exact Bool.false_ne_true

/-- Loading rules leads to records in the log, but not to warnings to the user. -/
theorem countP_start {view : View} {config : Path} {rules : RuleSet} {told : List Signal}
    (h : start view config = .ok (rules, told)) : told.countP Signal.isWarning = 0 := by
  rw [List.countP_eq_zero]
  intro signal hsignal
  cases hrules : (RuleFile.load (view [loading config]) config).rules with
  | error halt =>
    simp only [start, hrules] at h
    cases h
  | ok rules' =>
    simp only [start, hrules] at h
    cases h
    simp only [List.cons_append, List.mem_cons, List.mem_append, List.mem_map, List.not_mem_nil,
      or_false] at hsignal
    rcases hsignal with rfl | ⟨record, _, rfl⟩ | rfl <;> exact Bool.false_ne_true

/-- The only warning that there can be is what is told last. -/
theorem countP_told {view : View} {config : Path} {rules : RuleSet} {told : List Signal}
    (h : start view config = .ok (rules, told)) (paths : List Path) (last : Signal) :
    (told ++ paths.map checking ++ [last]).countP Signal.isWarning =
      if last.isWarning then 1 else 0 := by
  rw [List.countP_append, List.countP_append, countP_start h, countP_checking,
    List.countP_singleton, Nat.zero_add]

section Endings

variable {view : View} {sink : Sink} {config : Path} {paths : List Path} {s : Survey}

/-- The sink refuses the `n`-th line: the lines before it are written, the first `n` violations are
the result, and the user is warned once. -/
theorem streamed_refused (hsurvey : surveyIn view config paths = .ok s) (hsink : sink.BreaksOrderly)
    {n : Nat} (h : sink.firstFailure .write = some n) (hn : n ≤ s.found.length) :
    (runIn view .text sink config paths).sink.text =
        sink.text ++ reportText (s.found.take (n - 1)) ∧
      (runIn view .text sink config paths).signals.countP Signal.isWarning = 1 ∧
      ∃ k : Nat, (s.blocks.take k).flatten.length < n ∧ n ≤ (s.blocks.take (k + 1)).flatten.length ∧
        (runIn view .text sink config paths).outcome = .ok ⟨s.found.take n, (k + 1 : Nat), true⟩ := by
  obtain ⟨rules, told, hstart, rfl⟩ := surveyIn_eq_ok hsurvey
  obtain ⟨k, error, hbefore, hupto, hrun⟩ := runIn_refused hstart hsink h hn
  rw [hrun]
  refine ⟨?_, ?_, k, hbefore, hupto, ?_⟩
  · exact text_after sink _
  · exact countP_told hstart _ (stopped error)
  · rw [Nat.add_comm 1 k]

/-- A file ends the run: all lines are written, and there is no result. -/
theorem streamed_halted (hsurvey : surveyIn view config paths = .ok s) {halt : Halt}
    (hhalt : s.halt = some halt) (h : sink.failsWithin .write s.found.length = false) :
    (runIn view .text sink config paths).sink.text = sink.text ++ reportText s.found ∧
      (runIn view .text sink config paths).outcome = .error halt := by
  obtain ⟨rules, told, hstart, rfl⟩ := surveyIn_eq_ok hsurvey
  rw [runIn_halted hstart hhalt (f := .text) h]
  exact ⟨text_after sink _, rfl⟩

/-- The run gets through, and the last flush goes well. -/
theorem streamed_flushed (hsurvey : surveyIn view config paths = .ok s) (hhalt : s.halt = none)
    (h : sink.failsWithin .write s.found.length = false)
    (hflush : sink.failsWithin .flush 1 = false) :
    (runIn view .text sink config paths).sink.text = sink.text ++ reportText s.found ∧
      (runIn view .text sink config paths).signals.countP Signal.isWarning = 0 ∧
      (runIn view .text sink config paths).outcome = .ok ⟨s.found, paths.length, false⟩ := by
  obtain ⟨rules, told, hstart, rfl⟩ := surveyIn_eq_ok hsurvey
  rw [runIn_concluded hstart hhalt (f := .text) h hflush]
  exact ⟨text_after sink _, countP_told hstart paths (summary _ _), rfl⟩

/-- The run gets through, and the last flush fails: only violations that have been found make a
result of it, and then the user is warned once. -/
theorem streamed_unflushed (hsurvey : surveyIn view config paths = .ok s) (hsink : sink.BreaksOrderly)
    (hhalt : s.halt = none) (h : sink.failsWithin .write s.found.length = false)
    (hflush : sink.failsWithin .flush 1 = true) :
    (runIn view .text sink config paths).sink.text = sink.text ++ reportText s.found ∧
      (s.found = [] → ∃ halt, (runIn view .text sink config paths).outcome = .error halt) ∧
      (s.found ≠ [] →
        (runIn view .text sink config paths).signals.countP Signal.isWarning = 1 ∧
        (runIn view .text sink config paths).outcome = .ok ⟨s.found, paths.length, true⟩) := by
  obtain ⟨rules, told, hstart, rfl⟩ := surveyIn_eq_ok hsurvey
  obtain ⟨error, hrun⟩ := runIn_unconcluded hstart hsink hhalt (f := .text) h hflush
  rw [hrun]
  by_cases hfound : (survey view rules told paths).found = []
  · rw [if_pos (List.isEmpty_iff.mpr hfound)]
    refine ⟨text_after sink _, ?_, ?_⟩
    · intro _; exact ⟨_, rfl⟩
    · intro hne; exact absurd hfound hne
  · rw [if_neg (fun hempty => hfound (List.isEmpty_iff.mp hempty))]
    refine ⟨text_after sink _, ?_, ?_⟩
    · intro hnil; exact absurd hnil hfound
    · intro _; exact ⟨countP_told hstart paths (stopped error), rfl⟩

/-- If the sink takes all lines, they are all written, however the run ends. -/
theorem streamed_text (hsurvey : surveyIn view config paths = .ok s) (hsink : sink.BreaksOrderly)
    (h : sink.failsWithin .write s.found.length = false) :
    (runIn view .text sink config paths).sink.text = sink.text ++ reportText s.found := by
  cases hhalt : s.halt with
  | some halt => exact (streamed_halted hsurvey hhalt h).1
  | none =>
    cases hflush : sink.failsWithin .flush 1 with
    | false => exact (streamed_flushed hsurvey hhalt h hflush).1
    | true => exact (streamed_unflushed hsurvey hsink hhalt h hflush).1

/-- If the sink takes all lines and there is a result, then no file ended the run, the result has all
violations, and output has failed exactly if the last flush has. -/
theorem streamed_result (hsurvey : surveyIn view config paths = .ok s) (hsink : sink.BreaksOrderly)
    (h : sink.failsWithin .write s.found.length = false) {result : CheckResult}
    (hresult : (runIn view .text sink config paths).outcome = .ok result) :
    s.halt = none ∧ result = ⟨s.found, paths.length, sink.failsWithin .flush 1⟩ ∧
      (sink.failsWithin .flush 1 = true → s.found ≠ []) ∧
      (runIn view .text sink config paths).signals.countP Signal.isWarning =
        if sink.failsWithin .flush 1 then 1 else 0 := by
  cases hhalt : s.halt with
  | some halt =>
    rw [(streamed_halted hsurvey hhalt h).2] at hresult
    cases hresult
  | none =>
    cases hflush : sink.failsWithin .flush 1 with
    | false =>
      obtain ⟨_, hwarnings, houtcome⟩ := streamed_flushed hsurvey hhalt h hflush
      rw [houtcome] at hresult
      cases hresult
      exact ⟨rfl, rfl, fun hfails => absurd hfails Bool.false_ne_true, hwarnings⟩
    | true =>
      obtain ⟨_, hnone, hsome⟩ := streamed_unflushed hsurvey hsink hhalt h hflush
      by_cases hfound : s.found = []
      · obtain ⟨halt, houtcome⟩ := hnone hfound
        rw [houtcome] at hresult
        cases hresult
      · obtain ⟨hwarnings, houtcome⟩ := hsome hfound
        rw [houtcome] at hresult
        cases hresult
        exact ⟨rfl, rfl, fun _ => hfound, hwarnings⟩

/-- There is a result if a line is refused, and otherwise if no file ends the run and there are
violations or the last flush goes well. -/
theorem streamed_exists_result (hsurvey : surveyIn view config paths = .ok s)
    (hsink : sink.BreaksOrderly) :
    (∃ result, (runIn view .text sink config paths).outcome = .ok result) ↔
      sink.failsWithin .write s.found.length = true ∨
        s.halt = none ∧ (s.found ≠ [] ∨ sink.failsWithin .flush 1 = false) := by
  cases hwrite : sink.failsWithin .write s.found.length with
  | true =>
    obtain ⟨n, hfirst, hn⟩ := (Sink.failsWithin_iff _ _ _).mp hwrite
    obtain ⟨_, _, k, _, _, houtcome⟩ := streamed_refused hsurvey hsink hfirst hn
    exact ⟨fun _ => Or.inl rfl, fun _ => ⟨_, houtcome⟩⟩
  | false =>
    constructor
    · rintro ⟨result, hresult⟩
      obtain ⟨hhalt, _, hfound, _⟩ := streamed_result hsurvey hsink hwrite hresult
      refine Or.inr ⟨hhalt, ?_⟩
      cases hflush : sink.failsWithin .flush 1 with
      | true => exact Or.inl (hfound hflush)
      | false => exact Or.inr rfl
    · rintro (hfails | ⟨hhalt, hor⟩)
      · exact absurd hfails Bool.false_ne_true
      · cases hflush : sink.failsWithin .flush 1 with
        | false => exact ⟨_, (streamed_flushed hsurvey hhalt hwrite hflush).2.2⟩
        | true =>
          rcases hor with hfound | hworks
          · exact ⟨_, ((streamed_unflushed hsurvey hsink hhalt hwrite hflush).2.2 hfound).2⟩
          · rw [hflush] at hworks
            cases hworks

/-- If the `n`-th write fails, only lines before it are written, however the run ends. -/
theorem streamed_text_cut (hsurvey : surveyIn view config paths = .ok s)
    (hsink : sink.BreaksOrderly) {n : Nat} (h : sink.firstFailure .write = some n) :
    (runIn view .text sink config paths).sink.text =
      sink.text ++ reportText (s.found.take (min s.found.length (n - 1))) := by
  have hpos := Sink.firstFailure_pos h
  by_cases hn : n ≤ s.found.length
  · -- The run reaches the failing write.
    rw [Nat.min_eq_right (by omega)]
    exact (streamed_refused hsurvey hsink h hn).1
  · -- The report ends before it.
    have htaken : sink.failsWithin .write s.found.length = false := by
      rw [Sink.failsWithin_eq_false_iff, h]
      rintro m ⟨⟩
      omega
    rw [Nat.min_eq_left (by omega), List.take_length]
    exact streamed_text hsurvey hsink htaken

/-- If the `n`-th line is refused and there is a result, it has the first `n` violations and counts
the files up to the one with the `n`-th. -/
theorem streamed_result_cut (hsurvey : surveyIn view config paths = .ok s)
    (hsink : sink.BreaksOrderly) {n : Nat} (h : sink.firstFailure .write = some n)
    (hn : n ≤ s.found.length) {result : CheckResult}
    (hresult : (runIn view .text sink config paths).outcome = .ok result) :
    result.violations = s.found.take n ∧
      (∃ k : Nat, result.filesChecked = (k + 1 : Nat) ∧
        (s.blocks.take k).flatten.length < n ∧ n ≤ (s.blocks.take (k + 1)).flatten.length) ∧
      result.outputFailed = true ∧
      (runIn view .text sink config paths).signals.countP Signal.isWarning = 1 := by
  obtain ⟨_, hwarnings, k, hbefore, hupto, houtcome⟩ := streamed_refused hsurvey hsink h hn
  rw [houtcome] at hresult
  cases hresult
  exact ⟨rfl, ⟨k, rfl, hbefore, hupto⟩, rfl, hwarnings⟩

end Endings

/-- **Streaming is an exact prefix.**  Take a run in text whose rules load, and a sink that fails, if
at all, from its `n`-th write or from some flush on.  However the run ends, the sink has got the
lines of the first `n - 1` violations, or of all if the writes go well.  A result has the first `n`
violations if the `n`-th write failed, and then its files are counted up to the one with the `n`-th
violation; otherwise it has all violations and all files.  It says that output has failed exactly if
a write or the last flush has, then it has violations, and the user has been warned once; otherwise
there was no warning. -/
theorem streams_exact_prefix (view : View) (sink : Sink) (config : Path) (paths : List Path)
    (s : Survey) (hsurvey : surveyIn view config paths = .ok s) (hsink : sink.BreaksOrderly) :
    let run := runIn view .text sink config paths
    (∀ n, sink.firstFailure .write = some n →
      run.sink.text = sink.text ++ reportText (s.found.take (min s.found.length (n - 1)))) ∧
    (sink.firstFailure .write = none → run.sink.text = sink.text ++ reportText s.found) ∧
    ((∃ result, run.outcome = .ok result) ↔
      sink.failsWithin .write s.found.length = true ∨
        s.halt = none ∧ (s.found ≠ [] ∨ sink.failsWithin .flush 1 = false)) ∧
    ∀ result, run.outcome = .ok result →
      (∀ n, sink.firstFailure .write = some n → n ≤ s.found.length →
        result.violations = s.found.take n ∧
        ∃ k : Nat, result.filesChecked = (k + 1 : Nat) ∧
          (s.blocks.take k).flatten.length < n ∧
          n ≤ (s.blocks.take (k + 1)).flatten.length) ∧
      (sink.failsWithin .write s.found.length = false →
        result.violations = s.found ∧ result.filesChecked = paths.length) ∧
      (result.outputFailed = true ↔
        sink.failsWithin .write s.found.length = true ∨ sink.failsWithin .flush 1 = true) ∧
      (result.outputFailed = true → result.violations ≠ []) ∧
      run.signals.countP Signal.isWarning = if result.outputFailed then 1 else 0 := by
  intro run
  refine ⟨fun n h => streamed_text_cut hsurvey hsink h, ?_, streamed_exists_result hsurvey hsink, ?_⟩
  · -- A sink whose writes never fail takes all lines.
    intro hnever
    apply streamed_text hsurvey hsink
    rw [Sink.failsWithin, hnever, Option.any_none]
  intro result hresult
  cases hwrite : sink.failsWithin .write s.found.length with
  | true =>
    obtain ⟨n, hfirst, hn⟩ := (Sink.failsWithin_iff _ _ _).mp hwrite
    obtain ⟨hfound, hfile, hfailed, hwarnings⟩ :=
      streamed_result_cut hsurvey hsink hfirst hn hresult
    refine ⟨?_, ?_, ?_, ?_, ?_⟩
    · intro m hm _
      rw [hfirst, Option.some.injEq] at hm
      subst hm
      exact ⟨hfound, hfile⟩
    · intro htaken; cases htaken
    · exact ⟨fun _ => Or.inl rfl, fun _ => hfailed⟩
    · intro _
      rw [hfound]
      exact take_ne_nil (Sink.firstFailure_pos hfirst) hn
    · rw [hfailed]
      exact hwarnings
  | false =>
    obtain ⟨_, rfl, hfound, hwarnings⟩ := streamed_result hsurvey hsink hwrite hresult
    refine ⟨?_, fun _ => ⟨rfl, rfl⟩, ?_, hfound, hwarnings⟩
    · -- The write that fails, if any, comes after all lines.
      intro n hfirst hn
      have hlate := (Sink.failsWithin_eq_false_iff _ _ _).mp hwrite n hfirst
      exact absurd hn (Nat.not_le.mpr hlate)
    · exact ⟨Or.inr, fun hor => hor.resolve_left Bool.false_ne_true⟩

/-- The third line of a report is refused, in the second of three files: two lines are written, three
violations and two files are in the result, and the missing third file is never reached. -/
theorem streams_third_line_refused :
    let run := runIn (fun _ => sampleFiles) .text sampleSink (Path.ofString ruleFileName) samplePaths
    run.sink.text = "one:1:1 a missing p:y attribute\ntwo:2:2 a missing x attribute\n" ∧
      ∃ result, run.outcome = .ok result ∧ result.violations = sampleSurvey.found ∧
        result.outputFailed = true ∧ run.signals.countP Signal.isWarning = 1 := by
  have hsurvey : surveyIn (fun _ => sampleFiles) (Path.ofString ruleFileName) samplePaths =
      .ok sampleSurvey := by decide +kernel
  have hfirst : sampleSink.firstFailure .write = some 3 := by decide
  have hfails : sampleSink.failsWithin .write sampleSurvey.found.length = true := by decide
  obtain ⟨htext, _, hexists, hresult⟩ :=
    streams_exact_prefix _ _ _ _ _ hsurvey sampleSink_breaksOrderly
  obtain ⟨result, houtcome⟩ := hexists.mpr (Or.inl hfails)
  obtain ⟨hfound, _, hfailed, _, hwarnings⟩ := hresult result houtcome
  have hfailed := hfailed.mpr (Or.inl hfails)
  rw [hfailed] at hwarnings
  refine ⟨(htext 3 hfirst).trans ?_, result, houtcome, ?_, hfailed, hwarnings⟩
  · decide +kernel
  · exact (hfound 3 hfirst (by decide)).1

end Check

end AttrLint
