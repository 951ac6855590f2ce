import AttrLint.Report

namespace AttrLint

/-!
# Sinks that stop working

A sink that stops working does so for good, so all that matters of it is which call of each kind is
the first to fail.

* `Sink.firstFailure` — the number of that call, counted from now on; `Sink.answer_eq_none_iff` says
  that it is what the sink's answers come to.
* `Sink.BreaksOrderly` — the sink fails only with errors that mean that output has stopped.
* `Format.failsWithin`, `Format.after` — the same for reports of violations: whether one of them
  fails, and what the sink is after reports that it has taken.
* `Format.resultFails` — whether the report at the end fails.
-/

namespace Sink

/-- How many calls of a kind there were. -/
def calls (s : Sink) : StreamCall → Nat
  | .write => s.writes
  | .flush => s.flushes

/-- The number of the first call of a kind that fails, counted from one and from now on. -/
def firstFailure (s : Sink) (call : StreamCall) : Option Nat :=
  match s.behaviour with
  | .works => none
  | .absent | .closed => some 1
  | .fails failing first _ =>
    if failing = call then some (max 1 (first - s.calls call).toNat) else none

/-- Says that one of the next `k` calls of a kind fails. -/
def failsWithin (s : Sink) (call : StreamCall) (k : Nat) : Bool :=
  (s.firstFailure call).any (· ≤ k)

/-- Says that the sink fails, if at all, only with errors that mean that output has stopped. -/
def BreaksOrderly (s : Sink) : Prop :=
  ∀ call n error, s.answer call n = some error → error.kind.stopsOutput = true

/-- A sink that is absent or closed breaks orderly; others do if the error they fail with means that
output has stopped. -/
theorem breaksOrderly_iff (s : Sink) :
    s.BreaksOrderly ↔ ∀ call first error, s.behaviour = .fails call first error →
      error.kind.stopsOutput = true := by
  constructor
  · intro h call first error hs
    -- By the call with the number `first.toNat` the sink fails.
    have hfirst : first ≤ (first.toNat : Int) := Int.self_le_toNat first
    have hanswer : s.answer call first.toNat = some error := by
      simp only [answer, hs, true_and, if_pos hfirst]
    exact h call first.toNat error hanswer
  · intro h call n error hanswer
    cases hs : s.behaviour with
    | works =>
      simp only [answer, hs] at hanswer
      cases hanswer
    | absent =>
      simp only [answer, hs] at hanswer
      cases hanswer
      rfl
    | closed =>
      simp only [answer, hs] at hanswer
      cases hanswer
      rfl
    | fails failing first error' =>
      simp only [answer, hs] at hanswer
      split at hanswer
      · cases hanswer
        exact h failing first error hs
      · cases hanswer

/-- Failing within a number of calls, in terms of the first call that fails. -/
theorem failsWithin_iff (s : Sink) (call : StreamCall) (k : Nat) :
    s.failsWithin call k = true ↔ ∃ n, s.firstFailure call = some n ∧ n ≤ k := by
  simp [failsWithin, Option.any_eq_true]

/-- No call fails within a number of calls if the first to fail comes later. -/
theorem failsWithin_eq_false_iff (s : Sink) (call : StreamCall) (k : Nat) :
    s.failsWithin call k = false ↔ ∀ n, s.firstFailure call = some n → k < n := by
  rw [Bool.eq_false_iff, ne_eq, failsWithin_iff]
  constructor
  · intro h n hfirst
    exact Nat.lt_of_not_le (fun hn => h ⟨n, hfirst, hn⟩)
  · rintro h ⟨n, hfirst, hn⟩
    exact Nat.not_lt.mpr hn (h n hfirst)

/-- The first call that fails is counted from one. -/
theorem firstFailure_pos {s : Sink} {call : StreamCall} {n : Nat}
    (h : s.firstFailure call = some n) : 0 < n := by
  unfold firstFailure at h
  split at h
  · cases h
  · cases h; exact Nat.one_pos
  · cases h; exact Nat.one_pos
  · split at h
    · cases h; omega
    · cases h

/-- **The first failure says it all.**  The `k`-th call from now on goes well exactly if it comes
before the first one that fails. -/
theorem answer_eq_none_iff (s : Sink) (call : StreamCall) {k : Nat} (hk : 0 < k) :
    s.answer call (s.calls call + k) = none ↔ s.failsWithin call k = false := by
  -- Answers are numbered from the first call ever, failures from the next call on.
  rw [failsWithin, answer, firstFailure]
  cases s.behaviour with
  | works => simp
  | absent => simp; omega
  | closed => simp; omega
  | fails failing first error =>
    by_cases hcall : failing = call
    · simp [hcall]; omega
    · simp [hcall]

/-- The sink after it has taken texts, newest first. -/
def took (s : Sink) (texts : List String) : Sink :=
  { s with writes := s.writes + texts.length, chunks := texts ++ s.chunks }

/-- Texts taken count against the first write that fails. -/
theorem firstFailure_took {s : Sink} {texts : List String}
    (h : s.failsWithin .write texts.length = false) :
    (s.took texts).firstFailure .write = (s.firstFailure .write).map (· - texts.length) := by
  rw [failsWithin] at h
  unfold firstFailure took at *
  cases hs : s.behaviour with
  | works => simp
  | absent => simp_all
  | closed => simp_all
  | fails failing first error =>
    by_cases hcall : failing = .write
    · -- The failing write comes after the texts, so the lower bound of one is not needed.
      simp only [hs, hcall, calls, if_true, Option.any_some, decide_eq_false_iff_not, Option.map_some,
        Option.some.injEq] at h ⊢
      omega
    · simp [hcall]

/-- A write before the first that fails is taken. -/
theorem write_taken {s : Sink} (h : s.failsWithin .write 1 = false) (text : String) :
    s.write text = (s.took [text], none) := by
  have hanswer := (answer_eq_none_iff s .write Nat.one_pos).mpr h
  rw [calls] at hanswer
  simp only [write, hanswer, took, List.length_singleton, List.singleton_append]

/-- A write that fails takes nothing. -/
theorem write_refused {s : Sink} (h : s.failsWithin .write 1 = true) (text : String) :
    ∃ error, s.answer .write (s.writes + 1) = some error ∧
      s.write text = ({ s with writes := s.writes + 1 }, some error) := by
  cases hanswer : s.answer .write (s.writes + 1) with
  | none =>
    have := (answer_eq_none_iff s .write Nat.one_pos).mp hanswer
    rw [h] at this
    cases this
  | some error =>
    refine ⟨error, rfl, ?_⟩
    simp only [write, hanswer]

/-- A flush changes the count of flushes only, and fails exactly if the next flush does. -/
theorem flush_eq (s : Sink) :
    s.flush.1 = { s with flushes := s.flushes + 1 } ∧
      (s.flush.2 = none ↔ s.failsWithin .flush 1 = false) :=
  ⟨rfl, answer_eq_none_iff s .flush Nat.one_pos⟩

/-- All text that a sink has taken, after taking more. -/
theorem text_took (s : Sink) (texts : List String) :
    (s.took texts).text = s.text ++ String.join texts.reverse := by
  rw [text, took, List.reverse_append, String.join_append, text]

end Sink

/-! ### Reports -/

/-- A violation as a line of the report. -/
def Violation.reportLine (v : Violation) : String :=
  v.toString ++ "\n"

namespace Format

/-- Says that one of the next `k` reports of violations fails; violations of a JSON report are not
written one by one. -/
def failsWithin (f : Format) (s : Sink) (k : Nat) : Bool :=
  match f with
  | .text => s.failsWithin .write k
  | .json => false

/-- The sink after it has taken the reports of violations. -/
def after (f : Format) (s : Sink) (vs : List Violation) : Sink :=
  match f with
  | .text => s.took (vs.map Violation.reportLine).reverse
  | .json => s

/-- Says that the report at the end fails: a flush, after a single write if the format is JSON. -/
def resultFails (f : Format) (s : Sink) : Bool :=
  match f with
  | .text => s.failsWithin .flush 1
  | .json => s.failsWithin .write 1 || s.failsWithin .flush 1

/-- Where nothing is reported, nothing fails. -/
@[simp] theorem failsWithin_zero (f : Format) (s : Sink) : f.failsWithin s 0 = false := by
  cases f with
  | text =>
    rw [failsWithin, Sink.failsWithin_eq_false_iff]
    intro n hfirst
    exact Sink.firstFailure_pos hfirst
  | json => rfl

/-- Reports are taken unless they are in text and a write fails. -/
theorem failsWithin_eq_false {f : Format} {s : Sink} {k : Nat}
    (h : ¬(f = .text ∧ s.failsWithin .write k = true)) : f.failsWithin s k = false := by
  cases f with
  | text => exact Bool.eq_false_iff.mpr (fun hfails => h ⟨rfl, hfails⟩)
  | json => rfl

/-- Where many reports go well, fewer do. -/
theorem failsWithin_mono {f : Format} {s : Sink} {k l : Nat} (hkl : k ≤ l)
    (h : f.failsWithin s l = false) : f.failsWithin s k = false := by
  cases f with
  | text =>
    rw [failsWithin, Sink.failsWithin_eq_false_iff] at h ⊢
    intro n hfirst
    exact Nat.lt_of_le_of_lt hkl (h n hfirst)
  | json => rfl

/-- Lines taken count against the first write that fails. -/
theorem firstFailure_after {s : Sink} {vs : List Violation}
    (h : s.failsWithin .write vs.length = false) :
    (Format.text.after s vs).firstFailure .write =
      (s.firstFailure .write).map (· - vs.length) := by
  have hlength : (vs.map Violation.reportLine).reverse.length = vs.length := by simp
  rw [← hlength] at h ⊢
  exact Sink.firstFailure_took h

/-- Reports taken count against the first that fails. -/
theorem failsWithin_after {f : Format} {s : Sink} {vs : List Violation}
    (h : f.failsWithin s vs.length = false) (k : Nat) :
    f.failsWithin (f.after s vs) k = f.failsWithin s (vs.length + k) := by
  cases f with
  | text =>
    rw [failsWithin, failsWithin, Sink.failsWithin, firstFailure_after h, Sink.failsWithin]
    cases hfirst : s.firstFailure .write with
    | none => rfl
    | some n =>
      have hlate := (Sink.failsWithin_eq_false_iff s .write _).mp h n hfirst
      simp only [Option.map_some, Option.any_some, decide_eq_decide]
      omega
  | json => rfl

/-- Reports are taken one after the other. -/
@[simp] theorem after_append (f : Format) (s : Sink) (vs ws : List Violation) :
    f.after (f.after s vs) ws = f.after s (vs ++ ws) := by
  cases f with
  | text =>
    simp [after, Sink.took]
    omega
  | json => rfl

/-- What a sink answers depends on its behaviour only, and reports do not change that. -/
theorem breaksOrderly_after {s : Sink} (h : s.BreaksOrderly) (f : Format) (vs : List Violation) :
    (f.after s vs).BreaksOrderly := by
  cases f <;> exact h

/-- Reports taken do not change whether the report at the end fails. -/
@[simp] theorem resultFails_after (f : Format) (s : Sink) (vs : List Violation) :
    f.resultFails (f.after s vs) = f.resultFails s := by
  cases f <;> rfl

/-- A report before the first that fails is taken. -/
theorem reportViolation_taken {f : Format} {s : Sink} (h : f.failsWithin s 1 = false)
    (v : Violation) : f.reportViolation s v = (f.after s [v], none) := by
  cases f with
  | text => exact Sink.write_taken h (v.toString ++ "\n")
  | json => rfl

/-- The report at the end goes well exactly if none of its calls fails. -/
theorem reportResult_eq_none_iff (f : Format) (s : Sink) (vs : List Violation) :
    (f.reportResult s vs).2 = none ↔ f.resultFails s = false := by
  cases f with
  | text => exact s.flush_eq.2
  | json =>
    rw [reportResult, resultFails]
    cases hwrite : s.failsWithin .write 1 with
    | false =>
      rw [Sink.write_taken hwrite, Bool.false_or]
      exact (s.took [Json.report vs]).flush_eq.2
    | true =>
      obtain ⟨error, _, hrefused⟩ := Sink.write_refused hwrite (Json.report vs)
      simp [hrefused]

/-- The error of the report at the end is an answer of the sink. -/
theorem reportResult_error {f : Format} {s : Sink} {vs : List Violation} {error : StreamError}
    (h : (f.reportResult s vs).2 = some error) : ∃ call n, s.answer call n = some error := by
  cases f with
  | text => exact ⟨.flush, s.flushes + 1, h⟩
  | json =>
    rw [reportResult] at h
    cases hwrite : s.failsWithin .write 1 with
    | false =>
      rw [Sink.write_taken hwrite] at h
      exact ⟨.flush, s.flushes + 1, h⟩
    | true =>
      obtain ⟨error', hanswer, hrefused⟩ := Sink.write_refused hwrite (Json.report vs)
      rw [hrefused] at h
      cases h
      exact ⟨.write, s.writes + 1, hanswer⟩

end Format

end AttrLint
