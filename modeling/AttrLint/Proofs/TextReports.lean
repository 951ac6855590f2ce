import Mathlib.Data.List.Basic
import AttrLint.Reporter
import AttrLint.Proofs.Formats

namespace AttrLint

/-!
# A report in text can be read back

A line of a report has no quotes, and the words between its parts may also stand in the requirement,
which can be any text.  But the path ends at the first colon and the tag at the next space after the
position, and what stands between them and the last word of the line is the requirement.

* `Violation.IsLegible` — the path, the tag and the requirement do not break their line.
* `Violation.ofLine?` — the violation of a line, read from both of its ends;
  `Violation.ofLine?_toString` says that it is the one that the line was made of.
* `Violation.readAll?` — the violations of a whole report, line by line.
* `Reporter.text_reportEach` — what a reporter writes of any violations: those with a number that
  has too many digits are left out.
* `Reporter.text_report_read_back` — the main statement.
-/

namespace Violation

/-! ### Lines -/

/-- Says that the ends of the path and of the tag can be told in a line, and that nothing in it ends
the line.  The requirement may have spaces, colons and the words of the line. -/
structure IsLegible (v : Violation) : Prop where
  path_colon : ':' ∉ v.path.toList
  path_line : '\n' ∉ v.path.toList
  tag_space : ' ' ∉ v.tag.toList
  tag_line : '\n' ∉ v.tag.toList
  requirement_line : '\n' ∉ v.requirement.toList

/-- The text before the first `stop`, and the text after it. -/
def upTo? (stop : Char) : List Char → Option (List Char × List Char)
  | [] => none
  | c :: cs =>
    if c = stop then some ([], cs)
    else (upTo? stop cs).map fun parts => (c :: parts.1, parts.2)

/-- The violation of a line, without the line end. -/
def ofLine? (s : List Char) : Option Violation := do
  let path ← upTo? ':' s
  let line ← Json.integer? path.2
  let column ← Json.integer? (← [':'].isPrefixOf? line.2)
  let tag ← upTo? ' ' (← [' '].isPrefixOf? column.2)
  let wanted ← " attribute".toList.isSuffixOf? (← "missing ".toList.isPrefixOf? tag.2)
  return ⟨String.ofList path.1, line.1, column.1, String.ofList tag.1, String.ofList wanted⟩

theorem upTo?_append {stop : Char} {front : List Char} (h : stop ∉ front) (rest : List Char) :
    upTo? stop (front ++ stop :: rest) = some (front, rest) := by
  induction front with
  | nil => simp [upTo?]
  | cons c cs ih =>
    have hc : c ≠ stop := (List.ne_of_not_mem_cons h).symm
    rw [List.cons_append, upTo?, if_neg hc, ih (List.not_mem_of_not_mem_cons h), Option.map_some]

/-- The parts of a line, from left to right. -/
theorem toList_toString (v : Violation) :
    v.toString.toList = v.path.toList ++ ':' :: ((ToString.toString v.line).toList ++ ':' ::
      ((ToString.toString v.column).toList ++ ' ' :: (v.tag.toList ++ ' ' ::
        ("missing ".toList ++ (v.requirement.toList ++ " attribute".toList))))) := by
  simp [Violation.toString]

/-- **A line is read back.** -/
theorem ofLine?_toString {v : Violation} (h : v.IsLegible) :
    ofLine? v.toString.toList = some v := by
  have hwanted : " attribute".toList.isSuffixOf? (v.requirement.toList ++ " attribute".toList) =
      some v.requirement.toList := List.isSuffixOf?_eq_some_iff_append_eq.mpr rfl
  have hmissing (s : List Char) : "missing ".toList.isPrefixOf? ("missing ".toList ++ s) = some s :=
    List.isPrefixOf?_eq_some_iff_append_eq.mpr rfl
  have hsign (c : Char) (s : List Char) : [c].isPrefixOf? (c :: s) = some s :=
    List.isPrefixOf?_eq_some_iff_append_eq.mpr rfl
  have hline (s : List Char) :=
    Json.integer?_toString v.line (Json.noDigitFirst_cons (c := ':') rfl s)
  have hcolumn (s : List Char) :=
    Json.integer?_toString v.column (Json.noDigitFirst_cons (c := ' ') rfl s)
  rw [ofLine?, toList_toString, upTo?_append h.path_colon]
  simp only [Option.bind_eq_bind, Option.bind_some, hline, hcolumn, hsign, upTo?_append h.tag_space,
    hmissing, hwanted, String.ofList_toList]
  rfl

/-- A number has no line end. -/
theorem no_line_number (n : Int) : '\n' ∉ (ToString.toString n).toList := by
  have hdigits (k : Nat) : '\n' ∉ Nat.toDigits 10 k := fun h =>
    absurd (Nat.isDigit_of_mem_toDigits (by decide) (by decide) h) (by decide)
  rw [Json.toList_toString]
  split
  · exact hdigits _
  · exact List.not_mem_cons_of_ne_of_not_mem (by decide) (hdigits _)

theorem no_line_toString {v : Violation} (h : v.IsLegible) : '\n' ∉ v.toString.toList := by
  rw [toList_toString]
  simpa [h.path_line, h.tag_line, h.requirement_line] using
    And.intro (no_line_number v.line) (no_line_number v.column)

/-! ### Reports -/

/-- The violations of a report; `line` holds what has been read of its first line, newest character
first. -/
def readFrom? (line : List Char) : List Char → Option (List Violation)
  | [] => if line.isEmpty then some [] else none
  | c :: cs =>
    if c = '\n' then do
      let v ← ofLine? line.reverse
      let vs ← readFrom? [] cs
      return v :: vs
    else readFrom? (c :: line) cs

/-- The violations of a report. -/
def readAll? (s : List Char) : Option (List Violation) :=
  readFrom? [] s

/-- A line is read as a whole, and then the lines after it. -/
theorem readFrom?_line {s : List Char} (hs : '\n' ∉ s) (line rest : List Char) :
    readFrom? line (s ++ '\n' :: rest) =
      (ofLine? (line.reverse ++ s)).bind fun v => (readAll? rest).map (v :: ·) := by
  induction s generalizing line with
  | nil =>
    rw [List.nil_append, readFrom?, if_pos rfl, List.append_nil, ← readAll?]
    cases ofLine? line.reverse with
    | none => rfl
    | some v => cases readAll? rest <;> rfl
  | cons c cs ih =>
    have hc : c ≠ '\n' := (List.ne_of_not_mem_cons hs).symm
    rw [List.cons_append, readFrom?, if_neg hc, ih (List.not_mem_of_not_mem_cons hs),
      List.reverse_cons, List.append_assoc, List.singleton_append]

/-- The text of a report. -/
def textReport (vs : List Violation) : String :=
  String.join (vs.map reportLine)

@[simp] theorem toList_textReport_cons (v : Violation) (vs : List Violation) :
    (textReport (v :: vs)).toList = v.toString.toList ++ '\n' :: (textReport vs).toList := by
  simp [textReport, String.toList_join, reportLine]

/-- **A report is read back**, line by line. -/
theorem readAll?_textReport {vs : List Violation} (h : ∀ v ∈ vs, v.IsLegible) :
    readAll? (textReport vs).toList = some vs := by
  induction vs with
  | nil => rfl
  | cons v vs ih =>
    have hv := h v List.mem_cons_self
    have hvs := ih fun w hw => h w (List.mem_cons_of_mem v hw)
    rw [toList_textReport_cons, readAll?, readFrom?_line (no_line_toString hv), List.reverse_nil,
      List.nil_append, ofLine?_toString hv, hvs]
    rfl

/-- A report has one line for each violation. -/
theorem count_textReport {vs : List Violation} (h : ∀ v ∈ vs, v.IsLegible) :
    (textReport vs).toList.count '\n' = vs.length := by
  induction vs with
  | nil => rfl
  | cons v vs ih =>
    have hline := List.count_eq_zero.mpr (no_line_toString (h v List.mem_cons_self))
    have hvs := ih fun w hw => h w (List.mem_cons_of_mem v hw)
    rw [toList_textReport_cons, List.count_append, hline, List.count_cons_self, hvs,
      List.length_cons, Nat.zero_add]

end Violation

namespace Reporter

open Violation

/-- A violation whose numbers can be written is taken by a sink that never fails. -/
theorem reportViolation_writable {v : Violation} (h : v.isWritable = true) {sink : Sink}
    (hsink : sink.NeverFails) :
    reportViolation ⟨.text, sink⟩ v = (⟨.text, Format.text.after sink [v]⟩, none) := by
  have htaken := Format.reportViolation_taken (Format.failsWithin_of_neverFails hsink .text 1) v
  rw [reportViolation, if_pos (Or.inr h), answered, htaken]
  rfl

/-- A number that cannot be written is noticed before anything has been written. -/
theorem reportViolation_long {v : Violation} (h : v.isWritable = false) (sink : Sink) :
    reportViolation ⟨.text, sink⟩ v = (⟨.text, sink⟩, some (.escaped .longNumber)) := by
  apply if_neg
  rintro (hformat | hwritable)
  · exact nomatch hformat
  · rw [h] at hwritable
    exact nomatch hwritable

/-- The reporter after violations have been reported one after the other, whatever it answered. -/
def reportEach (r : Reporter) (vs : List Violation) : Reporter :=
  vs.foldl (fun r v => (r.reportViolation v).1) r

/-- One violation on a sink that never fails. -/
theorem reportViolation_after {sink : Sink} (h : sink.NeverFails) (v : Violation) :
    (reportViolation ⟨.text, sink⟩ v).1 =
      ⟨.text, Format.text.after sink ([v].filter isWritable)⟩ := by
  cases hwritable : v.isWritable with
  | true =>
    rw [reportViolation_writable hwritable h, List.filter_singleton, hwritable]
    rfl
  | false =>
    rw [reportViolation_long hwritable, List.filter_singleton, hwritable]
    rfl

/-- Many violations on a sink that never fails. -/
theorem reportEach_after {sink : Sink} (h : sink.NeverFails) (vs : List Violation) :
    reportEach ⟨.text, sink⟩ vs = ⟨.text, Format.text.after sink (vs.filter isWritable)⟩ := by
  induction vs generalizing sink with
  | nil => rfl
  | cons v vs ih =>
    have hrest := ih (Format.neverFails_after h .text ([v].filter isWritable))
    rw [Format.after_append, ← List.filter_append, List.singleton_append] at hrest
    rw [← hrest, reportEach, List.foldl_cons, reportViolation_after h]
    rfl

/-- **A sink that never fails takes a report in text**, without the violations that have a number of
too many digits. -/
theorem text_reportEach {sink : Sink} (h : sink.NeverFails) (vs : List Violation) :
    (reportEach ⟨.text, sink⟩ vs).sink.text =
      sink.text ++ textReport (vs.filter isWritable) := by
  rw [reportEach_after h]
  show (Format.text.after sink (vs.filter isWritable)).text = _
  rw [Format.after, Sink.text_took, List.reverse_reverse, textReport]

/-- If all numbers can be written, nothing is left out. -/
theorem text_reportEach_writable {sink : Sink} (h : sink.NeverFails) {vs : List Violation}
    (hvs : ∀ v ∈ vs, v.isWritable = true) :
    (reportEach ⟨.text, sink⟩ vs).sink.text = sink.text ++ textReport vs := by
  rw [text_reportEach h, List.filter_eq_self.mpr hvs]

/-- **A report in text can be read back.**  What a working sink takes of legible violations whose
numbers can be written has one line for each of them, none of which is an error, and they are read
from it in their order.  So no other violations of this kind make the same text.  If a number has
too many digits, then nothing is written of its violation, and that is the error. -/
theorem text_report_read_back (vs : List Violation) {sink : Sink} (hsink : sink.NeverFails) :
    ((∀ v ∈ vs, v.IsLegible ∧ v.isWritable = true) → ∃ text : String,
      (∀ v ∈ vs, ∀ taker : Sink, taker.NeverFails →
        (reportViolation ⟨.text, taker⟩ v).2 = none) ∧
      (reportEach ⟨.text, sink⟩ vs).sink.text = sink.text ++ text ∧
      text.toList.count '\n' = vs.length ∧
      readAll? text.toList = some vs ∧
      ∀ (other : Sink) (ws : List Violation), other.NeverFails →
        (∀ w ∈ ws, w.IsLegible ∧ w.isWritable = true) →
        (reportEach ⟨.text, other⟩ ws).sink.text = other.text ++ text → ws = vs) ∧
    ∀ v : Violation, v.isWritable = false →
      reportViolation ⟨.text, sink⟩ v = (⟨.text, sink⟩, some (.escaped .longNumber)) := by
  refine ⟨fun hvs => ?_, fun v hlong => reportViolation_long hlong sink⟩
  have hlegible : ∀ v ∈ vs, v.IsLegible := fun v hv => (hvs v hv).1
  refine ⟨textReport vs, ?_, text_reportEach_writable hsink fun v hv => (hvs v hv).2,
    count_textReport hlegible, readAll?_textReport hlegible, ?_⟩
  · intro v hv taker htaker
    rw [reportViolation_writable (hvs v hv).2 htaker]
  -- The text of the others can be read back as well, and there is only one way to read it.
  intro other ws hother hws hsame
  rw [text_reportEach_writable hother fun w hw => (hws w hw).2, String.append_right_inj] at hsame
  have hread := readAll?_textReport fun w hw => (hws w hw).1
  rw [hsame, readAll?_textReport hlegible, Option.some.injEq] at hread
  exact hread.symm

/-- Two lines whose requirements look like the rest of a line, with a tag that is empty and a
position that has signs. -/
theorem text_report_read_back_lookalikes :
    let v : Violation := ⟨"a.xml", -1, 0, "", "x missing y attribute"⟩
    let w : Violation := ⟨"a.xml", -1, 0, "x", "y: attribute missing "⟩
    ((v.IsLegible ∧ v.isWritable = true) ∧ (w.IsLegible ∧ w.isWritable = true)) ∧
      Sink.NeverFails {} ∧
      ∃ text : String, (reportEach ⟨.text, {}⟩ [v, w]).sink.text = text ∧
        text.toList.count '\n' = 2 ∧ readAll? text.toList = some [v, w] := by
  intro v w
  have hv : v.IsLegible := ⟨by decide, by decide, by decide, by decide, by decide⟩
  have hw : w.IsLegible := ⟨by decide, by decide, by decide, by decide, by decide⟩
  have hlong : v.isWritable = true ∧ w.isWritable = true := by decide +kernel
  have hall : ∀ u ∈ [v, w], u.IsLegible ∧ u.isWritable = true :=
    List.forall_mem_cons.mpr ⟨⟨hv, hlong.1⟩, List.forall_mem_singleton.mpr ⟨hw, hlong.2⟩⟩
  have hnever := Sink.neverFails_empty
  obtain ⟨text, -, htext, hcount, hread, -⟩ := (text_report_read_back [v, w] hnever).1 hall
  exact ⟨⟨⟨hv, hlong.1⟩, ⟨hw, hlong.2⟩⟩, hnever, text, htext.trans (String.empty_append), hcount,
    hread⟩

/-- The least line with one digit too many, in a violation that is legible: the text is that of no
violations at all, and it has no line. -/
theorem text_report_long_line :
    let v : Violation := ⟨"a.xml", Int.ofNat (Nat.pow 10 4300), 1, "E", "x"⟩
    v.IsLegible ∧ Sink.NeverFails {} ∧
      (reportEach ⟨.text, {}⟩ [v]).sink.text = (reportEach ⟨.text, {}⟩ []).sink.text ∧
      (reportEach ⟨.text, {}⟩ [v]).sink.text.toList.count '\n' ≠ [v].length := by
  intro v
  have hv : v.IsLegible := ⟨by decide, by decide, by decide, by decide, by decide⟩
  have hlong : v.isWritable = false := by decide +kernel
  have hnever := Sink.neverFails_empty
  have hsame : reportEach ⟨.text, {}⟩ [v] = ⟨.text, {}⟩ := by
    rw [reportEach, List.foldl_cons, List.foldl_nil, reportViolation_long hlong]
  rw [hsame]
  exact ⟨hv, hnever, rfl, by decide⟩

end Reporter

end AttrLint
