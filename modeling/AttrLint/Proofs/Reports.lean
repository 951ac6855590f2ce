import AttrLint.Reporter
import AttrLint.Proofs.Formats

namespace AttrLint

/-!
# What a report keeps

A report in JSON is one text, written at the end of a run.  It is made of ASCII characters, however
the violations are spelled, and nothing of them gets lost in it.  Numbers are the exception: with
one that has too many digits there is no report at all.

* `Json.IsAscii` — a text of ASCII characters; `Json.isAscii_escapeChar` and `Json.isAscii_object`
  say that escapes and objects are such texts.
* `Json.report_eq_line` — a report ends in one line end.
* `Json.report_injective` — no two lists of violations have the same report.
* `Reporter.reportResult_writable`, `Reporter.reportResult_long` — the two answers of a reporter.
* `Json.report_lossless` — all of this about what a working sink takes from a reporter, with the
  array that the text is decoded to.
-/

namespace Json

/-! ### ASCII -/

/-- Says that all characters of the text are ASCII. -/
def IsAscii (s : List Char) : Prop :=
  ∀ c ∈ s, c.toNat < 0x80

theorem IsAscii.append {s t : List Char} (hs : IsAscii s) (ht : IsAscii t) : IsAscii (s ++ t) := by
  intro c hc
  rcases List.mem_append.mp hc with hc | hc
  · exact hs c hc
  · exact ht c hc

/-- A fixed text is looked through. -/
theorem isAscii_of_all {s : List Char} (h : (s.all fun c => c.toNat < 0x80) = true) :
    IsAscii s := by
  intro c hc
  simpa using List.all_eq_true.mp h c hc

/-- A unit is written with a backslash, a letter and digits. -/
theorem isAscii_unitEscape (n : Nat) : IsAscii (unitEscape n) := by
  have hdigit : ∀ d : Fin 16, (Text.hexDigit d).toNat < 0x80 := by decide
  have hunit : unitEscape n = '\\' :: 'u' :: (Text.hexPadded 4 n ++ []) := by
    simp [unitEscape]
  intro c hc
  rw [hunit, hexPadded_four] at hc
  simp only [List.mem_cons, List.not_mem_nil, or_false] at hc
  have hlt (k : Nat) : k % 16 < 16 := Nat.mod_lt k (by decide)
  rcases hc with rfl | rfl | rfl | rfl | rfl | rfl
  · decide
  · decide
  · exact hdigit ⟨_, hlt _⟩
  · exact hdigit ⟨_, hlt _⟩
  · exact hdigit ⟨_, hlt _⟩
  · exact hdigit ⟨_, hlt _⟩

/-- A character is written in ASCII, whatever it is. -/
theorem isAscii_escapeChar (c : Char) : IsAscii (escapeChar c) := by
  by_cases hshort : c = '"' ∨ c = '\\' ∨ c = '\n' ∨ c = '\r' ∨ c = '\t' ∨ c = '\x0c' ∨ c = '\x08'
  · rcases hshort with rfl | rfl | rfl | rfl | rfl | rfl | rfl <;> exact isAscii_of_all (by decide)
  · simp only [not_or] at hshort
    obtain ⟨hquote, hslash, hline, hreturn, htab, hfeed, hback⟩ := hshort
    simp only [escapeChar, if_neg hquote, if_neg hslash, if_neg hline, if_neg hreturn, if_neg htab,
      if_neg hfeed, if_neg hback]
    split
    · -- A character that stands for itself lies between a space and a tilde.
      rename_i hplain
      intro d hd
      obtain rfl := List.mem_singleton.mp hd
      omega
    · split
      · exact isAscii_unitEscape _
      · exact (isAscii_unitEscape _).append (isAscii_unitEscape _)

theorem isAscii_string (s : String) : IsAscii (string s) := by
  intro c hc
  simp only [string, List.cons_append, List.mem_cons, List.mem_append, List.mem_flatMap,
    List.not_mem_nil, or_false] at hc
  rcases hc with rfl | ⟨d, -, hc⟩ | rfl
  · decide
  · exact isAscii_escapeChar d c hc
  · decide

theorem isAscii_number (n : Int) : IsAscii (toString n).toList := by
  have hdigits (k : Nat) : IsAscii (Nat.toDigits 10 k) := by
    intro c hc
    have hdigit : c.isDigit = true := Nat.isDigit_of_mem_toDigits (by decide) (by decide) hc
    simp only [Char.isDigit, Bool.and_eq_true, decide_eq_true_eq, UInt32.le_iff_toNat_le] at hdigit
    have hnine : c.toNat ≤ 0x39 := hdigit.2
    omega
  rw [toList_toString]
  split
  · exact hdigits _
  · exact (isAscii_of_all (s := ['-']) (by decide)).append (hdigits _)

theorem isAscii_field (name : String) {value : List Char} (h : IsAscii value) :
    IsAscii (field name value) := by
  unfold field
  have hindent : IsAscii "    ".toList := isAscii_of_all (by decide)
  have hcolon : IsAscii ": ".toList := isAscii_of_all (by decide)
  exact ((hindent.append (isAscii_string name)).append hcolon).append h

theorem isAscii_object (v : Violation) : IsAscii (object v) := by
  have hopen : IsAscii "  \x7b\n".toList := isAscii_of_all (by decide)
  have hcomma : IsAscii ",\n".toList := isAscii_of_all (by decide)
  have hclose : IsAscii "\n  \x7d".toList := isAscii_of_all (by decide)
  have hpath := isAscii_field "path" (isAscii_string v.path)
  have hline := isAscii_field "line" (isAscii_number v.line)
  have hcolumn := isAscii_field "column" (isAscii_number v.column)
  have htag := isAscii_field "tag" (isAscii_string v.tag)
  have hwanted := isAscii_field "attribute" (isAscii_string v.requirement)
  unfold object
  have hfront := (((((hopen.append hpath).append hcomma).append hline).append hcomma).append
    hcolumn).append hcomma
  exact (((hfront.append htag).append hcomma).append hwanted).append hclose

theorem isAscii_objects (vs : List Violation) : IsAscii (objects vs) := by
  have hcomma : IsAscii ",\n".toList := isAscii_of_all (by decide)
  fun_induction objects vs with
  | case1 => exact isAscii_of_all rfl
  | case2 v => exact isAscii_object v
  | case3 v vs _ ih => exact ((isAscii_object v).append hcomma).append ih

/-! ### Reports -/

/-- A report is a text without line ends at its back, and a line end. -/
theorem report_eq_line (vs : List Violation) :
    ∃ body : String, report vs = body ++ "\n" ∧ IsAscii body.toList ∧
      body.toList.getLast? = some ']' := by
  cases vs with
  | nil => exact ⟨"[]", rfl, isAscii_of_all (by decide), by decide⟩
  | cons v vs =>
    refine ⟨String.ofList ("[\n".toList ++ objects (v :: vs) ++ "\n]".toList), ?_, ?_, ?_⟩
    · apply String.toList_inj.mp
      simp [report]
    · rw [String.toList_ofList]
      have hopen : IsAscii "[\n".toList := isAscii_of_all (by decide)
      have hclose : IsAscii "\n]".toList := isAscii_of_all (by decide)
      exact (hopen.append (isAscii_objects _)).append hclose
    · rw [String.toList_ofList, List.getLast?_append]
      rfl

/-- A report is in ASCII. -/
theorem isAscii_report (vs : List Violation) : IsAscii (report vs).toList := by
  obtain ⟨body, hreport, hbody, -⟩ := report_eq_line vs
  rw [hreport, String.toList_append]
  exact hbody.append (isAscii_of_all (by decide))

/-- The value of a violation tells which violation it is. -/
theorem valueOf_injective {v w : Violation} (h : valueOf v = valueOf w) : v = w := by
  obtain ⟨path, line, column, tag, requirement⟩ := v
  obtain ⟨path', line', column', tag', requirement'⟩ := w
  simp only [valueOf, Value.object.injEq, List.cons.injEq, Prod.mk.injEq, Value.string.injEq,
    Value.number.injEq, true_and, and_true] at h
  obtain ⟨rfl, rfl, rfl, rfl, rfl⟩ := h
  rfl

/-- **Different violations make different reports**, because a report can be read back. -/
theorem report_injective {vs ws : List Violation} (h : report vs = report ws) : vs = ws := by
  have hdecode := decode_report vs
  rw [h, decode_report ws, Option.some.injEq, Value.array.injEq] at hdecode
  exact ((List.map_inj_right fun _ _ => valueOf_injective).mp hdecode).symm

end Json

/-! ### Reporters -/

namespace Reporter

/-- Violations whose numbers can be written are taken by a sink that never fails. -/
theorem reportResult_writable {vs : List Violation} (h : ∀ v ∈ vs, v.isWritable = true)
    {sink : Sink} (hsink : sink.NeverFails) :
    reportResult ⟨.json, sink⟩ vs = (⟨.json, (Format.json.reportResult sink vs).1⟩, none) := by
  have hanswer : (Format.json.reportResult sink vs).2 = none := by
    rw [Format.reportResult_eq_none_iff]
    exact Format.resultFails_of_neverFails hsink .json
  rw [reportResult, if_pos (Or.inr (List.all_eq_true.mpr h)), answered, hanswer, Option.map_none]

/-- A number that cannot be written is noticed before anything has been written. -/
theorem reportResult_long {vs : List Violation} (h : ∃ v ∈ vs, v.isWritable = false) (sink : Sink) :
    reportResult ⟨.json, sink⟩ vs = (⟨.json, sink⟩, some (.escaped .longNumber)) := by
  obtain ⟨v, hv, hlong⟩ := h
  apply if_neg
  rintro (hformat | hall)
  · exact nomatch hformat
  · rw [List.all_eq_true.mp hall v hv] at hlong
    exact nomatch hlong

/-- A working sink takes the whole report as one text, if there is one. -/
theorem chunks_reportResult_json {vs : List Violation} (h : ∀ v ∈ vs, v.isWritable = true)
    {sink : Sink} (hsink : sink.NeverFails) :
    (reportResult ⟨.json, sink⟩ vs).1.sink.chunks = Json.report vs :: sink.chunks := by
  rw [reportResult_writable h hsink]
  show (Format.json.reportResult sink vs).1.chunks = _
  have hchunks := Format.chunks_json hsink vs
  rwa [Format.after] at hchunks

end Reporter

namespace Json

/-- **A report in JSON is lossless.**  If all numbers can be written, then a working sink takes it
as one text.  The text is in ASCII and ends in one line end, and it is decoded to an array with one
object for each violation, in their order, that has exactly the fields of the violation.  No other
violations make the same text.  If a number has too many digits, then nothing is written, and that
is the error. -/
theorem report_lossless (vs : List Violation) {sink : Sink} (hsink : sink.NeverFails) :
    ((∀ v ∈ vs, v.isWritable = true) → ∃ text : String,
      (Reporter.reportResult ⟨.json, sink⟩ vs).2 = none ∧
      (Reporter.reportResult ⟨.json, sink⟩ vs).1.sink.chunks = text :: sink.chunks ∧
      (∀ c ∈ text.toList, c.toNat < 0x80) ∧
      (∃ body : String, text = body ++ "\n" ∧ body.toList.getLast? ≠ some '\n') ∧
      decode text = some (.array (vs.map fun v =>
        .object [("path", .string v.path), ("line", .number v.line), ("column", .number v.column),
          ("tag", .string v.tag), ("attribute", .string v.requirement)])) ∧
      ∀ (other : Sink) (ws : List Violation), other.NeverFails →
        (Reporter.reportResult ⟨.json, other⟩ ws).1.sink.chunks = text :: other.chunks → ws = vs) ∧
    ((∃ v ∈ vs, v.isWritable = false) →
      Reporter.reportResult ⟨.json, sink⟩ vs = (⟨.json, sink⟩, some (.escaped .longNumber))) := by
  refine ⟨fun hvs => ?_, fun hlong => Reporter.reportResult_long hlong sink⟩
  obtain ⟨body, hbody, -, hlast⟩ := report_eq_line vs
  refine ⟨report vs, ?_, Reporter.chunks_reportResult_json hvs hsink, isAscii_report vs,
    ⟨body, hbody, ?_⟩, decode_report vs, ?_⟩
  · rw [Reporter.reportResult_writable hvs hsink]
  · rw [hlast]
    decide
  · intro other ws hother hsame
    by_cases hws : ∀ w ∈ ws, w.isWritable = true
    · rw [Reporter.chunks_reportResult_json hws hother, List.cons.injEq] at hsame
      exact report_injective hsame.1
    · -- Nothing is written of other violations, so their sink would have to hold the text already.
      simp only [Classical.not_forall, Bool.not_eq_true] at hws
      obtain ⟨w, hw, hlong⟩ := hws
      rw [Reporter.reportResult_long ⟨w, hw, hlong⟩] at hsame
      exact absurd hsame.symm (List.cons_ne_self _ _)

-- A character above U+FFFF is written as a pair of surrogates.
example : string "é😀\"" = "\"\\u00e9\\ud83d\\ude00\\\"\"".toList := by decide

/-- A path with a line end, a quote and a character above U+FFFF is decoded as it was, at a line
that has a sign. -/
theorem report_lossless_surrogates :
    let v : Violation := ⟨"a\n\"😀.xml", -1, 10, "E", "p:x"⟩
    Sink.NeverFails {} ∧ v.isWritable = true ∧
      ∃ text, (Reporter.reportResult ⟨.json, {}⟩ [v]).1.sink.chunks = [text] ∧
      decode text = some (.array [.object [("path", .string "a\n\"😀.xml"), ("line", .number (-1)),
        ("column", .number 10), ("tag", .string "E"), ("attribute", .string "p:x")]]) := by
  intro v
  have hnever := Sink.neverFails_empty
  have hv : v.isWritable = true := by decide +kernel
  obtain ⟨text, -, hchunks, -, -, hdecode, -⟩ :=
    (report_lossless [v] hnever).1 (List.forall_mem_singleton.mpr hv)
  exact ⟨hnever, hv, text, hchunks, hdecode⟩

/-- The least line with one digit too many: a working sink takes nothing, so there is no text to be
decoded. -/
theorem report_long_line :
    let v : Violation := ⟨"a.xml", Int.ofNat (Nat.pow 10 4300), 1, "E", "x"⟩
    Sink.NeverFails {} ∧ (Reporter.reportResult ⟨.json, {}⟩ [v]).1.sink.chunks = [] ∧
      (Reporter.reportResult ⟨.json, {}⟩ [v]).2 = some (.escaped .longNumber) := by
  intro v
  have hnever := Sink.neverFails_empty
  have hlong : v.isWritable = false := by decide +kernel
  have hanswer := Reporter.reportResult_long ⟨v, List.mem_singleton_self v, hlong⟩ {}
  rw [hanswer]
  exact ⟨hnever, rfl, rfl⟩

end Json

end AttrLint
