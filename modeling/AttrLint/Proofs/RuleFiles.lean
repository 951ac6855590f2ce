import AttrLint.Proofs.TomlLimits
import AttrLint.Proofs.Utf8
import AttrLint.RuleFile.Basic
import Mathlib.Control.Monad.Basic

namespace AttrLint

/-!
# What loading a rule file can come to

The bytes of a file are decoded, line ends are unified, the text is read as TOML, and the table is
checked.  Each of these can fail, and each failure but two is reported with the path of the file.
The two are the limits of the TOML reader.

* `Text.unifyLineEnds_of_not_mem` — a text without carriage returns stays as it is.
* `RuleFile.load_undecodable`, `RuleFile.load_decoded` — loading, given the bytes.
* `RuleFile.ofText_reported`, `RuleFile.ofText_escaped_iff` — which failures are reported.
* `RuleFile.ofText_limits` — what the others rest on.
* `RuleFile.load_outcomes` — the main statement, for a file of any content.
* `RuleFile.load_long_integer_escapes` — a limit is reached by a short file.
-/

/-! ### Line ends -/

theorem Text.unifyFrom_of_not_mem {s : List Char} (h : '\r' ∉ s) (done : List Char) :
    unifyFrom false done s = done.reverse ++ s := by
  induction s generalizing done with
  | nil => simp [unifyFrom]
  | cons c cs ih =>
    rw [List.mem_cons, not_or] at h
    have hc : c ≠ '\r' := fun hc => h.1 hc.symm
    simp [unifyFrom, hc, ih h.2]

theorem Text.unifyLineEnds_of_not_mem {s : List Char} (h : '\r' ∉ s) : unifyLineEnds s = s :=
  Text.unifyFrom_of_not_mem h []

namespace RuleFile

section Loading

variable {fs : FileSystem} {path : Path} {bytes : List UInt8}

theorem load_undecodable {e : Text.Utf8.DecodeError} (hread : fs.read path = .ok bytes)
    (hdecode : Text.Utf8.decode bytes = .error e) :
    (load fs path).rules =
      .error (.reported (.configRead path.toString (.undecodable e))) := by
  simp only [load, FileSystem.readText, hread, hdecode, haltOf]

theorem load_decoded {chars : List Char} (hread : fs.read path = .ok bytes)
    (hdecode : Text.Utf8.decode bytes = .ok chars) :
    load fs path = ofText path.toString (Text.unifyLineEnds chars) := by
  simp only [load, FileSystem.readText, hread, hdecode]

end Loading

/-- Whatever is reported about a text is that it is not in order. -/
theorem ofText_reported {path : String} {text : List Char} {error : RunError}
    (h : (ofText path text).rules = .error (.reported error)) :
    error.kind = .configParse ∧ error.path = some path := by
  unfold ofText at h
  split at h
  · rename_i table _
    unfold ofTable at h
    split at h
    · cases h
    · cases h
      exact ⟨rfl, rfl⟩
  · cases h
    exact ⟨rfl, rfl⟩
  · cases h
  · cases h

/-- The escape that a failure to read TOML comes to, if it is one of the limits. -/
def escapeOf? : Toml.Failure → Option Escape
  | .invalid _ => none
  | .tooManyDigits digits => some (.integer digits)
  | .tooDeep => some .nesting

/-- What is not reported about a text is a limit of the TOML reader. -/
theorem ofText_escaped_iff {path : String} {text : List Char} {escape : Escape} :
    (ofText path text).rules = .error (.escaped escape) ↔
      ∃ failure, Toml.parse text = .error failure ∧ escapeOf? failure = some escape := by
  unfold ofText
  split
  · rename_i table htable
    unfold ofTable
    split <;> simp [htable]
  · rename_i e he
    simp [he, escapeOf?]
  · rename_i digits hdigits
    simp [hdigits, escapeOf?]
  · rename_i hdeep
    simp [hdeep, escapeOf?]

/-- A text that leads to one of the limits has what it takes to get there. -/
theorem ofText_limits (path : String) (text : List Char) :
    (∀ n, (ofText path text).rules = .error (.escaped (.integer n)) →
      Toml.digitLimit < n ∧ Toml.HasDigits text n) ∧
    ((ofText path text).rules = .error (.escaped .nesting) →
      Toml.depthLimit < Toml.tableDepth * text.countP Toml.isOpening) := by
  constructor
  · intro n h
    obtain ⟨failure, hparse, hescape⟩ := ofText_escaped_iff.1 h
    cases failure with
    | tooManyDigits digits =>
      cases hescape
      exact Toml.hasDigits_of_parse hparse
    | _ => cases hescape
  · intro h
    obtain ⟨failure, hparse, hescape⟩ := ofText_escaped_iff.1 h
    cases failure with
    | tooDeep => exact Toml.openings_of_parse hparse
    | _ => cases hescape

/-- **Loading reports what is wrong with a rule file.**  A file of any content loads, or a reported
error says which path cannot be used: it cannot be read exactly if the content is not valid UTF-8,
and is not in order otherwise.  There are two exceptions, and nothing else is left unreported: an
integer with too many digits, which is then in the text, and nesting that is too deep, for which the
text has opening brackets enough.  How deep is too deep is said for a direct caller, as
`Toml.depthLimit` is. -/
theorem load_outcomes (fs : FileSystem) (path : Path) (bytes : List UInt8)
    (hread : fs.read path = .ok bytes) :
    ((∃ error, (load fs path).rules = .error (.reported error) ∧ error.kind = .configRead) ↔
      ¬ bytes.toByteArray.IsValidUTF8) ∧
    (∀ error, (load fs path).rules = .error (.reported error) →
      error.path = some path.toString ∧ (error.kind = .configRead ∨ error.kind = .configParse)) ∧
    (∀ escape, (load fs path).rules = .error (.escaped escape) ↔
      ∃ chars failure, bytes = Text.Utf8.encode chars ∧
        Toml.parse (Text.unifyLineEnds chars) = .error failure ∧
        escapeOf? failure = some escape) ∧
    ∀ chars, bytes = Text.Utf8.encode chars →
      (∀ n, (load fs path).rules = .error (.escaped (.integer n)) →
        Toml.digitLimit < n ∧ Toml.HasDigits (Text.unifyLineEnds chars) n) ∧
      ((load fs path).rules = .error (.escaped .nesting) →
        Toml.depthLimit <
          Toml.tableDepth * (Text.unifyLineEnds chars).countP Toml.isOpening) := by
  cases hdecode : Text.Utf8.decode bytes with
  | error e =>
    -- Nothing is read, so all that is said of texts is void.
    have hload := load_undecodable hread hdecode
    have hnone (chars : List Char) : bytes ≠ Text.Utf8.encode chars := by
      intro h
      rw [(Text.Utf8.decode_eq_ok_iff _ _).2 h] at hdecode
      cases hdecode
    have hinvalid : ¬ bytes.toByteArray.IsValidUTF8 := by
      rw [← Text.Utf8.isOk_decode_iff]
      simp [hdecode]
    refine ⟨⟨fun _ => hinvalid, fun _ => ⟨_, hload, rfl⟩⟩, ?_, ?_, ?_⟩
    · intro error h
      cases hload.symm.trans h
      exact ⟨rfl, Or.inl rfl⟩
    · intro escape
      simp [hload, hnone]
    · intro chars h
      exact absurd h (hnone chars)
  | ok chars =>
    have hload := load_decoded hread hdecode
    have hbytes := (Text.Utf8.decode_eq_ok_iff _ _).1 hdecode
    have hvalid : bytes.toByteArray.IsValidUTF8 :=
      (Text.Utf8.isOk_decode_iff bytes).1 ⟨chars, hdecode⟩
    -- The text is the only one that is encoded this way.
    have honly (other : List Char) (h : bytes = Text.Utf8.encode other) : other = chars := by
      have := ((Text.Utf8.decode_eq_ok_iff _ _).2 h).symm.trans hdecode
      exact Except.ok.inj this
    rw [hload]
    refine ⟨⟨?_, fun h => absurd hvalid h⟩, ?_, ?_, ?_⟩
    · rintro ⟨error, h, hkind⟩
      rw [(ofText_reported h).1] at hkind
      cases hkind
    · intro error h
      obtain ⟨hkind, hpath⟩ := ofText_reported h
      exact ⟨hpath, Or.inr hkind⟩
    · intro escape
      rw [ofText_escaped_iff]
      constructor
      · rintro ⟨failure, hparse, hescape⟩
        exact ⟨chars, failure, hbytes, hparse, hescape⟩
      · rintro ⟨other, failure, hother, hparse, hescape⟩
        rw [honly other hother] at hparse
        exact ⟨failure, hparse, hescape⟩
    · intro other hother
      obtain rfl := honly other hother
      exact ofText_limits _ _

/-! ### Two small files -/

/-- A single file with the given content. -/
def lone (content : List UInt8) : FileSystem where
  entries := [(["rules.toml"], .file content)]

/-- The path of the single file. -/
def lonePath : Path := Path.ofString "rules.toml"

@[simp] theorem lone_read (content : List UInt8) : (lone content).read lonePath = .ok content := rfl

/-- A byte that begins no character makes a file that cannot be read. -/
theorem load_outcomes_stray_byte :
    (lone [0x61, 0xff]).read lonePath = .ok [0x61, 0xff] ∧
      ∃ error, (load (lone [0x61, 0xff]) lonePath).rules = .error (.reported error) ∧
        error.kind = .configRead := by
  have hinvalid : ¬ (List.toByteArray [0x61, 0xff]).IsValidUTF8 := by
    rw [← Text.Utf8.isOk_decode_iff]
    rintro ⟨chars, h⟩
    have hdecode : (Text.Utf8.decode [0x61, 0xff]).toOption = none := by decide +kernel
    rw [h] at hdecode
    cases hdecode
  obtain ⟨hundecodable, -⟩ := load_outcomes _ _ _ (lone_read [0x61, 0xff])
  exact ⟨lone_read _, hundecodable.2 hinvalid⟩

/-- An integer with more digits than the limit ends loading unreported, under a key that would at
most be warned about. -/
theorem load_digits {fs : FileSystem} {path : Path} {ds : List Char}
    (hall : ∀ c ∈ ds, c.isDigit = true) (hzero : ds.head? ≠ some '0')
    (hlength : Toml.digitLimit < ds.length)
    (hread : fs.read path =
      .ok (Text.Utf8.encode ('k' :: ' ' :: '=' :: ' ' :: (ds ++ ['\n'])))) :
    (load fs path).rules = .error (.escaped (.integer ds.length)) := by
  have hreturn : '\r' ∉ 'k' :: ' ' :: '=' :: ' ' :: (ds ++ ['\n']) := by
    have hds : '\r' ∉ ds := fun h => absurd (hall _ h) (by decide)
    simp [hds]
  rw [load_decoded hread ((Text.Utf8.decode_eq_ok_iff _ _).2 rfl),
    Text.unifyLineEnds_of_not_mem hreturn, ofText_escaped_iff]
  exact ⟨_, Toml.parse_digits hall hzero hlength [], rfl⟩

/-- A file whose only value is an integer of one digit too many. -/
theorem load_long_integer_escapes :
    (load (lone (Text.Utf8.encode
      ('k' :: ' ' :: '=' :: ' ' :: (List.replicate 4301 '9' ++ ['\n'])))) lonePath).rules =
      .error (.escaped (.integer 4301)) := by
  have hlength : (List.replicate 4301 '9').length = 4301 := List.length_replicate
  have hall : ∀ c ∈ List.replicate 4301 '9', c.isDigit = true := by
    intro c hc
    rw [List.eq_of_mem_replicate hc]
    decide
  have hzero : (List.replicate 4301 '9').head? ≠ some '0' := by
    rw [List.head?_replicate]
    decide
  have hlimit : Toml.digitLimit < (List.replicate 4301 '9').length := by
    rw [hlength]
    decide
  rw [load_digits hall hzero hlimit (lone_read _), hlength]

end RuleFile

end AttrLint
