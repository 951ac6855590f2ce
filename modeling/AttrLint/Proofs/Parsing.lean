import AttrLint.Check
import AttrLint.Proofs.Reading
import Mathlib.Control.Monad.Basic

namespace AttrLint

/-!
# What parsing a document can come to

Bytes make a document, or a reported error says which source cannot be parsed.  What is left are
three exceptions: a source whose name holds a NUL character, a declaration that names an encoding
which cannot be used, and a namespace whose name is divided by white space.

* `Xml.body_eq_unreported_iff` — the declarations whose encoding ends reading unreported.
* `Xml.Body.events_failure_iff` — the bodies that end it so.
* `Xml.ofEvents_events` — what is read always builds a document.
* `Document.Escapes` — the exceptions.
* `Document.parse_outcomes` — the main statement, for all bytes and sources.
* `Document.parse_unknown_encoding_escapes` — one of the exceptions.
-/

namespace Xml

/-! ### Declared encodings -/

/-- Says that the document's declaration, written in `written`, names an encoding at the given
position. -/
def Declares (bytes : List UInt8) (written : Encoding) (name : List Char) (position : Position) :
    Prop :=
  ∃ mark text declaration,
    sniff bytes = .encoding written mark ∧
      declarationBody? (written.decode (bytes.drop mark)).chars = some text ∧
      XmlDeclaration.parse (declarationStart mark) text = .ok declaration ∧
      declaration.encoding = some (name, position)

/-- An encoding of one byte per character is never of no use. -/
theorem Encoding.named_ne_single (written : Encoding) (name : List Char) (set : CharSet) :
    written.named name ≠ .registered (some (.single set)) := by
  unfold Encoding.named
  grind

theorem codingFailure_isReported_iff {written : Encoding} {name : List Char}
    {coding : Option Coding} (h : written.named name = .registered coding) (text : String)
    (position : Position) :
    (codingFailure text position coding).isReported = false ↔ coding ≠ some .unfit := by
  match coding with
  | none => simp [codingFailure, Failure.isReported]
  | some (.single set) => exact absurd h (written.named_ne_single name set)
  | some .unfit => simp [codingFailure, Failure.isReported]
  | some .multiByte | some .notText | some .hostNames | some .undefined | some .labels =>
    simp [codingFailure, Failure.isReported]

/-- The front of a document fails unreported exactly if the declared encoding is a registered one
that cannot be used, or none at all. -/
theorem body_eq_unreported_iff (bytes : List UInt8) (e : Failure) :
    (body bytes = .error e ∧ e.isReported = false) ↔
      ∃ written name position coding, Declares bytes written name position ∧
        written.named name = .registered coding ∧ coding ≠ some .unfit ∧
        e = codingFailure (String.ofList name) position coding := by
  constructor
  · rintro ⟨hbody, hreported⟩
    unfold body at hbody
    split at hbody
    · cases hbody
      cases hreported
    rename_i written mark hsniff
    dsimp only at hbody
    split at hbody
    · cases hbody
    rename_i text htext
    unfold declaredBody at hbody
    dsimp only at hbody
    split at hbody
    · cases hbody
      cases hreported
    rename_i declaration hdeclaration
    split at hbody
    · cases hbody
    rename_i name position hencoding
    split at hbody
    · cases hbody
    · cases hbody
      cases hreported
    · rename_i coding hnamed
      cases hbody
      exact ⟨written, name, position, coding,
        ⟨mark, text, declaration, hsniff, htext, hdeclaration, hencoding⟩, hnamed,
        (codingFailure_isReported_iff hnamed _ _).1 hreported, rfl⟩
  · rintro ⟨written, name, position, coding, hdeclares, hnamed, hfit, rfl⟩
    obtain ⟨mark, text, declaration, hsniff, htext, hdeclaration, hencoding⟩ := hdeclares
    refine ⟨?_, (codingFailure_isReported_iff hnamed _ _).2 hfit⟩
    simp only [body, hsniff, htext, declaredBody, hdeclaration, hencoding, hnamed]

/-! ### Bodies -/

/-- The body of a document fails unreported exactly if it has an overlong name. -/
theorem Body.events_failure_iff (b : Body) (e : Failure) :
    (b.events = .error e ∧ e.isReported = false) ↔
      e = .tooManyNameParts ∧ b.reader.MeetsOverlong b.decoded.chars := by
  have hsound : b.reader.Sound := Reader.sound_start _ _ _
  have hmeets := Reader.run_eq_tooManyNameParts_iff hsound (by rintro ⟨⟩) b.decoded.chars
  constructor
  · rintro ⟨hevents, hreported⟩
    rcases Reader.finish_failure hevents with hstage | hfinish
    · rcases Reader.run_failure hstage with hstart | hrun | rfl
      · cases hstart
      · rw [hrun] at hreported
        cases hreported
      · exact ⟨rfl, hmeets.1 hstage⟩
    · rw [hfinish] at hreported
      cases hreported
  · rintro ⟨rfl, h⟩
    refine ⟨?_, rfl⟩
    simp only [Body.events, Reader.finish, hmeets.2 h]

/-- What is read without a failure makes a document. -/
theorem ofEvents_events {bytes : List UInt8} {read : List Event} (h : events bytes = .ok read) :
    ∃ d, Document.ofEvents read = .ok d := by
  unfold events at h
  split at h
  · cases h
  · exact Reader.ofEvents_finish (Reader.sound_run (Reader.sound_start _ _ _) _) h

end Xml

/-! ### Documents -/

namespace Document

/-- The exceptions: what ends parsing without being reported, and why. -/
inductive Escapes (source : String) (bytes : List UInt8) : Escape → Prop
  /-- The name of the source holds the character NUL. -/
  | nullInSource (hsource : '\x00' ∈ source.toList) : Escapes source bytes .nullInSource
  /-- The declared encoding is registered but cannot be used, or is not registered. -/
  | encoding {written : Xml.Encoding} {name : List Char} {position : Xml.Position}
      {coding : Option Xml.Coding} (hsource : '\x00' ∉ source.toList)
      (hdeclares : Xml.Declares bytes written name position)
      (hnamed : written.named name = .registered coding) (hfit : coding ≠ some .unfit) :
      Escapes source bytes (.document (Xml.codingFailure (String.ofList name) position coding))
  /-- A name belongs to a namespace whose name has white space. -/
  | nameParts {body : Xml.Body} (hsource : '\x00' ∉ source.toList)
      (hbody : Xml.body bytes = .ok body)
      (hmeets : body.reader.MeetsOverlong body.decoded.chars) :
      Escapes source bytes (.document .tooManyNameParts)

theorem parse_of_null {source : String} (h : '\x00' ∈ source.toList) (bytes : List UInt8) :
    parse source bytes = .error (.escaped .nullInSource) := by
  rw [parse, if_pos (List.contains_iff_mem.2 h)]

/-- What parsing makes of the events of a document. -/
theorem parse_of_not_null {source : String} (h : '\x00' ∉ source.toList) (bytes : List UInt8) :
    (∀ e, Xml.events bytes = .error e → e.isReported = true →
      parse source bytes = .error (.reported (.documentParse source (.document source e)))) ∧
    (∀ e, Xml.events bytes = .error e → e.isReported = false →
      parse source bytes = .error (.escaped (.document e))) ∧
    ∀ events d, Xml.events bytes = .ok events → ofEvents events = .ok d →
      parse source bytes = .ok d := by
  have hnull : ¬ source.toList.contains '\x00' = true := fun hc => h (List.contains_iff_mem.1 hc)
  refine ⟨fun e he hreported => ?_, fun e he hreported => ?_, fun events d he hd => ?_⟩
  · simp only [parse, if_neg hnull, he, hreported, if_true]
  · simp only [parse, if_neg hnull, he, hreported, Bool.false_eq_true, if_false]
  · simp only [parse, if_neg hnull, he, hd]

/-- The events of a document fail unreported exactly if its front or its body does. -/
theorem events_escape_iff {source : String} {bytes : List UInt8}
    (hsource : '\x00' ∉ source.toList) (e : Xml.Failure) :
    (Xml.events bytes = .error e ∧ e.isReported = false) ↔
      Escapes source bytes (.document e) := by
  have hfront := Xml.body_eq_unreported_iff bytes e
  constructor
  · rintro ⟨hevents, hreported⟩
    cases hbody : Xml.body bytes with
    | error e' =>
      rw [Xml.events, hbody] at hevents
      cases hevents
      obtain ⟨written, name, position, coding, hdeclares, hnamed, hfit, rfl⟩ :=
        hfront.1 ⟨hbody, hreported⟩
      exact .encoding hsource hdeclares hnamed hfit
    | ok body =>
      rw [Xml.events, hbody] at hevents
      obtain ⟨rfl, hmeets⟩ := (body.events_failure_iff e).1 ⟨hevents, hreported⟩
      exact .nameParts hsource hbody hmeets
  · intro h
    cases h with
    | encoding _ hdeclares hnamed hfit =>
      obtain ⟨hbody, hreported⟩ := hfront.2 ⟨_, _, _, _, hdeclares, hnamed, hfit, rfl⟩
      rw [Xml.events, hbody]
      exact ⟨rfl, hreported⟩
    | nameParts _ hbody hmeets =>
      rw [Xml.events, hbody]
      exact (Xml.Body.events_failure_iff _ _).2 ⟨rfl, hmeets⟩

/-- Once a source is named by a NUL character, nothing else can go wrong with it. -/
theorem escapes_of_null {source : String} {bytes : List UInt8}
    (hsource : '\x00' ∈ source.toList) (escape : Escape) :
    Escapes source bytes escape ↔ escape = .nullInSource := by
  constructor
  · intro h
    cases h with
    | nullInSource _ => rfl
    | encoding h _ _ _ => exact absurd hsource h
    | nameParts h _ _ => exact absurd hsource h
  · rintro rfl
    exact .nullInSource hsource

/-- Otherwise the exceptions are the failures of the events that are not reported. -/
theorem escapes_of_not_null {source : String} {bytes : List UInt8}
    (hsource : '\x00' ∉ source.toList) (escape : Escape) :
    Escapes source bytes escape ↔
      ∃ e, escape = .document e ∧ Xml.events bytes = .error e ∧ e.isReported = false := by
  constructor
  · intro h
    cases h with
    | nullInSource h => exact absurd h hsource
    | encoding _ hdeclares hnamed hfit =>
      exact ⟨_, rfl, (events_escape_iff hsource _).2 (.encoding hsource hdeclares hnamed hfit)⟩
    | nameParts _ hbody hmeets =>
      exact ⟨_, rfl, (events_escape_iff hsource _).2 (.nameParts hsource hbody hmeets)⟩
  · rintro ⟨e, rfl, he⟩
    exact (events_escape_iff hsource e).1 he

/-- **Parsing reports what is wrong with a document.**  Whatever the bytes are, there is a document,
or an error of its own kind that carries the source and what is wrong with the markup, or one of the
exceptions, and the exceptions are exactly those listed.  No event of a document fails to build. -/
theorem parse_outcomes (source : String) (bytes : List UInt8) :
    (∀ error, parse source bytes = .error (.reported error) →
      error.kind = .documentParse ∧ error.path = some source ∧
        ∃ failure, failure.isReported = true ∧ Xml.events bytes = .error failure ∧
          error.cause = .document source failure) ∧
    ∀ escape, parse source bytes = .error (.escaped escape) ↔ Escapes source bytes escape := by
  by_cases hsource : '\x00' ∈ source.toList
  · simp only [parse_of_null hsource, escapes_of_null hsource]
    constructor
    · rintro error ⟨⟩
    · intro escape
      simp [eq_comm]
  simp only [escapes_of_not_null hsource]
  obtain ⟨hreported, hescaped, hparsed⟩ := parse_of_not_null hsource bytes
  cases hevents : Xml.events bytes with
  | ok events =>
    obtain ⟨d, hd⟩ := Xml.ofEvents_events hevents
    rw [hparsed events d hevents hd]
    constructor
    · rintro error ⟨⟩
    · simp
  | error e =>
    cases hkind : e.isReported with
    | true =>
      rw [hreported e hevents hkind]
      constructor
      · rintro error ⟨⟩
        exact ⟨rfl, rfl, e, hkind, rfl, rfl⟩
      · simp [hkind]
    | false =>
      rw [hescaped e hevents hkind]
      constructor
      · rintro error ⟨⟩
      · intro escape
        constructor
        · rintro ⟨⟩
          exact ⟨e, rfl, rfl, hkind⟩
        · rintro ⟨_, rfl, ⟨⟩, -⟩
          rfl

-- Two references to white space divide the name of a namespace in three.
example : Xml.events (Text.Utf8.encode "<a xmlns=\"x&#9;y&#10;z\"/>".toList) =
    .error .tooManyNameParts := by decide +kernel

/-- A declared encoding that is not known. -/
theorem parse_unknown_encoding_escapes :
    parse "a.xml" (Text.Utf8.encode
      "<?xml version=\"1.0\" encoding=\"no-such-enc\"?><a/>".toList) =
      .error (.escaped (.document (.unknownEncoding "no-such-enc"))) := by
  have hevents : Xml.events (Text.Utf8.encode
      "<?xml version=\"1.0\" encoding=\"no-such-enc\"?><a/>".toList) =
      .error (.unknownEncoding "no-such-enc") := by decide +kernel
  have hsource : '\x00' ∉ "a.xml".toList := by decide
  exact (parse_of_not_null hsource _).2.1 _ hevents rfl

end Document

end AttrLint
