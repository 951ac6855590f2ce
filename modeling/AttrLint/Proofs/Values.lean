import AttrLint.Proofs.Printing
import AttrLint.Xml.Tag

namespace AttrLint.Xml

/-!
# Reading values

A character of a value can be written in many ways: as itself, by the name of an entity, or by its
number in either base.  However a value is written, it is read back.

* `feedThrough` — the state after several characters; references, start tags and pieces of content
  are followed by it.
* `Reference.Refers` — the ways to refer to a character.
* `Reference.through_refers` — a reference is read to its end.
* `Writes` — a value and a text that is written for it.
* `writes_escaped` — the escaped form of a value is one of them.
* `Value.normalize_writes` — what is written for a value is read back.
-/

open Printable

/-! ### Characters one after the other -/

section Through

variable {σ : Type} {feed : σ → Cursor → Char → Option σ} {state next last : σ} {cursor : Cursor}

/-- The state after several characters, each of them read at the cursor behind those before it, if
`feed` goes on with all of them. -/
def feedThrough (feed : σ → Cursor → Char → Option σ) (state : σ) (cursor : Cursor) :
    List Char → Option σ
  | [] => some state
  | c :: cs => (feed state cursor c).bind fun next => feedThrough feed next (cursor.advance c) cs

@[simp] theorem feedThrough_nil : feedThrough feed state cursor [] = some state :=
  rfl

@[simp] theorem feedThrough_cons (c : Char) (cs : List Char) :
    feedThrough feed state cursor (c :: cs) =
      (feed state cursor c).bind fun next => feedThrough feed next (cursor.advance c) cs :=
  rfl

/-- What goes on after several characters goes on after the first of them. -/
theorem of_feedThrough_cons {c : Char} {cs : List Char}
    (h : feedThrough feed state cursor (c :: cs) = some last) :
    ∃ middle, feed state cursor c = some middle ∧
      feedThrough feed middle (cursor.advance c) cs = some last :=
  Option.bind_eq_some_iff.mp h

/-- Characters in two parts are read one part after the other. -/
theorem feedThrough_append {s : List Char} (h : feedThrough feed state cursor s = some next)
    (t : List Char) :
    feedThrough feed state cursor (s ++ t) = feedThrough feed next (cursor.advanceAll s) t := by
  induction s generalizing state cursor with
  | nil =>
    cases h
    rfl
  | cons c cs ih =>
    obtain ⟨middle, hfeed, hrest⟩ := of_feedThrough_cons h
    rw [List.cons_append, feedThrough_cons, hfeed, Option.bind_some]
    exact ih hrest

end Through

/-! ### Numbers -/

/-- The value of a decimal digit. -/
def decimalValue? (c : Char) : Option Nat :=
  if c.isDigit then some (c.toNat - 0x30) else none

/-- The number that digits make after those that have made `n`, if all of them are digits. -/
def numberFrom? (base : Nat) (digit? : Char → Option Nat) (n : Nat) : List Char → Option Nat
  | [] => some n
  | c :: cs => (digit? c).bind fun digit => numberFrom? base digit? (n * base + digit) cs

/-- Digits make a number no smaller. -/
theorem le_of_numberFrom? {base : Nat} (hbase : 0 < base) {digit? : Char → Option Nat}
    {digits : List Char} {m n : Nat} (h : numberFrom? base digit? m digits = some n) : m ≤ n := by
  induction digits generalizing m with
  | nil => exact Nat.le_of_eq (Option.some.inj h)
  | cons c cs ih =>
    obtain ⟨digit, -, hrest⟩ := Option.bind_eq_some_iff.mp h
    have hstep := ih hrest
    have hgrow : m ≤ m * base := Nat.le_mul_of_pos_right m hbase
    omega

/-- Where a number comes out, every character is a digit. -/
theorem isSome_of_numberFrom? {base : Nat} {digit? : Char → Option Nat} {digits : List Char}
    {m n : Nat} (h : numberFrom? base digit? m digits = some n) {c : Char} (hc : c ∈ digits) :
    (digit? c).isSome = true := by
  induction digits generalizing m with
  | nil => cases hc
  | cons d ds ih =>
    obtain ⟨digit, hdigit, hrest⟩ := Option.bind_eq_some_iff.mp h
    obtain rfl | hc := List.mem_cons.mp hc
    · rw [hdigit]
      rfl
    · exact ih hrest hc

/-! ### References -/

namespace Reference

/-- The reference that goes on, if it does. -/
def Step.more? : Step → Option Reference
  | .more r => some r
  | _ => none

@[simp] theorem Step.more?_more (r : Reference) : (Step.more r).more? = some r :=
  rfl

theorem Step.more?_eq_some_iff {step : Step} {r : Reference} :
    step.more? = some r ↔ step = .more r := by
  cases step <;> simp [more?]

/-- A reference after one more character, which does not complete it. -/
def after? (r : Reference) (_ : Cursor) (c : Char) : Option Reference :=
  (r.feed .sequences c).more?

theorem after?_eq_some_iff {r next : Reference} {cursor : Cursor} {c : Char} :
    r.after? cursor c = some next ↔ r.feed .sequences c = .more next :=
  Step.more?_eq_some_iff

/-- Says that the text between `&` and `;` refers to a character: by the name of an entity that
every document has, or by the number of a character that a document may contain. -/
inductive Refers (c : Char) : List Char → Prop
  | entity {name : String} (hname : predefinedEntity? name = some c) : Refers c name.toList
  | decimal {digits : List Char} (hne : digits ≠ []) (hlegal : isLegal c = true)
      (hnumber : numberFrom? 10 decimalValue? 0 digits = some c.toNat) : Refers c ('#' :: digits)
  | hex {digits : List Char} (hne : digits ≠ []) (hlegal : isLegal c = true)
      (hnumber : numberFrom? 16 Text.hexValue? 0 digits = some c.toNat) :
      Refers c ('#' :: 'x' :: digits)

/-- The number of a legal character refers to it. -/
theorem codeChar?_toNat {c : Char} (h : isLegal c = true) : codeChar? c.toNat = some c := by
  have hvalid : c.toNat < 0xd800 ∨ 0xdfff < c.toNat ∧ c.toNat < 0x110000 := c.valid
  have hcode : ¬(codeLimit ≤ c.toNat ∨ (0xd800 ≤ c.toNat ∧ c.toNat < 0xe000)) := by
    unfold codeLimit
    omega
  rw [codeChar?, if_neg hcode, Char.ofNat_toNat, if_pos h]

theorem feed_decimal {c : Char} {digit : Nat} (h : decimalValue? c = some digit) (n : Nat) :
    (decimal n).feed .sequences c = .more (decimal (min codeLimit (n * 10 + digit))) := by
  have hend : c ≠ ';' := by
    rintro rfl
    exact absurd h (by simp [decimalValue?, Char.isDigit])
  unfold decimalValue? at h
  split at h
  · next hc =>
    cases h
    simp [feed, hend, hc]
  · cases h

theorem feed_hex {c : Char} {digit : Nat} (h : Text.hexValue? c = some digit) (n : Nat) :
    (hex n).feed .sequences c = .more (hex (min codeLimit (n * 16 + digit))) := by
  have hend : c ≠ ';' := by
    rintro rfl
    exact absurd h (by simp [Text.hexValue?])
  simp [feed, hend, h]

/-- Digits add to a number that stays below the limit, in either base. -/
theorem through_digits {part : Nat → Reference} {base : Nat} {digit? : Char → Option Nat}
    (hbase : 0 < base)
    (hfeed : ∀ {c : Char} {digit : Nat}, digit? c = some digit → ∀ n : Nat,
      (part n).feed .sequences c = .more (part (min codeLimit (n * base + digit))))
    {digits : List Char} {m n : Nat} (hn : n < codeLimit)
    (h : numberFrom? base digit? m digits = some n) (cursor : Cursor) :
    feedThrough after? (part m) cursor digits = some (part n) := by
  induction digits generalizing m cursor with
  | nil =>
    cases h
    rfl
  | cons c cs ih =>
    obtain ⟨digit, hdigit, hrest⟩ := Option.bind_eq_some_iff.mp h
    have hle := le_of_numberFrom? hbase hrest
    have hmin : min codeLimit (m * base + digit) = m * base + digit := Nat.min_eq_right (by omega)
    rw [feedThrough_cons, after?, hfeed hdigit, hmin]
    exact ih hrest (cursor.advance c)

/-- A reference is read to its end, and then stands for its character. -/
theorem through_refers {c : Char} {s : List Char} (h : Refers c s) :
    ∃ last, (∀ cursor, feedThrough after? start cursor s = some last) ∧
      ((last.feed .sequences ';' = .code c.toNat ∧ codeChar? c.toNat = some c) ∨
        ∃ name, last.feed .sequences ';' = .entity name ∧ predefinedEntity? name = some c) := by
  have hlimit : c.toNat < codeLimit := by
    have hvalid : c.toNat < 0xd800 ∨ 0xdfff < c.toNat ∧ c.toNat < 0x110000 := c.valid
    unfold codeLimit
    omega
  cases h with
  | @entity name hname =>
    -- There are five entities, all of them fixed.
    refine ⟨.name name.toList.reverse, fun cursor => ?_, .inr ⟨name, ?_, hname⟩⟩
    · unfold predefinedEntity? at hname
      repeat' split at hname
      all_goals cases hname
      all_goals subst_vars
      all_goals rfl
    · simp [feed]
  | @decimal digits hne hlegal hnumber =>
    refine ⟨.decimal c.toNat, fun cursor => ?_, .inl ⟨by simp [feed], codeChar?_toNat hlegal⟩⟩
    obtain ⟨d, ds, rfl⟩ := List.exists_cons_of_ne_nil hne
    obtain ⟨digit, hdigit, hrest⟩ := Option.bind_eq_some_iff.mp hnumber
    have hsign : feedThrough after? start cursor ('#' :: d :: ds) =
        feedThrough after? (decimal digit) ((cursor.advance '#').advance d) ds := by
      unfold decimalValue? at hdigit
      split at hdigit
      · next hd =>
        cases hdigit
        have hx : d ≠ 'x' := by
          rintro rfl
          exact absurd hd (by decide)
        simp [after?, feed, hx, hd]
      · cases hdigit
    rw [hsign]
    exact through_digits (by decide) feed_decimal hlimit (by simpa using hrest) _
  | @hex digits hne hlegal hnumber =>
    refine ⟨.hex c.toNat, fun cursor => ?_, .inl ⟨by simp [feed], codeChar?_toNat hlegal⟩⟩
    obtain ⟨d, ds, rfl⟩ := List.exists_cons_of_ne_nil hne
    obtain ⟨digit, hdigit, hrest⟩ := Option.bind_eq_some_iff.mp hnumber
    have hsign : feedThrough after? start cursor ('#' :: 'x' :: d :: ds) =
        feedThrough after? (hex digit) (((cursor.advance '#').advance 'x').advance d) ds := by
      simp [after?, feed, hdigit]
    rw [hsign]
    exact through_digits (by decide) feed_hex hlimit (by simpa using hrest) _

theorem isLegal_of_ascii {d : Char} (hlow : 0x30 ≤ d.toNat) (hhigh : d.toNat < 0x80) :
    isLegal d = true := by
  rw [isLegal, if_neg (by omega)]
  simp
  omega

theorem isLegal_of_decimalValue? {d : Char} (h : (decimalValue? d).isSome = true) :
    isLegal d = true := by
  have hcode : 0x30 ≤ d.toNat ∧ d.toNat ≤ 0x39 := by
    simpa [decimalValue?, Char.isDigit, Char.le_def, UInt32.le_iff_toNat_le] using h
  exact isLegal_of_ascii hcode.1 (by omega)

theorem isLegal_of_hexValue? {d : Char} (h : (Text.hexValue? d).isSome = true) :
    isLegal d = true := by
  have hlimits : '0'.val.toNat = 0x30 ∧ '9'.val.toNat = 0x39 ∧ 'a'.val.toNat = 0x61 ∧
      'f'.val.toNat = 0x66 ∧ 'A'.val.toNat = 0x41 ∧ 'F'.val.toNat = 0x46 := by decide
  have hcode : 0x30 ≤ d.val.toNat ∧ d.val.toNat < 0x80 := by
    simp only [Text.hexValue?, Char.le_def, UInt32.le_iff_toNat_le] at h
    split at h
    · omega
    · split at h
      · omega
      · split at h
        · omega
        · cases h
  exact isLegal_of_ascii hcode.1 hcode.2

/-- A reference is made of characters that a document may contain. -/
theorem legal_refers {c : Char} {s : List Char} (h : Refers c s) : s.all isLegal = true := by
  cases h with
  | entity hname =>
    unfold predefinedEntity? at hname
    repeat' split at hname
    all_goals cases hname
    all_goals subst_vars
    all_goals decide
  | decimal _ _ hnumber =>
    have hsign : isLegal '#' = true := by decide
    rw [List.all_cons, hsign, Bool.true_and, List.all_eq_true]
    exact fun d hd => isLegal_of_decimalValue? (isSome_of_numberFrom? hnumber hd)
  | hex _ _ hnumber =>
    have hsign : isLegal '#' = true ∧ isLegal 'x' = true := by decide
    rw [List.all_cons, List.all_cons, hsign.1, hsign.2, Bool.true_and, Bool.true_and,
      List.all_eq_true]
    exact fun d hd => isLegal_of_hexValue? (isSome_of_numberFrom? hnumber hd)

end Reference

/-! ### Values -/

/-- Says that a character of a value can be written as itself. -/
def isPlain (c : Char) : Bool :=
  c ≠ '&' && c ≠ '<' && c ≠ '"' && (!isSpace c || c = ' ')

/-- Says that the second text is written for the first: each character stands as itself, if it can,
or as a reference. -/
inductive Writes : List Char → List Char → Prop
  | nil : Writes [] []
  | plain {c : Char} {cs s : List Char} (hc : isPlain c = true) (h : Writes cs s) :
      Writes (c :: cs) (c :: s)
  | reference {c : Char} {name cs s : List Char} (hc : Reference.Refers c name)
      (h : Writes cs s) : Writes (c :: cs) ('&' :: (name ++ ';' :: s))

theorem of_isPlain {c : Char} (h : isPlain c = true) :
    c ≠ '&' ∧ c ≠ '<' ∧ c ≠ '"' ∧ c ≠ '\n' ∧ (isSpace c = true → c = ' ') := by
  simp only [isPlain, Bool.and_eq_true, Bool.or_eq_true, decide_eq_true_eq, Bool.not_eq_true',
    ne_eq] at h
  obtain ⟨⟨⟨hand, hless⟩, hquote⟩, hspace⟩ := h
  have hblank : isSpace c = true → c = ' ' := fun hc => hspace.resolve_left (by simp [hc])
  refine ⟨by simpa using hand, by simpa using hless, by simpa using hquote, ?_, hblank⟩
  rintro rfl
  exact absurd (hblank (by decide)) (by decide)

/-- A text that is written for legal characters is legal. -/
theorem Writes.legal {value s : List Char} (h : Writes value s)
    (hvalue : ∀ c ∈ value, isLegal c = true) : s.all isLegal = true := by
  induction h with
  | nil => rfl
  | @plain c cs s _ _ ih =>
    have hrest := ih fun d hd => hvalue d (List.mem_cons_of_mem c hd)
    rw [List.all_cons, hrest, hvalue c List.mem_cons_self]
    rfl
  | @reference c name cs s hc _ ih =>
    have hrest := ih fun d hd => hvalue d (List.mem_cons_of_mem c hd)
    have hsigns : isLegal '&' = true ∧ isLegal ';' = true := by decide
    simp [Reference.legal_refers hc, hrest, hsigns]

/-- The reference that stands for a character refers to it. -/
theorem refers_of_reference? {c : Char} {text : List Char} (h : reference? c = some text) :
    ∃ name, text = '&' :: (name ++ [';']) ∧ Reference.Refers c name := by
  unfold reference? at h
  repeat' split at h
  all_goals cases h
  all_goals subst_vars
  · exact ⟨"amp".toList, rfl, .entity rfl⟩
  · exact ⟨"lt".toList, rfl, .entity rfl⟩
  · exact ⟨"gt".toList, rfl, .entity rfl⟩
  · exact ⟨"quot".toList, rfl, .entity rfl⟩
  · exact ⟨['#', '9'], rfl, .decimal (by decide) (by decide) (by decide)⟩
  · exact ⟨['#', '1', '0'], rfl, .decimal (by decide) (by decide) (by decide)⟩
  · exact ⟨['#', '1', '3'], rfl, .decimal (by decide) (by decide) (by decide)⟩

theorem writes_escapeChar (c : Char) {cs s : List Char} (h : Writes cs s) :
    Writes (c :: cs) (escapeChar c ++ s) := by
  cases href : reference? c with
  | none =>
    obtain ⟨hand, hless, hquote, hspace, -⟩ := of_reference?_eq_none href
    have hc : isPlain c = true := by
      cases hblank : isSpace c with
      | false => simp [isPlain, hand, hless, hquote, hblank]
      | true =>
        obtain rfl := hspace hblank
        decide
    rw [escapeChar, href]
    exact .plain hc h
  | some text =>
    obtain ⟨name, htext, hname⟩ := refers_of_reference? href
    rw [escapeChar, href, htext]
    simpa using Writes.reference hname h

/-- The escaped form of a value is written for it. -/
theorem writes_escaped (value : List Char) : Writes value (value.flatMap escapeChar) := by
  induction value with
  | nil => exact .nil
  | cons c cs ih =>
    rw [List.flatMap_cons]
    exact writes_escapeChar c ih

namespace Value

variable {rule : ValueRule}

/-- A character of character data is added as it is. -/
theorem addCode?_toNat (hdata : rule.characterData = true) {c : Char}
    (hc : codeChar? c.toNat = some c) (chars : List Char) :
    addCode? rule chars c.toNat = some (c :: chars) := by
  rw [addCode?, hc]
  by_cases hspace : c = ' '
  · simp [hspace, addSpace, hdata]
  · simp [hspace]

/-- The characters of a reference are taken one after the other. -/
theorem feedAll_through (halphabet : rule.alphabet = .sequences) {r last : Reference}
    {cursor : Cursor} {s : List Char} (h : feedThrough Reference.after? r cursor s = some last)
    (chars : List Char) (ampersand : Position) (rest : List Char) :
    feedAll rule ⟨cursor, chars, some (r, ampersand)⟩ (s ++ rest) =
      feedAll rule ⟨cursor.advanceAll s, chars, some (last, ampersand)⟩ rest := by
  induction s generalizing r cursor with
  | nil =>
    cases h
    rfl
  | cons c cs ih =>
    obtain ⟨middle, hfeed, hrest⟩ := of_feedThrough_cons h
    rw [Reference.after?_eq_some_iff, ← halphabet] at hfeed
    rw [List.cons_append, feedAll]
    simp only [feedReference, hfeed]
    exact ih hrest

/-- A reference adds its character. -/
theorem feedAll_reference (halphabet : rule.alphabet = .sequences)
    (hdata : rule.characterData = true) {c : Char} {name : List Char}
    (hc : Reference.Refers c name) (cursor : Cursor) (chars rest : List Char) :
    ∃ next, feedAll rule ⟨cursor, chars, none⟩ ('&' :: (name ++ ';' :: rest)) =
      feedAll rule ⟨next, c :: chars, none⟩ rest := by
  obtain ⟨last, hthrough, hend⟩ := Reference.through_refers hc
  have hbegin : feedAll rule ⟨cursor, chars, none⟩ ('&' :: (name ++ ';' :: rest)) =
      feedAll rule ⟨cursor.advance '&', chars, some (.start, cursor.position)⟩
        (name ++ ';' :: rest) := rfl
  rw [hbegin, feedAll_through halphabet (hthrough _), feedAll]
  rw [← halphabet] at hend
  refine ⟨((cursor.advance '&').advanceAll name).advance ';', ?_⟩
  obtain ⟨hcode, hchar⟩ | ⟨entity, hentity, hchar⟩ := hend
  · simp only [feedReference, hcode, addCode?_toNat hdata hchar]
  · simp only [feedReference, hentity, addEntity, hchar]

/-- A value of character data keeps its last space. -/
theorem finish_characterData (hdata : rule.characterData = true) (cursor : Cursor)
    (chars : List Char) : finish rule ⟨cursor, chars, none⟩ = .ok chars.reverse := by
  unfold finish
  dsimp only
  split
  · simp [hdata]
  · rfl

/-- The characters of a value are read back one after the other. -/
theorem feedAll_writes (halphabet : rule.alphabet = .sequences)
    (hdata : rule.characterData = true) {value s : List Char} (h : Writes value s)
    (chars : List Char) (cursor : Cursor) :
    ∃ last, feedAll rule ⟨cursor, chars, none⟩ s = .ok ⟨last, value.reverse ++ chars, none⟩ := by
  induction h generalizing chars cursor with
  | nil => exact ⟨cursor, rfl⟩
  | @plain c cs s hc _ ih =>
    obtain ⟨hand, hless, -, hline, hspace⟩ := of_isPlain hc
    obtain ⟨last, hlast⟩ := ih (c :: chars) (cursor.advance c)
    refine ⟨last, ?_⟩
    -- White space turns into a space in a value, but only a space is written as itself.
    have hstep : feedText rule ⟨cursor, chars, none⟩ c =
        .ok ⟨cursor.advance c, c :: chars, none⟩ := by
      by_cases hblank : isSpace c = true
      · obtain rfl := hspace hblank
        simp [feedText, hblank, addSpace, hdata]
      · simp [feedText, hand, hless, hline, hblank]
    rw [feedAll]
    simp only [hstep, hlast]
    simp
  | @reference c name cs s hc _ ih =>
    obtain ⟨next, hnext⟩ := feedAll_reference halphabet hdata hc cursor chars s
    obtain ⟨last, hlast⟩ := ih (c :: chars) next
    refine ⟨last, ?_⟩
    rw [hnext, hlast]
    simp

/-- **What is written for a value is read back.** -/
theorem normalize_writes (halphabet : rule.alphabet = .sequences)
    (hdata : rule.characterData = true) (start : Cursor) {value s : List Char}
    (h : Writes value s) : normalize rule start s = .ok value := by
  obtain ⟨last, hlast⟩ := feedAll_writes halphabet hdata h [] start
  rw [normalize, hlast]
  dsimp only
  rw [finish_characterData hdata]
  simp

end Value

end AttrLint.Xml
