import AttrLint.Report

namespace AttrLint

/-!
# JSON texts and what they stand for

A report in JSON is written for programs that read it.  This file has such a reader, and says that
it gets back what was reported.

* `Json.Value`, `Json.decode` — values, and the value of a text.  Strings have all escapes of the
  format, with pairs of surrogates for characters above U+FFFF; numbers are integers.
* `Json.character?_escapeChar` — every character is read back from its escape.
* `Json.Reads` — a text is read as a value, whatever comes after it; `Json.reads_string`,
  `Json.reads_number` and `Json.reads_object` are the kinds of values that reports are made of.
* `Json.decode_report` — a report is read as the array of its violations.
-/

namespace Json

/-! ### Reading -/

/-- What a JSON text stands for. -/
inductive Value where
  | null
  | bool (value : Bool)
  | number (value : Int)
  | string (text : String)
  | array (items : List Value)
  /-- The fields of an object, in the order of the text. -/
  | object (fields : List (String × Value))
  deriving Repr

/-- Says that the character is blank space, which may stand between the parts of a text. -/
def isBlank (c : Char) : Bool :=
  c = ' ' || c = '\t' || c = '\n' || c = '\r'

/-- What follows blank space. -/
def skip (s : List Char) : List Char :=
  s.dropWhile isBlank

/-- The sixteen-bit unit that four hexadecimal digits give. -/
def unit? (a b c d : Char) : Option Nat :=
  match Text.hexValue? a, Text.hexValue? b, Text.hexValue? c, Text.hexValue? d with
  | some a, some b, some c, some d => some (((a * 16 + b) * 16 + c) * 16 + d)
  | _, _, _, _ => none

/-- The character of an escape by units, after its first `u`, and what follows.  A unit that is a
surrogate needs another one after it. -/
def unitCharacter? : List Char → Option (Char × List Char)
  | a :: b :: c :: d :: s =>
    match unit? a b c d with
    | none => none
    | some n =>
      if n < 0xd800 ∨ 0xe000 ≤ n then some (Char.ofNat n, s)
      else if 0xdc00 ≤ n then none
      else
        match s with
        | '\\' :: 'u' :: a :: b :: c :: d :: s =>
          match unit? a b c d with
          | none => none
          | some m =>
            if 0xdc00 ≤ m ∧ m < 0xe000 then
              some (Char.ofNat (0x10000 + (n - 0xd800) * 0x400 + (m - 0xdc00)), s)
            else none
        | _ => none
  | _ => none

/-- The character that a short escape stands for. -/
def shortEscape? (c : Char) : Option Char :=
  if c = '"' ∨ c = '\\' ∨ c = '/' then some c
  else if c = 'b' then some '\x08'
  else if c = 'f' then some '\x0c'
  else if c = 'n' then some '\n'
  else if c = 'r' then some '\r'
  else if c = 't' then some '\t'
  else none

/-- The first character that is written in a string, escaped or not, and what follows. -/
def character? : List Char → Option (Char × List Char)
  | [] => none
  | c :: s =>
    if c.toNat < 0x20 ∨ c = '"' then none
    else if c = '\\' then
      match s with
      | [] => none
      | e :: s => if e = 'u' then unitCharacter? s else (shortEscape? e).map fun c => (c, s)
    else some (c, s)

/-- The characters of a string up to its closing quote, and what follows; `turns` bounds their
number. -/
def charactersFor : Nat → List Char → Option (List Char × List Char)
  | 0, _ => none
  | turns + 1, s =>
    if s.head? = some '"' then some ([], s.tail)
    else
      match character? s with
      | none => none
      | some (c, s) =>
        match charactersFor turns s with
        | none => none
        | some (cs, s) => some (c :: cs, s)

/-- A string after its opening quote, and what follows. -/
def text? (s : List Char) : Option (String × List Char) :=
  match charactersFor s.length s with
  | none => none
  | some (cs, s) => some (String.ofList cs, s)

/-- A natural number without needless zeros, and what follows. -/
def natural? (s : List Char) : Option (Nat × List Char) :=
  match s.takeWhile Char.isDigit with
  | [] => none
  | d :: ds =>
    if d = '0' ∧ ds ≠ [] then none
    else some (Nat.ofDigitChars 10 (d :: ds) 0, s.dropWhile Char.isDigit)

/-- An integer, and what follows. -/
def integer? : List Char → Option (Int × List Char)
  | [] => none
  | c :: s =>
    if c = '-' then (natural? s).map fun read => (-(read.1 : Int), read.2)
    else (natural? (c :: s)).map fun read => ((read.1 : Int), read.2)

/-- One of the three words of the format, and what follows. -/
def word? (s : List Char) : Option (Value × List Char) :=
  if "null".toList.isPrefixOf s then some (.null, s.drop 4)
  else if "true".toList.isPrefixOf s then some (.bool true, s.drop 4)
  else if "false".toList.isPrefixOf s then some (.bool false, s.drop 5)
  else none

/-- The name of a field with the colon after it, and what follows. -/
def name? (s : List Char) : Option (String × List Char) :=
  match skip s with
  | [] => none
  | c :: s =>
    if c = '"' then
      match text? s with
      | none => none
      | some (name, s) => if (skip s).head? = some ':' then some (name, (skip s).tail) else none
    else none

mutual

/-- A value, and what follows; `turns` bounds the steps. -/
def valueFor : Nat → List Char → Option (Value × List Char)
  | 0, _ => none
  | turns + 1, s =>
    match skip s with
    | [] => none
    | c :: s =>
      if c = '"' then (text? s).map fun read => (.string read.1, read.2)
      else if c = '[' then
        if (skip s).head? = some ']' then some (.array [], (skip s).tail)
        else (itemsFor turns s).map fun read => (.array read.1, read.2)
      else if c = '\x7b' then
        if (skip s).head? = some '\x7d' then some (.object [], (skip s).tail)
        else (fieldsFor turns s).map fun read => (.object read.1, read.2)
      else if c = '-' ∨ c.isDigit then (integer? (c :: s)).map fun read => (.number read.1, read.2)
      else word? (c :: s)

/-- The items of an array, at least one, up to the closing bracket, and what follows. -/
def itemsFor : Nat → List Char → Option (List Value × List Char)
  | 0, _ => none
  | turns + 1, s =>
    match valueFor turns s with
    | none => none
    | some (item, s) =>
      match skip s with
      | [] => none
      | c :: s =>
        if c = ',' then (itemsFor turns s).map fun read => (item :: read.1, read.2)
        else if c = ']' then some ([item], s)
        else none

/-- The fields of an object, at least one, up to the closing brace, and what follows. -/
def fieldsFor : Nat → List Char → Option (List (String × Value) × List Char)
  | 0, _ => none
  | turns + 1, s =>
    match name? s with
    | none => none
    | some (name, s) =>
      match valueFor turns s with
      | none => none
      | some (value, s) =>
        match skip s with
        | [] => none
        | c :: s =>
          if c = ',' then (fieldsFor turns s).map fun read => ((name, value) :: read.1, read.2)
          else if c = '\x7d' then some ([(name, value)], s)
          else none

end

/-- The value that a text stands for, if it is in order.  It has no more steps than characters. -/
def decode (text : String) : Option Value :=
  match valueFor text.toList.length text.toList with
  | none => none
  | some (value, s) => if skip s = [] then some value else none

/-! ### Strings -/

/-- Four digits give back the unit they are written for. -/
theorem unit?_hexDigit {n : Nat} (h : n < 0x10000) :
    unit? (Text.hexDigit (n / 16 / 16 / 16 % 16)) (Text.hexDigit (n / 16 / 16 % 16))
      (Text.hexDigit (n / 16 % 16)) (Text.hexDigit (n % 16)) = some n := by
  have hlt (k : Nat) : k % 16 < 16 := Nat.mod_lt k (by decide)
  simp only [unit?, Text.hexValue?_hexDigit (hlt _), Option.some.injEq]
  omega

/-- A unit is written with four digits. -/
theorem hexPadded_four (n : Nat) (s : List Char) :
    Text.hexPadded 4 n ++ s =
      Text.hexDigit (n / 16 / 16 / 16 % 16) :: Text.hexDigit (n / 16 / 16 % 16) ::
        Text.hexDigit (n / 16 % 16) :: Text.hexDigit (n % 16) :: s := by
  simp [Text.hexPadded]

/-- A character below U+10000 is read back from its unit. -/
theorem unitCharacter?_unit {c : Char} (h : c.toNat < 0x10000) (s : List Char) :
    unitCharacter? (Text.hexPadded 4 c.toNat ++ s) = some (c, s) := by
  have hvalid : c.toNat < 0xd800 ∨ 0xe000 ≤ c.toNat := by
    rcases c.valid with hlow | ⟨hhigh, _⟩
    · exact Or.inl hlow
    · exact Or.inr hhigh
  rw [hexPadded_four, unitCharacter?, unit?_hexDigit h]
  simp only [if_pos hvalid, Char.ofNat_toNat]

/-- Any other character is read back from its pair of surrogates. -/
theorem unitCharacter?_pair {c : Char} (h : 0x10000 ≤ c.toNat) (s : List Char) :
    unitCharacter? (Text.hexPadded 4 (0xd800 + (c.toNat - 0x10000) / 0x400) ++
      (unitEscape (0xdc00 + (c.toNat - 0x10000) % 0x400) ++ s)) = some (c, s) := by
  have hbound : c.toNat < 0x110000 := by
    rcases c.valid with hlow | ⟨_, hhigh⟩
    · exact Nat.lt_trans hlow (by decide)
    · exact hhigh
  -- The two surrogates hold ten bits each of what the character is above U+10000.
  generalize hn : 0xd800 + (c.toNat - 0x10000) / 0x400 = n
  generalize hm : 0xdc00 + (c.toNat - 0x10000) % 0x400 = m
  have hfirst : 0xd800 ≤ n ∧ n < 0xdc00 := by omega
  have hsecond : 0xdc00 ≤ m ∧ m < 0xe000 := by omega
  have hchar : 0x10000 + (n - 0xd800) * 0x400 + (m - 0xdc00) = c.toNat := by omega
  rw [hexPadded_four, unitEscape, List.cons_append, List.cons_append,
    hexPadded_four, unitCharacter?, unit?_hexDigit (by omega)]
  simp only [if_neg (show ¬(n < 0xd800 ∨ 0xe000 ≤ n) by omega), if_neg (Nat.not_le.mpr hfirst.2),
    unit?_hexDigit (show m < 0x10000 by omega), if_pos hsecond, hchar, Char.ofNat_toNat]

/-- An escape by units is read by its units. -/
theorem character?_unitEscape (n : Nat) (s : List Char) :
    character? (unitEscape n ++ s) = unitCharacter? (Text.hexPadded 4 n ++ s) :=
  rfl

/-- **Every character is read back from its escape**, whatever comes after it. -/
theorem character?_escapeChar (c : Char) (s : List Char) :
    character? (escapeChar c ++ s) = some (c, s) := by
  by_cases hshort : c = '"' ∨ c = '\\' ∨ c = '\n' ∨ c = '\r' ∨ c = '\t' ∨ c = '\x0c' ∨ c = '\x08'
  · -- A backslash and one more character.
    rcases hshort with rfl | rfl | rfl | rfl | rfl | rfl | rfl <;> rfl
  · simp only [not_or] at hshort
    obtain ⟨hquote, hslash, hline, hreturn, htab, hfeed, hback⟩ := hshort
    simp only [escapeChar, if_neg hquote, if_neg hslash, if_neg hline, if_neg hreturn, if_neg htab,
      if_neg hfeed, if_neg hback]
    split
    · -- The character itself.
      rename_i hplain
      have hfree : ¬(c.toNat < 0x20 ∨ c = '"') := by
        rintro (hlow | hc)
        · omega
        · exact hquote hc
      simp only [List.singleton_append, character?, if_neg hfree, if_neg hslash]
    · split
      · -- One unit.
        rename_i hunit
        rw [character?_unitEscape, unitCharacter?_unit hunit]
      · -- Two units.
        rename_i hpair
        rw [List.append_assoc, character?_unitEscape, unitCharacter?_pair (Nat.le_of_not_lt hpair)]

/-- No escape starts with a quote. -/
theorem head?_escapeChar (c : Char) (s : List Char) :
    (escapeChar c ++ s).head? ≠ some '"' := by
  intro hhead
  have hread := character?_escapeChar c s
  cases hs : escapeChar c ++ s with
  | nil =>
    rw [hs] at hhead
    cases hhead
  | cons d t =>
    -- A quote is not read as a character, but the escape is.
    rw [hs, List.head?_cons, Option.some.injEq] at hhead
    have hquote : character? ('"' :: t) = none := rfl
    rw [hs, hhead, hquote] at hread
    cases hread

/-- The characters of a text are read back up to the quote. -/
theorem charactersFor_flatMap (cs s : List Char) {turns : Nat} (h : cs.length < turns) :
    charactersFor turns (cs.flatMap escapeChar ++ '"' :: s) = some (cs, s) := by
  induction cs generalizing turns with
  | nil =>
    obtain ⟨turns, rfl⟩ := Nat.exists_eq_succ_of_ne_zero (Nat.ne_of_gt h)
    rfl
  | cons c cs ih =>
    obtain ⟨turns, rfl⟩ := Nat.exists_eq_succ_of_ne_zero (Nat.ne_zero_of_lt h)
    rw [List.flatMap_cons, List.append_assoc, charactersFor, if_neg (head?_escapeChar c _),
      character?_escapeChar]
    simp only [ih (Nat.lt_of_succ_lt_succ h)]

/-- An escape is not empty. -/
theorem length_escapeChar (c : Char) : 0 < (escapeChar c).length := by
  have hread := character?_escapeChar c []
  cases h : escapeChar c with
  | nil =>
    rw [h] at hread
    cases hread
  | cons d t => exact Nat.succ_pos _

/-- So a text is no longer than its escapes. -/
theorem length_le_flatMap (cs : List Char) : cs.length ≤ (cs.flatMap escapeChar).length := by
  induction cs with
  | nil => exact Nat.le_refl 0
  | cons c cs ih =>
    have hescape := length_escapeChar c
    rw [List.flatMap_cons, List.length_append, List.length_cons]
    omega

/-- A text between quotes is read back, after its opening quote. -/
theorem text?_escaped (text : String) (s : List Char) :
    text? (text.toList.flatMap escapeChar ++ '"' :: s) = some (text, s) := by
  have hturns : text.toList.length < (text.toList.flatMap escapeChar ++ '"' :: s).length := by
    have hescapes := length_le_flatMap text.toList
    rw [List.length_append, List.length_cons]
    omega
  rw [text?, charactersFor_flatMap text.toList s hturns]
  simp only [String.ofList_toList]

/-! ### Numbers -/

/-- No digit comes first, so a number that stands before has ended. -/
def NoDigitFirst (s : List Char) : Prop :=
  ∀ c, s.head? = some c → c.isDigit = false

/-- Digits end where no digit follows. -/
theorem takeWhile_digits {ds s : List Char} (hds : ∀ c ∈ ds, c.isDigit = true)
    (hs : NoDigitFirst s) :
    (ds ++ s).takeWhile Char.isDigit = ds ∧ (ds ++ s).dropWhile Char.isDigit = s := by
  rw [List.takeWhile_append_of_pos hds, List.dropWhile_append_of_pos hds]
  cases s with
  | nil => simp
  | cons c s =>
    have hc : c.isDigit = false := hs c rfl
    simp [hc]

/-- A natural number starts with a digit. -/
theorem toDigits_eq_cons (n : Nat) :
    ∃ d ds, Nat.toDigits 10 n = d :: ds ∧ d.isDigit = true := by
  have hdigit {c : Char} (hc : c ∈ Nat.toDigits 10 n) : c.isDigit = true :=
    Nat.isDigit_of_mem_toDigits (by decide) (by decide) hc
  cases hds : Nat.toDigits 10 n with
  | nil => exact absurd hds Nat.toDigits_ne_nil
  | cons d ds => exact ⟨d, ds, rfl, hdigit (by rw [hds]; exact List.mem_cons_self)⟩

/-- The digits of a number other than zero do not start with a zero. -/
theorem head?_toDigits {n : Nat} (h : 0 < n) : (Nat.toDigits 10 n).head? ≠ some '0' := by
  induction n using Nat.strongRecOn with
  | ind n ih =>
    by_cases hn : n < 10
    · rw [Nat.toDigits_of_lt_base hn, List.head?_cons, ne_eq, Option.some.injEq,
        Nat.digitChar_eq_zero]
      omega
    · -- The first digit is that of the number without its last digit.
      have hshort := ih (n / 10) (by omega) (by omega)
      rw [Nat.toDigits_of_base_le (by decide) (Nat.le_of_not_lt hn), List.head?_append]
      cases hds : Nat.toDigits 10 (n / 10) with
      | nil => exact absurd hds Nat.toDigits_ne_nil
      | cons d ds =>
        rw [hds] at hshort
        exact hshort

/-- A natural number is read back from its digits. -/
theorem natural?_toDigits (n : Nat) {s : List Char} (hs : NoDigitFirst s) :
    natural? (Nat.toDigits 10 n ++ s) = some (n, s) := by
  have hdigits : ∀ c ∈ Nat.toDigits 10 n, c.isDigit = true := fun c hc =>
    Nat.isDigit_of_mem_toDigits (by decide) (by decide) hc
  obtain ⟨htake, hdrop⟩ := takeWhile_digits hdigits hs
  have hvalue := Nat.ofDigitChars_ten_toDigits (n := n)
  rw [natural?, htake, hdrop]
  cases hds : Nat.toDigits 10 n with
  | nil => exact absurd hds Nat.toDigits_ne_nil
  | cons d ds =>
    -- Only zero starts with a zero, and it has no other digits.
    have hzero : ¬(d = '0' ∧ ds ≠ []) := by
      rintro ⟨rfl, hmore⟩
      rcases Nat.eq_zero_or_pos n with rfl | hpos
      · rw [Nat.toDigits_of_lt_base (by decide)] at hds
        cases hds
        exact hmore rfl
      · exact head?_toDigits hpos (by rw [hds, List.head?_cons])
    rw [hds] at hvalue
    simp only [if_neg hzero, hvalue]

/-- The digits of an integer, with a sign if it is negative. -/
theorem toList_toString (n : Int) :
    (toString n).toList =
      if 0 ≤ n then Nat.toDigits 10 n.toNat else '-' :: Nat.toDigits 10 (-n).toNat := by
  rw [Int.toString_eq_repr, Int.repr_eq_if]
  split
  · rw [Nat.repr_eq_ofList_toDigits, String.toList_ofList]
  · rw [String.toList_append, Nat.repr_eq_ofList_toDigits, String.toList_ofList]
    simp

/-- An integer is read back from its digits and its sign. -/
theorem integer?_toString (n : Int) {s : List Char} (hs : NoDigitFirst s) :
    integer? ((toString n).toList ++ s) = some (n, s) := by
  rw [toList_toString]
  split
  · rename_i hn
    have hread := natural?_toDigits n.toNat hs
    obtain ⟨d, ds, hds, hd⟩ := toDigits_eq_cons n.toNat
    have hsign : d ≠ '-' := by
      rintro rfl
      cases hd
    rw [hds, List.cons_append] at hread
    rw [hds, List.cons_append, integer?, if_neg hsign, hread, Option.map_some,
      Int.toNat_of_nonneg hn]
  · rename_i hn
    have hneg : ((-n).toNat : Int) = -n := Int.toNat_of_nonneg (by omega)
    rw [List.cons_append, integer?, if_pos rfl, natural?_toDigits _ hs, Option.map_some, hneg,
      Int.neg_neg]

/-- An integer starts with a sign or a digit. -/
theorem toString_eq_cons (n : Int) :
    ∃ c s, (toString n).toList = c :: s ∧ (c = '-' ∨ c.isDigit = true) := by
  rw [toList_toString]
  split
  · obtain ⟨d, ds, hds, hd⟩ := toDigits_eq_cons n.toNat
    exact ⟨d, ds, hds, Or.inr hd⟩
  · exact ⟨'-', _, rfl, Or.inl rfl⟩

/-! ### Values -/

/-- Blank space is passed over. -/
theorem skip_append {blank : List Char} (h : blank.all isBlank = true) (s : List Char) :
    skip (blank ++ s) = skip s := by
  rw [skip, List.dropWhile_append_of_pos (List.all_eq_true.mp h), skip]

/-- Anything else is not. -/
theorem skip_cons {c : Char} (h : isBlank c = false) (s : List Char) : skip (c :: s) = c :: s := by
  rw [skip, List.dropWhile_cons_of_neg (by simp [h])]

/-- The text is read as the value, whatever comes after it, in no more steps than it has
characters. -/
def Reads (text : List Char) (value : Value) : Prop :=
  ∀ turns s, text.length ≤ turns → NoDigitFirst s → valueFor turns (text ++ s) = some (value, s)

/-- Reading a value passes over blank space. -/
theorem valueFor_append {blank : List Char} (h : blank.all isBlank = true) (turns : Nat)
    (s : List Char) : valueFor turns (blank ++ s) = valueFor turns s := by
  cases turns with
  | zero => rw [valueFor, valueFor]
  | succ turns => rw [valueFor, skip_append h, valueFor]

/-- Blank space before a value is no part of it. -/
theorem Reads.after_blank {text : List Char} {value : Value} (h : Reads text value)
    (blank : List Char) (hblank : blank.all isBlank = true) : Reads (blank ++ text) value := by
  intro turns s hturns hs
  rw [List.length_append] at hturns
  rw [List.append_assoc, valueFor_append hblank, h turns s (by omega) hs]

/-- A text between quotes is read as a string. -/
theorem reads_string (text : String) : Reads (string text) (.string text) := by
  intro turns s hturns _
  cases turns with
  | zero => simp [string] at hturns
  | succ turns =>
    have htext := text?_escaped text s
    have hquoted : string text ++ s = '"' :: (text.toList.flatMap escapeChar ++ '"' :: s) := by
      simp [string]
    rw [valueFor, hquoted, skip_cons (by decide)]
    simp only [if_true, htext, Option.map_some]

/-- The digits of an integer are read as a number. -/
theorem reads_number (n : Int) : Reads (toString n).toList (.number n) := by
  intro turns s hturns hs
  obtain ⟨c, ds, hn, hc⟩ := toString_eq_cons n
  have hread := integer?_toString n hs
  -- So it is none of the characters that other values start with.
  have hother {d : Char} (hd : d ≠ '-') (hdigit : d.isDigit = false) : c ≠ d := by
    rintro rfl
    rcases hc with hc | hc
    · exact hd hc
    · rw [hdigit] at hc
      cases hc
  have hblank : isBlank c = false := by
    simp only [isBlank, Bool.or_eq_false_iff, decide_eq_false_iff_not]
    exact ⟨⟨⟨hother (by decide) rfl, hother (by decide) rfl⟩, hother (by decide) rfl⟩,
      hother (by decide) rfl⟩
  have hquote : c ≠ '"' := hother (by decide) rfl
  have hbracket : c ≠ '[' := hother (by decide) rfl
  have hbrace : c ≠ '\x7b' := hother (by decide) rfl
  rw [hn] at hturns hread ⊢
  cases turns with
  | zero => simp at hturns
  | succ turns =>
    rw [valueFor, List.cons_append, skip_cons hblank]
    rw [List.cons_append] at hread
    simp only [if_neg hquote, if_neg hbracket, if_neg hbrace, if_pos hc, hread, Option.map_some]

/-- The length of a field. -/
theorem length_field (name : String) (text : List Char) :
    (field name text).length = (string name).length + text.length + 6 := by
  have hindent : "    ".toList.length = 4 := rfl
  have hcolon : ": ".toList.length = 2 := rfl
  unfold field
  rw [List.length_append, List.length_append, List.length_append, hindent, hcolon]
  omega

/-- A field on a new line starts with the quote of its name. -/
theorem skip_field (name : String) (text s : List Char) :
    skip ('\n' :: field name text ++ s) =
      '"' :: (name.toList.flatMap escapeChar ++ '"' :: ':' :: (' ' :: text ++ s)) := by
  have hline : '\n' :: field name text ++ s =
      "\n    ".toList ++ '"' ::
        (name.toList.flatMap escapeChar ++ '"' :: ':' :: (' ' :: text ++ s)) := by
    unfold field
    simp [string]
  rw [hline, skip_append (by decide), skip_cons (by decide)]

/-- The name of a field is read back, on a new line. -/
theorem name?_field (name : String) (text s : List Char) :
    name? ('\n' :: field name text ++ s) = some (name, ' ' :: text ++ s) := by
  rw [name?, skip_field]
  simp only [if_true, text?_escaped, skip_cons (show isBlank ':' = false by decide),
    List.head?_cons, List.tail_cons]

/-- No digit comes first if another character does. -/
theorem noDigitFirst_cons {c : Char} (h : c.isDigit = false) (s : List Char) :
    NoDigitFirst (c :: s) := by
  intro d hd
  cases hd
  exact h

section Parts

variable {text : List Char} {value : Value} {turns : Nat}

/-- A field and a comma are read before the other fields. -/
theorem fieldsFor_comma (h : Reads text value) (hturns : text.length < turns) (name : String)
    (s : List Char) :
    fieldsFor (turns + 1) ('\n' :: field name text ++ ',' :: s) =
      (fieldsFor turns s).map fun read => ((name, value) :: read.1, read.2) := by
  have hvalue := h.after_blank [' '] (by decide) turns (',' :: s) hturns
    (noDigitFirst_cons (by decide) s)
  rw [List.singleton_append] at hvalue
  rw [fieldsFor, name?_field]
  simp only [hvalue, skip_cons (show isBlank ',' = false by decide), if_true]

/-- The last field is read up to the closing brace. -/
theorem fieldsFor_last (h : Reads text value) (hturns : text.length < turns) (name : String)
    (s : List Char) :
    fieldsFor (turns + 1) ('\n' :: field name text ++ '\n' :: ' ' :: ' ' :: '\x7d' :: s) =
      some ([(name, value)], s) := by
  have hvalue := h.after_blank [' '] (by decide) turns ('\n' :: ' ' :: ' ' :: '\x7d' :: s) hturns
    (noDigitFirst_cons (by decide) _)
  have hskip : skip ('\n' :: ' ' :: ' ' :: '\x7d' :: s) = '\x7d' :: s := rfl
  rw [List.singleton_append] at hvalue
  rw [fieldsFor, name?_field]
  simp only [hvalue, hskip, if_true, if_neg (show '\x7d' ≠ ',' by decide)]

/-- An item and a comma are read before the other items. -/
theorem itemsFor_comma (h : Reads text value) (hturns : text.length ≤ turns) (s : List Char) :
    itemsFor (turns + 1) (text ++ ',' :: s) =
      (itemsFor turns s).map fun read => (value :: read.1, read.2) := by
  have hvalue := h turns (',' :: s) hturns (noDigitFirst_cons (by decide) s)
  rw [itemsFor, hvalue]
  simp only [skip_cons (show isBlank ',' = false by decide), if_true]

/-- The last item is read up to the closing bracket. -/
theorem itemsFor_last (h : Reads text value) (hturns : text.length ≤ turns) (s : List Char) :
    itemsFor (turns + 1) (text ++ '\n' :: ']' :: s) = some ([value], s) := by
  have hvalue := h turns ('\n' :: ']' :: s) hturns (noDigitFirst_cons (by decide) _)
  have hskip : skip ('\n' :: ']' :: s) = ']' :: s := rfl
  rw [itemsFor, hvalue]
  simp only [hskip, if_true, if_neg (show ']' ≠ ',' by decide)]

end Parts

/-- Fields between braces are read as an object. -/
theorem valueFor_object {turns : Nat} {s s' : List Char} {fields : List (String × Value)}
    (h : fieldsFor turns s = some (fields, s')) :
    valueFor (turns + 1) ('\x7b' :: s) = some (.object fields, s') := by
  -- There is a field, so the brace is not closed at once.
  have hfirst : (skip s).head? ≠ some '\x7d' := by
    intro hclose
    obtain ⟨t, hs⟩ := List.head?_eq_some_iff.mp hclose
    have hname : name? s = none := by
      rw [name?, hs]
      rfl
    cases turns with
    | zero => rw [fieldsFor] at h; cases h
    | succ turns =>
      rw [fieldsFor, hname] at h
      cases h
  rw [valueFor, skip_cons (by decide)]
  simp only [if_neg (show '\x7b' ≠ '"' by decide), if_neg (show '\x7b' ≠ '[' by decide), if_true,
    if_neg hfirst, h, Option.map_some]

/-- Items between brackets are read as an array. -/
theorem valueFor_array {turns : Nat} {s s' : List Char} {items : List Value}
    (h : itemsFor turns s = some (items, s')) :
    valueFor (turns + 1) ('[' :: s) = some (.array items, s') := by
  -- There is an item, so the bracket is not closed at once.
  have hfirst : (skip s).head? ≠ some ']' := by
    intro hclose
    obtain ⟨t, hs⟩ := List.head?_eq_some_iff.mp hclose
    have hvalue (turns : Nat) : valueFor turns s = none := by
      cases turns with
      | zero => rw [valueFor]
      | succ turns =>
        rw [valueFor, hs]
        rfl
    cases turns with
    | zero => rw [itemsFor] at h; cases h
    | succ turns =>
      rw [itemsFor, hvalue] at h
      cases h
  rw [valueFor, skip_cons (by decide)]
  simp only [if_neg (show '[' ≠ '"' by decide), if_true, if_neg hfirst, h, Option.map_some]

/-! ### Reports -/

/-- The value of a violation. -/
def valueOf (v : Violation) : Value :=
  .object [("path", .string v.path), ("line", .number v.line), ("column", .number v.column),
    ("tag", .string v.tag), ("attribute", .string v.requirement)]

/-- The object of a violation, line by line. -/
theorem object_eq (v : Violation) (s : List Char) :
    object v ++ s =
      [' ', ' '] ++ '\x7b' ::
        ('\n' :: field "path" (string v.path) ++ ',' ::
          ('\n' :: field "line" (toString v.line).toList ++ ',' ::
            ('\n' :: field "column" (toString v.column).toList ++ ',' ::
              ('\n' :: field "tag" (string v.tag) ++ ',' ::
                ('\n' :: field "attribute" (string v.requirement) ++
                  '\n' :: ' ' :: ' ' :: '\x7d' :: s))))) := by
  have hopen : "  \x7b\n".toList = [' ', ' ', '\x7b', '\n'] := rfl
  have hcomma : ",\n".toList = [',', '\n'] := rfl
  have hclose : "\n  \x7d".toList = ['\n', ' ', ' ', '\x7d'] := rfl
  unfold object
  simp only [hopen, hcomma, hclose, List.append_assoc, List.cons_append, List.nil_append]

/-- The object of a violation is read as its value. -/
theorem reads_object (v : Violation) : Reads (object v) (valueOf v) := by
  intro turns s hturns _
  have hlength := congrArg List.length (object_eq v s)
  simp only [List.length_append, List.length_cons, length_field] at hlength
  -- One turn for the brace and one for each field.
  obtain ⟨turns, rfl⟩ : ∃ n, turns = n + 6 := ⟨turns - 6, by omega⟩
  rw [object_eq, valueFor_append (by decide)]
  apply valueFor_object
  rw [fieldsFor_comma (reads_string _) (by omega), fieldsFor_comma (reads_number _) (by omega),
    fieldsFor_comma (reads_number _) (by omega), fieldsFor_comma (reads_string _) (by omega),
    fieldsFor_last (reads_string _) (by omega)]
  rfl

/-- Objects are read as the values of their violations, up to the closing bracket. -/
theorem itemsFor_objects (v : Violation) (vs : List Violation) (s : List Char) {turns : Nat}
    (hturns : (objects (v :: vs)).length + 1 < turns) :
    itemsFor turns ('\n' :: objects (v :: vs) ++ '\n' :: ']' :: s) =
      some ((v :: vs).map valueOf, s) := by
  have hread (v : Violation) : Reads ('\n' :: object v) (valueOf v) :=
    (reads_object v).after_blank ['\n'] (by decide)
  induction vs generalizing v turns with
  | nil =>
    rw [objects] at hturns ⊢
    obtain ⟨turns, rfl⟩ := Nat.exists_eq_succ_of_ne_zero (Nat.ne_zero_of_lt hturns)
    rw [itemsFor_last (hread v) (Nat.le_of_lt_succ hturns), List.map_singleton]
  | cons w vs ih =>
    have hcomma : '\n' :: objects (v :: w :: vs) ++ '\n' :: ']' :: s =
        '\n' :: object v ++ ',' :: ('\n' :: objects (w :: vs) ++ '\n' :: ']' :: s) := by
      simp [objects]
    have hlength : (objects (v :: w :: vs)).length =
        (object v).length + (objects (w :: vs)).length + 2 := by
      simp [objects]
      omega
    obtain ⟨turns, rfl⟩ := Nat.exists_eq_succ_of_ne_zero (Nat.ne_zero_of_lt hturns)
    -- The comma and the line end pay for the turn.
    have hfirst : ('\n' :: object v).length ≤ turns := by
      rw [List.length_cons]
      omega
    rw [hcomma, itemsFor_comma (hread v) hfirst, ih w (by omega)]
    rfl

/-- **A report is read as the array of its violations**, one object for each, in their order. -/
theorem decode_report (vs : List Violation) :
    decode (report vs) = some (.array (vs.map valueOf)) := by
  cases vs with
  | nil => rfl
  | cons v vs =>
    have htext : (report (v :: vs)).toList =
        '[' :: ('\n' :: objects (v :: vs) ++ '\n' :: ']' :: ['\n']) := by
      simp [report]
    have hitems (turns : Nat) (h : (objects (v :: vs)).length + 1 < turns) :=
      valueFor_array (itemsFor_objects v vs ['\n'] h)
    rw [decode, htext, List.length_cons, hitems _ (by simp)]
    rfl

end Json

end AttrLint
