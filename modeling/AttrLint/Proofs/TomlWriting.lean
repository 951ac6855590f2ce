import AttrLint.Toml.Reader

namespace AttrLint.Toml

/-!
# Writing TOML, and reading it back

Texts of any kind can be written in TOML: characters that may not stand between quotes are escaped.
This file writes strings and arrays of strings, and says that the reader gets them back, whatever
comes after them.

* `writeString`, `writeArray` — a text between quotes, and an array of such texts.
* `basicFrom_escapeChar`, `basicFrom_escaped` — each character is read back, and so are all.
* `readKey_written`, `readValue_written` — a written text as a key, and a written array as a value.
-/

/-! ### Characters -/

/-- The letter of the short escape of a character, if there is one and the character has to be
escaped. -/
def escapeLetter? (c : Char) : Option Char :=
  if c = '"' then some '"'
  else if c = '\\' then some '\\'
  else if c = '\x08' then some 'b'
  else if c = '\n' then some 'n'
  else if c = '\x0c' then some 'f'
  else if c = '\r' then some 'r'
  else none

/-- How a character is written between quotes: with an escape where it has to be escaped, and as
itself otherwise. -/
def escapeChar (c : Char) : List Char :=
  match escapeLetter? c with
  | some letter => ['\\', letter]
  | none => if isControl c then '\\' :: 'u' :: Text.hexPadded 4 c.toNat else [c]

/-- The letter of a short escape stands for the character, and for no number or line end. -/
theorem shortEscape?_escapeLetter {c letter : Char} (h : escapeLetter? c = some letter) :
    shortEscape? letter = some c ∧ letter ≠ 'u' ∧ letter ≠ 'U' ∧ letter ≠ '\r' := by
  unfold escapeLetter? at h
  repeat' split at h
  all_goals cases h
  all_goals subst_vars
  all_goals decide

/-- Quotes and backslashes have a short escape. -/
theorem ne_of_escapeLetter {c : Char} (h : escapeLetter? c = none) : c ≠ '"' ∧ c ≠ '\\' := by
  constructor
  · rintro rfl
    exact absurd h (by decide)
  · rintro rfl
    exact absurd h (by decide)

/-- Control characters have small numbers. -/
theorem toNat_lt_of_isControl {c : Char} (h : isControl c = true) : c.toNat < 0x80 := by
  simp only [isControl, Bool.or_eq_true, Bool.and_eq_true, decide_eq_true_eq] at h
  omega

/-- What is written in four hexadecimal digits is read back. -/
theorem hexNumber?_hexPadded {n : Nat} (h : n < 0x10000) :
    hexNumber? (Text.hexPadded 4 n) = some n := by
  have hdigit : ∀ k, Text.hexValue? (Text.hexDigit (k % 16)) = some (k % 16) := fun k =>
    Text.hexValue?_hexDigit (Nat.mod_lt _ (by decide))
  simp [hexNumber?, Text.hexPadded, hdigit]
  omega

/-- The escape by number of a control character is read back. -/
theorem basicFrom_hexPadded {c : Char} (h : c.toNat < 0x80) (done rest : List Char) :
    basicFrom false .off done ('\\' :: 'u' :: (Text.hexPadded 4 c.toNat ++ rest)) =
      basicFrom false .off (c :: done) rest := by
  have hread := hexNumber?_hexPadded (n := c.toNat) (by omega)
  have hchar (s rest : List Char) : escapedChar (Text.hexPadded 4 c.toNat) s rest = .ok c := by
    have hlow : c.toNat < 0xd800 := by omega
    simp [escapedChar, hread, hlow]
  -- The four digits are looked at one by one.
  obtain ⟨x, y, z, w, hdigits⟩ : ∃ x y z w, Text.hexPadded 4 c.toNat = [x, y, z, w] :=
    ⟨_, _, _, _, rfl⟩
  rw [hdigits] at hchar ⊢
  rw [basicFrom.eq_def]
  simp [hchar]

/-- A character is read back as it is written. -/
theorem basicFrom_escapeChar (c : Char) (done rest : List Char) :
    basicFrom false .off done (escapeChar c ++ rest) = basicFrom false .off (c :: done) rest := by
  cases hletter : escapeLetter? c with
  | some letter =>
    obtain ⟨hshort, hu, hU, -⟩ := shortEscape?_escapeLetter hletter
    rw [escapeChar, hletter, basicFrom.eq_def]
    simp [hshort, hu, hU]
  | none =>
    obtain ⟨hquote, hslash⟩ := ne_of_escapeLetter hletter
    by_cases hcontrol : isControl c = true
    · have hlow := toNat_lt_of_isControl hcontrol
      rw [escapeChar, hletter]
      simp only [hcontrol, if_true, List.cons_append]
      exact basicFrom_hexPadded hlow done rest
    · rw [escapeChar, hletter, basicFrom.eq_def]
      simp [hcontrol, hquote, hslash, isIllegal]

/-- No digit is a carriage return. -/
theorem return_not_mem_hexPadded (width n : Nat) : '\r' ∉ Text.hexPadded width n := by
  have hdigit : ∀ k : Fin 16, Text.hexDigit k ≠ '\r' := by decide
  induction width generalizing n with
  | zero => exact List.not_mem_nil
  | succ width ih =>
    rw [Text.hexPadded, List.mem_append, List.mem_singleton, not_or]
    exact ⟨ih _, (hdigit ⟨n % 16, Nat.mod_lt _ (by decide)⟩).symm⟩

/-- A carriage return is never written as such. -/
theorem return_not_mem_escapeChar (c : Char) : '\r' ∉ escapeChar c := by
  cases hletter : escapeLetter? c with
  | some letter =>
    obtain ⟨-, -, -, hreturn⟩ := shortEscape?_escapeLetter hletter
    rw [escapeChar, hletter]
    simp [hreturn.symm]
  | none =>
    have hc : c ≠ '\r' := by
      rintro rfl
      exact absurd hletter (by decide)
    rw [escapeChar, hletter]
    by_cases hcontrol : isControl c = true
    · simp [hcontrol, return_not_mem_hexPadded]
    · simp [hcontrol, hc.symm]

/-! ### Strings -/

/-- The characters of a text as they are written between quotes. -/
def escaped (s : String) : List Char :=
  s.toList.flatMap escapeChar

/-- A text between quotes. -/
def writeString (s : String) : List Char :=
  '"' :: (escaped s ++ ['"'])

/-- The characters of a text are read back one after the other, up to the closing quote. -/
theorem basicFrom_escaped (cs done rest : List Char) :
    basicFrom false .off done (cs.flatMap escapeChar ++ '"' :: rest) =
      .ok (done.reverse ++ cs, rest) := by
  induction cs generalizing done with
  | nil =>
    rw [basicFrom.eq_def]
    simp
  | cons c cs ih =>
    rw [List.flatMap_cons, List.append_assoc, basicFrom_escapeChar, ih]
    simp

theorem return_not_mem_writeString (s : String) : '\r' ∉ writeString s := by
  simp [writeString, escaped, return_not_mem_escapeChar]

theorem basicString_escaped (s : String) (rest : List Char) :
    basicString (escaped s ++ '"' :: rest) = .ok (s.toList, rest) :=
  basicFrom_escaped s.toList [] rest

/-- What is written between quotes does not start with a quote of its own. -/
theorem head?_escapeChar (c : Char) : (escapeChar c).head? ≠ some '"' ∧ escapeChar c ≠ [] := by
  cases hletter : escapeLetter? c with
  | some letter => simp [escapeChar, hletter]
  | none =>
    have hquote := (ne_of_escapeLetter hletter).1
    by_cases hcontrol : isControl c = true
    · simp [escapeChar, hletter, hcontrol]
    · simp [escapeChar, hletter, hcontrol, hquote]

/-- A text is not read as one between three quotes, unless it begins with two more. -/
theorem readString_eq_basicString {s : List Char} (h : ∀ t, s ≠ '"' :: '"' :: t) :
    readString '"' s =
      (basicString s).map fun (text, rest) => (.string (String.ofList text), rest) := by
  unfold readString
  split
  · rename_i a b rest
    have hquotes : ¬ (a = '"' ∧ b = '"') := by
      rintro ⟨rfl, rfl⟩
      exact h rest rfl
    simp [hquotes]
  · simp

/-- A written text is read back, unless a quote follows it. -/
theorem readString_escaped (s : String) {rest : List Char} (hrest : rest.head? ≠ some '"') :
    readString '"' (escaped s ++ '"' :: rest) = .ok (.string s, rest) := by
  have hsingle (t : List Char) : escaped s ++ '"' :: rest ≠ '"' :: '"' :: t := by
    intro ht
    unfold escaped at ht
    cases hs : s.toList with
    | nil =>
      rw [hs] at ht
      cases ht
      exact hrest rfl
    | cons c cs =>
      obtain ⟨hhead, hne⟩ := head?_escapeChar c
      obtain ⟨d, ds, hd⟩ := List.exists_cons_of_ne_nil hne
      rw [hs, List.flatMap_cons, hd] at ht
      rw [hd] at hhead
      exact hhead (congrArg List.head? ht)
  rw [readString_eq_basicString hsingle, basicString_escaped]
  simp [Except.map]

/-- A written text is read back as a key of one part, if what follows does not go on with the
key. -/
theorem readKey_written (fuel : Nat) (s : String) {rest : List Char}
    (hgaps : skipGaps rest = rest) (hdot : rest.head? ≠ some '.') :
    readKey (fuel + 1) [] (writeString s ++ rest) = .ok ([s], rest) := by
  have hpart : readKeyPart (writeString s ++ rest) = .ok (s, rest) := by
    have hbare : isBareKeyChar '"' = false := by decide
    simp [writeString, readKeyPart, hbare, basicString_escaped, Except.map]
  rw [readKey, hpart]
  simp only [hgaps]
  split
  · exact absurd rfl hdot
  · rfl

/-! ### Arrays of strings -/

/-- An array of texts, on one line. -/
def writeArray (ss : List String) : List Char :=
  '[' :: (List.intercalate [',', ' '] (ss.map writeString) ++ [']'])

theorem return_not_mem_writeArray (ss : List String) : '\r' ∉ writeArray ss := by
  have hitems : '\r' ∉ List.intercalate [',', ' '] (ss.map writeString) := by
    induction ss with
    | nil => simp
    | cons s ss ih =>
      cases ss with
      | nil => simp [return_not_mem_writeString]
      | cons next ss =>
        rw [List.map_cons, List.map_cons, List.intercalate_cons_cons]
        simpa [return_not_mem_writeString] using ih
  simp [writeArray, hitems]

/-- A written text is read back as a value, unless a quote follows it. -/
theorem readValue_writeString (fuel depth : Nat) (s : String) {rest : List Char}
    (hrest : rest.head? ≠ some '"') :
    readValue (fuel + 1) depth (writeString s ++ rest) = .ok (.string s, rest) := by
  simp [writeString, readValue, readString_escaped s hrest]

/-- The items of a written array are read back one after the other. -/
theorem readItems_written {fuel : Nat} (depth : Nat) (done : List Value) (s : String)
    (ss : List String) (rest : List Char) (hfuel : ss.length + 2 ≤ fuel) :
    readItems fuel depth done
        (List.intercalate [',', ' '] ((s :: ss).map writeString) ++ ']' :: rest) =
      .ok (.array (done.reverse ++ (s :: ss).map .string), rest) := by
  induction ss generalizing fuel done s with
  | nil =>
    obtain ⟨fuel, rfl⟩ : ∃ k, fuel = k + 2 := Nat.exists_eq_add_of_le' hfuel
    have hvalue : readValue (fuel + 1) depth (writeString s ++ ']' :: rest) =
        .ok (.string s, ']' :: rest) := readValue_writeString fuel depth s (by simp)
    have hlines : skipLines (']' :: rest) = .ok (']' :: rest) := rfl
    simp [readItems, hvalue, hlines]
  | cons next ss ih =>
    obtain ⟨fuel, rfl⟩ : ∃ k, fuel = k + (ss.length + 3) := Nat.exists_eq_add_of_le' hfuel
    -- What stands after the first item and its comma.
    let later := List.intercalate [',', ' '] ((next :: ss).map writeString) ++ ']' :: rest
    have hvalue : readValue (fuel + (ss.length + 2)) depth (writeString s ++ ',' :: ' ' :: later) =
        .ok (.string s, ',' :: ' ' :: later) := readValue_writeString _ depth s (by simp)
    have hcomma : skipLines (',' :: ' ' :: later) = .ok (',' :: ' ' :: later) := rfl
    have hlater : ∃ cs, skipLines (' ' :: later) = .ok ('"' :: cs) ∧ later = '"' :: cs := by
      cases ss <;> exact ⟨_, rfl, rfl⟩
    obtain ⟨cs, hskip, hcs⟩ := hlater
    have hrest : readItems (fuel + (ss.length + 2)) depth (.string s :: done) later =
        .ok (.array (done.reverse ++ (s :: next :: ss).map .string), rest) := by
      rw [ih (.string s :: done) next (by omega)]
      simp
    have hwritten : List.intercalate [',', ' '] ((s :: next :: ss).map writeString) ++ ']' :: rest =
        writeString s ++ ',' :: ' ' :: later := by
      simp [later, List.intercalate]
    rw [hwritten, ← Nat.add_assoc fuel _ 1, readItems, hvalue]
    simp only [hcomma, hskip]
    rw [hcs] at hrest
    exact hrest

/-- A written array is read back as a value. -/
theorem readValue_written {fuel : Nat} (ss : List String) (rest : List Char)
    (hfuel : ss.length + 3 ≤ fuel) :
    readValue fuel 0 (writeArray ss ++ rest) = .ok (.array (ss.map .string), rest) := by
  obtain ⟨fuel, rfl⟩ : ∃ k, fuel = k + 1 := Nat.exists_eq_add_of_le' (by omega)
  have hdepth : ¬ depthLimit < arrayDepth := by decide
  cases ss with
  | nil =>
    have hlines : skipLines (']' :: rest) = .ok (']' :: rest) := rfl
    simp [writeArray, readValue, hdepth, hlines]
  | cons s ss =>
    let items := List.intercalate [',', ' '] ((s :: ss).map writeString) ++ ']' :: rest
    have hstart : ∃ cs, skipLines items = .ok ('"' :: cs) ∧ items = '"' :: cs := by
      cases ss <;> exact ⟨_, rfl, rfl⟩
    obtain ⟨cs, hskip, hcs⟩ := hstart
    have hitems : readItems fuel arrayDepth [] items = .ok (.array ((s :: ss).map .string), rest) :=
      readItems_written arrayDepth [] s ss rest (by simp only [List.length_cons] at hfuel; omega)
    have hwritten : writeArray (s :: ss) ++ rest = '[' :: items := by
      simp [writeArray, items]
    rw [hcs] at hitems
    simp [hwritten, readValue, hdepth, hskip, hitems]

end AttrLint.Toml
