import AttrLint.Text.Utf8

namespace AttrLint.Text.Utf8

/-!
# UTF-8 is read exactly

Reading accepts what writing produces, and nothing else: no overlong form, no surrogate, no value
above the last code point, no sequence that is cut off.

* `toNat_char2`, `toNat_char3`, `toNat_char4` — the code points of sequences, by their length.
* `scanFrom_encodeChar` — the bytes of a character are read as that character.
* `scanFrom_eq` — what has been read, written again, gives the bytes back.
* `decode_eq_ok_iff` — the main statement; `isOk_decode_iff` says the same of valid UTF-8 as the
  core library has it.
-/

/-! ### Bytes and code points as numbers -/

/-- A code point that is no surrogate is that of a character. -/
theorem toNat_ofNat {n : Nat} (h : n < 0xd800 ∨ 0xdfff < n ∧ n < 0x110000) :
    (Char.ofNat n).toNat = n := by
  rw [Char.ofNat, dif_pos h]
  rfl

theorem isTail_iff {b : UInt8} : isTail b = true ↔ 0x80 ≤ b.toNat ∧ b.toNat ≤ 0xbf := by
  simp [isTail, UInt8.le_iff_toNat_le]

theorem isSecond_iff {a b : UInt8} :
    isSecond a b = true ↔ 0x80 ≤ b.toNat ∧ b.toNat ≤ 0xbf ∧
      (a.toNat = 0xe0 → 0xa0 ≤ b.toNat) ∧ (a.toNat = 0xed → b.toNat ≤ 0x9f) ∧
      (a.toNat = 0xf0 → 0x90 ≤ b.toNat) ∧ (a.toNat = 0xf4 → b.toNat ≤ 0x8f) := by
  simp only [isSecond, isTail, UInt8.le_iff_toNat_le, ← UInt8.toNat_inj, UInt8.reduceToNat]
  grind

theorem tailCount?_eq_some_iff {a : UInt8} {n : Nat} :
    tailCount? a = some n ↔
      n = 0 ∧ a.toNat < 0x80 ∨ n = 1 ∧ 0xc2 ≤ a.toNat ∧ a.toNat < 0xe0 ∨
      n = 2 ∧ 0xe0 ≤ a.toNat ∧ a.toNat < 0xf0 ∨ n = 3 ∧ 0xf0 ≤ a.toNat ∧ a.toNat < 0xf5 := by
  simp only [tailCount?, UInt8.lt_iff_toNat_lt, UInt8.reduceToNat]
  grind

/-! ### Sequences by their length -/

section Sequences

variable {a b c d : UInt8}

theorem toNat_char2 (ha : tailCount? a = some 1) (hb : isSecond a b = true) :
    (char2 a b).toNat = (a.toNat - 0xc0) * 0x40 + (b.toNat - 0x80) ∧
      0x80 ≤ (char2 a b).toNat ∧ (char2 a b).toNat < 0x800 := by
  rw [tailCount?_eq_some_iff] at ha
  rw [isSecond_iff] at hb
  rw [char2, toNat_ofNat (by omega)]
  omega

theorem toNat_char3 (ha : tailCount? a = some 2) (hb : isSecond a b = true)
    (hc : isTail c = true) :
    (char3 a b c).toNat =
        (a.toNat - 0xe0) * 0x1000 + (b.toNat - 0x80) * 0x40 + (c.toNat - 0x80) ∧
      0x800 ≤ (char3 a b c).toNat ∧ (char3 a b c).toNat < 0x10000 := by
  rw [tailCount?_eq_some_iff] at ha
  rw [isSecond_iff] at hb
  rw [isTail_iff] at hc
  rw [char3, toNat_ofNat (by omega)]
  omega

theorem toNat_char4 (ha : tailCount? a = some 3) (hb : isSecond a b = true)
    (hc : isTail c = true) (hd : isTail d = true) :
    (char4 a b c d).toNat =
        (a.toNat - 0xf0) * 0x40000 + (b.toNat - 0x80) * 0x1000 + (c.toNat - 0x80) * 0x40 +
          (d.toNat - 0x80) ∧
      0x10000 ≤ (char4 a b c d).toNat := by
  rw [tailCount?_eq_some_iff] at ha
  rw [isSecond_iff] at hb
  rw [isTail_iff] at hc hd
  rw [char4, toNat_ofNat (by omega)]
  omega

theorem encodeChar_char1 (ha : tailCount? a = some 0) : encodeChar (Char.ofNat a.toNat) = [a] := by
  rw [tailCount?_eq_some_iff] at ha
  have hchar : (Char.ofNat a.toNat).toNat = a.toNat := toNat_ofNat (by omega)
  rw [encodeChar, if_pos (by omega), hchar, UInt8.ofNat_toNat]

theorem encodeChar_char2 (ha : tailCount? a = some 1) (hb : isSecond a b = true) :
    encodeChar (char2 a b) = [a, b] := by
  obtain ⟨hchar, hlow, hhigh⟩ := toNat_char2 ha hb
  rw [tailCount?_eq_some_iff] at ha
  rw [isSecond_iff] at hb
  rw [encodeChar, if_neg (by omega), if_pos hhigh, hchar]
  simp only [List.cons.injEq, ← UInt8.toNat_inj, UInt8.toNat_ofNat', and_true]
  omega

theorem encodeChar_char3 (ha : tailCount? a = some 2) (hb : isSecond a b = true)
    (hc : isTail c = true) : encodeChar (char3 a b c) = [a, b, c] := by
  obtain ⟨hchar, hlow, hhigh⟩ := toNat_char3 ha hb hc
  rw [tailCount?_eq_some_iff] at ha
  rw [isSecond_iff] at hb
  rw [isTail_iff] at hc
  rw [encodeChar, if_neg (by omega), if_neg (by omega), if_pos hhigh, hchar]
  simp only [List.cons.injEq, ← UInt8.toNat_inj, UInt8.toNat_ofNat', and_true]
  omega

theorem encodeChar_char4 (ha : tailCount? a = some 3) (hb : isSecond a b = true)
    (hc : isTail c = true) (hd : isTail d = true) :
    encodeChar (char4 a b c d) = [a, b, c, d] := by
  obtain ⟨hchar, hlow⟩ := toNat_char4 ha hb hc hd
  rw [tailCount?_eq_some_iff] at ha
  rw [isSecond_iff] at hb
  rw [isTail_iff] at hc hd
  rw [encodeChar, if_neg (by omega), if_neg (by omega), if_neg (by omega), hchar]
  simp only [List.cons.injEq, ← UInt8.toNat_inj, UInt8.toNat_ofNat', and_true]
  omega

end Sequences

/-! ### Reading and writing -/

/-- The bytes of a character are read as that character. -/
theorem scanFrom_encodeChar (done : List Char) (c : Char) (rest : List UInt8) :
    scanFrom done (encodeChar c ++ rest) = scanFrom (c :: done) rest := by
  have hvalid : c.toNat < 0xd800 ∨ 0xdfff < c.toNat ∧ c.toNat < 0x110000 := c.valid
  -- A character is determined by its code point, so only numbers have to be compared.
  by_cases h1 : c.toNat < 0x80
  · have ha : tailCount? (UInt8.ofNat c.toNat) = some 0 := by
      rw [tailCount?_eq_some_iff, UInt8.toNat_ofNat']
      omega
    have hchar : Char.ofNat (UInt8.ofNat c.toNat).toNat = c := by
      rw [UInt8.toNat_ofNat', Nat.mod_eq_of_lt (by omega), Char.ofNat_toNat]
    rw [encodeChar, if_pos h1, List.singleton_append]
    simp only [scanFrom, ha, hchar]
  by_cases h2 : c.toNat < 0x800
  · rw [encodeChar, if_neg h1, if_pos h2]
    generalize hfirst : UInt8.ofNat (0xc0 + c.toNat / 0x40) = a
    generalize hsecond : UInt8.ofNat (0x80 + c.toNat % 0x40) = b
    rw [← UInt8.toNat_inj, UInt8.toNat_ofNat'] at hfirst hsecond
    have ha : tailCount? a = some 1 := by rw [tailCount?_eq_some_iff]; omega
    have hb : isSecond a b = true := by rw [isSecond_iff]; omega
    have hchar : char2 a b = c := by
      rw [← Char.toNat_inj, (toNat_char2 ha hb).1]
      omega
    simp only [List.cons_append, List.nil_append, scanFrom, ha, hb, if_true, hchar]
  by_cases h3 : c.toNat < 0x10000
  · rw [encodeChar, if_neg h1, if_neg h2, if_pos h3]
    generalize hfirst : UInt8.ofNat (0xe0 + c.toNat / 0x1000) = a
    generalize hsecond : UInt8.ofNat (0x80 + c.toNat / 0x40 % 0x40) = b
    generalize hthird : UInt8.ofNat (0x80 + c.toNat % 0x40) = t
    rw [← UInt8.toNat_inj, UInt8.toNat_ofNat'] at hfirst hsecond hthird
    have ha : tailCount? a = some 2 := by rw [tailCount?_eq_some_iff]; omega
    have hb : isSecond a b = true := by rw [isSecond_iff]; omega
    have ht : isTail t = true := by rw [isTail_iff]; omega
    have hchar : char3 a b t = c := by
      rw [← Char.toNat_inj, (toNat_char3 ha hb ht).1]
      omega
    simp only [List.cons_append, List.nil_append, scanFrom, ha, hb, ht, Bool.and_true, if_true,
      hchar]
  · rw [encodeChar, if_neg h1, if_neg h2, if_neg h3]
    generalize hfirst : UInt8.ofNat (0xf0 + c.toNat / 0x40000) = a
    generalize hsecond : UInt8.ofNat (0x80 + c.toNat / 0x1000 % 0x40) = b
    generalize hthird : UInt8.ofNat (0x80 + c.toNat / 0x40 % 0x40) = t
    generalize hfourth : UInt8.ofNat (0x80 + c.toNat % 0x40) = u
    rw [← UInt8.toNat_inj, UInt8.toNat_ofNat'] at hfirst hsecond hthird hfourth
    have ha : tailCount? a = some 3 := by rw [tailCount?_eq_some_iff]; omega
    have hb : isSecond a b = true := by rw [isSecond_iff]; omega
    have ht : isTail t = true := by rw [isTail_iff]; omega
    have hu : isTail u = true := by rw [isTail_iff]; omega
    have hchar : char4 a b t u = c := by
      rw [← Char.toNat_inj, (toNat_char4 ha hb ht hu).1]
      omega
    simp only [List.cons_append, List.nil_append, scanFrom, ha, hb, ht, hu, Bool.and_true, if_true,
      hchar]

/-- Written characters are read back, and reading goes on after them. -/
theorem scanFrom_encode (done s : List Char) (rest : List UInt8) :
    scanFrom done (encode s ++ rest) = scanFrom (s.reverse ++ done) rest := by
  induction s generalizing done with
  | nil => rfl
  | cons c s ih =>
    have hsplit : encode (c :: s) ++ rest = encodeChar c ++ (encode s ++ rest) := by
      rw [encode, List.flatMap_cons, List.append_assoc, encode]
    rw [hsplit, scanFrom_encodeChar, ih, List.reverse_cons, List.append_assoc,
      List.singleton_append]

/-- The characters that have been read, written again, give back the bytes before the rest. -/
theorem scanFrom_eq (done : List Char) (bytes : List UInt8) :
    ∃ s, (scanFrom done bytes).1 = done.reverse ++ s ∧
      bytes = encode s ++ (scanFrom done bytes).2 := by
  -- One character more has been read in front of what the rest of the bytes gives.
  have hcons : ∀ (c : Char) (front rest bytes : List UInt8) (done : List Char),
      encodeChar c = front → bytes = front ++ rest →
      (∃ s, (scanFrom (c :: done) rest).1 = (c :: done).reverse ++ s ∧
        rest = encode s ++ (scanFrom (c :: done) rest).2) →
      ∃ s, (scanFrom (c :: done) rest).1 = done.reverse ++ s ∧
        bytes = encode s ++ (scanFrom (c :: done) rest).2 := by
    rintro c front rest bytes done hc rfl ⟨s, hchars, hrest⟩
    refine ⟨c :: s, ?_, ?_⟩
    · rw [hchars, List.reverse_cons, List.append_assoc, List.singleton_append]
    · rw [encode, List.flatMap_cons, hc, List.append_assoc, ← encode, ← hrest]
  fun_induction scanFrom done bytes with
  | case1 done => exact ⟨[], by simp, rfl⟩
  | case2 done a rest ha ih => exact hcons _ [a] rest _ done (encodeChar_char1 ha) rfl ih
  | case3 done a b rest ha hb ih => exact hcons _ [a, b] rest _ done (encodeChar_char2 ha hb) rfl ih
  | case5 done a b c rest ha h ih =>
    rw [Bool.and_eq_true] at h
    exact hcons _ [a, b, c] rest _ done (encodeChar_char3 ha h.1 h.2) rfl ih
  | case7 done a b c d rest ha h ih =>
    rw [Bool.and_eq_true, Bool.and_eq_true] at h
    exact hcons _ [a, b, c, d] rest _ done (encodeChar_char4 ha h.1.1 h.1.2 h.2) rfl ih
  | case4 | case6 | case8 | case9 => exact ⟨[], by simp, rfl⟩

/-- Bytes that are left are always the fault of a sequence. -/
theorem diagnose_eq_none_iff (offset : Nat) (rest : List UInt8) :
    diagnose offset rest = none ↔ rest = [] := by
  cases rest with
  | nil => simp [diagnose]
  | cons a rest =>
    unfold diagnose
    grind

/-- **Exactly the written texts are read.** -/
theorem decode_eq_ok_iff (bytes : List UInt8) (chars : List Char) :
    decode bytes = .ok chars ↔ bytes = encode chars := by
  constructor
  · intro h
    obtain ⟨s, hchars, hbytes⟩ := scanFrom_eq [] bytes
    simp only [decode, scan] at h
    cases hdiagnose : diagnose (bytes.length - (scanFrom [] bytes).2.length)
        (scanFrom [] bytes).2 with
    | some e =>
      rw [hdiagnose] at h
      cases h
    | none =>
      rw [hdiagnose] at h
      cases h
      -- Nothing is left, so the characters are those of all bytes.
      rw [diagnose_eq_none_iff] at hdiagnose
      rw [hdiagnose, List.append_nil] at hbytes
      rw [hchars, List.reverse_nil, List.nil_append]
      exact hbytes
  · rintro rfl
    have hscan := scanFrom_encode [] chars []
    rw [List.append_nil, List.append_nil] at hscan
    simp [decode, scan, hscan, scanFrom, diagnose]

/-! ### Valid UTF-8 -/

/-- Characters are written as the core library writes them. -/
theorem encodeChar_eq (c : Char) : encodeChar c = String.utf8EncodeChar c := by
  have hvalid : c.val.toNat < 0xd800 ∨ 0xdfff < c.val.toNat ∧ c.val.toNat < 0x110000 := c.valid
  simp only [encodeChar, String.utf8EncodeChar, Char.toNat]
  grind

theorem encode_eq (s : List Char) : encode s = s.flatMap String.utf8EncodeChar := by
  rw [encode, funext encodeChar_eq]

/-- Bytes can be read exactly if they are valid UTF-8. -/
theorem isOk_decode_iff (bytes : List UInt8) :
    (∃ chars, decode bytes = .ok chars) ↔ bytes.toByteArray.IsValidUTF8 := by
  simp only [decode_eq_ok_iff, encode_eq]
  constructor
  · rintro ⟨chars, rfl⟩
    exact ⟨chars, rfl⟩
  · rintro ⟨chars, hchars⟩
    refine ⟨chars, ?_⟩
    have hlist := congrArg (fun bytes => bytes.data.toList) hchars
    simpa [List.utf8Encode] using hlist

end AttrLint.Text.Utf8
