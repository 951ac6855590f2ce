import AttrLint.Toml.Reader

namespace AttrLint.Toml

/-!
# What the limits of the TOML reader rest on

Apart from problems of a document, reading can stop at two limits.  Each reader is given a text and
leaves an end of it, and where it stops at a limit, the text is the reason: it has a run of too many
digits, or too many opening brackets.

* `Stop.Justified` — what a text has to have for reading to stop.
* `Leaves` — what a reader does with a text.
* `readScalar_leaves` — the limit on digits.
* `readValue_leaves` — the limit on depth, by induction on the steps that are left.
* `Draft.readAll_justified` — statements, one after the other.
* `hasDigits_of_parse`, `openings_of_parse` — the same for whole documents.
* `parse_digits` — the limit on digits is reached: an integer above it stops reading.
-/

/-- Says that the text has `n` decimal digits next to each other, with underscores between them. -/
def HasDigits (s : List Char) (n : Nat) : Prop :=
  ∃ run, run <:+: s ∧ (∀ c ∈ run, c.isDigit = true ∨ c = '_') ∧ run.countP Char.isDigit = n

/-- Says that the character can open an array or an inline table. -/
def isOpening (c : Char) : Bool :=
  c = '[' || c = '\x7b'

/-- Says that reading the text inside values of the given depth has a reason to stop so. -/
def Stop.Justified (depth : Nat) (s : List Char) : Stop → Prop
  | .problem _ _ => True
  | .tooManyDigits n => digitLimit < n ∧ HasDigits s n
  | .tooDeep => depthLimit < depth + tableDepth * s.countP isOpening

/-- Says that a reader of the text leaves an end of it, or has a reason to stop. -/
def Leaves {α : Type} (depth : Nat) (s : List Char) (rest : α → List Char) :
    Except Stop α → Prop
  | .ok a => rest a <:+ s
  | .error e => e.Justified depth s

/-- Says that something is wrong with the document. -/
def Stop.isProblem : Stop → Bool
  | .problem _ _ => true
  | _ => false

section Texts

variable {α : Type} {depth : Nat} {s t : List Char} {rest : α → List Char} {r : Except Stop α}

/-- The digits of an end of a text stand in the text. -/
theorem HasDigits.mono {n : Nat} (ht : HasDigits t n) (h : t <:+ s) : HasDigits s n := by
  obtain ⟨run, hrun, hall, hcount⟩ := ht
  exact ⟨run, hrun.trans h.isInfix, hall, hcount⟩

/-- A problem of the document needs no reason. -/
theorem Stop.Justified.of_isProblem {e : Stop} (h : e.isProblem = true) : e.Justified depth s := by
  cases e with
  | problem p rest => trivial
  | _ => cases h

/-- A reason in an end of a text is one in the text. -/
theorem Stop.Justified.mono {e : Stop} (he : e.Justified depth t) (h : t <:+ s) :
    e.Justified depth s := by
  cases e with
  | problem p rest => trivial
  | tooManyDigits n => exact ⟨he.1, he.2.mono h⟩
  | tooDeep =>
    have hcount : t.countP isOpening ≤ s.countP isOpening := h.sublist.countP_le
    simp only [Stop.Justified, tableDepth] at he ⊢
    omega

/-- The bracket that opens a value pays for the depth of what is in it. -/
theorem Stop.Justified.enter {e : Stop} {c : Char} {more : Nat} (hc : isOpening c = true)
    (hmore : more ≤ tableDepth) (he : e.Justified (depth + more) s) :
    e.Justified depth (c :: s) := by
  cases e with
  | problem p rest => trivial
  | tooManyDigits n => exact ⟨he.1, he.2.mono (List.suffix_cons c s)⟩
  | tooDeep =>
    simp only [Stop.Justified, tableDepth, List.countP_cons_of_pos hc] at he hmore ⊢
    omega

/-- A reader of an end of a text is one of the text. -/
theorem Leaves.mono (hr : Leaves depth t rest r) (h : t <:+ s) : Leaves depth s rest r := by
  cases r with
  | ok a => exact List.IsSuffix.trans hr h
  | error e => exact Stop.Justified.mono hr h

/-- The same after one character. -/
theorem Leaves.cons (hr : Leaves depth s rest r) (c : Char) : Leaves depth (c :: s) rest r :=
  hr.mono (List.suffix_cons c s)

/-- A reader inside brackets is one level further down. -/
theorem Leaves.enter {c : Char} {more : Nat} (hc : isOpening c = true) (hmore : more ≤ tableDepth)
    (hr : Leaves (depth + more) s rest r) : Leaves depth (c :: s) rest r := by
  cases r with
  | ok a => exact List.IsSuffix.trans hr (List.suffix_cons c s)
  | error e => exact Stop.Justified.enter hc hmore hr

/-- What is left after a success is an end of the text. -/
theorem Leaves.suffix {a : α} (hr : Leaves depth s rest r) (h : r = .ok a) : rest a <:+ s := by
  rw [h] at hr
  exact hr

/-- What stops reading has its reason in the text. -/
theorem Leaves.justified {e : Stop} (hr : Leaves depth s rest r) (h : r = .error e) :
    e.Justified depth s := by
  rw [h] at hr
  exact hr

/-- What is made of the value does not matter. -/
theorem Leaves.map {β : Type} {rest' : β → List Char} {f : α → β} (hr : Leaves depth s rest r)
    (hf : ∀ a, rest' (f a) = rest a) : Leaves depth s rest' (r.map f) := by
  cases r with
  | ok a =>
    show rest' (f a) <:+ s
    rw [hf]
    exact hr
  | error e => exact hr

end Texts

variable (depth : Nat)

/-! ### White space, comments and literal text -/

/-- Spaces and tabs are left out at the front. -/
theorem skipGaps_suffix (s : List Char) : skipGaps s <:+ s :=
  List.dropWhile_suffix isGap

/-- A comment is left out up to the end of its line. -/
theorem afterComment_leaves (s : List Char) : Leaves depth s id (afterComment s) := by
  fun_induction afterComment s with
  | case1 => exact List.suffix_rfl
  | case2 cs => exact List.suffix_rfl
  | case3 c cs h hc => trivial
  | case4 c cs h hc ih => exact ih.cons c

/-- A comment may be missing. -/
theorem skipComment_leaves (s : List Char) : Leaves depth s id (skipComment s) := by
  unfold skipComment
  split
  · exact (afterComment_leaves depth _).cons _
  · exact List.suffix_rfl

/-- Line ends and comments are left out in any number. -/
theorem skipLines_leaves (s : List Char) : Leaves depth s id (skipLines s) := by
  unfold skipLines
  generalize false = comment
  fun_induction skipLinesFrom comment s
  all_goals grind [Leaves, Leaves.cons, Stop.Justified]

/-- The text after closing quotes is an end of the text before them. -/
theorem splitBefore_suffix {closing done s text rest : List Char}
    (h : splitBefore closing done s = some (text, rest)) : rest <:+ s := by
  fun_induction splitBefore closing done s with
  | case4 done c cs hc ih => exact (ih h).trans (List.suffix_cons c cs)
  | _ => grind

/-- A character that may not stand in a literal text is a problem. -/
theorem checkLegal_problem {multiline : Bool} {length : Nat} {s : List Char} {e : Stop}
    (h : checkLegal multiline length s = .error e) : e.isProblem = true := by
  fun_induction checkLegal multiline length s
  all_goals grind [Stop.isProblem]

/-- A literal text is read up to its closing quotes. -/
theorem literalUntil_leaves (multiline : Bool) (closing s : List Char) :
    Leaves depth s Prod.snd (literalUntil multiline closing s) := by
  unfold literalUntil
  split
  · trivial
  · rename_i text rest hsplit
    split
    · rename_i e he
      exact .of_isProblem (checkLegal_problem he)
    · exact (List.drop_suffix _ _).trans (splitBefore_suffix hsplit)

/-! ### Strings and keys -/

/-- A number that is no character is a problem. -/
theorem escapedChar_problem {digits s rest : List Char} {e : Stop}
    (h : escapedChar digits s rest = .error e) : e.isProblem = true := by
  unfold escapedChar at h
  grind [Stop.isProblem]

/-- A text with escapes is read up to its closing quote. -/
theorem basicFrom_leaves (multiline : Bool) (trim : Trim) (done s : List Char) :
    Leaves depth s Prod.snd (basicFrom multiline trim done s) := by
  -- The escapes by number are apart from the rest: they go on only if the digits make a character.
  fun_induction basicFrom multiline trim done s with
  | case12 | case15 =>
    rename_i hchar ih
    simp only [hchar]
    exact ih.mono (by simp [List.suffix_cons_iff])
  | case13 | case16 =>
    rename_i hchar
    simp only [hchar]
    exact .of_isProblem (escapedChar_problem hchar)
  | _ => grind [Leaves, Leaves.cons, Stop.Justified]

/-- Up to two more quotes belong to a text of many lines. -/
theorem extraQuotes_suffix (quote : Char) (text rest : List Char) :
    (extraQuotes quote text rest).2 <:+ rest := by
  fun_cases extraQuotes quote text rest
  all_goals simp [List.suffix_cons_iff]

/-- A text of many lines is read up to its closing quotes, of either kind. -/
theorem multilineString_leaves (quote : Char) (s : List Char) :
    Leaves depth s Prod.snd (multilineString quote s) := by
  have hread (t : List Char) : Leaves depth t Prod.snd
      (if quote = '"' then basicFrom true .off [] t
        else literalUntil true [quote, quote, quote] t) := by
    split
    · exact basicFrom_leaves ..
    · exact literalUntil_leaves ..
  unfold multilineString
  split
  · -- A line end right after the opening quotes does not count.
    rename_i cs
    have hcs := (hread cs).cons '\n'
    dsimp only
    split
    · rename_i text rest h
      exact (extraQuotes_suffix quote text rest).trans (hcs.suffix h)
    · rename_i e h
      exact hcs.justified h
  · dsimp only
    split
    · rename_i text rest h
      exact (extraQuotes_suffix quote text rest).trans ((hread s).suffix h)
    · rename_i e h
      exact (hread s).justified h

/-- **Texts** of all four kinds leave an end, and stop only for problems. -/
theorem readString_leaves (quote : Char) (s : List Char) :
    Leaves depth s Prod.snd (readString quote s) := by
  have hline (t : List Char) : Leaves depth t Prod.snd
      (if quote = '"' then basicString t else literalString t) := by
    split
    · exact basicFrom_leaves ..
    · exact literalUntil_leaves ..
  unfold readString
  refine (?_ : Leaves depth s Prod.snd _).map fun _ => rfl
  split
  · split
    · exact ((multilineString_leaves depth quote _).cons _).cons _
    · exact hline _
  · exact hline _

/-- A part of a key is bare, or a text of one line. -/
theorem readKeyPart_leaves (s : List Char) : Leaves depth s Prod.snd (readKeyPart s) := by
  unfold readKeyPart
  split
  · trivial
  · rename_i c cs
    split
    · exact List.dropWhile_suffix isBareKeyChar
    · split
      · exact ((literalUntil_leaves ..).cons c).map fun _ => rfl
      · split
        · exact ((basicFrom_leaves ..).cons c).map fun _ => rfl
        · trivial

/-- **Keys**, part by part. -/
theorem readKey_leaves (fuel : Nat) (done : Key) (s : List Char) :
    Leaves depth s Prod.snd (readKey fuel done s) := by
  induction fuel generalizing done s with
  | zero => exact List.suffix_rfl
  | succ fuel ih =>
    unfold readKey
    split
    · rename_i e h
      exact (readKeyPart_leaves depth s).justified h
    · rename_i part rest h
      have hrest : rest <:+ s := (readKeyPart_leaves depth s).suffix h
      have hgaps : skipGaps rest <:+ s := (skipGaps_suffix rest).trans hrest
      split
      · rename_i next hnext
        rw [hnext] at hgaps
        have hmore := (ih (part :: done) (skipGaps next)).mono (skipGaps_suffix next)
        exact (hmore.cons '.').mono hgaps
      · exact hgaps

/-! ### Numbers, dates and times -/

/-- Digits are taken with the underscores between them, and the digits alone are counted. -/
theorem moreDigits_eq (isDigit : Char → Bool) (count : Nat) (s : List Char) :
    ∃ run, s = run ++ (moreDigits isDigit count s).2 ∧
      (∀ c ∈ run, isDigit c = true ∨ c = '_') ∧
      (moreDigits isDigit count s).1 = count + run.countP isDigit := by
  fun_induction moreDigits isDigit count s with
  | case2 count c cs hc ih =>
    obtain ⟨run, hrun, hall, hcount⟩ := ih
    refine ⟨c :: run, by rw [List.cons_append, ← hrun], by grind, ?_⟩
    rw [hcount, List.countP_cons_of_pos hc]
    omega
  | case4 count d rest hd hc ih =>
    obtain ⟨run, hrun, hall, hcount⟩ := ih
    refine ⟨'_' :: d :: run, by rw [List.cons_append, List.cons_append, ← hrun], by grind, ?_⟩
    rw [hcount, List.countP_cons_of_neg hc, List.countP_cons_of_pos hd]
    omega
  | _ => exact ⟨[], rfl, by simp, rfl⟩

/-- There is at least one digit, and the first is no underscore. -/
theorem digits?_eq {isDigit : Char → Bool} {s rest : List Char} {n : Nat}
    (h : digits? isDigit s = some (n, rest)) :
    ∃ run, s = run ++ rest ∧ (∀ c ∈ run, isDigit c = true ∨ c = '_') ∧
      run.countP isDigit = n := by
  unfold digits? at h
  split at h
  · rename_i c cs
    split at h
    · rename_i hc
      obtain ⟨run, hrun, hall, hcount⟩ := moreDigits_eq isDigit 1 cs
      simp only [Option.some.inj h] at hrun hcount
      refine ⟨c :: run, by rw [hrun, List.cons_append], by grind, ?_⟩
      rw [List.countP_cons_of_pos hc, hcount]
      omega
    · cases h
  · cases h

/-- What is left after digits is an end of the text. -/
theorem digits?_suffix {isDigit : Char → Bool} {s rest : List Char} {n : Nat}
    (h : digits? isDigit s = some (n, rest)) : rest <:+ s := by
  obtain ⟨run, hrun, -⟩ := digits?_eq h
  exact ⟨run, hrun.symm⟩

/-- A sign is left out. -/
theorem skipSign_suffix (s : List Char) : skipSign s <:+ s := by
  unfold skipSign
  grind

/-- A fraction is a point and digits. -/
theorem fraction?_suffix {s rest : List Char} (h : fraction? s = some rest) : rest <:+ s := by
  unfold fraction? at h
  split at h
  · obtain ⟨⟨n, t⟩, hdigits, rfl⟩ := Option.map_eq_some_iff.1 h
    exact (digits?_suffix hdigits).trans (List.suffix_cons _ _)
  · cases h

/-- An exponent is a letter, a sign and digits. -/
theorem exponent?_suffix {s rest : List Char} (h : exponent? s = some rest) : rest <:+ s := by
  unfold exponent? at h
  split at h
  · split at h
    · obtain ⟨⟨n, t⟩, hdigits, rfl⟩ := Option.map_eq_some_iff.1 h
      exact (digits?_suffix hdigits).trans ((skipSign_suffix _).trans (List.suffix_cons _ _))
    · cases h
  · cases h

/-- The digits that are counted are those that stand in the text; a zero stands alone. -/
theorem wholePart?_eq {s rest : List Char} {n : Nat} (h : wholePart? s = some (n, rest)) :
    rest <:+ s ∧ HasDigits s n := by
  unfold wholePart? at h
  split at h
  · obtain ⟨rfl, rfl⟩ := Prod.mk.inj (Option.some.inj h)
    exact ⟨List.suffix_cons _ _, ['0'], ⟨[], _, rfl⟩, by simp [Char.isDigit], by decide⟩
  · obtain ⟨run, rfl, hall, hcount⟩ := digits?_eq h
    exact ⟨List.suffix_append run rest, run, (List.prefix_append run rest).isInfix, hall, hcount⟩

/-- What is left after a number is an end of the text, and the digits that are counted for a decimal
integer stand in it. -/
theorem number?_eq {s : List Char} {form : NumberForm} (h : number? s = some form) :
    form.rest <:+ s ∧ ∀ n, form.integerDigits = some n → HasDigits s n := by
  unfold number? at h
  -- Only a decimal integer has its digits counted; of the other forms only the rest matters.
  rcases Option.or_eq_some_iff.1 h with hbased | ⟨-, hdecimal⟩
  · unfold basedInteger? at hbased
    split at hbased
    · obtain ⟨isDigit, -, hmap⟩ := Option.bind_eq_some_iff.1 hbased
      obtain ⟨⟨n, rest⟩, hdigits, rfl⟩ := Option.map_eq_some_iff.1 hmap
      have hrest : rest <:+ _ := digits?_suffix hdigits
      exact ⟨hrest.trans ⟨[_, _], rfl⟩, by simp⟩
    · cases hbased
  · obtain ⟨⟨count, rest⟩, hwhole, hform⟩ := Option.map_eq_some_iff.1 hdecimal
    obtain ⟨hrest, hdigits⟩ := wholePart?_eq hwhole
    have hsign := skipSign_suffix s
    subst hform
    dsimp only
    split
    · rename_i t hfraction
      have ht : t <:+ s := ((fraction?_suffix hfraction).trans hrest).trans hsign
      refine ⟨?_, by simp⟩
      cases hexponent : exponent? t with
      | none => exact ht
      | some u => exact (exponent?_suffix hexponent).trans ht
    · split
      · rename_i t hexponent
        exact ⟨((exponent?_suffix hexponent).trans hrest).trans hsign, by simp⟩
      · refine ⟨hrest.trans hsign, fun n hn => ?_⟩
        obtain rfl := Option.some.inj hn
        exact hdigits.mono hsign

/-- A number of two digits takes two characters. -/
theorem twoDigits?_suffix {low high n : Nat} {s rest : List Char}
    (h : twoDigits? low high s = some (n, rest)) : rest <:+ s := by
  unfold twoDigits? at h
  split at h
  · simp only [Option.ite_none_right_eq_some, Option.some.injEq, Prod.mk.injEq] at h
    obtain ⟨-, -, -, rfl⟩ := h
    exact ⟨[_, _], rfl⟩
  · cases h

/-- A sign between two numbers takes one character. -/
theorem after?_suffix {c : Char} {s rest : List Char} (h : after? c s = some rest) :
    rest <:+ s := by
  unfold after? at h
  grind

/-- The fraction of a second may be missing. -/
theorem skipSecondFraction_suffix (s : List Char) : skipSecondFraction s <:+ s := by
  unfold skipSecondFraction
  split
  · split
    · exact (List.dropWhile_suffix Char.isDigit).trans ⟨[_, _], rfl⟩
    · exact List.suffix_rfl
  · exact List.suffix_rfl

/-- A time is three numbers with colons between them. -/
theorem time?_suffix {s rest : List Char} (h : time? s = some rest) : rest <:+ s := by
  simp only [time?, Option.pure_def, Option.bind_eq_bind, Option.bind_eq_some_iff, Prod.exists,
    Option.some.injEq] at h
  obtain ⟨hour, s₁, h₁, s₂, h₂, minute, s₃, h₃, s₄, h₄, second, s₅, h₅, rfl⟩ := h
  have hminutes : s₄ <:+ s₂ := (after?_suffix h₄).trans (twoDigits?_suffix h₃)
  have hhours : s₂ <:+ s := (after?_suffix h₂).trans (twoDigits?_suffix h₁)
  exact (skipSecondFraction_suffix s₅).trans
    ((twoDigits?_suffix h₅).trans (hminutes.trans hhours))

/-- The offset of a time is a letter, or a sign and a time of the day. -/
theorem offset?_suffix {s rest : List Char} (h : offset? s = some rest) : rest <:+ s := by
  unfold offset? at h
  split at h
  · rename_i c cs
    refine List.IsSuffix.trans ?_ (List.suffix_cons c cs)
    split at h
    · obtain rfl := Option.some.inj h
      exact List.suffix_rfl
    · split at h
      · simp only [Option.pure_def, Option.bind_eq_bind, Option.bind_eq_some_iff, Prod.exists,
          Option.some.injEq] at h
        obtain ⟨hour, s₁, h₁, s₂, h₂, minute, s₃, h₃, rfl⟩ := h
        exact (twoDigits?_suffix h₃).trans ((after?_suffix h₂).trans (twoDigits?_suffix h₁))
      · cases h
  · cases h

/-- The time after a date may be missing. -/
theorem skipTime_suffix (s : List Char) : skipTime s <:+ s := by
  unfold skipTime
  split
  · rename_i c t
    split
    · split
      · rename_i rest htime
        have hrest : rest <:+ c :: t := (time?_suffix htime).trans (List.suffix_cons c t)
        cases hoffset : offset? rest with
        | none => exact hrest
        | some u => exact (offset?_suffix hoffset).trans hrest
      · exact List.suffix_rfl
    · exact List.suffix_rfl
  · exact List.suffix_rfl

/-- A date, a time or both leave an end of the text. -/
theorem moment?_suffix {s rest : List Char} {exists? : Bool}
    (h : moment? s = some (exists?, rest)) : rest <:+ s := by
  unfold moment? at h
  rcases Option.or_eq_some_iff.1 h with hdate | ⟨-, htime⟩
  · simp only [date?, Option.pure_def, Option.bind_eq_bind, Option.bind_eq_some_iff, Prod.exists,
      Option.some.injEq, Prod.mk.injEq] at hdate
    obtain ⟨century, s₁, h₁, year, s₂, h₂, s₃, h₃, month, s₄, h₄, s₅, h₅, day, s₆, h₆, -, rfl⟩ :=
      hdate
    have hyear : s₂ <:+ s := (twoDigits?_suffix h₂).trans (twoDigits?_suffix h₁)
    have hmonth : s₄ <:+ s₂ := (twoDigits?_suffix h₄).trans (after?_suffix h₃)
    have hday : s₆ <:+ s₄ := (twoDigits?_suffix h₆).trans (after?_suffix h₅)
    exact (skipTime_suffix s₆).trans (hday.trans (hmonth.trans hyear))
  · obtain ⟨t, ht, hrest⟩ := Option.map_eq_some_iff.1 htime
    obtain ⟨-, rfl⟩ := Prod.mk.inj hrest
    exact time?_suffix ht

/-! ### Values -/

/-- **Values without parts** stop at the limit on digits only for a run of so many digits. -/
theorem readScalar_leaves (s : List Char) : Leaves depth s Prod.snd (readScalar s) := by
  unfold readScalar
  dsimp only
  split
  · exact List.drop_suffix 4 s
  split
  · exact List.drop_suffix 5 s
  split
  · rename_i rest hmoment
    exact moment?_suffix hmoment
  · trivial
  split
  · rename_i digits rest hnumber
    obtain ⟨hrest, hdigits⟩ := number?_eq hnumber
    split
    · -- The limit is exceeded, and the digits stand in the text.
      rename_i hlimit
      exact ⟨hlimit, hdigits digits rfl⟩
    · exact hrest
  · rename_i rest hnumber
    exact (number?_eq hnumber).1
  split
  · exact List.drop_suffix 3 s
  split
  · exact List.drop_suffix 4 s
  · trivial

/-- A pair that cannot be added to an inline table is a problem. -/
theorem InlineTable.add_problem {t : InlineTable} {key : Key} {value : Value} {rest : List Char}
    {e : Stop} (h : t.add key value rest = .error e) : e.isProblem = true := by
  unfold InlineTable.add at h
  grind [Stop.isProblem]

/-- Says that values, items and pairs are read from an end of the text to another, or that the text
is the reason to stop, with the given number of steps left. -/
def ReadsWithin (fuel : Nat) : Prop :=
  (∀ depth s, Leaves depth s Prod.snd (readValue fuel depth s)) ∧
    (∀ depth done s, Leaves depth s Prod.snd (readItems fuel depth done s)) ∧
    ∀ depth t s, Leaves depth s Prod.snd (readPairs fuel depth t s)

/-- A value with one step more than its items and pairs; here the depth grows. -/
theorem readValue_step {fuel : Nat} (ih : ReadsWithin fuel) (depth : Nat) (s : List Char) :
    Leaves depth s Prod.snd (readValue (fuel + 1) depth s) := by
  obtain ⟨-, hitems, hpairs⟩ := ih
  unfold readValue
  split
  · trivial
  rename_i c cs
  split
  · exact (readString_leaves depth c cs).cons c
  split
  · -- An array: what is in it is read two levels down, and the bracket counts for three.
    rename_i hc
    subst hc
    split
    · rename_i hdepth
      simp only [Leaves, Stop.Justified, List.countP_cons_of_pos (p := isOpening) (a := '[') rfl]
      simp only [arrayDepth, tableDepth] at hdepth ⊢
      omega
    have harray : arrayDepth ≤ tableDepth := by decide
    refine Leaves.enter rfl harray ?_
    split
    · rename_i e h
      exact (skipLines_leaves _ cs).justified h
    · rename_i rest h
      exact (List.suffix_cons ']' rest).trans ((skipLines_leaves depth cs).suffix h)
    · rename_i rest hrest h
      exact (hitems _ [] rest).mono ((skipLines_leaves depth cs).suffix h)
  split
  · -- An inline table: what is in it is read three levels down, as many as the bracket counts for.
    rename_i hc
    subst hc
    split
    · rename_i hdepth
      simp only [Leaves, Stop.Justified, List.countP_cons_of_pos (p := isOpening) (a := '\x7b') rfl]
      simp only [tableDepth] at hdepth ⊢
      omega
    refine Leaves.enter rfl (Nat.le_refl tableDepth) ?_
    have hgaps := skipGaps_suffix cs
    split
    · rename_i rest h
      rw [h] at hgaps
      exact (List.suffix_cons '\x7d' rest).trans hgaps
    · exact (hpairs _ {} _).mono hgaps
  · exact readScalar_leaves depth _

/-- The items of an array, all of them at the same depth. -/
theorem readItems_step {fuel : Nat} (ih : ReadsWithin fuel) (depth : Nat) (done : List Value)
    (s : List Char) : Leaves depth s Prod.snd (readItems (fuel + 1) depth done s) := by
  obtain ⟨hvalue, hitems, -⟩ := ih
  unfold readItems
  split
  · rename_i e h
    exact (hvalue depth s).justified h
  rename_i value rest h
  have hrest : rest <:+ s := (hvalue depth s).suffix h
  have hlines := skipLines_leaves depth rest
  split
  · rename_i e h
    exact (hlines.justified h).mono hrest
  · rename_i t h
    exact ((List.suffix_cons ']' t).trans (hlines.suffix h)).trans hrest
  · rename_i t h
    have ht : t <:+ s := ((List.suffix_cons ',' t).trans (hlines.suffix h)).trans hrest
    have hmore := skipLines_leaves depth t
    split
    · rename_i e h
      exact (hmore.justified h).mono ht
    · rename_i u h
      exact ((List.suffix_cons ']' u).trans (hmore.suffix h)).trans ht
    · rename_i u hu h
      exact (hitems depth (value :: done) u).mono ((hmore.suffix h).trans ht)
  · trivial

/-- The pairs of an inline table. -/
theorem readPairs_step {fuel : Nat} (ih : ReadsWithin fuel) (depth : Nat) (t : InlineTable)
    (s : List Char) : Leaves depth s Prod.snd (readPairs (fuel + 1) depth t s) := by
  obtain ⟨hvalue, -, hpairs⟩ := ih
  unfold readPairs
  split
  · rename_i e h
    exact (readKey_leaves depth fuel [] s).justified h
  · rename_i key rest h
    -- Key, sign, gaps and value each leave an end of what was there before.
    have hequals : '=' :: rest <:+ s := (readKey_leaves depth fuel [] s).suffix h
    have hgaps : skipGaps rest <:+ s :=
      (skipGaps_suffix rest).trans ((List.suffix_cons '=' rest).trans hequals)
    split
    · rename_i e h
      exact ((hvalue depth _).justified h).mono hgaps
    rename_i value rest' h
    have hrest : rest' <:+ s := ((hvalue depth _).suffix h).trans hgaps
    split
    · rename_i e h
      exact .of_isProblem (InlineTable.add_problem h)
    · have hnext := (skipGaps_suffix rest').trans hrest
      split
      · rename_i u h
        rw [h] at hnext
        exact (List.suffix_cons '\x7d' u).trans hnext
      · rename_i u h
        rw [h] at hnext
        exact (hpairs depth _ _).mono
          (((skipGaps_suffix u).trans (List.suffix_cons ',' u)).trans hnext)
      · trivial
  · trivial

/-- The three readers call each other, each with one step less. -/
theorem readsWithin (fuel : Nat) : ReadsWithin fuel := by
  induction fuel with
  | zero =>
    refine ⟨fun depth s => ?_, fun depth done s => ?_, fun depth t s => ?_⟩
    · simp [readValue, Leaves, Stop.Justified]
    · simp [readItems, Leaves, Stop.Justified]
    · simp [readPairs, Leaves, Stop.Justified]
  | succ fuel ih => exact ⟨readValue_step ih, readItems_step ih, readPairs_step ih⟩

/-- **Values** stop at a limit only for a reason in the text, whatever the number of steps. -/
theorem readValue_leaves (fuel : Nat) (s : List Char) :
    Leaves depth s Prod.snd (readValue fuel depth s) :=
  (readsWithin fuel).1 depth s

/-! ### Documents -/

namespace Draft

/-- A key that leads through something else than tables is a problem. -/
theorem enterAll_problem {d : Draft} {rest : List Char} {keys : List Key} {e : Stop}
    (h : d.enterAll rest keys = .error e) : e.isProblem = true := by
  induction keys generalizing d with
  | nil => cases h
  | cons key keys ih =>
    unfold enterAll at h
    split at h
    · obtain rfl := Except.error.inj h
      rfl
    · exact ih h

/-- A pair that cannot be added to the document is a problem. -/
theorem addPair_problem {d : Draft} {key : Key} {value : Value} {rest : List Char} {e : Stop}
    (h : d.addPair key value rest = .error e) : e.isProblem = true := by
  unfold addPair at h
  grind [Stop.isProblem, enterAll_problem]

/-- A pair is a key, a sign and a value at no depth. -/
theorem readPair_leaves (fuel : Nat) (d : Draft) (s : List Char) :
    Leaves 0 s Prod.snd (d.readPair fuel s) := by
  unfold readPair
  split
  · rename_i e h
    exact (readKey_leaves 0 fuel [] s).justified h
  · rename_i key rest h
    have hequals : '=' :: rest <:+ s := (readKey_leaves 0 fuel [] s).suffix h
    have hgaps : skipGaps rest <:+ s :=
      (skipGaps_suffix rest).trans ((List.suffix_cons '=' rest).trans hequals)
    split
    · rename_i e h
      exact ((readValue_leaves 0 fuel _).justified h).mono hgaps
    · rename_i value rest' h
      have hrest : rest' <:+ s := ((readValue_leaves 0 fuel _).suffix h).trans hgaps
      cases hadd : d.addPair key value rest' with
      | ok d' => exact hrest
      | error e => exact .of_isProblem (addPair_problem hadd)
  · trivial

/-- The header of a table has a key only, which needs no depth. -/
theorem readTableHeader_leaves (fuel : Nat) (d : Draft) (s : List Char) :
    Leaves 0 s Prod.snd (d.readTableHeader fuel s) := by
  have hkey := (readKey_leaves 0 fuel [] (skipGaps s)).mono (skipGaps_suffix s)
  unfold readTableHeader
  split
  · rename_i e h
    exact hkey.justified h
  rename_i key rest h
  have hrest : rest <:+ s := hkey.suffix h
  split
  · trivial
  split
  · trivial
  split
  · rename_i t
    exact (List.suffix_cons ']' t).trans hrest
  · trivial

/-- So does that of a table in an array. -/
theorem readArrayHeader_leaves (fuel : Nat) (d : Draft) (s : List Char) :
    Leaves 0 s Prod.snd (d.readArrayHeader fuel s) := by
  have hkey := (readKey_leaves 0 fuel [] (skipGaps s)).mono (skipGaps_suffix s)
  unfold readArrayHeader
  split
  · rename_i e h
    exact hkey.justified h
  rename_i key rest h
  have hrest : rest <:+ s := hkey.suffix h
  split
  · trivial
  dsimp only
  split
  · trivial
  split
  · rename_i t
    exact List.IsSuffix.trans ⟨[']', ']'], rfl⟩ hrest
  · trivial

/-- **Statements** are pairs and headers, or nothing at all. -/
theorem readStatement_leaves (fuel : Nat) (d : Draft) (c : Char) (s : List Char) :
    Leaves 0 (c :: s) Prod.snd (d.readStatement fuel c s) := by
  unfold readStatement
  split
  · exact readPair_leaves fuel d (c :: s)
  split
  · split
    · exact ((readArrayHeader_leaves fuel d.settle _).cons _).cons c
    · exact (readTableHeader_leaves fuel d.settle s).cons c
  split
  · exact List.suffix_rfl
  · trivial

/-- Statements are read one after the other, and each leaves less of the text. -/
theorem readAll_justified {fuel turns : Nat} {d : Draft} {s : List Char} {e : Stop}
    (h : readAll fuel turns d s = .error e) : e.Justified 0 s := by
  induction turns generalizing d s with
  | zero => cases h
  | succ turns ih =>
    have hgaps := skipGaps_suffix s
    unfold readAll at h
    split at h
    · cases h
    · rename_i rest hrest
      rw [hrest] at hgaps
      exact ((ih h).mono (List.suffix_cons '\n' rest)).mono hgaps
    · rename_i c rest hline hrest
      rw [hrest] at hgaps
      -- A stop is due to the statement, to the comment after it, or to a later line.
      have hstatement := (readStatement_leaves fuel d c rest).mono hgaps
      split at h
      · rename_i e' he
        obtain rfl := Except.error.inj h
        exact hstatement.justified he
      rename_i d' rest' hok
      have hcomment := ((skipComment_leaves 0 (skipGaps rest')).mono (skipGaps_suffix rest')).mono
        (hstatement.suffix hok)
      split at h
      · rename_i e' he
        obtain rfl := Except.error.inj h
        exact hcomment.justified he
      · cases h
      · rename_i t ht
        exact ((ih h).mono (List.suffix_cons '\n' t)).mono (hcomment.suffix ht)
      · obtain rfl := Except.error.inj h
        trivial

end Draft

/-- **A document with too many digits has them**: next to each other, but for underscores. -/
theorem hasDigits_of_parse {source : List Char} {n : Nat}
    (h : parse source = .error (.tooManyDigits n)) : digitLimit < n ∧ HasDigits source n := by
  unfold parse at h
  split at h
  · cases h
  · cases h
  · rename_i digits hread
    obtain ⟨rfl⟩ := h
    exact Draft.readAll_justified hread
  · cases h

/-- **A document that is too deep has brackets**: so many that their levels pass the limit. -/
theorem openings_of_parse {source : List Char} (h : parse source = .error .tooDeep) :
    depthLimit < tableDepth * source.countP isOpening := by
  unfold parse at h
  split at h
  · cases h
  · cases h
  · cases h
  · rename_i hread
    have hdeep := Draft.readAll_justified hread
    simpa only [Stop.Justified, Nat.zero_add] using hdeep

/-! ### An integer with too many digits -/

/-- Digits are counted up to the end of the line. -/
theorem moreDigits_append {ds rest : List Char} (hall : ∀ c ∈ ds, c.isDigit = true)
    (count : Nat) :
    moreDigits Char.isDigit count (ds ++ '\n' :: rest) = (count + ds.length, '\n' :: rest) := by
  induction ds generalizing count with
  | nil =>
    unfold moreDigits
    rfl
  | cons d ds ih =>
    have hd : d.isDigit = true := hall d List.mem_cons_self
    rw [List.cons_append]
    unfold moreDigits
    rw [if_pos hd, ih fun c hc => hall c (List.mem_cons_of_mem d hc), List.length_cons,
      Nat.add_right_comm, Nat.add_assoc]

/-- A digit is none of the other signs. -/
theorem ne_of_isDigit {c d : Char} (hc : c.isDigit = true) (hd : d.isDigit = false) :
    c ≠ d := by
  rintro rfl
  simp [hc] at hd

/-- What is left after two digits does not depend on them. -/
theorem twoDigits?_rest {low high n : Nat} {a b : Char} {s t : List Char}
    (h : twoDigits? low high (a :: b :: s) = some (n, t)) : t = s := by
  simp only [twoDigits?, Option.ite_none_right_eq_some, Option.some.injEq, Prod.mk.injEq] at h
  exact h.2.2.2.symm

/-- Five digits next to each other begin neither a time nor a date. -/
theorem moment?_digits {a b c d e : Char} {s : List Char} (hc : c.isDigit = true)
    (he : e.isDigit = true) : moment? (a :: b :: c :: d :: e :: s) = none := by
  have htime : time? (a :: b :: c :: d :: e :: s) = none := by
    rw [Option.eq_none_iff_forall_ne_some]
    intro rest h
    simp only [time?, Option.bind_eq_bind, Option.bind_eq_some_iff, Prod.exists] at h
    obtain ⟨hour, t, ht, u, hu, -⟩ := h
    obtain rfl := twoDigits?_rest ht
    simp [after?, (ne_of_isDigit hc (d := ':') (by decide)).symm] at hu
  have hdate : date? (a :: b :: c :: d :: e :: s) = none := by
    rw [Option.eq_none_iff_forall_ne_some]
    intro found h
    simp only [date?, Option.bind_eq_bind, Option.bind_eq_some_iff, Prod.exists] at h
    obtain ⟨century, t, ht, year, u, hu, v, hv, -⟩ := h
    obtain rfl := twoDigits?_rest ht
    obtain rfl := twoDigits?_rest hu
    simp [after?, (ne_of_isDigit he (d := '-') (by decide)).symm] at hv
  rw [moment?, hdate, htime]
  rfl

/-- Digits that do not begin with a zero are a decimal integer. -/
theorem number?_digits {d : Char} {ds rest : List Char} (hd : d.isDigit = true) (hzero : d ≠ '0')
    (hall : ∀ c ∈ ds, c.isDigit = true) :
    number? (d :: (ds ++ '\n' :: rest)) = some ⟨some (ds.length + 1), '\n' :: rest⟩ := by
  have hbased : basedInteger? (d :: (ds ++ '\n' :: rest)) = none := by
    unfold basedInteger?
    split
    · rename_i h
      exact absurd (List.cons.inj h).1 hzero
    · rfl
  have hsign : skipSign (d :: (ds ++ '\n' :: rest)) = d :: (ds ++ '\n' :: rest) := by
    have hplus : d ≠ '+' := ne_of_isDigit hd (by decide)
    have hminus : d ≠ '-' := ne_of_isDigit hd (by decide)
    simp [skipSign, hplus, hminus]
  have hwhole : wholePart? (d :: (ds ++ '\n' :: rest)) = some (ds.length + 1, '\n' :: rest) := by
    unfold wholePart?
    split
    · rename_i h
      exact absurd (List.cons.inj h).1 hzero
    · rw [digits?, if_pos hd, moreDigits_append hall, Nat.add_comm]
  have hdecimal : decimal? (d :: (ds ++ '\n' :: rest)) =
      some ⟨some (ds.length + 1), '\n' :: rest⟩ := by
    simp [decimal?, hsign, hwhole, fraction?, exponent?]
  rw [number?, hbased, hdecimal, Option.none_or]

/-- Such an integer stops reading if it is too long. -/
theorem readScalar_digits {ds : List Char} (hall : ∀ c ∈ ds, c.isDigit = true)
    (hzero : ds.head? ≠ some '0') (hlength : digitLimit < ds.length) (rest : List Char) :
    readScalar (ds ++ '\n' :: rest) = .error (.tooManyDigits ds.length) := by
  -- A date is recognised by its fifth character, so that many digits are named.
  match ds, hall, hzero, hlength with
  | a :: b :: c :: d :: e :: ds, hall, hzero, hlength =>
    have ha : a.isDigit = true := hall a List.mem_cons_self
    have hmoment : moment? (a :: b :: c :: d :: e :: (ds ++ '\n' :: rest)) = none :=
      moment?_digits (hall c (by simp)) (hall e (by simp))
    have hnumber : number? (a :: (b :: c :: d :: e :: ds ++ '\n' :: rest)) = some ⟨some _, _⟩ :=
      number?_digits ha (fun h => hzero (congrArg some h))
        fun x hx => hall x (List.mem_cons_of_mem a hx)
    have ht : 't' ≠ a := (ne_of_isDigit ha (by decide)).symm
    have hf : 'f' ≠ a := (ne_of_isDigit ha (by decide)).symm
    simp only [List.cons_append] at hnumber
    simp only [List.length_cons] at hlength
    simp [readScalar, hmoment, hnumber, ht, hf, hlength]

/-- It does so as the value of a pair. -/
theorem readValue_digits {ds rest : List Char} (hall : ∀ c ∈ ds, c.isDigit = true)
    (hzero : ds.head? ≠ some '0') (hlength : digitLimit < ds.length) (fuel : Nat) :
    readValue (fuel + 1) 0 (skipGaps (' ' :: (ds ++ '\n' :: rest))) =
      .error (.tooManyDigits ds.length) := by
  have hscalar := readScalar_digits hall hzero hlength rest
  match ds, hall, hscalar with
  | d :: ds, hall, hscalar =>
    have hd {c : Char} (hc : c.isDigit = false) : d ≠ c :=
      ne_of_isDigit (hall d List.mem_cons_self) hc
    have hgap : isGap d = false := by simp [isGap, hd (c := ' ') rfl, hd (c := '\t') rfl]
    simp only [List.cons_append] at hscalar ⊢
    simp [skipGaps, show isGap ' ' = true from rfl, hgap, readValue, hd (c := '"') rfl,
      hd (c := '\'') rfl, hd (c := '[') rfl, hd (c := '\x7b') rfl, hscalar]

/-- An integer of too many digits stops reading, whatever its key means and whatever follows. -/
theorem parse_digits {ds : List Char} (hall : ∀ c ∈ ds, c.isDigit = true)
    (hzero : ds.head? ≠ some '0') (hlength : digitLimit < ds.length) (rest : List Char) :
    parse ('k' :: ' ' :: '=' :: ' ' :: (ds ++ '\n' :: rest)) =
      .error (.tooManyDigits ds.length) := by
  have hkey (fuel : Nat) (s : List Char) : readKey (fuel + 1) [] ('k' :: ' ' :: '=' :: s) =
      .ok (["k"], '=' :: s) := rfl
  have hpair (fuel : Nat) :
      Draft.readPair (fuel + 1) {} ('k' :: ' ' :: '=' :: ' ' :: (ds ++ '\n' :: rest)) =
        .error (.tooManyDigits ds.length) := by
    simp only [Draft.readPair, hkey, readValue_digits hall hzero hlength]
  have hstatement (fuel : Nat) :
      Draft.readStatement (fuel + 1) {} 'k' (' ' :: '=' :: ' ' :: (ds ++ '\n' :: rest)) =
        .error (.tooManyDigits ds.length) := by
    unfold Draft.readStatement
    rw [if_pos (by decide), hpair]
  have hskip (s : List Char) : skipGaps ('k' :: s) = 'k' :: s := rfl
  simp [parse, Draft.readAll, hskip, hstatement]

end AttrLint.Toml
