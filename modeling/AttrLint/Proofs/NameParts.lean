import AttrLint.Proofs.Failures
import Mathlib.Data.List.TakeDrop

namespace AttrLint

/-!
# The parts of names

A name that the reader takes for an element or an attribute is one part or two parts with a colon
between them, and a part is never empty and has no white space.  So of the words of an expanded
name, all but the last one or two come from the namespace.

* `Text.words_append` — a space divides words.
* `Xml.IsPart`, `Xml.IsName` — names and their parts.
* `Xml.isNameChar_part` — a character of a name is no white space.
* `Xml.Expansion.name?_eq_none_iff` — which names have too many parts.
* `Xml.Tag.WellNamed` and its like — what holds of all names at hand while a document is read, with
  one lemma for each part of the reader.
* `Xml.Tag.resolve_eq_tooManyNameParts_iff` — which start tags have names of too many parts.
-/

/-! ### Words -/

namespace Text

/-- A space ends the word being read. -/
theorem wordsFrom_append (word s t : List Char) :
    wordsFrom word (s ++ ' ' :: t) = wordsFrom word s ++ words t := by
  induction s generalizing word with
  | nil =>
    have hblank : isBlank ' ' = true := by decide
    cases word with
    | nil => simp [wordsFrom, hblank, words]
    | cons c word => simp [wordsFrom, hblank, words]
  | cons c s ih =>
    simp only [List.cons_append, wordsFrom]
    split
    · split
      · exact ih []
      · rw [ih [], List.cons_append]
    · exact ih (c :: word)

/-- A space divides words. -/
@[simp] theorem words_append (s t : List Char) : words (s ++ ' ' :: t) = words s ++ words t :=
  wordsFrom_append [] s t

/-- Characters other than white space are added to the word being read. -/
theorem wordsFrom_of_not_blank {s : List Char} (h : ∀ c ∈ s, isBlank c = false)
    (word : List Char) : wordsFrom word s = wordsFrom (s.reverse ++ word) [] := by
  induction s generalizing word with
  | nil => rfl
  | cons c s ih =>
    have hc : isBlank c = false := h c List.mem_cons_self
    have hs := ih fun d hd => h d (List.mem_cons_of_mem c hd)
    simp only [wordsFrom.eq_2, hc, Bool.false_eq_true, if_false, hs (c :: word), List.reverse_cons,
      List.append_assoc, List.singleton_append]

/-- A text without white space is one word. -/
theorem words_of_not_blank {s : List Char} (hne : s ≠ []) (h : ∀ c ∈ s, isBlank c = false) :
    words s = [s] := by
  rw [words, wordsFrom_of_not_blank h, List.append_nil, wordsFrom, List.isEmpty_reverse,
    List.reverse_reverse, if_neg (by rwa [List.isEmpty_iff])]

end Text

namespace Xml

/-! ### Names -/

/-- Says that the text can be a part of a name: it has characters, and none of them is white space
or a colon. -/
def IsPart (s : List Char) : Prop :=
  s ≠ [] ∧ ∀ c ∈ s, Text.isBlank c = false ∧ c ≠ ':'

/-- Says that the text is a part, or two parts with a colon between them. -/
def IsName (s : List Char) : Prop :=
  IsPart s ∨ ∃ qualifier back, s = qualifier ++ ':' :: back ∧ IsPart qualifier ∧ IsPart back

/-- A part of a name is one word. -/
theorem IsPart.words {s : List Char} (h : IsPart s) : Text.words s = [s] :=
  Text.words_of_not_blank h.1 fun c hc => (h.2 c hc).1

/-- Parts next to each other are a part. -/
theorem IsPart.append {s t : List Char} (hs : IsPart s) (ht : IsPart t) : IsPart (s ++ t) := by
  refine ⟨List.append_ne_nil_of_left_ne_nil hs.1 t, fun c hc => ?_⟩
  rcases List.mem_append.1 hc with hc | hc
  · exact hs.2 c hc
  · exact ht.2 c hc

/-- A search for a colon passes over a part. -/
theorem span_of_isPart {s : List Char} (h : IsPart s) (t : List Char) :
    (s ++ t).span (· != ':') = (s ++ (t.span (· != ':')).1, (t.span (· != ':')).2) := by
  have hall : ∀ c ∈ s, (c != ':') = true := fun c hc => by simp [(h.2 c hc).2]
  simp only [List.span_eq_takeWhile_dropWhile, List.takeWhile_append_of_pos hall,
    List.dropWhile_append_of_pos hall]

/-- A part has no colon to be divided at. -/
theorem splitAtColon_of_isPart {s : List Char} (h : IsPart s) : splitAtColon s = none := by
  have hspan := span_of_isPart h []
  rw [List.append_nil] at hspan
  rw [splitAtColon, hspan]
  rfl

/-- A name is divided at its first colon. -/
theorem splitAtColon_append {s : List Char} (h : IsPart s) (t : List Char) :
    splitAtColon (s ++ ':' :: t) = some (s, t) := by
  rw [splitAtColon, span_of_isPart h, List.span_eq_takeWhile_dropWhile]
  simp

/-! ### Characters of names -/

/-- Ranges that lie apart have no number in common. -/
theorem not_inRanges_of_apart {s t : List (Nat × Nat)} {n : Nat}
    (happart : s.all (fun p => t.all fun q => decide (p.2 < q.1) || decide (q.2 < p.1)) = true)
    (h : Text.inRanges s n = true) : Text.inRanges t n = false := by
  obtain ⟨p, hp, hn⟩ := List.any_eq_true.1 h
  rw [Text.inRanges, List.any_eq_false]
  intro q hq
  have hpq := List.all_eq_true.1 (List.all_eq_true.1 happart p hp) q hq
  simp only [Bool.and_eq_true, Bool.or_eq_true, decide_eq_true_eq] at hn hpq ⊢
  omega

/-- From the hyphen on, no character of ASCII is white space. -/
theorem not_isBlank_of_ascii {c : Char} (h : c.toNat < 0x80) (hc : 0x2d ≤ c.toNat) :
    Text.isBlank c = false := by
  simp only [Text.isBlank, Text.inRanges, Text.blankRanges, List.any_cons, List.any_nil,
    Bool.or_false, Bool.or_eq_false_iff, Bool.and_eq_false_iff, decide_eq_false_iff_not]
  omega

/-- No letter above ASCII is white space: their ranges lie apart. -/
theorem isUpperLetter_not_blank {a : Alphabet} {c : Char} (h : a.isUpperLetter c = true) :
    Text.isBlank c = false := by
  rcases Bool.or_eq_true_iff.1 h with h | h
  · exact not_inRanges_of_apart (by decide +kernel) h
  · have hmem := List.contains_iff_mem.1 (Bool.and_eq_true_iff.1 h).2
    have hextras : ∀ n ∈ latinExtras, Text.inRanges Text.blankRanges n = false := by decide
    exact hextras _ hmem

/-- No character of a name is white space or a colon. -/
theorem isNameChar_part {a : Alphabet} {c : Char} (h : isNameChar a c = true) : IsPart [c] := by
  refine ⟨List.cons_ne_nil c [], fun d hd => ?_⟩
  obtain rfl := List.mem_singleton.1 hd
  unfold isNameChar at h
  split at h
  · rename_i hlow
    have hcode : 0x2d ≤ d.toNat ∧ d ≠ ':' := by
      simp only [isAsciiLetter, Char.isDigit, Bool.or_eq_true, Bool.and_eq_true,
        decide_eq_true_eq, Char.le_def, UInt32.le_iff_toNat_le] at h
      -- Only between the digits and the upper case letters there is a colon to be avoided.
      have hcolon (hne : d.toNat ≠ 0x3a) : d ≠ ':' := fun heq => hne (heq ▸ rfl)
      rcases h with ((((h | h) | h) | rfl) | rfl) | rfl
      · have hlower : 0x61 ≤ d.toNat := h.1
        exact ⟨by omega, hcolon (by omega)⟩
      · have hupper : 0x41 ≤ d.toNat := h.1
        exact ⟨by omega, hcolon (by omega)⟩
      · have hdigit : 0x30 ≤ d.toNat ∧ d.toNat ≤ 0x39 := h
        exact ⟨by omega, hcolon (by omega)⟩
      · decide
      · decide
      · decide
    exact ⟨not_isBlank_of_ascii hlow hcode.1, hcode.2⟩
  · rename_i hhigh
    refine ⟨?_, by rintro rfl; exact hhigh (by decide)⟩
    rcases Bool.or_eq_true_iff.1 h with h | h
    · exact isUpperLetter_not_blank h
    · exact not_inRanges_of_apart (by decide +kernel) h

/-- What can begin a name can also go on with it. -/
theorem isNameChar_of_isNameStart {a : Alphabet} {c : Char} (h : isNameStart a c = true) :
    isNameChar a c = true := by
  unfold isNameStart at h
  unfold isNameChar
  grind

/-! ### Expansions -/

/-- Says that white space divides the namespace of an expansion into so many words that no name can
be made of it: more than two, or more than one if there is a qualifier. -/
def Expansion.isOverlong (e : Expansion) : Bool :=
  match e.uri with
  | none => false
  | some uri => decide ((if e.qualifier.isSome then 1 else 2) < (Text.words uri.toList).length)

/-- Says that the local part and the qualifier are parts of a name. -/
def Expansion.InParts (e : Expansion) : Prop :=
  IsPart e.localPart.toList ∧ ∀ qualifier ∈ e.qualifier, IsPart qualifier.toList

/-- The words of an expansion are those of its namespace, and then its other parts. -/
theorem Expansion.length_words_joined {e : Expansion} (h : e.InParts) :
    (Text.words e.joined).length =
      match e.uri with
      | none => 1
      | some uri => (Text.words uri.toList).length + if e.qualifier.isSome then 2 else 1 := by
  obtain ⟨uri, localPart, qualifier⟩ := e
  obtain ⟨hlocal, hqualifier⟩ := h
  cases uri with
  | none =>
    show (Text.words localPart.toList).length = 1
    rw [hlocal.words, List.length_singleton]
  | some uri =>
    cases qualifier with
    | none =>
      show (Text.words (uri.toList ++ ' ' :: localPart.toList)).length = _
      rw [Text.words_append, hlocal.words, List.length_append]
      rfl
    | some qualifier =>
      show (Text.words ((uri.toList ++ ' ' :: localPart.toList) ++ ' ' :: qualifier.toList)).length
        = _
      rw [Text.words_append, Text.words_append, hlocal.words, (hqualifier qualifier rfl).words,
        List.length_append, List.length_append]
      rfl

/-- **An expansion has too many parts** exactly if its namespace is divided into too many words. -/
theorem Expansion.name?_eq_none_iff {e : Expansion} (h : e.InParts) :
    e.name? = none ↔ e.isOverlong = true := by
  have hname : e.name? = none ↔ 3 < (Text.words e.joined).length := by
    unfold name?
    generalize Text.words e.joined = words
    match words with
    | [] | [_] | [_, _] | [_, _, _] => simp
    | _ :: _ :: _ :: _ :: _ => simp
  rw [hname, length_words_joined h, isOverlong]
  cases e.uri with
  | none => simp
  | some uri =>
    rw [decide_eq_true_iff]
    dsimp only
    split <;> omega

/-! ### Names being read -/

/-- Says that the characters, held newest first, are those of a part so far, or, after a colon, of a
second one. -/
def Letters (qualified : Bool) (letters : List Char) : Prop :=
  if qualified then
    ∃ qualifier back, letters.reverse = qualifier ++ ':' :: back ∧ IsPart qualifier ∧ IsPart back
  else IsPart letters.reverse

/-- Says that the characters, held newest first, are those of a part and a colon. -/
def AtColon (letters : List Char) : Prop :=
  ∃ qualifier, letters.reverse = qualifier ++ [':'] ∧ IsPart qualifier

section Letters

variable {a : Alphabet} {c : Char} {letters : List Char} {qualified : Bool}

/-- A name begins with a part. -/
theorem Letters.start (hc : isNameStart a c = true) : Letters false [c] :=
  isNameChar_part (isNameChar_of_isNameStart hc)

/-- One more character of a name goes to its last part. -/
theorem Letters.cons (h : Letters qualified letters) (hc : isNameChar a c = true) :
    Letters qualified (c :: letters) := by
  have hpart := isNameChar_part hc
  cases qualified with
  | false =>
    show IsPart (c :: letters).reverse
    rw [List.reverse_cons]
    exact IsPart.append h hpart
  | true =>
    obtain ⟨qualifier, back, hletters, hqualifier, hback⟩ := h
    refine ⟨qualifier, back ++ [c], ?_, hqualifier, hback.append hpart⟩
    rw [List.reverse_cons, hletters, List.append_assoc, List.cons_append]

/-- A colon ends the first part. -/
theorem Letters.colon (h : Letters false letters) : AtColon (':' :: letters) :=
  ⟨letters.reverse, List.reverse_cons, h⟩

/-- A character after the colon begins the second part. -/
theorem AtColon.cons (h : AtColon letters) (hc : isNameChar a c = true) :
    Letters true (c :: letters) := by
  obtain ⟨qualifier, hletters, hqualifier⟩ := h
  refine ⟨qualifier, [c], ?_, hqualifier, isNameChar_part hc⟩
  rw [List.reverse_cons, hletters, List.append_assoc, List.singleton_append]

/-- Where a name can end, what has been read is a name. -/
theorem Letters.isName (h : Letters qualified letters) : IsName (spelled letters).toList := by
  rw [spelled, String.toList_ofList]
  cases qualified with
  | false => exact Or.inl h
  | true => exact Or.inr h

end Letters

/-! ### Start tags being read -/

/-- Says that the names of a start tag are names. -/
def Tag.WellNamed (tag : Tag) : Prop :=
  IsName tag.name.toList ∧ ∀ a ∈ tag.attributes, IsName a.name.toList

/-- Says that the part of a start tag has names only; `name` is that of the element, where it is
complete. -/
def TagPart.WellNamed (name : String) : TagPart → Prop
  | .name letters qualified => Letters qualified letters
  | .nameColon letters => AtColon letters
  | .attrName letters qualified _ => IsName name.toList ∧ Letters qualified letters
  | .attrColon letters _ => IsName name.toList ∧ AtColon letters
  | .beforeEquals letters _ | .afterEquals letters _ | .value letters _ _ _ _ _ =>
    IsName name.toList ∧ ∃ qualified, Letters qualified letters
  | .gap | .afterValue | .slash => IsName name.toList

/-- Says that the names of a start tag that is being read are names. -/
def TagReader.WellNamed (reader : TagReader) : Prop :=
  reader.part.WellNamed reader.name ∧ ∀ a ∈ reader.attributes, IsName a.name.toList

/-- Says that a step leads to names only. -/
def TagReader.Step.WellNamed : TagReader.Step → Prop
  | .more reader => reader.WellNamed
  | .done tag _ => tag.WellNamed
  | .invalid => True

/-- The attributes are held newest first; turning them round changes no name. -/
theorem TagReader.tag_wellNamed {reader : TagReader} (hname : IsName reader.name.toList)
    (hattributes : ∀ a ∈ reader.attributes, IsName a.name.toList) : reader.tag.WellNamed :=
  ⟨hname, fun a ha => hattributes a (List.mem_reverse.1 ha)⟩

/-- Behind a name or a value, names are kept. -/
theorem TagReader.feedBoundary_wellNamed {reader : TagReader} (hname : IsName reader.name.toList)
    (hattributes : ∀ a ∈ reader.attributes, IsName a.name.toList) (c : Char) :
    (reader.feedBoundary c).WellNamed := by
  unfold feedBoundary
  split
  · exact ⟨hname, hattributes⟩
  split
  · exact tag_wellNamed hname hattributes
  split
  · exact ⟨hname, hattributes⟩
  · trivial

/-- In white space a name may begin. -/
theorem TagReader.feedGap_wellNamed {reader : TagReader} (hname : IsName reader.name.toList)
    (hattributes : ∀ a ∈ reader.attributes, IsName a.name.toList) (a : Alphabet)
    (position : Position) (c : Char) : (reader.feedGap a position c).WellNamed := by
  unfold feedGap
  split
  · exact ⟨hname, hattributes⟩
  split
  · exact tag_wellNamed hname hattributes
  split
  · exact ⟨hname, hattributes⟩
  split
  · rename_i hc
    exact ⟨⟨hname, Letters.start hc⟩, hattributes⟩
  · trivial

/-- The end of a value completes an attribute, whose name has been read before. -/
theorem TagReader.feedValue_wellNamed {reader : TagReader} (hname : IsName reader.name.toList)
    (hattributes : ∀ a ∈ reader.attributes, IsName a.name.toList) {letters : List Char}
    {qualified : Bool} (hletters : Letters qualified letters) (start : Position) (quote : Char)
    (first : Cursor) (written : List Char) (c : Char) :
    (reader.feedValue letters start quote first written c).WellNamed := by
  unfold feedValue
  split
  · -- The closing quote completes an attribute.
    refine ⟨hname, fun a ha => ?_⟩
    rcases List.mem_cons.1 ha with rfl | ha
    · exact hletters.isName
    · exact hattributes a ha
  split
  · trivial
  · exact ⟨⟨hname, qualified, hletters⟩, hattributes⟩

/-- **One character of a start tag** leads from names to names. -/
theorem TagReader.feed_wellNamed {reader : TagReader} (h : reader.WellNamed) (a : Alphabet)
    (cursor : Cursor) (c : Char) : (reader.feed a cursor c).WellNamed := by
  obtain ⟨name, attributes, part⟩ := reader
  obtain ⟨hpart, hattributes⟩ := h
  -- Names grow in four states; in all others they are complete and kept.
  cases part with
  | name letters qualified =>
    simp only [feed]
    split
    · rename_i hc
      exact ⟨Letters.cons hpart hc, hattributes⟩
    split
    · rename_i hc
      simp only [Bool.and_eq_true, decide_eq_true_eq, Bool.not_eq_true'] at hc
      obtain ⟨rfl, rfl⟩ := hc
      exact ⟨Letters.colon hpart, hattributes⟩
    · apply feedBoundary_wellNamed
      · exact Letters.isName hpart
      · exact hattributes
  | nameColon letters =>
    simp only [feed]
    split
    · rename_i hc
      exact ⟨AtColon.cons hpart (isNameChar_of_isNameStart hc), hattributes⟩
    · trivial
  | gap => exact feedGap_wellNamed hpart hattributes a cursor.position c
  | attrName letters qualified start =>
    obtain ⟨hname, hletters⟩ := hpart
    simp only [feed]
    split
    · rename_i hc
      exact ⟨⟨hname, hletters.cons hc⟩, hattributes⟩
    split
    · rename_i hc
      simp only [Bool.and_eq_true, decide_eq_true_eq, Bool.not_eq_true'] at hc
      obtain ⟨rfl, rfl⟩ := hc
      exact ⟨⟨hname, hletters.colon⟩, hattributes⟩
    split
    · exact ⟨⟨hname, qualified, hletters⟩, hattributes⟩
    split
    · exact ⟨⟨hname, qualified, hletters⟩, hattributes⟩
    · trivial
  | attrColon letters start =>
    obtain ⟨hname, hletters⟩ := hpart
    simp only [feed]
    split
    · rename_i hc
      exact ⟨⟨hname, hletters.cons (isNameChar_of_isNameStart hc)⟩, hattributes⟩
    · trivial
  | beforeEquals letters start =>
    simp only [feed]
    split
    · exact ⟨hpart, hattributes⟩
    split
    · exact ⟨hpart, hattributes⟩
    · trivial
  | afterEquals letters start =>
    simp only [feed]
    split
    · exact ⟨hpart, hattributes⟩
    split
    · exact ⟨hpart, hattributes⟩
    · trivial
  | value letters start quote first written reference =>
    cases reference with
    | none =>
      obtain ⟨hname, qualified, hletters⟩ := hpart
      exact feedValue_wellNamed hname hattributes hletters start quote first written c
    | some reference =>
      simp only [feed]
      split
      · exact ⟨hpart, hattributes⟩
      · exact ⟨hpart, hattributes⟩
      · exact ⟨hpart, hattributes⟩
      · trivial
  | afterValue => exact feedBoundary_wellNamed hpart hattributes c
  | slash =>
    simp only [feed]
    split
    · exact tag_wellNamed hpart hattributes
    · trivial

/-! ### Tokens and declarations -/

/-- Says that a name is one, if its form says so. -/
def Token.WellNamed : Token → Prop
  | .name .plain text _ | .name .qualified text _ => IsName text.toList
  | _ => True

/-- Says that the name being read, if any, is one so far. -/
def Lexing.WellNamed : Lexing → Prop
  | .name .plain letters => Letters false letters
  | .name .qualified letters => Letters true letters
  | .nameColon letters => AtColon letters
  | _ => True

/-- Says that a step leads to names only. -/
def Lexing.Step.WellNamed : Lexing.Step → Prop
  | .more lexing => lexing.WellNamed
  | .token complete | .before complete => complete.WellNamed
  | .split complete _ lexing => complete.WellNamed ∧ lexing.WellNamed
  | .invalid | .invalidAt _ => True

/-- A complete name is one, unless its form says nothing. -/
theorem Lexing.nameToken_wellNamed {form : NameForm} {letters : List Char}
    (h : (Lexing.name form letters).WellNamed) (counted : Bool) :
    (nameToken form letters counted).WellNamed := by
  cases form with
  | plain => exact Letters.isName h
  | qualified => exact Letters.isName h
  | loose => trivial

/-- One character of a name in a declaration. -/
theorem Lexing.feedName_wellNamed {form : NameForm} {letters : List Char}
    (h : (Lexing.name form letters).WellNamed) (a : Alphabet) (c : Char) :
    (feedName a form letters c).WellNamed := by
  unfold feedName
  split
  · rename_i hc
    cases form with
    | plain => exact Letters.cons h hc
    | qualified => exact Letters.cons h hc
    | loose => trivial
  split
  · rename_i hc
    subst hc
    split
    · exact Letters.colon h
    · trivial
  split
  · exact nameToken_wellNamed h false
  split
  · split
    · trivial
    · exact nameToken_wellNamed h true
  · trivial

/-- Between tokens a name may begin. -/
theorem Lexing.feedIdle_wellNamed (a : Alphabet) (c : Char) : (feedIdle a c).WellNamed := by
  fun_cases feedIdle a c with
  | case13 =>
    rename_i hc
    exact Letters.start hc
  | _ => trivial

/-- **One character of a declaration** leads from names to names. -/
theorem Lexing.feed_wellNamed {lexing : Lexing} (h : lexing.WellNamed) (a : Alphabet)
    (here : Position) (c : Char) : (lexing.feed a here c).WellNamed := by
  cases lexing with
  | idle => exact feedIdle_wellNamed a c
  | name form letters => exact feedName_wellNamed h a c
  | nameColon letters =>
    simp only [feed]
    split
    · rename_i hc
      exact AtColon.cons h hc
    split
    · trivial
    · -- What follows the colon makes it a loose name, of which nothing is said.
      have hloose : (Lexing.name .loose letters).WellNamed := trivial
      exact feedName_wellNamed hloose a c
  | _ => grind [feed, Lexing.Step.WellNamed, Lexing.WellNamed, Token.WellNamed]

/-- Says that the attribute that is being declared, if any, has a name. -/
def Expect.WellNamed : Expect → Prop
  | .attributeType head | .enumValue head _ | .enumConnector head _ | .formatList head
  | .attributeDefault head | .fixedValue head => IsName head.name.toList
  | _ => True

/-- Says that the declared attributes have names. -/
def Knowledge.WellNamed (k : Knowledge) : Prop :=
  ∀ entry ∈ k.attributes, ∀ rule ∈ entry.2, IsName rule.name.toList

/-- The attributes of each element have names. -/
theorem Knowledge.attributesOf_wellNamed {k : Knowledge} (h : k.WellNamed) (element : String) :
    ∀ rule ∈ k.attributesOf element, IsName rule.name.toList := by
  intro rule hrule
  unfold attributesOf at hrule
  cases hlookup : k.attributes.lookup element with
  | none =>
    rw [hlookup] at hrule
    cases hrule
  | some rules =>
    rw [hlookup] at hrule
    obtain ⟨front, back, hentries, -⟩ := List.lookup_eq_some_iff.1 hlookup
    exact h (element, rules) (by simp [hentries]) rule hrule

/-- One more attribute with a name is added to those of its element. -/
theorem Knowledge.define_wellNamed {k : Knowledge} (h : k.WellNamed) (element : String)
    {rule : AttributeRule} (hrule : IsName rule.name.toList) (identifier : Bool) :
    (k.define element rule identifier).WellNamed := by
  have hadd (rules : List (String × List AttributeRule))
      (hrules : ∀ entry ∈ rules, ∀ rule ∈ entry.2, IsName rule.name.toList) :
      ∀ entry ∈ addRule rules element rule, ∀ rule ∈ entry.2, IsName rule.name.toList := by
    -- The rule joins those of its element, or is the first of a new entry at the end.
    induction rules with
    | nil => simpa [addRule] using hrule
    | cons entry rules ih =>
      obtain ⟨hentry, hrest⟩ := List.forall_mem_cons.1 hrules
      unfold addRule
      split
      · refine List.forall_mem_cons.2 ⟨fun other hother => ?_, hrest⟩
        rcases List.mem_append.1 hother with hother | hother
        · exact hentry other hother
        · obtain rfl := List.mem_singleton.1 hother
          exact hrule
      · exact List.forall_mem_cons.2 ⟨hentry, ih hrest⟩
  unfold define
  split
  · exact h
  · exact hadd k.attributes h

/-- What is known otherwise does not matter. -/
theorem Knowledge.wellNamed_of_eq {k k' : Knowledge} (h : k.WellNamed)
    (heq : k'.attributes = k.attributes) : k'.WellNamed := by
  unfold WellNamed
  rw [heq]
  exact h

/-- Says that a declaration goes on with names only. -/
def Accepted : Except Failure (Expect × Knowledge) → Prop
  | .ok (expect, k) => expect.WellNamed ∧ k.WellNamed
  | .error _ => True

namespace Expect

variable {k : Knowledge}

/-- The end of a document type declares nothing. -/
theorem closeType_wellNamed (hk : k.WellNamed) : Accepted (closeType k) := by
  unfold closeType
  grind [Accepted, Expect.WellNamed]

/-- A token between declarations declares nothing. -/
theorem acceptSubset_wellNamed (hk : k.WellNamed) (start : Position) (token : Token) :
    Accepted (acceptSubset k start token) := by
  have hmeet : k.meetParameterReference.WellNamed := hk
  unfold acceptSubset
  grind [Accepted, Expect.WellNamed]

/-- An entity with a text declares no attribute. -/
theorem entityText_wellNamed (hk : k.WellNamed) (start : Position) (parameter : Bool)
    (name : String) (body : List Char) : Accepted (entityText k start parameter name body) := by
  unfold entityText
  grind [Accepted, Expect.WellNamed]

/-- An external entity declares none either. -/
theorem entityExternal_wellNamed (hk : k.WellNamed) (parameter : Bool) (name : String)
    (id : ExternalId) {next : Expect} (hnext : next.WellNamed) :
    Accepted (entityExternal k parameter name id next) := by
  unfold entityExternal
  grind [Accepted]

/-- An attribute is declared by its name, without a default. -/
theorem declareAttribute_wellNamed (hk : k.WellNamed) {head : AttributeHead}
    (hhead : IsName head.name.toList) : (declareAttribute k head).WellNamed := by
  unfold declareAttribute
  split
  · exact hk
  · apply Knowledge.define_wellNamed hk
    exact hhead

/-- With a default it has the same name. -/
theorem declareDefault_wellNamed (hk : k.WellNamed) {start : Position} {head : AttributeHead}
    (hhead : IsName head.name.toList) {body : List Char} {k' : Knowledge}
    (h : declareDefault k start head body = .ok k') : k'.WellNamed := by
  unfold declareDefault at h
  split at h
  · obtain rfl := Except.ok.inj h
    exact hk
  dsimp only at h
  split at h
  · cases h
  · obtain rfl := Except.ok.inj h
    apply Knowledge.define_wellNamed hk
    exact hhead

/-- In the content of an element no attribute is being declared. -/
theorem acceptModel_wellNamed {part : ModelPart} {token : Token} {next : Expect}
    (h : acceptModel part token = some next) : next.WellNamed := by
  unfold acceptModel at h
  grind [Expect.WellNamed]

/-- **One token of a declaration** leads from names to names, in every state. -/
theorem accept_wellNamed {expect : Expect} {token : Token} (hexpect : expect.WellNamed)
    (hk : k.WellNamed) (htoken : token.WellNamed) (start : Position) :
    Accepted (expect.accept k start token) := by
  fun_cases accept expect k start token
  all_goals grind [Accepted, Expect.WellNamed, Token.WellNamed, Knowledge.wellNamed_of_eq,
    closeType_wellNamed, acceptSubset_wellNamed, entityText_wellNamed, entityExternal_wellNamed,
    declareAttribute_wellNamed, declareDefault_wellNamed, acceptModel_wellNamed]

end Expect

/-! ### The names of a start tag -/

/-- A name is expanded by its parts. -/
theorem Scope.expandAttribute_inParts {scope : Scope} {name : String} {e : Expansion}
    (hname : IsName name.toList) (h : scope.expandAttribute name = .ok e) : e.InParts := by
  unfold expandAttribute at h
  rcases hname with hpart | ⟨qualifier, back, hsplit, hqualifier, hback⟩
  · rw [splitAtColon_of_isPart hpart] at h
    obtain rfl := Except.ok.inj h
    exact ⟨hpart, by simp⟩
  · rw [hsplit, splitAtColon_append hqualifier] at h
    dsimp only at h
    split at h
    · cases h
    · obtain rfl := Except.ok.inj h
      refine ⟨by rwa [String.toList_ofList], ?_⟩
      rintro _ ⟨⟩
      rwa [String.toList_ofList]

/-- An element differs only in the namespace of a name without a colon. -/
theorem Scope.expandElement_inParts {scope : Scope} {name : String} {e : Expansion}
    (hname : IsName name.toList) (h : scope.expandElement name = .ok e) : e.InParts := by
  unfold expandElement at h
  split at h
  · rename_i hcolon
    obtain rfl := Except.ok.inj h
    rcases hname with hpart | ⟨qualifier, back, hsplit, hqualifier, -⟩
    · exact ⟨hpart, by simp⟩
    · rw [hsplit, splitAtColon_append hqualifier] at hcolon
      cases hcolon
  · exact expandAttribute_inParts hname h

namespace Tag

/-- Says that the kept names are names. -/
def Sorting.WellNamed (s : Sorting) : Prop :=
  ∀ name ∈ s.names, IsName name.toList

/-- An attribute is kept by its name, or it is a declaration and not kept. -/
theorem Sorting.add_wellNamed {s s' : Sorting} {name value : String} (hs : s.WellNamed)
    (hname : IsName name.toList) (h : s.add name value = .ok s') : s'.WellNamed := by
  unfold Sorting.add at h
  split at h
  · obtain rfl := Except.ok.inj h
    exact List.forall_mem_cons.2 ⟨hname, hs⟩
  · split at h
    · cases h
    · obtain rfl := Except.ok.inj h
      exact hs

/-- The written attributes that are kept have names. -/
theorem sortWritten_wellNamed {k : Knowledge} {rules : List AttributeRule} {position : Position}
    {seen : List String} {s s' : Sorting} {written : List WrittenAttribute} (hs : s.WellNamed)
    (hwritten : ∀ a ∈ written, IsName a.name.toList)
    (h : sortWritten k rules position seen s written = .ok s') : s'.WellNamed := by
  induction written generalizing seen s with
  | nil =>
    obtain rfl := Except.ok.inj h
    exact hs
  | cons a rest ih =>
    obtain ⟨ha, hrest⟩ := List.forall_mem_cons.1 hwritten
    unfold sortWritten at h
    split at h
    · cases h
    dsimp only at h
    split at h
    · cases h
    split at h
    · cases h
    · rename_i added hadd
      exact ih (Sorting.add_wellNamed hs ha hadd) hrest h

/-- Those with defaults that are added to them have names, too. -/
theorem sortDeclared_wellNamed {seen : List String} {s s' : Sorting} {rules : List AttributeRule}
    (hs : s.WellNamed) (hrules : ∀ rule ∈ rules, IsName rule.name.toList)
    (h : sortDeclared seen s rules = .ok s') : s'.WellNamed := by
  induction rules generalizing s with
  | nil =>
    obtain rfl := Except.ok.inj h
    exact hs
  | cons rule rest ih =>
    obtain ⟨hrule, hrest⟩ := List.forall_mem_cons.1 hrules
    unfold sortDeclared at h
    split at h
    · exact ih hs hrest h
    split at h
    · exact ih hs hrest h
    split at h
    · cases h
    · rename_i added hadd
      exact ih (Sorting.add_wellNamed hs hrule hadd) hrest h

/-- The names of attributes are expanded by their parts, one after the other. -/
theorem expandAttributes_inParts {scope : Scope} {done es : List Expansion} {names : List String}
    (hdone : ∀ e ∈ done, e.InParts) (hnames : ∀ name ∈ names, IsName name.toList)
    (h : expandAttributes scope done names = .ok es) : ∀ e ∈ es, e.InParts := by
  induction names generalizing done with
  | nil =>
    obtain rfl := Except.ok.inj h
    intro e he
    exact hdone e (List.mem_reverse.1 he)
  | cons name rest ih =>
    obtain ⟨hname, hrest⟩ := List.forall_mem_cons.1 hnames
    unfold expandAttributes at h
    split at h
    · cases h
    rename_i e hexpand
    split at h
    · cases h
    · exact ih (List.forall_mem_cons.2 ⟨scope.expandAttribute_inParts hname hexpand, hdone⟩) hrest h

/-- The expansions of a start tag: its element's name first, then its attributes' names. -/
def Expanded.expansions (x : Expanded) : List Expansion :=
  x.element :: x.attributes

/-- All expansions of a start tag have parts, if the names in it and in the declarations are names.
-/
theorem expanded_inParts {k : Knowledge} {scope : Scope} {position : Position} {tag : Tag}
    {x : Expanded} (hk : k.WellNamed) (htag : tag.WellNamed)
    (h : tag.expanded k scope position = .ok x) : ∀ e ∈ x.expansions, e.InParts := by
  obtain ⟨s, hwritten, hdeclared, hattributes, helement⟩ := expanded_eq_ok h
  have hs : s.WellNamed := sortWritten_wellNamed (by simp [Sorting.WellNamed]) htag.2 hwritten
  have hx : x.sorting.WellNamed :=
    sortDeclared_wellNamed hs (k.attributesOf_wellNamed hk tag.name) hdeclared
  have hnames : ∀ name ∈ x.sorting.names.reverse, IsName name.toList :=
    fun name hname => hx name (List.mem_reverse.1 hname)
  refine List.forall_mem_cons.2 ⟨Scope.expandElement_inParts htag.1 helement, ?_⟩
  exact expandAttributes_inParts (by simp) hnames hattributes

/-- A list of names fails for one of them. -/
theorem names?_eq_none_iff (es : List Expansion) :
    names? es = none ↔ ∃ e ∈ es, e.name? = none := by
  induction es with
  | nil => simp [names?]
  | cons e es ih =>
    have hcons : names? (e :: es) = none ↔ e.name? = none ∨ names? es = none := by
      rw [names?, List.mapM_cons]
      cases e.name? with
      | none => simp
      | some name => cases hnames : es.mapM Expansion.name? <;> simp [names?, hnames]
    rw [hcons, ih]
    simp

/-- A start tag fails for the parts of its names exactly if it can be expanded and one of the
expansions is overlong. -/
theorem resolve_eq_tooManyNameParts_iff {k : Knowledge} {scope : Scope} {position : Position}
    {tag : Tag} (hk : k.WellNamed) (htag : tag.WellNamed) :
    tag.resolve k scope position = .error .tooManyNameParts ↔
      ∃ x, tag.expanded k scope position = .ok x ∧ ∃ e ∈ x.expansions, e.isOverlong = true := by
  rw [resolve_eq]
  cases h : tag.expanded k scope position with
  | error e =>
    -- What the expansion fails for is reported, and too many parts are not.
    have hreported : e.isReported = true := expanded_reported k scope position tag e h
    constructor
    · intro hresolve
      obtain rfl := Except.error.inj hresolve
      cases hreported
    · rintro ⟨x, ⟨⟩, -⟩
  | ok x =>
    have hparts := expanded_inParts hk htag h
    have hopening : x.opening = .error .tooManyNameParts ↔
        x.element.name? = none ∨ names? x.attributes = none := by
      unfold Expanded.opening
      cases x.element.name? <;> cases names? x.attributes <;> simp
    have hall : x.opening = .error .tooManyNameParts ↔ ∃ e ∈ x.expansions, e.name? = none := by
      rw [hopening, names?_eq_none_iff]
      simp [Expanded.expansions]
    constructor
    · intro hresolve
      obtain ⟨e, he, hname⟩ := hall.1 hresolve
      exact ⟨x, rfl, e, he, (Expansion.name?_eq_none_iff (hparts e he)).1 hname⟩
    · rintro ⟨_, ⟨⟩, e, he, hlong⟩
      exact hall.2 ⟨e, he, (Expansion.name?_eq_none_iff (hparts e he)).2 hlong⟩

end Tag

end Xml

end AttrLint
