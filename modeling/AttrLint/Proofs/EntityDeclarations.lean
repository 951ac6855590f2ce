import AttrLint.Proofs.DefaultNamespace

namespace AttrLint

namespace Xml

/-!
# Declared entities

A document that declares an entity is refused at the end of the declaration, so nothing that follows
it matters: neither what is well-formed nor what is not, nor bytes that are no text.  This file
follows the reader through the tokens before the root element.

* `Lexing.Goes`, `Lexing.Spells`, `Lexing.Stops` — the characters of a token, a token that is
  complete, and one that cannot go on.
* `Reader.Expects` — where the reader stands before the root element.
* `Reader.Expects.run_token`, `Reader.Expects.stage_refused` — a token that may come, and one that
  may not.
* `Reader.Expects.stage_entity` — the declaration of an entity ends the reading.
* `Document.entity_declarations_refused` — the main statement.
-/

namespace Lexing

/-! ### Characters of a token -/

/-- Says that the characters go on with a token, and that none of them completes it. -/
inductive Goes : Lexing → List Char → Lexing → Prop
  | nil {lexing : Lexing} : Goes lexing [] lexing
  | cons {lexing next last : Lexing} {c : Char} {cs : List Char}
      (hfeed : ∀ here, lexing.feed .sequences here c = .more next) (hrest : Goes next cs last) :
      Goes lexing (c :: cs) last

/-- Says that the text is a whole token if the character `c` follows. -/
def Spells (s : List Char) (c : Char) (token : Token) : Prop :=
  ∃ last, Goes .idle s last ∧ ∀ here, last.feed .sequences here c = .before token

/-- Says that a character of the text cannot stand in the token that begins with the text. -/
def Stops (s : List Char) : Prop :=
  ∃ good d bad last, s = good ++ d :: bad ∧ Goes .idle good last ∧
    ∀ here, last.feed .sequences here d = .invalid

/-- Two texts that go on with a token do so together. -/
theorem Goes.append {lexing next last : Lexing} {s t : List Char} (hs : Goes lexing s next)
    (ht : Goes next t last) : Goes lexing (s ++ t) last := by
  induction hs with
  | nil => exact ht
  | cons hfeed _ ih => exact .cons hfeed (ih ht)

/-- Characters that a token collects, each like the one before. -/
theorem goes_letters {lexing : List Char → Lexing} {s : List Char}
    (h : ∀ c ∈ s, ∀ letters here,
      (lexing letters).feed .sequences here c = .more (lexing (c :: letters)))
    (letters : List Char) : Goes (lexing letters) s (lexing (s.reverse ++ letters)) := by
  induction s generalizing letters with
  | nil => exact .nil
  | cons c cs ih =>
    rw [List.reverse_cons, List.append_assoc, List.singleton_append]
    exact .cons (h c List.mem_cons_self letters)
      (ih (fun d hd => h d (List.mem_cons_of_mem c hd)) (c :: letters))

/-- The keyword of a declaration. -/
theorem spells_keyword {keyword : String} (hne : keyword.toList ≠ [])
    (h : ∀ c ∈ keyword.toList, isKeywordChar .sequences c = true) :
    Spells ('<' :: '!' :: keyword.toList) ' ' (.declaration keyword) := by
  obtain ⟨c, cs, hkeyword⟩ := List.exists_cons_of_ne_nil hne
  rw [hkeyword, List.forall_mem_cons] at h
  have hfirst (here : Position) : Lexing.bang.feed .sequences here c = .more (.keyword [c]) := by
    rw [feed, if_neg, if_neg, if_pos h.1]
    · rintro rfl
      exact absurd h.1 (by decide)
    · rintro rfl
      exact absurd h.1 (by decide)
  have hletters : Goes (.keyword [c]) cs (.keyword (cs.reverse ++ [c])) := by
    apply goes_letters
    intro d hd letters here
    rw [feed, if_pos (h.2 d hd)]
  rw [hkeyword]
  refine ⟨_, .cons (fun _ => rfl) (.cons (fun _ => rfl) (.cons hfirst hletters)), fun here => ?_⟩
  have hspelled : spelled (cs.reverse ++ [c]) = keyword := by
    rw [spelled, List.reverse_append, List.reverse_reverse, List.reverse_singleton,
      List.singleton_append, ← hkeyword, String.ofList_toList]
  show Step.before (.declaration (spelled (cs.reverse ++ [c]))) = _
  rw [hspelled]

/-- A text in double quotes. -/
theorem spells_literal {value : List Char} (h : '"' ∉ value) :
    Spells ('"' :: (value ++ ['"'])) '>' (.literal value) := by
  have hbody : Goes (.literal '"' []) value (.literal '"' (value.reverse ++ [])) := by
    apply goes_letters
    intro c hc letters here
    rw [feed, if_neg]
    rintro rfl
    exact h hc
  refine ⟨.quoted (value.reverse ++ []), ?_, fun here => ?_⟩
  · exact .cons (fun _ => rfl) (hbody.append (.cons (fun _ => rfl) .nil))
  · show Step.before (.literal (value.reverse ++ []).reverse) = _
    simp

/-! ### Names -/

/-- The characters that are looked for in the markup before the root element and are no part of a
name. -/
def signs : List Char :=
  [' ', '\n', '\t', '\r', '<', '"', '\'', '%', ',', '[', ']', '(', ')', '|', '>', '#', ':', '+',
   '*', '?']

/-- A character of a name, or one beyond ASCII, is none of the signs. -/
theorem ne_of_mem_signs {c : Char} (h : isNameChar .sequences c = true ∨ 0x80 ≤ c.toNat) :
    ∀ d ∈ signs, c ≠ d := by
  have hsigns : signs.all (fun d => !isNameChar .sequences d && d.toNat < 0x80) = true := by decide
  rintro d hd rfl
  have hc := List.all_eq_true.mp hsigns c hd
  rw [Bool.and_eq_true, Bool.not_eq_true', decide_eq_true_eq] at hc
  obtain hname | hhigh := h
  · rw [hc.1] at hname
    cases hname
  · omega

/-- The form of a name by its first character. -/
def formOf (c : Char) : NameForm :=
  if isNameStart .sequences c then .plain else .loose

/-- The first character of what may be a name. -/
theorem feedIdle_of_name {c : Char} (h : isNameChar .sequences c = true ∨ 0x80 ≤ c.toNat) :
    feedIdle .sequences c =
      if isNameChar .sequences c then .more (.name (formOf c) [c]) else .invalid := by
  have hsigns := ne_of_mem_signs h
  simp only [signs, List.forall_mem_cons] at hsigns
  cases hc : isNameStart .sequences c with
  | true =>
    have hname : isNameChar .sequences c = true := isNameChar_of_isNameStart hc
    simp [feedIdle, isSpace, formOf, hsigns, hc, hname]
  | false => simp [feedIdle, isSpace, formOf, hsigns, hc]

/-- A later character of what may be a name. -/
theorem feedName_of_name {c : Char} (h : isNameChar .sequences c = true ∨ 0x80 ≤ c.toNat)
    (form : NameForm) (letters : List Char) :
    feedName .sequences form letters c =
      if isNameChar .sequences c then .more (.name form (c :: letters)) else .invalid := by
  have hsigns := ne_of_mem_signs h
  simp only [signs, List.forall_mem_cons] at hsigns
  simp [feedName, isSpace, hsigns]

/-- The characters of a name, or of a text that only its first character keeps from being one. -/
theorem goes_name {c : Char} {cs : List Char} (hc : isNameChar .sequences c = true)
    (hcs : ∀ d ∈ cs, isNameChar .sequences d = true) :
    Goes .idle (c :: cs) (.name (formOf c) (cs.reverse ++ [c])) := by
  have hfirst (here : Position) : Lexing.idle.feed .sequences here c =
      .more (.name (formOf c) [c]) := by
    rw [feed, feedIdle_of_name (.inl hc), if_pos hc]
  refine .cons hfirst (goes_letters ?_ [c])
  intro d hd letters here
  rw [feed, feedName_of_name (.inl (hcs d hd)), if_pos (hcs d hd)]

/-- A text of name characters is a token, whatever it begins with. -/
theorem spells_loose {c : Char} {cs : List Char} (hc : isNameChar .sequences c = true)
    (hcs : ∀ d ∈ cs, isNameChar .sequences d = true) :
    Spells (c :: cs) ' ' (.name (formOf c) (String.ofList (c :: cs)) false) := by
  refine ⟨_, goes_name hc hcs, fun here => ?_⟩
  show Step.before (nameToken (formOf c) (cs.reverse ++ [c]) false) = _
  simp [nameToken, spelled]

/-- A name without a colon is a token, up to the next space. -/
theorem spells_name {name : List Char} (h : isLocalName name = true) :
    Spells name ' ' (.name .plain (String.ofList name) false) := by
  obtain ⟨c, cs, rfl, hstart, hcs⟩ := isLocalName_eq h
  have hform : formOf c = .plain := if_pos hstart
  rw [← hform]
  exact spells_loose (isNameChar_of_isNameStart hstart) hcs

/-- A text that is a name in another edition only is not taken for one. -/
theorem spells_or_stops {name : List Char} (hname : mayBeName name = true)
    (hlocal : isLocalName name = false) :
    Spells name ' ' (.name .loose (String.ofList name) false) ∨ Stops name := by
  cases name with
  | nil => cases hname
  | cons c cs =>
    rw [mayBeName, Bool.and_eq_true, Bool.or_eq_true, List.all_eq_true] at hname
    have hread : isNameChar .sequences c = true ∨ 0x80 ≤ c.toNat :=
      hname.1.imp isNameChar_of_isNameStart high_of_isDisputed
    by_cases hc : isNameChar .sequences c = true
    · cases hcs : cs.all (isNameChar .sequences) with
      | true =>
        -- All of it can go on with a name, so the first character cannot begin one.
        rw [isLocalName, hcs, Bool.and_true] at hlocal
        have hform : formOf c = .loose := by rw [formOf, hlocal, if_neg Bool.false_ne_true]
        rw [← hform]
        exact .inl (spells_loose hc (List.all_eq_true.mp hcs))
      | false =>
        obtain ⟨good, d, bad, rfl, hgood, hd, hhigh⟩ := exists_first_disputed hname.2 hcs
        refine .inr ⟨c :: good, d, bad, _, rfl, goes_name hc hgood, fun here => ?_⟩
        rw [feed, feedName_of_name (.inr hhigh), hd, if_neg Bool.false_ne_true]
    · refine .inr ⟨[], c, cs, .idle, rfl, .nil, fun here => ?_⟩
      rw [feed, feedIdle_of_name hread, if_neg hc]

end Lexing

namespace Reader

/-! ### Tokens before the root element -/

/-- Says that the reader of a UTF-8 document stands before the root element, at the given part of a
token, and that declarations count. -/
structure Expects (r : Reader) (expect : Expect) (lexing : Lexing) : Prop where
  alphabet : r.encoding.alphabet = .sequences
  stage : r.stage = .before expect lexing
  counts : r.knowledge.ignoring = false

/-- A reader starts before the root element, between two tokens. -/
theorem expects_start : Expects (.start .utf8 .start false) (.root false) .idle :=
  ⟨rfl, rfl, rfl⟩

/-- A token that is accepted says what may come next. -/
theorem takeBefore_of_ok {expect next : Expect} {r : Reader} {token : Token} {k : Knowledge}
    (h : expect.accept r.knowledge r.tokenStart token = .ok (next, k)) :
    takeBefore expect r token = { r with stage := .before next .idle, knowledge := k } := by
  unfold takeBefore
  split
  · cases h
  · rw [takeToken, h]

/-- A token that is refused is the failure. -/
theorem takeBefore_of_error {expect : Expect} {r : Reader} {token : Token} {e : Failure}
    (helement : token ≠ .element) (h : expect.accept r.knowledge r.tokenStart token = .error e) :
    takeBefore expect r token = { r with stage := .failed e } := by
  unfold takeBefore
  split
  · exact absurd rfl helement
  · rw [takeToken, h]

namespace Expects

variable {r : Reader} {expect next : Expect} {lexing lexing' : Lexing} {token : Token} {c : Char}
  {e : Position → Failure}

/-- To mark the start of a token changes nothing that matters here. -/
theorem marked (h : r.Expects expect lexing) (lexing' : Lexing) :
    (r.marked lexing').Expects expect lexing := by
  obtain ⟨position, hmarked⟩ := marked_eq r lexing'
  rw [hmarked]
  exact ⟨h.alphabet, h.stage, h.counts⟩

/-- A token that may come. -/
theorem takeBefore (h : r.Expects expect lexing)
    (haccept : ∀ k start, expect.accept k start token = .ok (next, k)) :
    (takeBefore expect r token).Expects next .idle := by
  rw [takeBefore_of_ok (haccept _ _)]
  exact ⟨h.alphabet, rfl, h.counts⟩

/-- One that may not. -/
theorem stage_takeBefore (h : r.Expects expect lexing) (helement : token ≠ .element)
    (hrefuse : ∀ k start, k.ignoring = false → expect.accept k start token = .error (e start)) :
    ∃ start, (Reader.takeBefore expect r token).stage = .failed (e start) := by
  rw [takeBefore_of_error helement (hrefuse _ _ h.counts)]
  exact ⟨r.tokenStart, rfl⟩

/-- A character that goes on with a token. -/
theorem feed_more (h : r.Expects expect lexing) (turns : Nat)
    (hfeed : ∀ here, lexing.feed .sequences here c = .more lexing') :
    (feed (turns + 1) r c).Expects expect lexing' := by
  have hmarked := h.marked lexing
  rw [feed_before h.stage, turn, hmarked.alphabet, hfeed]
  exact ⟨hmarked.alphabet, rfl, hmarked.counts⟩

/-- A character that completes a token, which may come. -/
theorem feed_token (h : r.Expects expect lexing) (turns : Nat)
    (hfeed : ∀ here, lexing.feed .sequences here c = .token token)
    (haccept : ∀ k start, expect.accept k start token = .ok (next, k)) :
    (feed (turns + 1) r c).Expects next .idle := by
  have hmarked := h.marked lexing
  rw [feed_before h.stage, turn, hmarked.alphabet, hfeed]
  exact hmarked.takeBefore haccept

/-- A character that completes a token, if that is refused. -/
theorem stage_feed_token (h : r.Expects expect lexing) (turns : Nat)
    (hfeed : ∀ here, lexing.feed .sequences here c = .token token) (helement : token ≠ .element)
    (hrefuse : ∀ k start, k.ignoring = false → expect.accept k start token = .error (e start)) :
    ∃ start, (feed (turns + 1) r c).stage = .failed (e start) := by
  have hmarked := h.marked lexing
  rw [feed_before h.stage, turn, hmarked.alphabet, hfeed]
  exact hmarked.stage_takeBefore helement hrefuse

/-- A character before which a token is complete that may come: reading goes on with the same
character. -/
theorem feed_ends (h : r.Expects expect lexing) (turns : Nat)
    (hfeed : ∀ here, lexing.feed .sequences here c = .before token)
    (haccept : ∀ k start, expect.accept k start token = .ok (next, k)) :
    ∃ r' : Reader, r'.Expects next .idle ∧ feed (turns + 1) r c = feed turns r' c := by
  have hmarked := h.marked lexing
  refine ⟨_, hmarked.takeBefore haccept, ?_⟩
  rw [feed_before h.stage, turn, hmarked.alphabet, hfeed]

/-- A character behind a token, if that is refused; it takes one more turn. -/
theorem stage_feed_ends (h : r.Expects expect lexing) (turns : Nat)
    (hfeed : ∀ here, lexing.feed .sequences here c = .before token) (helement : token ≠ .element)
    (hrefuse : ∀ k start, k.ignoring = false → expect.accept k start token = .error (e start)) :
    ∃ start, (feed (turns + 2) r c).stage = .failed (e start) := by
  have hmarked := h.marked lexing
  obtain ⟨start, hstage⟩ := hmarked.stage_takeBefore helement hrefuse
  refine ⟨start, ?_⟩
  rw [feed_before h.stage, turn, hmarked.alphabet, hfeed]
  show (feed (turns + 1) _ c).stage = _
  simp only [feed, hstage]

/-- A character that cannot stand in its token. -/
theorem stage_feed_invalid (h : r.Expects expect lexing) (turns : Nat)
    (hfeed : ∀ here, lexing.feed .sequences here c = .invalid) :
    ∃ position, (feed (turns + 1) r c).stage = .failed (.fault .invalidToken position) := by
  have hmarked := h.marked lexing
  rw [feed_before h.stage, turn, hmarked.alphabet, hfeed]
  exact ⟨_, rfl⟩

/-! ### Texts before the root element -/

/-- A step is three turns at most, and then the cursor moves on. -/
theorem step_eq (h : r.Expects expect lexing) (c : Char) :
    r.step c = { feed 3 r c with cursor := r.cursor.advance c, last := r.cursor.position } := by
  rw [step, h.stage]

/-- The cursor does not matter for what is expected. -/
theorem step (h : r.Expects expect lexing) (hfeed : (feed 3 r c).Expects next lexing') :
    (r.step c).Expects next lexing' := by
  rw [h.step_eq]
  exact ⟨hfeed.alphabet, hfeed.stage, hfeed.counts⟩

/-- Nor does it matter for the stage. -/
theorem stage_step (h : r.Expects expect lexing) (c : Char) :
    (r.step c).stage = (feed 3 r c).stage := by
  rw [h.step_eq]

/-- Characters that go on with a token, by induction on them. -/
theorem run_goes (h : r.Expects expect lexing) {s : List Char}
    (hs : Lexing.Goes lexing s lexing') : (r.run s).Expects expect lexing' := by
  induction hs generalizing r with
  | nil => exact h
  | cons hfeed _ ih =>
    rw [run_cons]
    exact ih (h.step (h.feed_more 2 hfeed))

section

variable {s : List Char} (h : r.Expects expect .idle) (hs : Lexing.Spells s c token)

include h hs

/-- A whole token, before the character that follows it. -/
theorem run_spells :
    ∃ (r' : Reader) (last : Lexing), r'.Expects expect last ∧
      (∀ here, last.feed .sequences here c = .before token) ∧ r.run (s ++ [c]) = r'.step c := by
  obtain ⟨last, hgoes, hlast⟩ := hs
  exact ⟨r.run s, last, h.run_goes hgoes, hlast, by simp⟩

/-- A token that may come, and the first character of the next one. -/
theorem run_token (haccept : ∀ k start, expect.accept k start token = .ok (next, k))
    (hfirst : ∀ here, Lexing.idle.feed .sequences here c = .more lexing') :
    (r.run (s ++ [c])).Expects next lexing' := by
  obtain ⟨r', last, hr', hlast, hrun⟩ := h.run_spells hs
  obtain ⟨r'', hr'', hfeed⟩ := hr'.feed_ends 2 hlast haccept
  rw [hrun]
  apply hr'.step
  rw [hfeed]
  exact hr''.feed_more 1 hfirst

/-- A token that may not come. -/
theorem stage_refused (helement : token ≠ .element)
    (hrefuse : ∀ k start, k.ignoring = false → expect.accept k start token = .error (e start)) :
    ∃ start, (r.run (s ++ [c])).stage = .failed (e start) := by
  obtain ⟨r', last, hr', hlast, hrun⟩ := h.run_spells hs
  rw [hrun, hr'.stage_step]
  exact hr'.stage_feed_ends 1 hlast helement hrefuse

/-- A token that may come, and a character that is a token and may not. -/
theorem stage_closed {sign : Token}
    (haccept : ∀ k start, expect.accept k start token = .ok (next, k))
    (hsign : ∀ here, Lexing.idle.feed .sequences here c = .token sign) (helement : sign ≠ .element)
    (hrefuse : ∀ k start, k.ignoring = false → next.accept k start sign = .error (e start)) :
    ∃ start, (r.run (s ++ [c])).stage = .failed (e start) := by
  obtain ⟨r', last, hr', hlast, hrun⟩ := h.run_spells hs
  obtain ⟨r'', hr'', hfeed⟩ := hr'.feed_ends 2 hlast haccept
  rw [hrun, hr'.stage_step, hfeed]
  exact hr''.stage_feed_token 1 hsign helement hrefuse

end

/-- A text that is no name for the reader, in the place of a name. -/
theorem stage_misnamed (h : r.Expects expect .idle) {name : List Char}
    (hname : mayBeName name = true) (hlocal : isLocalName name = false)
    (hloose : ∀ k start text,
      expect.accept k start (.name .loose text false) = .error (.fault .misplacedToken start)) :
    ∃ problem position, (r.run (name ++ [' '])).stage = .failed (.fault problem position) := by
  obtain hspells | ⟨good, d, bad, last, rfl, hgoes, hd⟩ := Lexing.spells_or_stops hname hlocal
  · exact ⟨_, h.stage_refused hspells (by simp) fun k start _ => hloose k start _⟩
  · -- The reading comes to the character that cannot go on, and stays there.
    have hgood := h.run_goes hgoes
    obtain ⟨position, hfailed⟩ := hgood.stage_feed_invalid 2 hd
    rw [← hgood.stage_step] at hfailed
    refine ⟨.invalidToken, position, ?_⟩
    simp [run_failed _ _ hfailed, hfailed]

end Expects

end Reader

/-! ### Declarations of entities -/

/-- The beginning of a document type declaration, up to the declarations in it. -/
def typeFront (root : List Char) : List Char :=
  '<' :: '!' :: ("DOCTYPE".toList ++ ' ' :: (root ++ [' ', '[']))

/-- The declaration of an entity whose text is `value`, or for which `value` says where its text is
if it is external. -/
def entityDeclaration (name : List Char) (external : Bool) (value : List Char) : List Char :=
  '<' :: '!' :: ("ENTITY".toList ++ ' ' :: (name ++ ' ' ::
    ((if external then "SYSTEM ".toList else []) ++ '"' :: (value ++ ['"', '>']))))

example : typeFront ['r'] ++ entityDeclaration ['e'] true ['v'] =
    "<!DOCTYPE r [<!ENTITY e SYSTEM \"v\">".toList := by
  decide

/-- The identifier that comes with the refusal of such an entity. -/
def entityId (external : Bool) (value : List Char) : ExternalId :=
  ⟨if external then some (String.ofList value) else none, none⟩

namespace Reader.Expects

open Lexing

variable {r : Reader} {root name value : List Char}

/-- The beginning of a document type: its name is expected. -/
theorem run_typeName (h : r.Expects (.root false) .idle) :
    (r.run ('<' :: '!' :: "DOCTYPE".toList ++ [' '])).Expects .typeName .idle :=
  h.run_token (spells_keyword (by decide) (List.all_eq_true.mp (by decide))) (fun _ _ => rfl)
    fun _ => rfl

/-- The document type up to its bracket: declarations are expected. -/
theorem run_typeFront (h : r.Expects (.root false) .idle) (hroot : isLocalName root = true) :
    (r.run (typeFront root)).Expects .subset .idle := by
  have hsplit : typeFront root =
      ('<' :: '!' :: "DOCTYPE".toList ++ [' ']) ++ ((root ++ [' ']) ++ ['[']) := by
    simp [typeFront]
  have hbody : (((r.run ('<' :: '!' :: "DOCTYPE".toList ++ [' '])).run (root ++ [' ']))).Expects
      .typeBody .idle :=
    h.run_typeName.run_token (spells_name hroot) (fun _ _ => rfl) fun _ => rfl
  rw [hsplit, run_append, run_append, run_cons, run_nil]
  exact hbody.step (hbody.feed_token 2 (fun _ => rfl) fun _ _ => rfl)

/-- The beginning of an entity declaration: its name is expected. -/
theorem run_entityName (h : r.Expects .subset .idle) :
    (r.run ('<' :: '!' :: "ENTITY".toList ++ [' '])).Expects .entityStart .idle :=
  h.run_token (spells_keyword (by decide) (List.all_eq_true.mp (by decide))) (fun _ _ => rfl)
    fun _ => rfl

/-- The declaration of an entity that is not predefined ends the reading. -/
theorem stage_entity (h : r.Expects .subset .idle) (hname : isLocalName name = true)
    (hown : predefinedEntity? (String.ofList name) = none) (hvalue : '"' ∉ value)
    (external : Bool) :
    (r.run (entityDeclaration name external value)).stage =
      .failed (.entity (String.ofList name) (entityId external value)) := by
  have hkept (k : Knowledge) (hk : k.ignoring = false) :
      Expect.isKept k false (String.ofList name) = true := by
    simp [Expect.isKept, hk, hown]
  have hsplit : entityDeclaration name external value =
      ('<' :: '!' :: "ENTITY".toList ++ [' ']) ++ ((name ++ [' ']) ++
        ((if external then "SYSTEM".toList ++ [' '] else []) ++
          ('"' :: (value ++ ['"']) ++ ['>']))) := by
    cases external <;> simp [entityDeclaration]
  have hbody := h.run_entityName.run_token (spells_name hname) (fun _ _ => rfl) fun _ => rfl
  rw [hsplit, run_append, run_append, run_append]
  cases external with
  | false =>
    -- The text itself completes the declaration as far as the refusal is concerned.
    obtain ⟨-, hfailed⟩ := hbody.stage_refused (spells_literal hvalue) (by simp)
      fun k start hk => if_pos (hkept k hk)
    exact hfailed
  | true =>
    have hsystem : (Reader.run _ ("SYSTEM".toList ++ [' '])).Expects
        (.entitySystem false (String.ofList name) none) .idle :=
      hbody.run_token (spells_name (by decide)) (fun _ _ => rfl) fun _ => rfl
    obtain ⟨-, hfailed⟩ := hsystem.stage_closed (spells_literal hvalue) (fun _ _ => rfl)
      (fun _ => rfl) (by simp) fun k start hk => if_pos (hkept k hk)
    exact hfailed

end Reader.Expects

/-! ### Bytes after the declaration -/

/-- A failure at the front of a document is that of the whole, whatever bytes follow. -/
theorem events_of_failed {c : Char} {text front : List Char} {e : Failure}
    (hlegal : ('<' :: c :: text).all isLegal = true) (hquestion : c ≠ '?')
    (hfront : front <+: '<' :: c :: text)
    (hfailed : ((Reader.start .utf8 .start false).run front).stage = .failed e)
    (rest : List UInt8) :
    events (Text.Utf8.encode ('<' :: c :: text) ++ rest) = .error e := by
  obtain ⟨more, hchars⟩ := chars_decodeUtf8_append hlegal rest
  have hread : front <+: (decodeUtf8 (Text.Utf8.encode ('<' :: c :: text) ++ rest)).chars := by
    rw [hchars]
    exact hfront.trans (List.prefix_append _ _)
  simp only [events, body_encode hlegal hquestion, Body.events, Body.reader, Body.decoded,
    Encoding.decode]
  exact Reader.finish_of_failed hread hfailed _

/-- The front of a document that declares an entity before anything else. -/
def entityFront (root name : List Char) (external : Bool) (value : List Char) : List Char :=
  typeFront root ++ entityDeclaration name external value

section

variable {root name value front : List Char} {e : Failure} (hroot : mayBeName root = true)
  (hname : mayBeName name = true) (hlegal : ∀ c ∈ value, isLegal c = true) (external : Bool)

include hroot hname hlegal

/-- All characters of the beginning are legal. -/
theorem legal_entityFront : (entityFront root name external value).all isLegal = true := by
  have hdoctype : "DOCTYPE".toList.all isLegal = true := by decide
  have hentity : "ENTITY".toList.all isLegal = true := by decide
  have hsystem : (if external then "SYSTEM ".toList else []).all isLegal = true := by
    cases external <;> decide
  have hsigns : ∀ c ∈ ['<', '!', ' ', '[', '"', '>'], isLegal c = true :=
    List.all_eq_true.mp (by decide)
  simp only [List.forall_mem_cons] at hsigns
  simp only [entityFront, typeFront, entityDeclaration, List.all_append, List.all_cons,
    List.all_nil, hdoctype, hentity, hsystem, hsigns, legal_of_mayBeName hroot,
    legal_of_mayBeName hname, List.all_eq_true.mpr hlegal, Bool.and_self]

/-- A failure within the beginning is that of the document, whatever bytes follow. -/
theorem events_of_failed_entityFront (hfront : front <+: entityFront root name external value)
    (hfailed : ((Reader.start .utf8 .start false).run front).stage = .failed e)
    (rest : List UInt8) :
    events (Text.Utf8.encode (entityFront root name external value) ++ rest) = .error e :=
  events_of_failed (legal_entityFront hroot hname hlegal external) (by decide) hfront hfailed rest

/-- An entity that is declared with a name of its own is the failure. -/
theorem events_entity (hlocal : isLocalName root = true) (hlocal' : isLocalName name = true)
    (hown : predefinedEntity? (String.ofList name) = none) (hquote : '"' ∉ value)
    (rest : List UInt8) :
    events (Text.Utf8.encode (entityFront root name external value) ++ rest) =
      .error (.entity (String.ofList name) (entityId external value)) := by
  apply events_of_failed_entityFront hroot hname hlegal external (List.prefix_refl _)
  rw [entityFront, Reader.run_append]
  exact (Reader.expects_start.run_typeFront hlocal).stage_entity hlocal' hown hquote external

/-- Where another text stands in the place of a name, the document is refused for that. -/
theorem events_entity_misnamed
    (hmisnamed : isLocalName root = false ∨ isLocalName name = false) (rest : List UInt8) :
    ∃ problem position,
      events (Text.Utf8.encode (entityFront root name external value) ++ rest) =
        .error (.fault problem position) := by
  have hstart := Reader.expects_start
  -- The first of the two texts that is no name ends the reading, and what follows does not matter.
  cases hlocal : isLocalName root with
  | false =>
    obtain ⟨problem, position, hfailed⟩ := hstart.run_typeName.stage_misnamed hroot hlocal
      fun _ _ _ => rfl
    rw [← Reader.run_append] at hfailed
    refine ⟨problem, position, events_of_failed_entityFront hroot hname hlegal external
      ⟨'[' :: entityDeclaration name external value, ?_⟩ hfailed rest⟩
    simp only [entityFront, typeFront, List.append_assoc, List.cons_append, List.nil_append]
  | true =>
    have hlocal' : isLocalName name = false := hmisnamed.resolve_left (by simp [hlocal])
    obtain ⟨problem, position, hfailed⟩ :=
      (hstart.run_typeFront hlocal).run_entityName.stage_misnamed hname hlocal' fun _ _ _ => rfl
    rw [← Reader.run_append, ← Reader.run_append] at hfailed
    refine ⟨problem, position, events_of_failed_entityFront hroot hname hlegal external
      ⟨(if external then "SYSTEM ".toList else []) ++ '"' :: (value ++ ['"', '>']), ?_⟩ hfailed rest⟩
    simp only [entityFront, entityDeclaration, List.append_assoc, List.cons_append, List.nil_append]

end

end Xml

namespace Document

open Xml

/-- **Declared entities are refused, whatever follows.**  A document that begins by declaring an
entity, with a text of its own or an external one, is never parsed, whether what follows is
well-formed or not.  If the document type and the entity have names and the entity is not
predefined, then the cause is that entity; if a text is no name here but is one in another edition
of XML, then the cause is a fault in the markup. -/
theorem entity_declarations_refused (source : String) {root name value : List Char}
    (hroot : mayBeName root = true) (hname : mayBeName name = true)
    (hown : String.ofList name ∉ ["lt", "gt", "amp", "apos", "quot"])
    (hlegal : ∀ c ∈ value, isLegal c = true) (hquote : '"' ∉ value) (external : Bool)
    (rest : List UInt8) :
    let outcome := parse source (Text.Utf8.encode (entityFront root name external value) ++ rest)
    ('\x00' ∈ source.toList → outcome = .error (.escaped .nullInSource)) ∧
    ('\x00' ∉ source.toList →
      (isLocalName root = true → isLocalName name = true →
        outcome = .error (.reported (.documentParse source
          (.document source (.entity (String.ofList name) (entityId external value)))))) ∧
      (isLocalName root = false ∨ isLocalName name = false →
        ∃ problem position, outcome = faulty source problem position)) := by
  intro outcome
  refine ⟨fun hnull => parse_of_null hnull _, fun hsource => ⟨?_, ?_⟩⟩
  · intro hlocal hlocal'
    have hpredefined : predefinedEntity? (String.ofList name) = none := by
      simp only [List.mem_cons, List.not_mem_nil, or_false, not_or] at hown
      simp [predefinedEntity?, hown]
    have hevents := events_entity hroot hname hlegal external hlocal hlocal' hpredefined hquote rest
    exact (parse_of_not_null hsource _).1 _ hevents rfl
  · intro hmisnamed
    obtain ⟨problem, position, hevents⟩ :=
      events_entity_misnamed hroot hname hlegal external hmisnamed rest
    exact ⟨problem, position, (parse_of_not_null hsource _).1 _ hevents rfl⟩

/-- An external entity, and then an element that is never closed and a byte that is no text. -/
theorem entity_declarations_refused_malformed_rest :
    let front := entityFront ['é'] ['e'] true ['%', '&', '>']
    front = "<!DOCTYPE é [<!ENTITY e SYSTEM \"%&>\">".toList ∧
      parse "a.xml" (Text.Utf8.encode front ++ [0x5d, 0x3e, 0x3c, 0x61, 0x3e, 0xff]) =
        .error (.reported (.documentParse "a.xml"
          (.document "a.xml" (.entity "e" ⟨some "%&>", none⟩)))) := by
  have hroot : mayBeName ['é'] = true ∧ isLocalName ['é'] = true := by decide
  have hname : mayBeName ['e'] = true ∧ isLocalName ['e'] = true := by decide
  have hlegal : ∀ c ∈ ['%', '&', '>'], isLegal c = true := List.all_eq_true.mp (by decide)
  obtain ⟨-, hrefused⟩ := entity_declarations_refused "a.xml" hroot.1 hname.1 (by decide) hlegal
    (by decide) true [0x5d, 0x3e, 0x3c, 0x61, 0x3e, 0xff]
  exact ⟨by decide, (hrefused (by decide)).1 hroot.2 hname.2⟩

/-- U+2C00 is a name in the fifth edition of XML only.  As the name of a document type it is a fault
in the markup, and the entity after it does not become the cause. -/
theorem entity_after_later_name :
    let front := entityFront ['Ⰰ'] ['e'] false ['v']
    let outcome := parse "a.xml" (Text.Utf8.encode front)
    front = "<!DOCTYPE Ⰰ [<!ENTITY e \"v\">".toList ∧ mayBeName ['Ⰰ'] = true ∧
      (∃ problem position, outcome = faulty "a.xml" problem position) ∧
      ∀ name id, outcome ≠ .error (.reported (.documentParse "a.xml"
        (.document "a.xml" (.entity name id)))) := by
  intro front outcome
  have hroot : mayBeName ['Ⰰ'] = true ∧ isLocalName ['Ⰰ'] = false := by decide
  have hname : mayBeName ['e'] = true := by decide
  have hlegal : ∀ c ∈ ['v'], isLegal c = true := List.all_eq_true.mp (by decide)
  obtain ⟨problem, position, hevents⟩ :=
    events_entity_misnamed hroot.1 hname hlegal false (.inl hroot.2) []
  rw [List.append_nil] at hevents
  have hfaulty : outcome = faulty "a.xml" problem position :=
    (parse_of_not_null (by decide) _).1 _ hevents rfl
  refine ⟨by decide, hroot.1, ⟨problem, position, hfaulty⟩, fun name id hentity => ?_⟩
  -- Both outcomes are a document that is not parsed, so the cause has to tell them apart.
  rw [hfaulty] at hentity
  injection hentity with hhalt
  injection hhalt with herror
  injection herror with _ _ _ hcause
  injection hcause with _ hfailure
  exact nomatch hfailure

end Document

end AttrLint
