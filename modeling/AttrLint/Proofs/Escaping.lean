import Mathlib.Control.Monad.Basic
import AttrLint.Telemetry

namespace AttrLint

/-!
# Escaped text is never obeyed

Text from outside is escaped before it is put between the tags of a message.  What looks like a tag
in it then stands after an odd number of backslashes, which a console shows, and everything else is
as plain as before.  So no text can close or open a style, and no message fails for its text.

* `Markup.pieces_induction` — texts by their pieces: backslashes, a plain character after
  backslashes, or something that looks like a tag after backslashes.
* `Markup.segments_escape` — the pieces of an escaped text are those of the text, each tag after an
  odd number of backslashes.
* `Markup.faultFrom_escape` — an escaped text has no fault, whatever is open around it.
* `Telemetry.fault?_markup` — no text breaks the markup of a notice; `Telemetry.fault?_standard`
  says so of the command line.
-/

namespace Markup

/-! ### Pieces -/

/-- A number of backslashes. -/
def slashes (n : Nat) : List Char :=
  List.replicate n '\\'

theorem takeWhile_slashes {c : Char} (hc : c ≠ '\\') (n : Nat) (rest : List Char) :
    (slashes n ++ c :: rest).takeWhile (· == '\\') = slashes n := by
  rw [slashes, List.takeWhile_append_of_pos (by simp)]
  simp [hc]

theorem dropWhile_slashes {c : Char} (hc : c ≠ '\\') (n : Nat) (rest : List Char) :
    (slashes n ++ c :: rest).dropWhile (· == '\\') = c :: rest := by
  rw [slashes, List.dropWhile_append_of_pos (by simp)]
  simp [hc]

/-- A text consists of backslashes, or has a first other character. -/
theorem eq_slashes (s : List Char) :
    (∃ n, s = slashes n) ∨ ∃ n c rest, c ≠ '\\' ∧ s = slashes n ++ c :: rest := by
  induction s with
  | nil => exact .inl ⟨0, rfl⟩
  | cons c cs ih =>
    by_cases hc : c = '\\'
    · subst hc
      rcases ih with ⟨n, rfl⟩ | ⟨n, c, rest, hc, rfl⟩
      · exact .inl ⟨n + 1, rfl⟩
      · exact .inr ⟨n + 1, c, rest, hc, rfl⟩
    · exact .inr ⟨0, c, cs, hc, rfl⟩

/-- The body of a tag is followed by a bracket, and it does not depend on what comes after that. -/
theorem bodyFrom_eq_some {done s body rest : List Char} (h : bodyFrom done s = some (body, rest)) :
    ∃ inner, body = done.reverse ++ inner ∧ s = inner ++ ']' :: rest ∧
      ∀ rest', bodyFrom done (inner ++ ']' :: rest') = some (body, rest') := by
  induction s generalizing done with
  | nil => cases h
  | cons c cs ih =>
    rw [bodyFrom] at h
    by_cases hclose : c = ']'
    · rw [if_pos hclose] at h
      cases h
      exact ⟨[], by simp, by simp [hclose], fun rest' => by simp [bodyFrom]⟩
    · by_cases hopen : c = '['
      · rw [if_neg hclose, if_pos hopen] at h
        cases h
      · rw [if_neg hclose, if_neg hopen] at h
        obtain ⟨inner, hbody, hcs, hall⟩ := ih h
        refine ⟨c :: inner, by simp [hbody], by simp [hcs], ?_⟩
        intro rest'
        rw [List.cons_append, bodyFrom, if_neg hclose, if_neg hopen]
        exact hall rest'

/-- The same for the inside of a tag as a whole. -/
theorem tagBody?_eq_some {s body rest : List Char} (h : tagBody? s = some (body, rest)) :
    s = body ++ ']' :: rest ∧ ∀ rest', tagBody? (body ++ ']' :: rest') = some (body, rest') := by
  cases s with
  | nil => cases h
  | cons c cs =>
    by_cases hc : isTagStart c = true
    · rw [tagBody?, if_pos hc] at h
      obtain ⟨inner, hbody, hcs, hall⟩ := bodyFrom_eq_some h
      have hbody' : body = c :: inner := by simpa using hbody
      subst hbody'
      refine ⟨by rw [hcs]; rfl, ?_⟩
      intro rest'
      rw [List.cons_append, tagBody?, if_pos hc]
      exact hall rest'
    · rw [tagBody?, if_neg hc] at h
      cases h

/-- As many steps as there are characters are enough. -/
theorem segmentsFor_eq {turns : Nat} {s : List Char} (h : s.length ≤ turns) :
    segmentsFor turns s = segments s := by
  induction hn : s.length using Nat.strongRecOn generalizing s turns with
  | _ n ih =>
    -- Any two numbers of steps do for what is left after the first piece.
    have hrest : ∀ {m : Nat} {t : List Char}, t.length < s.length → t.length ≤ m →
        segmentsFor m t = segments t := fun hlt hle => ih _ (by omega) hle rfl
    rcases eq_slashes s with ⟨k, rfl⟩ | ⟨k, c, rest, hc, rfl⟩
    · cases k with
      | zero => cases turns <;> rfl
      | succ k =>
        obtain ⟨turns, rfl⟩ : ∃ m, turns = m + 1 := ⟨turns - 1, by simp [slashes] at h; omega⟩
        have hall : (slashes (k + 1)).dropWhile (· == '\\') = [] := by simp [slashes]
        have hlen : (slashes (k + 1)).length = k + 1 := by simp [slashes]
        rw [segments, hlen, segmentsFor, segmentsFor]
        simp only [hall]
    · have hlen : (slashes k ++ c :: rest).length = k + rest.length + 1 := by
        simp [slashes]
        omega
      obtain ⟨turns, rfl⟩ : ∃ m, turns = m + 1 := ⟨turns - 1, by omega⟩
      rw [segments, hlen, segmentsFor, segmentsFor]
      simp only [takeWhile_slashes hc, dropWhile_slashes hc]
      rw [hrest (by omega) (by omega), hrest (m := k + rest.length) (by omega) (by omega)]
      cases hbody : tagBody? rest with
      | none => rfl
      | some parts =>
        obtain ⟨body, after⟩ := parts
        have hafter : after.length < rest.length := by
          rw [(tagBody?_eq_some hbody).1]
          simp
          omega
        simp only
        rw [hrest (t := after) (by omega) (by omega),
          hrest (t := after) (m := k + rest.length) (by omega) (by omega)]

/-- Backslashes alone are plain. -/
theorem segments_slashes (n : Nat) : segments (slashes n) = (slashes n).map .char := by
  cases n with
  | zero => rfl
  | succ n =>
    have hall : (slashes (n + 1)).dropWhile (· == '\\') = [] := by simp [slashes]
    have hsame : (slashes (n + 1)).takeWhile (· == '\\') = slashes (n + 1) := by simp [slashes]
    have hlen : (slashes (n + 1)).length = n + 1 := by simp [slashes]
    rw [segments, hlen, segmentsFor, hall, hsame]

/-- A character that starts no tag is plain, and so are the backslashes before it. -/
theorem segments_plain {c : Char} {rest : List Char} (hc : c ≠ '\\')
    (hrest : c = '[' → tagBody? rest = none) (n : Nat) :
    segments (slashes n ++ c :: rest) = (slashes n).map .char ++ .char c :: segments rest := by
  have hlen : (slashes n ++ c :: rest).length = n + rest.length + 1 := by
    simp [slashes]
    omega
  rw [segments, hlen, segmentsFor]
  simp only [takeWhile_slashes hc, dropWhile_slashes hc]
  rw [segmentsFor_eq (by omega)]
  by_cases hopen : c = '['
  · rw [if_pos hopen, hrest hopen]
  · rw [if_neg hopen]

/-- A tag is a piece together with the backslashes before it. -/
theorem segments_tag {rest body after : List Char} (h : tagBody? rest = some (body, after))
    (n : Nat) : segments (slashes n ++ '[' :: rest) = .tag n body :: segments after := by
  have hlen : (slashes n ++ '[' :: rest).length = n + rest.length + 1 := by
    simp [slashes]
    omega
  have hafter : after.length < rest.length := by
    rw [(tagBody?_eq_some h).1]
    simp
    omega
  have hcount : (slashes n).length = n := by simp [slashes]
  rw [segments, hlen, segmentsFor]
  simp only [takeWhile_slashes (c := '[') (by decide), dropWhile_slashes (c := '[') (by decide), h,
    hcount, if_true]
  rw [segmentsFor_eq (by omega)]

/-- Texts by their pieces. -/
theorem pieces_induction {motive : List Char → Prop} (slashes : ∀ n, motive (slashes n))
    (plain : ∀ n c rest, c ≠ '\\' → (c = '[' → tagBody? rest = none) → motive rest →
      motive (Markup.slashes n ++ c :: rest))
    (tag : ∀ n body after, tagBody? (body ++ ']' :: after) = some (body, after) → motive after →
      motive (Markup.slashes n ++ '[' :: (body ++ ']' :: after)))
    (s : List Char) : motive s := by
  -- By the length, since a tag takes any number of characters with it.
  induction hn : s.length using Nat.strongRecOn generalizing s with
  | _ n ih =>
    rcases eq_slashes s with ⟨k, rfl⟩ | ⟨k, c, rest, hc, rfl⟩
    · exact slashes k
    · have hlen : (Markup.slashes k ++ c :: rest).length = k + rest.length + 1 := by
        simp [Markup.slashes]
        omega
      by_cases hplain : c = '[' → tagBody? rest = none
      · exact plain k c rest hc hplain (ih rest.length (by omega) rest rfl)
      · obtain ⟨rfl, hbody⟩ := Classical.not_imp.mp hplain
        obtain ⟨⟨body, after⟩, hbody⟩ := Option.ne_none_iff_exists'.mp hbody
        obtain ⟨rfl, hall⟩ := tagBody?_eq_some hbody
        have hafter : after.length < n := by
          rw [← hn, hlen]
          simp
          omega
        exact tag k body after hbody (ih after.length hafter after rfl)

/-! ### Brackets -/

/-- Says that the character is a square bracket. -/
def isBracket (c : Char) : Bool :=
  c = '[' || c = ']'

/-- A tag has a body if the first bracket after its beginning closes it. -/
theorem bodyFrom_eq_none {s : List Char} (h : s.find? isBracket ≠ some ']') (done : List Char) :
    bodyFrom done s = none := by
  induction s generalizing done with
  | nil => rfl
  | cons c cs ih =>
    have hclose : c ≠ ']' := by
      rintro rfl
      exact h rfl
    rw [bodyFrom, if_neg hclose]
    by_cases hopen : c = '['
    · rw [if_pos hopen]
    · rw [if_neg hopen]
      apply ih
      simpa [List.find?_cons, isBracket, hopen, hclose] using h

theorem find?_of_bodyFrom_eq_none {done s : List Char} (h : bodyFrom done s = none) :
    s.find? isBracket ≠ some ']' := by
  induction s generalizing done with
  | nil => simp
  | cons c cs ih =>
    rw [bodyFrom] at h
    split at h
    · cases h
    · rename_i hclose
      split at h
      · rename_i hopen
        simp [isBracket, hopen]
      · rename_i hopen
        simpa [List.find?_cons, isBracket, hopen, hclose] using ih h

/-- No tag begins with a bracket. -/
theorem ne_of_isTagStart {c : Char} (h : isTagStart c = true) : c ≠ '[' ∧ c ≠ ']' := by
  constructor
  · rintro rfl
    exact absurd h (by decide)
  · rintro rfl
    exact absurd h (by decide)

/-- Where the first bracket does not close anything, there is no tag. -/
theorem tagBody?_eq_none {s : List Char} (h : s.find? isBracket ≠ some ']') :
    tagBody? s = none := by
  cases s with
  | nil => rfl
  | cons c cs =>
    rw [tagBody?]
    split
    · rename_i hstart
      obtain ⟨hopen, hclose⟩ := ne_of_isTagStart hstart
      have hbody := bodyFrom_eq_none h []
      rwa [bodyFrom, if_neg hclose, if_neg hopen] at hbody
    · rfl

/-! ### Escaped text -/

/-- The text of pieces without a tag that is obeyed. -/
def guarded (s : List Char) : List Char :=
  (segments s).flatMap escapeSegment

@[simp] theorem guarded_slashes (n : Nat) : guarded (slashes n) = slashes n := by
  rw [guarded, segments_slashes, List.flatMap_map]
  exact List.flatMap_singleton' _

theorem guarded_plain {c : Char} {rest : List Char} (hc : c ≠ '\\')
    (hrest : c = '[' → tagBody? rest = none) (n : Nat) :
    guarded (slashes n ++ c :: rest) = slashes n ++ c :: guarded rest := by
  rw [guarded, segments_plain hc hrest, List.flatMap_append, List.flatMap_cons, List.flatMap_map]
  have hslashes : ((slashes n).flatMap fun c => escapeSegment (.char c)) = slashes n :=
    List.flatMap_singleton' _
  rw [hslashes]
  rfl

theorem guarded_tag {body after : List Char}
    (h : tagBody? (body ++ ']' :: after) = some (body, after)) (n : Nat) :
    guarded (slashes n ++ '[' :: (body ++ ']' :: after)) =
      slashes (2 * n + 1) ++ '[' :: (body ++ ']' :: guarded after) := by
  rw [guarded, segments_tag h, List.flatMap_cons, escapeSegment, guarded]
  simp [slashes]

/-- Escaping adds no bracket and takes none away. -/
theorem filter_guarded (s : List Char) : (guarded s).filter isBracket = s.filter isBracket := by
  have hslashes : ∀ n, (slashes n).filter isBracket = [] := by
    intro n
    rw [List.filter_eq_nil_iff]
    intro c hc
    rw [List.eq_of_mem_replicate hc]
    decide
  induction s using pieces_induction with
  | slashes n => rw [guarded_slashes]
  | plain n c rest hc hrest ih =>
    rw [guarded_plain hc hrest, List.filter_append, List.filter_append, List.filter_cons,
      List.filter_cons, ih]
  | tag n body after hbody ih =>
    rw [guarded_tag hbody]
    simp only [List.filter_append, List.filter_cons, hslashes, ih]

/-- An escaped text starts as the text does, or with a backslash. -/
theorem head_guarded (c : Char) (cs : List Char) :
    ∃ rest, guarded (c :: cs) = c :: rest ∨ guarded (c :: cs) = '\\' :: rest := by
  rcases eq_slashes (c :: cs) with ⟨n, hn⟩ | ⟨n, d, rest, hd, hn⟩
  · rw [hn, guarded_slashes, ← hn]
    exact ⟨cs, .inl rfl⟩
  · by_cases hplain : d = '[' → tagBody? rest = none
    · rw [hn, guarded_plain hd hplain]
      cases n with
      | zero =>
        cases hn
        exact ⟨_, .inl rfl⟩
      | succ n => exact ⟨_, .inr rfl⟩
    · obtain ⟨rfl, hbody⟩ := Classical.not_imp.mp hplain
      obtain ⟨⟨body, after⟩, hbody⟩ := Option.ne_none_iff_exists'.mp hbody
      obtain ⟨rfl, -⟩ := tagBody?_eq_some hbody
      rw [hn, guarded_tag hbody]
      exact ⟨_, .inr rfl⟩

/-- What is no tag does not become one by escaping what follows it, if what comes after all that
does not close it either. -/
theorem tagBody?_guarded {rest after : List Char} (h : tagBody? rest = none)
    (hafter : after.find? isBracket ≠ some ']') : tagBody? (guarded rest ++ after) = none := by
  cases rest with
  | nil => exact tagBody?_eq_none hafter
  | cons c cs =>
    by_cases hstart : isTagStart c = true
    · -- The body of the tag runs into an opening bracket or into the end of the text.
      rw [tagBody?, if_pos hstart] at h
      have hfind := find?_of_bodyFrom_eq_none h
      have hbracket : isBracket c = false := by simp [isBracket, ne_of_isTagStart hstart]
      apply tagBody?_eq_none
      rw [List.find?_append, ← List.head?_filter, filter_guarded, List.head?_filter,
        List.find?_cons, hbracket]
      cases hcs : cs.find? isBracket with
      | none => exact hafter
      | some d =>
        rw [hcs] at hfind
        exact hfind
    · obtain ⟨rest', hrest' | hrest'⟩ := head_guarded c cs
      · rw [hrest', List.cons_append, tagBody?, if_neg hstart]
      · rw [hrest', List.cons_append, tagBody?, if_neg (by decide)]

/-- A piece as it is after escaping: a tag stands after an odd number of backslashes. -/
def Segment.escaped : Segment → Segment
  | .char c => .char c
  | .tag n body => .tag (2 * n + 1) body

/-- Backslashes have no bracket. -/
theorem find?_slashes (n : Nat) (after : List Char) :
    (slashes n ++ after).find? isBracket = after.find? isBracket := by
  induction n with
  | zero => rfl
  | succ n ih => exact ih

/-- The pieces of an escaped text are those of the text, but for backslashes at its end, which
belong to what comes after it. -/
theorem segments_guarded (s : List Char) :
    ∃ pieces n, (segments s).map Segment.escaped = pieces ++ (slashes n).map .char ∧
      ∀ {after : List Char}, after.find? isBracket ≠ some ']' → ∀ m,
        segments (guarded s ++ (slashes m ++ after)) =
          pieces ++ segments (slashes (n + m) ++ after) := by
  induction s using pieces_induction with
  | slashes n =>
    refine ⟨[], n, ?_, ?_⟩
    · rw [segments_slashes, List.map_map]
      rfl
    · intro after _ m
      rw [guarded_slashes, ← List.append_assoc, slashes, slashes, List.replicate_append_replicate]
      rfl
  | plain k c rest hc hrest ih =>
    obtain ⟨pieces, n, hpieces, hall⟩ := ih
    refine ⟨(slashes k).map .char ++ .char c :: pieces, n, ?_, ?_⟩
    · rw [segments_plain hc hrest, List.map_append, List.map_cons, hpieces]
      simp [Segment.escaped]
    · intro after hafter m
      -- A bracket that begins no tag in the text begins none with what comes after it either.
      have hnone : c = '[' → tagBody? (guarded rest ++ (slashes m ++ after)) = none := by
        intro hopen
        apply tagBody?_guarded (hrest hopen)
        rwa [find?_slashes]
      rw [guarded_plain hc hrest, List.append_assoc, List.cons_append, segments_plain hc hnone,
        hall hafter]
      simp
  | tag k body rest hbody ih =>
    obtain ⟨pieces, n, hpieces, hall⟩ := ih
    refine ⟨.tag (2 * k + 1) body :: pieces, n, ?_, ?_⟩
    · rw [segments_tag hbody, List.map_cons, hpieces]
      rfl
    · intro after hafter m
      rw [guarded_tag hbody, List.append_assoc, List.cons_append, List.append_assoc,
        List.cons_append, segments_tag ((tagBody?_eq_some hbody).2 _), hall hafter,
        List.cons_append]

/-- **The pieces of an escaped text.**  They are those of the text, each tag after an odd number of
backslashes.  Only backslashes at the end of the text count for what comes after it. -/
theorem segments_escape (s : List Char) :
    ∃ pieces n m, (segments s).map Segment.escaped = pieces ++ (slashes n).map .char ∧
      ∀ {after : List Char}, after.find? isBracket ≠ some ']' →
        segments (escape s ++ after) = pieces ++ segments (slashes m ++ after) := by
  obtain ⟨pieces, n, hpieces, hall⟩ := segments_guarded s
  have hclose : ∃ k, escape s = guarded s ++ slashes k := by
    rw [escape, closeSlash]
    split
    · exact ⟨0, (List.append_nil _).symm⟩
    · exact ⟨1, rfl⟩
    · exact ⟨0, (List.append_nil _).symm⟩
  obtain ⟨k, hk⟩ := hclose
  refine ⟨pieces, n, n + k, hpieces, ?_⟩
  intro after hafter
  rw [hk, List.append_assoc, hall hafter]

/-! ### Faults -/

/-- Tags after an odd number of backslashes are passed over. -/
theorem faultFrom_escaped {pieces : List Segment}
    (h : ∀ n body, .tag n body ∈ pieces → n % 2 = 1) (opened : List (List Char)) (position : Nat)
    (rest : List Segment) :
    ∃ position', faultFrom opened position (pieces ++ rest) = faultFrom opened position' rest := by
  induction pieces generalizing position with
  | nil => exact ⟨position, rfl⟩
  | cons piece pieces ih =>
    have hpieces : ∀ n body, .tag n body ∈ pieces → n % 2 = 1 := fun n body hmem =>
      h n body (List.mem_cons_of_mem _ hmem)
    cases piece with
    | char c => exact ih hpieces (position + 1)
    | tag n body =>
      rw [List.cons_append, faultFrom, if_pos (h n body List.mem_cons_self)]
      exact ih hpieces _

/-- A text is shown as it is between styles that are open, and closing the innermost one after it is
no fault either. -/
theorem faultFrom_escape (opened : List (List Char)) (position : Nat) (s after : List Char)
    (hafter : after = [] ∨ after = ['[', '/', ']'] ∧ opened ≠ []) :
    faultFrom opened position (segments (escape s ++ after)) = none := by
  obtain ⟨pieces, n, m, hpieces, hall⟩ := segments_escape s
  have hodd : ∀ n body, .tag n body ∈ pieces → n % 2 = 1 := by
    intro n body hmem
    have hmem' : .tag n body ∈ (segments s).map Segment.escaped := by
      rw [hpieces]
      exact List.mem_append_left _ hmem
    obtain ⟨piece, -, hpiece⟩ := List.mem_map.mp hmem'
    cases piece with
    | char c => cases hpiece
    | tag k body' =>
      cases hpiece
      omega
  rcases hafter with rfl | ⟨rfl, hopened⟩
  · rw [hall (by simp)]
    obtain ⟨position', h⟩ := faultFrom_escaped hodd opened position (segments (slashes m ++ []))
    have hplain : ∀ n body, .tag n body ∈ (slashes m).map Segment.char → n % 2 = 1 := by simp
    obtain ⟨_, hend⟩ := faultFrom_escaped hplain opened position' []
    rw [List.append_nil] at hend
    rw [h, List.append_nil, segments_slashes, hend]
    rfl
  · rw [hall (by decide)]
    obtain ⟨position', h⟩ :=
      faultFrom_escaped hodd opened position (segments (slashes m ++ ['[', '/', ']']))
    have hclosing : tagBody? ['/', ']'] = some (['/'], []) := rfl
    rw [h, segments_tag hclosing, faultFrom]
    -- After an odd number of backslashes the closing tag is text, otherwise it closes a style.
    split
    · rfl
    · cases opened with
      | nil => exact absurd rfl hopened
      | cons style outer => rfl

/-! ### Messages -/

/-- Says that a text between brackets is a tag, and that it opens a style where none is open. -/
structure IsStyle (style : List Char) : Prop where
  tagBody : ∀ rest, tagBody? (style ++ ']' :: rest) = some (style, rest)
  opens : ∃ canonical, turn [] 0 style = .ok [canonical]

/-- A word without brackets and backslashes is plain. -/
theorem segments_word {word : List Char} (h : ∀ c ∈ word, c ≠ '\\' ∧ c ≠ '[') (rest : List Char) :
    segments (word ++ rest) = word.map .char ++ segments rest := by
  induction word with
  | nil => rfl
  | cons c word ih =>
    obtain ⟨hslash, hopen⟩ := h c List.mem_cons_self
    have hrest := ih fun d hd => h d (List.mem_cons_of_mem c hd)
    rw [List.cons_append, List.map_cons, List.cons_append, ← hrest]
    exact segments_plain hslash (fun heq => absurd heq hopen) 0

/-- A style before a text is a piece of its own. -/
theorem segments_style {style : List Char} (h : IsStyle style) (rest : List Char) :
    segments ('[' :: (style ++ ']' :: rest)) = .tag 0 style :: segments rest :=
  segments_tag (h.tagBody rest) 0

/-- The pieces of a word in a style and of what stands behind it. -/
theorem segments_behind {style word : List Char} (h : IsStyle style)
    (hword : ∀ c ∈ word, c ≠ '\\' ∧ c ≠ '[') (rest : List Char) :
    segments ('[' :: (style ++ ']' :: (word ++ '[' :: '/' :: ']' :: ' ' :: rest))) =
      .tag 0 style :: (word.map .char ++ .tag 0 ['/'] :: .char ' ' :: segments rest) := by
  have hclosing : segments ('[' :: '/' :: ']' :: ' ' :: rest) =
      .tag 0 ['/'] :: segments (' ' :: rest) := segments_tag rfl 0
  have hspace : segments (' ' :: rest) = .char ' ' :: segments rest :=
    segments_plain (by decide) (fun heq => absurd heq (by decide)) 0
  rw [segments_style h, segments_word hword, hclosing, hspace]

/-- A text inside a style has no fault. -/
theorem fault?_inside {style : List Char} (h : IsStyle style) (s : List Char) :
    fault? ('[' :: (style ++ ']' :: (escape s ++ ['[', '/', ']']))) = none := by
  obtain ⟨canonical, hopens⟩ := h.opens
  rw [fault?, segments_style h, faultFrom, if_neg (by decide), hopens]
  exact faultFrom_escape _ _ s _ (.inr ⟨rfl, by simp⟩)

/-- A text behind a word in a style has no fault. -/
theorem fault?_behind {style word : List Char} (h : IsStyle style)
    (hword : ∀ c ∈ word, c ≠ '\\' ∧ c ≠ '[') (s : List Char) :
    fault? ('[' :: (style ++ ']' :: (word ++ '[' :: '/' :: ']' :: ' ' :: escape s))) = none := by
  obtain ⟨canonical, hopens⟩ := h.opens
  have hplain : ∀ n body, .tag n body ∈ word.map Segment.char → n % 2 = 1 := by simp
  -- The word is passed over, its style is closed, and the text stands outside all styles.
  obtain ⟨position, hskip⟩ := faultFrom_escaped hplain [canonical] (0 + 0 + style.length + 2)
    (.tag 0 ['/'] :: .char ' ' :: segments (escape s))
  have htext := faultFrom_escape [] (position + 0 + 1 + 2 + 1) s [] (.inl rfl)
  rw [List.append_nil] at htext
  rw [fault?, segments_behind h hword, faultFrom, if_neg (by decide), hopens]
  show faultFrom [canonical] (0 + 0 + style.length + 2) _ = none
  rw [hskip, faultFrom, if_neg (by decide)]
  exact htext

end Markup

namespace Telemetry

open Markup

/-! The text of a notice stands inside a style, or behind a word in a style. -/

theorem markup_debug (t : Telemetry) (text : String) :
    t.markup (.debug text) =
      '[' :: ("dim".toList ++ ']' :: (escape text.toList ++ ['[', '/', ']'])) := by
  simp [markup, marked]

theorem markup_error (t : Telemetry) (text : String) :
    t.markup (.error text) =
      '[' :: ("bold red".toList ++ ']' :: (escape text.toList ++ ['[', '/', ']'])) := by
  simp [markup, marked]

theorem markup_warning (t : Telemetry) (text : String) :
    t.markup (.warning text) = '[' :: ("yellow".toList ++ ']' ::
      ("warning:".toList ++ '[' :: '/' :: ']' :: ' ' :: escape text.toList)) := by
  simp [markup, marked]

theorem markup_step (t : Telemetry) (text : String) :
    t.markup (.step text) = '[' :: (t.color.toList ++ ']' ::
      (">".toList ++ '[' :: '/' :: ']' :: ' ' :: escape text.toList)) := by
  simp [markup, marked]

/-- The styles of notices open. -/
theorem isStyle_of_mem {style : String} (h : style ∈ ["cyan", "dim", "yellow", "bold red"]) :
    IsStyle style.toList := by
  simp only [List.mem_cons, List.not_mem_nil, or_false] at h
  rcases h with rfl | rfl | rfl | rfl
  · exact ⟨fun _ => rfl, "cyan".toList, by decide +kernel⟩
  · exact ⟨fun _ => rfl, "dim".toList, by decide +kernel⟩
  · exact ⟨fun _ => rfl, "yellow".toList, by decide +kernel⟩
  · exact ⟨fun _ => rfl, "bold red".toList, by decide +kernel⟩

/-- **No text has a fault** in the markup of a notice, if the color before a step is one. -/
theorem fault?_markup (t : Telemetry) {n : Notice} (hgreeting : n ≠ .handshake)
    (hcolor : (∃ text, n = .step text) → IsStyle t.color.toList) :
    Markup.fault? (t.markup n) = none := by
  cases n with
  | handshake => exact absurd rfl hgreeting
  | step text =>
    rw [markup_step]
    exact fault?_behind (hcolor ⟨text, rfl⟩) (by simp) text.toList
  | debug text =>
    rw [markup_debug]
    exact fault?_inside (isStyle_of_mem (by simp)) text.toList
  | warning text =>
    rw [markup_warning]
    exact fault?_behind (isStyle_of_mem (by simp)) (by simp) text.toList
  | error text =>
    rw [markup_error]
    exact fault?_inside (isStyle_of_mem (by simp)) text.toList

/-- **No notice of the command line has a fault**, whatever its text is. -/
@[simp] theorem fault?_standard (verbose : Bool) (n : Notice) :
    (standard verbose).fault? n = none := by
  have hmarkup : Markup.fault? ((standard verbose).markup n) = none := by
    by_cases hgreeting : n = .handshake
    · subst hgreeting
      cases verbose <;> decide +kernel
    · have hcolor : IsStyle "cyan".toList := isStyle_of_mem (by simp)
      exact fault?_markup _ hgreeting fun _ => hcolor
  rw [fault?, hmarkup]
  split <;> rfl

end Telemetry

end AttrLint
