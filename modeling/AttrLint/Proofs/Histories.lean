import AttrLint.Document.Builder

namespace AttrLint

/-!
# Builders after any history

A reader calls a builder in an orderly way, but a builder takes calls in any order: elements may end
that never started, several elements may stand at the top, and the document may be asked for at any
time.  This file says what holds after every such history.

* `Builder.after`, `Builder.replies` — the builder after calls, and the calls with their answers.
* `Builder.rootNamespaces_after` — the first start fixes the namespaces of the document for good.
* `Builder.length_opened_after` — the open elements are counted by starts and by ends that succeed.
* `Builder.root_after` — the root is the outermost element that was closed last.
* `Builder.after_thinned` — bindings after the first start change nothing but the pending ones.
* `Builder.history_laws` — the main statement.
-/

namespace Builder

/-! ### Histories -/

/-- The builder after calls. -/
def after (b : Builder) (calls : List Call) : Builder :=
  calls.foldl (fun b c => (b.call c).1) b

/-- Calls with their answers. -/
def replies (b : Builder) : List Call → List (Call × Answer)
  | [] => []
  | c :: cs => (c, (b.call c).2) :: replies (b.call c).1 cs

@[simp]
theorem after_nil (b : Builder) : b.after [] = b := rfl

@[simp]
theorem after_cons (b : Builder) (c : Call) (cs : List Call) :
    b.after (c :: cs) = (b.call c).1.after cs := rfl

@[simp] theorem after_append (b : Builder) (s t : List Call) :
    b.after (s ++ t) = (b.after s).after t :=
  List.foldl_append

theorem replies_append (b : Builder) (s t : List Call) :
    b.replies (s ++ t) = b.replies s ++ (b.after s).replies t := by
  induction s generalizing b with
  | nil => rfl
  | cons c s ih => simp only [List.cons_append, replies, ih, after_cons]

namespace Call

/-- Says that the call starts an element. -/
def isStart : Call → Bool
  | .event (.start _ _) => true
  | _ => false

/-- Says that the call binds a namespace. -/
def isBinding : Call → Bool
  | .event (.bind _ _) => true
  | _ => false

/-- The qualifier that the call binds, with its namespace. -/
def binding? : Call → Option (String × Option String)
  | .event (.bind (some qualifier) uri) => some (qualifier, uri)
  | _ => none

end Call

/-- Says that a call has ended an element. -/
def isClosing : Call × Answer → Bool
  | (.event .finish, .done) => true
  | _ => false

/-! ### Calls one by one -/

/-- An end fails if nothing is open, and then the builder is as before. -/
theorem call_finish_of_nil {b : Builder} (h : b.opened = []) :
    b.call (.event .finish) = (b, .failed .nothingOpen) := by
  simp only [call, handle, finish, h]

/-- An end of the only open element makes it the root. -/
theorem call_finish_of_singleton {b : Builder} {e : OpenElement} (h : b.opened = [e]) :
    b.call (.event .finish) = ({ b with opened := [], root := some e.close }, .done) := by
  simp only [call, handle, finish, h]

/-- An end inside another element adds a child to that one. -/
theorem call_finish_of_cons {b : Builder} {e outer : OpenElement} {rest : List OpenElement}
    (h : b.opened = e :: outer :: rest) :
    b.call (.event .finish) =
      ({ b with opened := { outer with children := e.close :: outer.children } :: rest },
        .done) := by
  simp only [call, handle, finish, h]

/-- An end fails exactly if nothing is open, and always for that reason. -/
theorem call_finish_failed_iff (b : Builder) (error : BuildError) :
    (b.call (.event .finish)).2 = .failed error ↔ b.opened = [] ∧ error = .nothingOpen := by
  match h : b.opened with
  | [] => simp [call_finish_of_nil h, eq_comm]
  | [e] => simp [call_finish_of_singleton h]
  | e :: outer :: rest => simp [call_finish_of_cons h]

/-- Asking for the document does not change the builder. -/
theorem call_document_fst (b : Builder) : (b.call .document).1 = b := by
  cases h : b.root <;> simp [call, document, h]

/-! ### The namespaces of the document -/

/-- Once fixed, the namespaces of the document stay. -/
theorem rootNamespaces_call {b : Builder} {ns : Bindings} (h : b.rootNamespaces = some ns)
    (c : Call) : (b.call c).1.rootNamespaces = some ns := by
  match c with
  | .event (.locate line column) => exact h
  | .event (.bind none uri) => exact h
  | .event (.bind (some qualifier) uri) => exact h
  | .event (.start name attributes) => simp [call, handle, start, h]
  | .event .finish =>
    match hopened : b.opened with
    | [] => rw [call_finish_of_nil hopened]; exact h
    | [e] => rw [call_finish_of_singleton hopened]; exact h
    | e :: outer :: rest => rw [call_finish_of_cons hopened]; exact h
  | .document => rw [call_document_fst]; exact h

theorem rootNamespaces_after_of_some {b : Builder} {ns : Bindings}
    (h : b.rootNamespaces = some ns) (calls : List Call) :
    (b.after calls).rootNamespaces = some ns := by
  induction calls generalizing b with
  | nil => exact h
  | cons c calls ih => exact ih (rootNamespaces_call h c)

/-- A call other than a start leaves the namespaces of the document as they are, and adds what it
binds to the pending namespaces. -/
theorem call_of_not_start {c : Call} (h : c.isStart = false) (b : Builder) :
    (b.call c).1.rootNamespaces = b.rootNamespaces ∧
      (b.call c).1.pending = Entries.override b.pending c.binding?.toList := by
  match c with
  | .event (.locate line column) => exact ⟨rfl, rfl⟩
  | .event (.bind none uri) => exact ⟨rfl, rfl⟩
  | .event (.bind (some qualifier) uri) => exact ⟨rfl, rfl⟩
  | .event (.start name attributes) => cases h
  | .event .finish =>
    match hopened : b.opened with
    | [] => rw [call_finish_of_nil hopened]; exact ⟨rfl, rfl⟩
    | [e] => rw [call_finish_of_singleton hopened]; exact ⟨rfl, rfl⟩
    | e :: outer :: rest => rw [call_finish_of_cons hopened]; exact ⟨rfl, rfl⟩
  | .document => rw [call_document_fst]; exact ⟨rfl, rfl⟩

/-- Before the first start, bindings pile up and the namespaces of the document stay as they are. -/
theorem after_of_not_start {calls : List Call} (h : ∀ c ∈ calls, c.isStart = false) (b : Builder) :
    (b.after calls).rootNamespaces = b.rootNamespaces ∧
      (b.after calls).pending = Entries.override b.pending (calls.filterMap Call.binding?) := by
  induction calls generalizing b with
  | nil => exact ⟨rfl, rfl⟩
  | cons c calls ih =>
    obtain ⟨hroot, hpending⟩ := call_of_not_start (h c List.mem_cons_self) b
    obtain ⟨hroot', hpending'⟩ := ih (fun d hd => h d (List.mem_cons_of_mem c hd)) (b.call c).1
    refine ⟨hroot'.trans hroot, ?_⟩
    rw [after_cons, hpending', hpending]
    cases hbinding : c.binding? with
    | none => rw [List.filterMap_cons_none hbinding]; rfl
    | some pair => rw [List.filterMap_cons_some hbinding]; rfl

/-- The namespace that a list of bindings gives to a qualifier, the last one winning; `xml` has one
from the start. -/
def bound (bindings : List (String × Option String)) (qualifier : String) :
    Option (Option String) :=
  (bindings.reverse.lookup qualifier).or (if qualifier = "xml" then some (some xmlUri) else none)

/-- **The first start fixes the namespaces.**  Whatever follows it, they are the implicit one and
the bindings received before it. -/
theorem rootNamespaces_after {front : List Call} (h : ∀ c ∈ front, c.isStart = false)
    (name : ExpandedName) (attributes : List ExpandedName) (back : List Call) :
    ∃ ns, (after {} (front ++ .event (.start name attributes) :: back)).rootNamespaces = some ns ∧
      (ns.map Prod.fst).Nodup ∧
      ∀ qualifier, ns.lookup qualifier = bound (front.filterMap Call.binding?) qualifier := by
  obtain ⟨hroot, hpending⟩ := after_of_not_start h {}
  have hdistinct : ((after {} front).pending.map Prod.fst).Nodup := by
    have hnone : (([] : Bindings).map Prod.fst).Nodup := List.nodup_nil
    rw [hpending]
    exact Entries.nodup_keys_override hnone _
  refine ⟨Entries.override implicitNamespaces (after {} front).pending, ?_, ?_, ?_⟩
  · rw [after_append, after_cons]
    apply rootNamespaces_after_of_some
    -- The start finds no namespaces, so it takes the pending ones.
    simp only [call, handle, start, hroot, Option.getD_none]
  · exact Entries.nodup_keys_override (by simp [implicitNamespaces]) _
  · intro qualifier
    have himplicit : implicitNamespaces.lookup qualifier =
        if qualifier = "xml" then some (some xmlUri) else none := by
      by_cases hxml : qualifier = "xml"
      · simp [implicitNamespaces, hxml]
      · have hne : (qualifier == "xml") = false := by simpa using hxml
        simp [implicitNamespaces, List.lookup_cons, hne, hxml]
    rw [Entries.lookup_override, Entries.lookup_reverse hdistinct, hpending,
      Entries.lookup_override, List.lookup_nil, Option.or_none, himplicit, bound]

/-! ### Open elements -/

/-- A call opens an element if it is a start, and closes one if it is an end that succeeds. -/
theorem length_opened_call (b : Builder) (c : Call) :
    (b.call c).1.opened.length + (if isClosing (c, (b.call c).2) then 1 else 0) =
      b.opened.length + (if c.isStart then 1 else 0) := by
  match c with
  | .event (.locate line column) => rfl
  | .event (.bind none uri) => rfl
  | .event (.bind (some qualifier) uri) => rfl
  | .event (.start name attributes) => rfl
  | .event .finish =>
    match h : b.opened with
    | [] => simp [call_finish_of_nil h, isClosing, Call.isStart, h]
    | [e] => simp [call_finish_of_singleton h, isClosing, Call.isStart]
    | e :: outer :: rest => simp [call_finish_of_cons h, isClosing, Call.isStart]
  | .document => rw [call_document_fst]; rfl

theorem length_opened_after (b : Builder) (calls : List Call) :
    (b.after calls).opened.length + (b.replies calls).countP isClosing =
      b.opened.length + calls.countP Call.isStart := by
  induction calls generalizing b with
  | nil => rfl
  | cons c calls ih =>
    have hcall := length_opened_call b c
    have hcalls := ih (b.call c).1
    rw [after_cons, replies, List.countP_cons, List.countP_cons]
    omega

/-! ### The root -/

/-- The element that a call closes, if it is the only one open. -/
def outermost? (b : Builder) : Call → Option Element
  | .event .finish =>
    match b.opened with
    | [e] => some e.close
    | _ => none
  | _ => none

/-- The outermost elements that calls close, in order. -/
def outermosts (b : Builder) : List Call → List Element
  | [] => []
  | c :: cs => (b.outermost? c).toList ++ outermosts (b.call c).1 cs

/-- A call that closes an outermost element makes it the root, and no other call changes the
root. -/
theorem root_call (b : Builder) (c : Call) : (b.call c).1.root = (b.outermost? c).or b.root := by
  match c with
  | .event (.locate line column) => rfl
  | .event (.bind none uri) => rfl
  | .event (.bind (some qualifier) uri) => rfl
  | .event (.start name attributes) => rfl
  | .event .finish =>
    match h : b.opened with
    | [] => simp [call_finish_of_nil h, outermost?, h]
    | [e] => simp [call_finish_of_singleton h, outermost?, h]
    | e :: outer :: rest => simp [call_finish_of_cons h, outermost?, h]
  | .document => rw [call_document_fst]; rfl

/-- **The root is the outermost element that was closed last.** -/
theorem root_after (b : Builder) (calls : List Call) :
    (b.after calls).root = (b.outermosts calls).getLast?.or b.root := by
  induction calls generalizing b with
  | nil => rfl
  | cons c calls ih =>
    rw [after_cons, ih, root_call, outermosts, List.getLast?_append, Option.or_assoc]
    cases b.outermost? c <;> rfl

/-- Elements are only there once the namespaces of the document are fixed. -/
def Fixed (b : Builder) : Prop :=
  b.opened ≠ [] ∨ b.root.isSome → b.rootNamespaces.isSome

theorem fixed_call {b : Builder} (h : b.Fixed) (c : Call) : (b.call c).1.Fixed := by
  match c with
  | .event (.locate line column) => exact h
  | .event (.bind none uri) => exact h
  | .event (.bind (some qualifier) uri) => exact h
  | .event (.start name attributes) => exact fun _ => rfl
  | .event .finish =>
    match hopened : b.opened with
    | [] => rw [call_finish_of_nil hopened]; exact h
    | [e] =>
      rw [call_finish_of_singleton hopened]
      intro _
      exact h (Or.inl (by simp [hopened]))
    | e :: outer :: rest =>
      rw [call_finish_of_cons hopened]
      intro _
      exact h (Or.inl (by simp [hopened]))
  | .document => rw [call_document_fst]; exact h

theorem fixed_after {b : Builder} (h : b.Fixed) (calls : List Call) : (b.after calls).Fixed := by
  induction calls generalizing b with
  | nil => exact h
  | cons c calls ih => exact ih (fixed_call h c)

/-! ### Bindings after the first start -/

/-- Calls, and the same calls without some of the bindings. -/
inductive Thinned : List Call → List Call → Prop
  | nil : Thinned [] []
  | keep {s t : List Call} (c : Call) (h : Thinned s t) : Thinned (c :: s) (c :: t)
  | drop {s t : List Call} (qualifier uri : Option String) (h : Thinned s t) :
      Thinned (.event (.bind qualifier uri) :: s) t

/-- The replies to calls other than bindings. -/
def otherReplies (b : Builder) (calls : List Call) : List (Call × Answer) :=
  (b.replies calls).filter fun reply => !reply.1.isBinding

@[simp] theorem otherReplies_cons (b : Builder) (c : Call) (cs : List Call) :
    b.otherReplies (c :: cs) =
      (if c.isBinding then [] else [(c, (b.call c).2)]) ++ (b.call c).1.otherReplies cs := by
  cases h : c.isBinding <;> simp [otherReplies, replies, h]

theorem otherReplies_append (b : Builder) (s t : List Call) :
    b.otherReplies (s ++ t) = b.otherReplies s ++ (b.after s).otherReplies t := by
  rw [otherReplies, replies_append, List.filter_append, otherReplies, otherReplies]

/-- A binding changes the pending namespaces only. -/
theorem call_bind (b : Builder) (qualifier uri : Option String) :
    ∃ pending, (b.call (.event (.bind qualifier uri))).1 = { b with pending := pending } := by
  cases qualifier with
  | none => exact ⟨b.pending, rfl⟩
  | some qualifier => exact ⟨_, rfl⟩

/-- Once the namespaces of the document are fixed, pending ones change no answer and nothing but
themselves. -/
theorem call_with_pending {b : Builder} (h : b.rootNamespaces.isSome) (pending : Bindings)
    (c : Call) :
    ∃ pending', ({ b with pending := pending } : Builder).call c =
      ({ (b.call c).1 with pending := pending' }, (b.call c).2) := by
  obtain ⟨ns, hns⟩ := Option.isSome_iff_exists.mp h
  match c with
  | .event (.locate line column) => exact ⟨pending, rfl⟩
  | .event (.bind none uri) => exact ⟨pending, rfl⟩
  | .event (.bind (some qualifier) uri) => exact ⟨_, rfl⟩
  | .event (.start name attributes) =>
    refine ⟨[], ?_⟩
    simp only [call, handle, start, hns, Option.getD_some]
    rfl
  | .event .finish =>
    refine ⟨pending, ?_⟩
    obtain ⟨location, _, rootNamespaces, opened, root⟩ := b
    match opened with
    | [] => rfl
    | [e] => rfl
    | e :: outer :: rest => rfl
  | .document =>
    refine ⟨pending, ?_⟩
    cases hroot : b.root <;> simp [call, document, hroot]

/-- **Bindings after the first start change nothing.**  Without some of them, all later calls get
the same answers, and the builder is the same but for its pending namespaces. -/
theorem after_thinned {s t : List Call} (h : Thinned s t) {b : Builder}
    (hb : b.rootNamespaces.isSome) (pending : Bindings) :
    ∃ pending', after { b with pending := pending } t = { b.after s with pending := pending' } ∧
      otherReplies { b with pending := pending } t = b.otherReplies s := by
  -- The two builders may differ in what is pending, and the induction is over the calls.
  induction h generalizing b pending with
  | nil => exact ⟨pending, rfl, rfl⟩
  | @keep s t c _ ih =>
    obtain ⟨ns, hns⟩ := Option.isSome_iff_exists.mp hb
    obtain ⟨pending₁, hcall⟩ := call_with_pending hb pending c
    have hfixed : (b.call c).1.rootNamespaces.isSome := by rw [rootNamespaces_call hns c]; rfl
    obtain ⟨pending₂, hafter, hreplies⟩ := ih hfixed pending₁
    refine ⟨pending₂, ?_, ?_⟩
    · rw [after_cons, after_cons, hcall]
      exact hafter
    · rw [otherReplies_cons, otherReplies_cons, hcall]
      exact congrArg _ hreplies
  | @drop s t qualifier uri _ ih =>
    obtain ⟨pending₁, hbind⟩ := call_bind b qualifier uri
    obtain ⟨pending₂, hafter, hreplies⟩ := ih (b := { b with pending := pending₁ }) hb pending
    refine ⟨pending₂, ?_, ?_⟩
    · rw [after_cons, hbind]
      exact hafter
    · rw [otherReplies_cons, hbind]
      exact hreplies

/-! ### The main statement -/

/-- **What holds after any history of calls.**
The namespaces of the document are missing until the first start, and after it they are, whatever
follows, the implicit one and the qualifiers bound before that start, the last binding winning.
Open elements are as many as starts less the ends that did not fail; an end fails exactly if nothing
is open, and then nothing changes.  Asking for the document changes nothing; it fails exactly if no
outermost element has been closed, and otherwise the one closed last is the root.  Leaving out any
bindings after the first start changes neither the position nor the namespaces of the document nor
an open element nor the root, and no answer to another call. -/
theorem history_laws (history : List Call) :
    let b := after {} history
    ((∀ c ∈ history, c.isStart = false) → b.rootNamespaces = none) ∧
    (∀ front name attributes back, history = front ++ .event (.start name attributes) :: back →
      (∀ c ∈ front, c.isStart = false) →
      ∃ ns, b.rootNamespaces = some ns ∧ (ns.map Prod.fst).Nodup ∧
        ∀ qualifier, ns.lookup qualifier = bound (front.filterMap Call.binding?) qualifier) ∧
    b.opened.length + (replies {} history).countP isClosing = history.countP Call.isStart ∧
    (∀ error, (b.call (.event .finish)).2 = .failed error ↔
      b.opened = [] ∧ error = .nothingOpen) ∧
    (b.opened = [] → (b.call (.event .finish)).1 = b) ∧
    (b.call .document).1 = b ∧
    (∀ error, (b.call .document).2 = .failed error ↔
      outermosts {} history = [] ∧ error = .noRoot) ∧
    (∀ root, (outermosts {} history).getLast? = some root →
      ∃ ns, b.rootNamespaces = some ns ∧ (b.call .document).2 = .document ⟨root, ns⟩) ∧
    (∀ front name attributes back thinned,
      history = front ++ .event (.start name attributes) :: back → Thinned back thinned →
      let history' := front ++ .event (.start name attributes) :: thinned
      after {} history' = { b with pending := (after {} history').pending } ∧
        otherReplies {} history' = otherReplies {} history) := by
  intro b
  have hroot : b.root = (outermosts {} history).getLast? := by
    rw [root_after, Option.or_none]
  refine ⟨?_, ?_, ?_, call_finish_failed_iff b, ?_, call_document_fst b, ?_, ?_, ?_⟩
  · intro h
    exact (after_of_not_start h {}).1
  · rintro front name attributes back rfl hfront
    exact rootNamespaces_after hfront name attributes back
  · have hlength := length_opened_after {} history
    rw [List.length_nil, Nat.zero_add] at hlength
    exact hlength
  · intro hopened
    rw [call_finish_of_nil hopened]
  · intro error
    rw [← List.getLast?_eq_none_iff, ← hroot]
    cases h : b.root with
    | none => simp [call, document, h, eq_comm]
    | some root => simp [call, document, h]
  · intro root hlast
    rw [hlast] at hroot
    have hfixed : b.Fixed := fixed_after (fun h => by simp at h) history
    obtain ⟨ns, hns⟩ := Option.isSome_iff_exists.mp (hfixed (Or.inr (by rw [hroot]; rfl)))
    refine ⟨ns, hns, ?_⟩
    simp only [call, document, hroot, hns, Option.getD_some]
  · rintro front name attributes back thinned rfl hthinned
    -- The histories part after the first start, where the namespaces are fixed.
    let started := ((after {} front).call (.event (.start name attributes))).1
    have hstarted : started.rootNamespaces.isSome := rfl
    obtain ⟨pending, hafter, hreplies⟩ := after_thinned hthinned hstarted started.pending
    have hb : b = started.after back := by
      show after {} (front ++ _ :: back) = _
      rw [after_append, after_cons]
    have hthin : after {} (front ++ .event (.start name attributes) :: thinned) =
        { b with pending := pending } := by
      rw [after_append, after_cons, hb]
      exact hafter
    refine ⟨?_, ?_⟩
    · rw [hthin]
    · rw [otherReplies_append, otherReplies_append, otherReplies_cons, otherReplies_cons]
      exact congrArg _ (congrArg _ hreplies)

/-- A stray end, a root with a qualifier bound twice before it, and bindings and a second root after
it: the namespaces are those of the first start, and the second root is the document's. -/
theorem history_second_root :
    let root (tag : String) : Call := .event (.start ⟨none, tag⟩ [])
    let binding (uri : String) : Call := .event (.bind (some "p") (some uri))
    let history : List Call := [.event .finish, binding "u", binding "v", root "a", .event .finish,
      binding "w", root "b", .event .finish]
    ∃ ns, ns.lookup "p" = some (some "v") ∧
      ((after {} history).call .document).2 = .document ⟨.node ⟨"b", none, [], 1, 1⟩ [], ns⟩ := by
  intro root binding history
  obtain ⟨_, hns, _, _, _, _, _, hdocument, _⟩ := history_laws history
  obtain ⟨ns, hroot, _, hlookup⟩ :=
    hns [.event .finish, binding "u", binding "v"] ⟨none, "a"⟩ [] _ rfl (by decide)
  obtain ⟨ns', hroot', hanswer⟩ := hdocument (.node ⟨"b", none, [], 1, 1⟩ []) rfl
  rw [hroot, Option.some.injEq] at hroot'
  subst hroot'
  exact ⟨ns, (hlookup "p").trans (by decide), hanswer⟩

end Builder

end AttrLint
