import AttrLint.Proofs.Outcomes
import AttrLint.Xml.Reader

namespace AttrLint.Xml

/-!
# Failures of markup

Whatever is wrong with the markup of a document is reported: it is a fault at a position, a declared
entity or an external subset.  The only other failure that markup can lead to is a start tag with
names of too many parts.

* `OnlyReported` — an outcome whose failures are all reported.
* `Value.normalize_reported`, `Expect.accept_reported` — attribute values and declarations.
* `Tag.resolve_failure` — start tags.
* `Reader.finish_failure` — the end of a document.
-/

/-- Says that a failure, if there is one, is reported. -/
def OnlyReported {α : Type} (outcome : Except Failure α) : Prop :=
  ∀ e, outcome = .error e → e.isReported = true

/-- A success has no failure that could go unreported. -/
theorem OnlyReported.ok {α : Type} (a : α) : OnlyReported (.ok a : Except Failure α) := by
  intro e h
  cases h

/-- A single failure has to be a reported one. -/
theorem OnlyReported.error {α : Type} {e : Failure} (h : e.isReported = true) :
    OnlyReported (.error e : Except Failure α) := by
  intro e' h'
  cases h'
  exact h

/-- Faults of the markup are reported. -/
theorem OnlyReported.fault {α : Type} (problem : Problem) (position : Position) :
    OnlyReported (.error (.fault problem position) : Except Failure α) :=
  .error rfl

/-- Steps one after the other fail only as each of them does. -/
theorem OnlyReported.bind {α β : Type} {outcome : Except Failure α} {f : α → Except Failure β}
    (h : OnlyReported outcome) (hf : ∀ a, OnlyReported (f a)) : OnlyReported (outcome >>= f) := by
  cases outcome with
  | ok a => exact hf a
  | error e => exact .error (h e rfl)

/-! ### Attribute values -/

namespace Value

variable {rule : ValueRule}

/-- A character of a value fails at most because it may not stand there. -/
theorem feedText_reported (value : Value) (c : Char) : OnlyReported (feedText rule value c) := by
  unfold feedText
  dsimp only
  split
  · exact .ok _
  split
  · exact .fault _ _
  split
  · exact .ok _
  split
  · exact .ok _
  · exact .ok _

/-- So does a character of a reference in a value. -/
theorem feedReference_reported (value : Value) (reference : Reference) (ampersand : Position)
    (c : Char) : OnlyReported (feedReference rule value reference ampersand c) := by
  unfold feedReference addEntity
  grind [OnlyReported, Failure.isReported]

/-- No character of a value fails in another way, by induction on the characters. -/
theorem feedAll_reported (value : Value) (written : List Char) :
    OnlyReported (feedAll rule value written) := by
  induction written generalizing value with
  | nil => exact .ok value
  | cons c cs ih =>
    cases hpending : value.pending with
    | none =>
      simp only [feedAll, hpending]
      split
      · exact ih _
      · rename_i e h
        exact .error (feedText_reported value c e h)
    | some reference =>
      simp only [feedAll, hpending]
      split
      · exact ih _
      · rename_i e h
        exact .error (feedReference_reported value _ _ c e h)

/-- A value that ends inside a reference is a fault. -/
theorem finish_reported (value : Value) : OnlyReported (finish rule value) := by
  unfold finish
  grind [OnlyReported, Failure.isReported]

/-- **Values of attributes** fail only by faults. -/
theorem normalize_reported (start : Cursor) (written : List Char) :
    OnlyReported (normalize rule start written) := by
  unfold normalize
  split
  · exact finish_reported _
  · rename_i e h
    exact .error (feedAll_reported _ written e h)

end Value

/-- What is wrong with the text of a declared entity is reported. -/
theorem checkEntityText_reported {alphabet : Alphabet} {part : EntityText} {cursor : Cursor}
    {text : List Char} {e : Failure} (h : checkEntityText alphabet part cursor text = some e) :
    e.isReported = true := by
  fun_induction checkEntityText alphabet part cursor text
  all_goals grind [Failure.isReported]

/-! ### Declarations -/

namespace Expect

/-- A token that may not come is reported, whichever it is. -/
theorem reject_isReported (start : Position) (token : Token) :
    (reject start token).isReported = true := by
  unfold reject
  split <;> rfl

/-- A public identifier fails only by its characters. -/
theorem publicId_reported (start : Position) (body : List Char) :
    OnlyReported (publicId start body) := by
  unfold publicId
  grind [OnlyReported, Failure.isReported]

/-- The end of a document type fails only for its external subset. -/
theorem closeType_reported (k : Knowledge) : OnlyReported (closeType k) := by
  unfold closeType
  grind [OnlyReported, Failure.isReported]

/-- The declaration of an entity by a text is refused with a reported failure. -/
theorem entityText_reported (k : Knowledge) (start : Position) (parameter : Bool) (name : String)
    (body : List Char) : OnlyReported (entityText k start parameter name body) := by
  unfold entityText
  grind [OnlyReported, Failure.isReported, checkEntityText_reported]

/-- So is that of an external entity. -/
theorem entityExternal_reported (k : Knowledge) (parameter : Bool) (name : String) (id : ExternalId)
    (next : Expect) : OnlyReported (entityExternal k parameter name id next) := by
  unfold entityExternal
  grind [OnlyReported, Failure.isReported]

/-- The default of a declared attribute fails only as its value does. -/
theorem declareDefault_reported (k : Knowledge) (start : Position) (head : AttributeHead)
    (body : List Char) : OnlyReported (declareDefault k start head body) := by
  unfold declareDefault
  split
  · exact .ok k
  dsimp only
  split
  · rename_i e h
    exact .error (Value.normalize_reported _ body e h)
  · exact .ok _

/-- Between the declarations of a subset, only a token that may not come fails. -/
theorem acceptSubset_reported (k : Knowledge) (start : Position) (token : Token) :
    OnlyReported (acceptSubset k start token) := by
  unfold acceptSubset
  grind [OnlyReported, reject_isReported]

/-- **Declarations** fail only in reported ways, in every state and with every token. -/
theorem accept_reported (expect : Expect) (k : Knowledge) (start : Position) (token : Token) :
    OnlyReported (expect.accept k start token) := by
  fun_cases accept expect k start token
  all_goals grind [OnlyReported, reject_isReported, publicId_reported, closeType_reported,
    entityText_reported, entityExternal_reported, declareDefault_reported, acceptSubset_reported]

end Expect

/-! ### Start tags -/

namespace Tag

/-- A start tag whose declarations have come into force and whose names have been expanded. -/
structure Expanded where
  sorting : Sorting
  element : Expansion
  attributes : List Expansion

/-- All of a start tag's meaning but the names that come out of its expansions. -/
def expanded (k : Knowledge) (scope : Scope) (position : Position) (tag : Tag) :
    Except Failure Expanded := do
  let rules := k.attributesOf tag.name
  let atTag {α : Type} : Except Problem α → Except Failure α :=
    Except.mapError fun problem => .fault problem position
  let s ← sortWritten k rules position [] ⟨scope, [], []⟩ tag.attributes
  let s ← atTag (sortDeclared (tag.attributes.map (·.name)) s rules)
  let attributes ← atTag (expandAttributes s.scope [] s.names.reverse)
  let element ← atTag (s.scope.expandElement tag.name)
  return ⟨s, element, attributes⟩

/-- The meaning of an expanded start tag. -/
def Expanded.opening (x : Expanded) : Except Failure Opening :=
  match x.element.name?, names? x.attributes with
  | some name, some names => .ok ⟨x.sorting.bindings.reverse, x.sorting.scope, name, names⟩
  | _, _ => .error .tooManyNameParts

/-- The meaning of a start tag comes in two steps. -/
theorem resolve_eq (k : Knowledge) (scope : Scope) (position : Position) (tag : Tag) :
    tag.resolve k scope position = tag.expanded k scope position >>= Expanded.opening := by
  unfold resolve expanded
  simp only [bind_assoc, pure_bind]
  rfl

/-- The steps that expanding a start tag has taken. -/
theorem expanded_eq_ok {k : Knowledge} {scope : Scope} {position : Position} {tag : Tag}
    {x : Expanded} (h : tag.expanded k scope position = .ok x) :
    ∃ s,
      sortWritten k (k.attributesOf tag.name) position [] ⟨scope, [], []⟩ tag.attributes = .ok s ∧
      sortDeclared (tag.attributes.map (·.name)) s (k.attributesOf tag.name) = .ok x.sorting ∧
      expandAttributes x.sorting.scope [] x.sorting.names.reverse = .ok x.attributes ∧
      x.sorting.scope.expandElement tag.name = .ok x.element := by
  unfold expanded at h
  obtain ⟨s, hwritten, h⟩ := bind_eq_ok h
  obtain ⟨declared, hdeclared, h⟩ := bind_eq_ok h
  obtain ⟨attributes, hattributes, h⟩ := bind_eq_ok h
  obtain ⟨element, helement, h⟩ := bind_eq_ok h
  obtain rfl := Except.ok.inj h
  exact ⟨s, hwritten, mapError_eq_ok_iff.mp hdeclared, mapError_eq_ok_iff.mp hattributes,
    mapError_eq_ok_iff.mp helement⟩

/-- The written attributes of a start tag fail as their values, or by a fault. -/
theorem sortWritten_reported (k : Knowledge) (rules : List AttributeRule) (position : Position)
    (seen : List String) (s : Sorting) (written : List WrittenAttribute) :
    OnlyReported (sortWritten k rules position seen s written) := by
  induction written generalizing seen s with
  | nil => exact .ok s
  | cons a rest ih =>
    unfold sortWritten
    split
    · exact .fault _ _
    dsimp only
    split
    · rename_i e h
      exact .error (Value.normalize_reported _ _ e h)
    split
    · exact .fault _ _
    · exact ih _ _

/-- Everything before the names are made fails only in reported ways. -/
theorem expanded_reported (k : Knowledge) (scope : Scope) (position : Position) (tag : Tag) :
    OnlyReported (tag.expanded k scope position) := by
  have hproblem {α : Type} (problem : Except Problem α) :
      OnlyReported (problem.mapError fun problem => Failure.fault problem position) := by
    cases problem with
    | ok a => exact .ok a
    | error problem => exact .fault problem position
  unfold expanded
  refine .bind (sortWritten_reported _ _ _ _ _ _) fun s => ?_
  refine .bind (hproblem _) fun s => ?_
  refine .bind (hproblem _) fun attributes => ?_
  refine .bind (hproblem _) fun element => ?_
  exact .ok _

/-- **Start tags** fail in one way that is not reported: by names of too many parts. -/
theorem resolve_failure {k : Knowledge} {scope : Scope} {position : Position} {tag : Tag}
    {e : Failure} (h : tag.resolve k scope position = .error e) :
    e.isReported = true ∨ e = .tooManyNameParts := by
  rw [resolve_eq] at h
  cases hx : tag.expanded k scope position with
  | error e' =>
    rw [hx] at h
    obtain rfl := Except.error.inj h
    exact Or.inl (expanded_reported k scope position tag e' hx)
  | ok x =>
    rw [hx] at h
    have hopening : x.opening = .error e := h
    unfold Expanded.opening at hopening
    split at hopening
    · cases hopening
    · exact Or.inr (Except.error.inj hopening).symm

end Tag

/-! ### The end of a document -/

namespace Reader

/-- A document that ends inside its root element is reported. -/
theorem finishInside_isReported (r : Reader) (content : Content) (ending : Ending) :
    (r.finishInside content ending).isReported = true := by
  unfold finishInside
  grind [Failure.isReported]

/-- Tokens one after the other fail only as one of them does. -/
theorem acceptAll_reported (expect : Expect) (k : Knowledge) (tokens : List (Position × Token)) :
    OnlyReported (acceptAll expect k tokens) := by
  induction tokens generalizing expect k with
  | nil => exact .ok _
  | cons token rest ih =>
    unfold acceptAll
    split
    · rename_i e h
      exact .error (Expect.accept_reported _ _ _ _ e h)
    · exact ih _ _

/-- A document that ends before its root element is reported. -/
theorem finishBefore_isReported (r : Reader) (expect : Expect) (lexing : Lexing)
    (ending : Ending) : (r.finishBefore expect lexing ending).isReported = true := by
  unfold finishBefore
  grind [Failure.isReported, Expect.accept_reported, acceptAll_reported, OnlyReported]

/-- What cannot stand at the end of a document, after its root element, is reported. -/
theorem finishAfter_isReported {r : Reader} {lexing : Lexing} {ending : Ending} {e : Failure}
    (h : r.finishAfter lexing ending = some e) : e.isReported = true := by
  unfold finishAfter at h
  grind [Failure.isReported]

/-- What is wrong with the end of a document is reported; other failures have come before. -/
theorem finish_failure {r : Reader} {ending : Ending} {e : Failure}
    (h : r.finish ending = .error e) : r.stage = .failed e ∨ e.isReported = true := by
  unfold finish at h
  split at h
  · rename_i failure hstage
    obtain rfl := Except.error.inj h
    exact Or.inl hstage
  · obtain rfl := Except.error.inj h
    exact Or.inr (finishBefore_isReported _ _ _ _)
  · obtain rfl := Except.error.inj h
    exact Or.inr (finishInside_isReported _ _ _)
  · split at h
    · rename_i failure hfailure
      obtain rfl := Except.error.inj h
      exact Or.inr (finishAfter_isReported hfailure)
    · cases h

end Reader

end AttrLint.Xml
