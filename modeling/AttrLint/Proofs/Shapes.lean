import Mathlib.Data.List.Forall2
import AttrLint.Proofs.RuleFiles

namespace AttrLint

/-!
# Which tables are rules

A table is gone through entry by entry.  An entry of the right shape gives a rule, and the first one
that has another shape ends the extraction; warnings about keys that mean nothing are logged on the
way, the last of them perhaps about the entry that ends it.

* `RuleShape.IsGood` — an entry has the right shape; `RuleShape.isGood_iff` says that such entries
  are those that have requirements.
* `RuleShape.Offends` — what is said of an entry by the first test that it fails.
* `RuleShape.Warns` — what is logged about an entry.
* `RuleShape.extractFrom_append` — entries of the right shape, whatever follows them.
* `RuleShape.extract_exact` — the main statement, for all tables and for the files that hold them.
-/

namespace RuleShape

/-! ### Shapes -/

/-- Says that an entry is a table in which the key for requirements holds an array of strings. -/
def IsGood (value : Toml.Value) : Prop :=
  ∃ table items, value = .table table ∧ table.lookup requiredKey = some (.array items) ∧
    ∀ item ∈ items, ∃ text, item = .string text

/-- Says that a rule has the tag of an entry, and the strings of its array. -/
def Gives (entry : String × Toml.Value) (rule : String × List String) : Prop :=
  rule.1 = entry.1 ∧ ∃ table, entry.2 = .table table ∧
    table.lookup requiredKey = some (.array (rule.2.map .string))

/-- What is said of the entry of a tag by the first test that it fails, in the order of the
tests. -/
inductive Offends (tag : String) : Toml.Value → String → Prop
  | notTable {value : Toml.Value} (h : ∀ table, value ≠ .table table) :
      Offends tag value ("`" ++ tag ++ "` must be a table, e.g. [" ++ tag ++ "]")
  | noRequired {table : Toml.Table} (h : "required" ∉ table.map Prod.fst) :
      Offends tag (.table table) ("[" ++ tag ++ "] is missing `required`")
  | notArray {table : Toml.Table} {value : Toml.Value}
      (hvalue : table.lookup "required" = some value) (h : ∀ items, value ≠ .array items) :
      Offends tag (.table table) ("[" ++ tag ++ "] `required` must be an array of strings")
  | notStrings {table : Toml.Table} {items : List Toml.Value} {item : Toml.Value}
      (hvalue : table.lookup "required" = some (.array items)) (hitem : item ∈ items)
      (h : ∀ text, item ≠ .string text) :
      Offends tag (.table table) ("[" ++ tag ++ "] `required` must contain only strings")

/-- What is logged about the entry of a tag: nothing, or one warning that lists the keys without a
meaning in their order. -/
inductive Warns (tag : String) : Toml.Value → List LogRecord → Prop
  | nothing {value : Toml.Value}
      (h : ∀ table, value = .table table → ∀ key ∈ table.map Prod.fst, key = "required") :
      Warns tag value []
  | keys {table : Toml.Table} {keys : List String} (hsome : keys ≠ [])
      (hkeys : keys.Perm ((table.map Prod.fst).filter (· ≠ "required")))
      (hsorted : keys.Pairwise (· ≤ ·)) :
      Warns tag (.table table) [⟨.warning, "xml_requirements.infrastructure.config_file_loader",
        "Ignoring unknown key(s) in [" ++ tag ++ "]: " ++ ", ".intercalate keys⟩]

/-! ### One entry -/

theorem string?_eq_some_iff {value : Toml.Value} {text : String} :
    string? value = some text ↔ value = .string text := by
  cases value <;> simp [string?]

/-- Values are read as strings exactly if that is what they are. -/
theorem mapM_string?_eq_some_iff {items : List Toml.Value} {texts : List String} :
    items.mapM string? = some texts ↔ items = texts.map .string := by
  induction items generalizing texts with
  | nil => cases texts <;> simp
  | cons item items ih =>
    rw [List.mapM_cons]
    cases texts with
    | nil => simp [Option.bind_eq_some_iff]
    | cons text texts => simp [Option.bind_eq_some_iff, string?_eq_some_iff, ih]

/-- An array that cannot be read as strings has an item that is none. -/
theorem exists_of_mapM_string?_eq_none {items : List Toml.Value}
    (h : items.mapM string? = none) : ∃ item ∈ items, ∀ text, item ≠ .string text := by
  induction items with
  | nil => cases h
  | cons item items ih =>
    cases hitem : string? item with
    | none =>
      refine ⟨item, List.mem_cons_self, ?_⟩
      rintro text rfl
      cases hitem
    | some text =>
      have hrest : items.mapM string? = none := by
        cases hitems : items.mapM string? with
        | none => rfl
        | some texts => simp [List.mapM_cons, hitem, hitems] at h
      obtain ⟨other, hother, hno⟩ := ih hrest
      exact ⟨other, List.mem_cons_of_mem item hother, hno⟩

/-- The requirements of an entry are the strings of its array. -/
theorem required_eq_ok_iff {value : Toml.Value} {texts : List String} :
    required value = .ok texts ↔ ∃ table, value = .table table ∧
      table.lookup requiredKey = some (.array (texts.map .string)) := by
  cases value with
  | table table =>
    simp only [required, Toml.Value.table.injEq, exists_eq_left']
    cases hlookup : table.lookup requiredKey with
    | none => simp
    | some inner =>
      cases inner with
      | array items =>
        rw [Option.some.injEq, Toml.Value.array.injEq, ← mapM_string?_eq_some_iff]
        dsimp only
        cases items.mapM string? <;> simp
      | _ => simp
  | _ => simp [required]

/-- **Entries of the right shape have requirements**, and no others have. -/
theorem isGood_iff {value : Toml.Value} : IsGood value ↔ ∃ texts, required value = .ok texts := by
  simp only [required_eq_ok_iff]
  constructor
  · rintro ⟨table, items, hvalue, hlookup, hitems⟩
    cases hread : items.mapM string? with
    | some texts =>
      rw [mapM_string?_eq_some_iff.mp hread] at hlookup
      exact ⟨texts, table, hvalue, hlookup⟩
    | none =>
      obtain ⟨item, hitem, hno⟩ := exists_of_mapM_string?_eq_none hread
      obtain ⟨text, htext⟩ := hitems item hitem
      exact absurd htext (hno text)
  · rintro ⟨texts, table, hvalue, hlookup⟩
    refine ⟨table, texts.map .string, hvalue, hlookup, ?_⟩
    intro item hitem
    obtain ⟨text, -, rfl⟩ := List.mem_map.mp hitem
    exact ⟨text, rfl⟩

/-- The problems with the key for requirements in words, with the key spelled out. -/
theorem message_required (tag : String) :
    ShapeError.message ⟨tag, .noRequired⟩ = "[" ++ tag ++ "] is missing `required`" ∧
    ShapeError.message ⟨tag, .notArray⟩ =
      "[" ++ tag ++ "] `required` must be an array of strings" ∧
    ShapeError.message ⟨tag, .notStrings⟩ =
      "[" ++ tag ++ "] `required` must contain only strings" := by
  simp only [← String.toList_inj]
  simp [ShapeError.message, requiredKey]

/-- The problem of an entry is that of the first test it fails. -/
theorem offends_of_required {value : Toml.Value} {problem : ShapeProblem}
    (h : required value = .error problem) (tag : String) :
    Offends tag value (ShapeError.message ⟨tag, problem⟩) := by
  obtain ⟨hmissing, harray, hstrings⟩ := message_required tag
  -- The cases are the tests in the order in which they are made.
  cases value with
  | table table =>
    rw [required] at h
    cases hlookup : table.lookup requiredKey with
    | none =>
      rw [hlookup] at h
      cases h
      rw [hmissing]
      refine .noRequired ?_
      intro hmem
      obtain ⟨⟨key, value⟩, hentry, hkey⟩ := List.mem_map.mp hmem
      have hother : requiredKey ≠ key := by
        simpa using List.lookup_eq_none_iff.mp hlookup (key, value) hentry
      exact hother hkey.symm
    | some inner =>
      rw [hlookup] at h
      cases inner with
      | array items =>
        cases hread : items.mapM string? with
        | some texts => simp [hread] at h
        | none =>
          obtain ⟨item, hitem, hno⟩ := exists_of_mapM_string?_eq_none hread
          simp only [hread] at h
          cases h
          rw [hstrings]
          exact .notStrings hlookup hitem hno
      | _ =>
        cases h
        rw [harray]
        exact .notArray hlookup (by simp)
  | _ =>
    cases h
    exact .notTable (by simp)

/-- The keys without a meaning are listed in their order. -/
theorem unknownKeys_sorted (table : Toml.Table) : (unknownKeys table).Pairwise (· ≤ ·) := by
  have hsorted : (((table.map Prod.fst).filter (· ≠ requiredKey)).mergeSort
      fun a b => decide (a ≤ b)).Pairwise fun a b => decide (a ≤ b) = true :=
    List.pairwise_mergeSort (by simpa using fun a b c => String.le_trans)
      (by simpa using String.le_total) _
  simpa [unknownKeys] using hsorted

theorem warns_warnings (tag : String) (value : Toml.Value) :
    Warns tag value (warnings tag value) := by
  cases value with
  | table table =>
    have hkeys : (unknownKeys table).Perm ((table.map Prod.fst).filter (· ≠ requiredKey)) :=
      List.mergeSort_perm _ _
    rw [warnings]
    cases hunknown : unknownKeys table with
    | nil =>
      -- All keys are filtered out, so each of them is the one for requirements.
      rw [hunknown] at hkeys
      have hnone := List.filter_eq_nil_iff.mp (List.nil_perm.mp hkeys)
      refine .nothing ?_
      rintro _ ⟨⟩ key hkey
      have hname : key = requiredKey := by simpa using hnone key hkey
      exact hname
    | cons key keys =>
      rw [hunknown] at hkeys
      have hsorted := unknownKeys_sorted table
      rw [hunknown] at hsorted
      exact .keys (List.cons_ne_nil key keys) hkeys hsorted
  | _ => exact .nothing (by simp)

/-! ### All entries -/

/-- The warnings about entries, in their order. -/
def warningsOf (entries : Toml.Table) : List LogRecord :=
  entries.flatMap fun entry => warnings entry.1 entry.2

/-- **Entries of the right shape are passed**, whatever follows them: their rules and their warnings
are kept. -/
theorem extractFrom_append {before : Toml.Table} (hgood : ∀ entry ∈ before, IsGood entry.2)
    (rules : List (String × List String)) (log : List LogRecord) :
    ∃ given, List.Forall₂ Gives before given ∧ ∀ after,
      extractFrom rules log (before ++ after) =
        extractFrom (given.reverse ++ rules) ((warningsOf before).reverse ++ log) after := by
  induction before generalizing rules log with
  | nil => exact ⟨[], .nil, fun after => rfl⟩
  | cons entry before ih =>
    obtain ⟨tag, value⟩ := entry
    obtain ⟨texts, htexts⟩ := isGood_iff.mp (hgood (tag, value) List.mem_cons_self)
    obtain ⟨given, hgiven, hrest⟩ :=
      ih (fun other hother => hgood other (List.mem_cons_of_mem _ hother))
        ((tag, texts) :: rules) ((warnings tag value).reverse ++ log)
    refine ⟨(tag, texts) :: given, .cons ⟨rfl, required_eq_ok_iff.mp htexts⟩ hgiven, ?_⟩
    intro after
    rw [List.cons_append, extractFrom, htexts]
    dsimp only
    rw [hrest]
    simp [warningsOf]

/-- The first entry of another shape ends the extraction, whatever follows it. -/
theorem extract_stops {before : Toml.Table} (hgood : ∀ entry ∈ before, IsGood entry.2)
    (tag : String) {value : Toml.Value} {problem : ShapeProblem}
    (hbad : required value = .error problem) (after : Toml.Table) :
    extract (before ++ (tag, value) :: after) =
      (warningsOf (before ++ [(tag, value)]), .error ⟨tag, problem⟩) := by
  obtain ⟨given, -, hpassed⟩ := extractFrom_append hgood [] []
  rw [extract, hpassed, extractFrom, hbad]
  simp [warningsOf]

/-- Without such an entry, all rules are extracted. -/
theorem extract_passes {data : Toml.Table} (hgood : ∀ entry ∈ data, IsGood entry.2) :
    ∃ rules, List.Forall₂ Gives data rules ∧ extract data = (warningsOf data, .ok rules) := by
  obtain ⟨given, hgiven, hpassed⟩ := extractFrom_append hgood [] []
  refine ⟨given, hgiven, ?_⟩
  have hall := hpassed []
  rw [List.append_nil] at hall
  rw [extract, hall, extractFrom]
  simp

/-- What is logged about entries, one after the other. -/
theorem exists_warns (entries : Toml.Table) :
    ∃ logs, List.Forall₂ (fun entry log => Warns entry.1 entry.2 log) entries logs ∧
      logs.flatten = warningsOf entries := by
  refine ⟨entries.map fun entry => warnings entry.1 entry.2, ?_, ?_⟩
  · rw [List.forall₂_map_right_iff, List.forall₂_same]
    exact fun entry _ => warns_warnings entry.1 entry.2
  · rw [warningsOf, List.flatMap_def]

/-- If not all entries have the right shape, there is a first one that has another. -/
theorem exists_first_bad {data : Toml.Table} (h : ¬ ∀ entry ∈ data, IsGood entry.2) :
    ∃ before tag value after, data = before ++ (tag, value) :: after ∧
      (∀ entry ∈ before, IsGood entry.2) ∧ ¬ IsGood value := by
  induction data with
  | nil => exact absurd (fun _ hmem => absurd hmem List.not_mem_nil) h
  | cons entry data ih =>
    by_cases hentry : IsGood entry.2
    · have hlater : ¬ ∀ other ∈ data, IsGood other.2 := by
        intro hall
        exact h (List.forall_mem_cons.mpr ⟨hentry, hall⟩)
      obtain ⟨before, tag, value, after, rfl, hbefore, hbad⟩ := ih hlater
      exact ⟨entry :: before, tag, value, after, rfl,
        List.forall_mem_cons.mpr ⟨hentry, hbefore⟩, hbad⟩
    · exact ⟨[], entry.1, entry.2, data, rfl, fun _ hmem => absurd hmem List.not_mem_nil, hentry⟩

/-- **Exactly the tables of the right shape are rules, and the first entry of another shape is
named.**  If all entries have the right shape, the rules are the tags in their order with their
arrays, and what is logged are the warnings about the entries.  Otherwise the error is about the
first entry that has another shape, by the first test that it fails; what is logged are the warnings
about the entries up to this one, and no later entry matters.  Loading a file that holds the table
gives these rules, or reports that the file is not in order, with this error as the cause; it logs
the same. -/
theorem extract_exact (data : Toml.Table) :
    ((∃ rules, (extract data).2 = .ok rules) ↔ ∀ entry ∈ data, IsGood entry.2) ∧
    ((∀ entry ∈ data, IsGood entry.2) → ∃ rules logs,
      List.Forall₂ Gives data rules ∧
      List.Forall₂ (fun entry log => Warns entry.1 entry.2 log) data logs ∧
      extract data = (logs.flatten, .ok rules) ∧
      ∀ (fs : FileSystem) (path : Path) (text : List Char), fs.readText path = .ok text →
        Toml.parse text = .ok data →
        RuleFile.load fs path = ⟨.ok (RuleSet.ofMapping rules), logs.flatten⟩) ∧
    ∀ before tag value after, data = before ++ (tag, value) :: after →
      (∀ entry ∈ before, IsGood entry.2) → ¬ IsGood value → ∃ error logs,
        error.tag = tag ∧ Offends tag value error.message ∧
        List.Forall₂ (fun entry log => Warns entry.1 entry.2 log) (before ++ [(tag, value)]) logs ∧
        (∀ later, extract (before ++ (tag, value) :: later) = (logs.flatten, .error error)) ∧
        ∀ (fs : FileSystem) (path : Path) (text : List Char), fs.readText path = .ok text →
          Toml.parse text = .ok data → ∃ reported,
            RuleFile.load fs path = ⟨.error (.reported reported), logs.flatten⟩ ∧
            reported.kind = .configParse ∧ reported.path = some path.toString ∧
            reported.cause = .shape error := by
  have hload {fs : FileSystem} {path : Path} {text : List Char}
      (hread : fs.readText path = .ok text) (hparse : Toml.parse text = .ok data) :
      RuleFile.load fs path = RuleFile.ofTable path.toString data := by
    simp only [RuleFile.load, hread, RuleFile.ofText, hparse]
  have hproblem {value : Toml.Value} (hbad : ¬ IsGood value) :
      ∃ problem, required value = .error problem := by
    cases hvalue : required value with
    | ok texts => exact absurd (isGood_iff.mpr ⟨texts, hvalue⟩) hbad
    | error problem => exact ⟨problem, rfl⟩
  refine ⟨⟨?_, ?_⟩, ?_, ?_⟩
  · -- A first entry of another shape would have ended the extraction.
    rintro ⟨rules, hok⟩
    by_contra hnot
    obtain ⟨before, tag, value, after, rfl, hgood, hbad⟩ := exists_first_bad hnot
    obtain ⟨problem, hvalue⟩ := hproblem hbad
    rw [extract_stops hgood tag hvalue after] at hok
    cases hok
  · intro hgood
    obtain ⟨rules, -, hextract⟩ := extract_passes hgood
    exact ⟨rules, by rw [hextract]⟩
  · intro hgood
    obtain ⟨rules, hgiven, hextract⟩ := extract_passes hgood
    obtain ⟨logs, hlogs, hflat⟩ := exists_warns data
    rw [← hflat] at hextract
    refine ⟨rules, logs, hgiven, hlogs, hextract, ?_⟩
    intro fs path text hread hparse
    rw [hload hread hparse, RuleFile.ofTable, hextract]
  · intro before tag value after hdata hgood hbad
    obtain ⟨problem, hvalue⟩ := hproblem hbad
    -- The entry that ends the extraction is warned about before it is refused.
    obtain ⟨logs, hlogs, hflat⟩ := exists_warns (before ++ [(tag, value)])
    have hstops := extract_stops hgood tag hvalue
    refine ⟨⟨tag, problem⟩, logs, rfl, offends_of_required hvalue tag, hlogs, ?_, ?_⟩
    · rw [hflat]
      exact hstops
    · intro fs path text hread hparse
      refine ⟨.configParse path.toString (.shape ⟨tag, problem⟩), ?_, rfl, rfl, rfl⟩
      rw [hload hread hparse, RuleFile.ofTable, hdata, hstops after, hflat]

/-- A rule file whose second tag has a key that means nothing, and no requirements. -/
def sampleText : List Char :=
  "[A]\nrequired=[]\nz=''\n[B]\nk=''\n[C]\n".toList

/-- The entry of its first tag. -/
def sampleFirst : Toml.Value :=
  .table [("required", .array []), ("z", .string "")]

/-- The entry of its second tag. -/
def sampleSecond : Toml.Value :=
  .table [("k", .string "")]

/-- The error names the second tag, and the third one, which has no requirements either, is not
looked at. -/
theorem extract_exact_second_tag :
    IsGood sampleFirst ∧ ¬ IsGood sampleSecond ∧ ∃ error reported log,
      Offends "B" sampleSecond error.message ∧ reported.cause = .shape error ∧
      RuleFile.load (RuleFile.lone (Text.Utf8.encode sampleText)) RuleFile.lonePath =
        ⟨.error (.reported reported), log⟩ := by
  have hgood : IsGood sampleFirst := ⟨_, _, rfl, rfl, by simp⟩
  have hbad : ¬ IsGood sampleSecond := by
    rintro ⟨table, items, ⟨⟩, hlookup, -⟩
    cases hlookup
  have hread : (RuleFile.lone (Text.Utf8.encode sampleText)).readText RuleFile.lonePath =
      .ok sampleText := by decide +kernel
  -- The reader computes only where the characters are spelled out.
  have hchars : sampleText = ['[', 'A', ']', '\n', 'r', 'e', 'q', 'u', 'i', 'r', 'e', 'd', '=', '[',
      ']', '\n', 'z', '=', '\'', '\'', '\n', '[', 'B', ']', '\n', 'k', '=', '\'', '\'', '\n', '[',
      'C', ']', '\n'] := by decide
  have hparse : Toml.parse sampleText =
      .ok ([("A", sampleFirst)] ++ ("B", sampleSecond) :: [("C", .table [])]) := by
    rw [hchars]
    rfl
  have hbefore : ∀ entry ∈ [("A", sampleFirst)], IsGood entry.2 := by
    intro entry hentry
    obtain rfl := List.mem_singleton.mp hentry
    exact hgood
  obtain ⟨error, logs, -, hoffends, -, -, hload⟩ :=
    (extract_exact _).2.2 [("A", sampleFirst)] "B" sampleSecond [("C", .table [])] rfl hbefore hbad
  obtain ⟨reported, hreported, -, -, hcause⟩ := hload _ _ _ hread hparse
  exact ⟨hgood, hbad, error, reported, _, hoffends, hcause, hreported⟩

end RuleShape

end AttrLint
