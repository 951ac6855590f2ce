import AttrLint.Proofs.Requirement
import AttrLint.Proofs.RuleFiles
import AttrLint.Proofs.TomlWriting

namespace AttrLint

/-!
# Writing rule files, and loading them again

A rule file can be written for any tags and any requirements: a table header for each tag, with the
tag between quotes, and a line with its requirements.  Loading such a file gives the rules back if
no tag occurs twice, and is refused at the first tag that does.

* `RuleFile.write` — the text of a rule file.
* `RuleFile.draftAfter` — the document that has been read after some of the rules.
* `RuleFile.readAll_writeRule` — reading goes on from there by one rule.
* `RuleFile.readAll_write` — and so by any number of rules with new tags.
* `RuleFile.readAll_repeated` — a tag that is there already stops it.
* `RuleFile.load_written` — what loading comes to.
-/

namespace RuleFile

open Toml

/-! ### Writing -/

/-- What stands before the requirements of a tag. -/
def requiredPart : List Char :=
  requiredKey.toList ++ [' ', '=', ' ']

/-- The header of a tag's table and the line with its requirements. -/
def writeRule (rule : String × List String) : List Char :=
  '[' :: (writeString rule.1 ++
    ']' :: '\n' :: (requiredPart ++ (writeArray rule.2 ++ ['\n'])))

/-- The text of a rule file. -/
def write (rules : List (String × List String)) : List Char :=
  rules.flatMap writeRule

/-! ### Reading it back -/

/-- The table of a rule. -/
def entryOf (rule : String × List String) : String × Value :=
  (rule.1, .table [(requiredKey, .array (rule.2.map .string))])

/-- The document after some of the rules: the last one's table is open. -/
def draftAfter (rules : List (String × List String)) : Draft where
  entries := rules.map entryOf
  header := (rules.getLast?.map fun rule => [rule.1]).getD []
  declared := (rules.map fun rule => [rule.1]).reverse
  frozen := (rules.map fun rule => [rule.1, requiredKey]).reverse

/-- The document after the header of a tag that follows some rules. -/
def draftAt (rules : List (String × List String)) (tag : String) : Draft where
  entries := rules.map entryOf ++ [(tag, .table [])]
  header := [tag]
  declared := [tag] :: (rules.map fun rule => [rule.1]).reverse
  frozen := (rules.map fun rule => [rule.1, requiredKey]).reverse

section Reading

variable {fuel : Nat} {done : List (String × List String)} {tag : String}

/-- The names of the tables are the tags. -/
theorem keys_entryOf (rules : List (String × List String)) :
    (rules.map entryOf).map Prod.fst = rules.map Prod.fst := by
  simp [entryOf, Function.comp_def]

/-- Only what is inside the table of a tag is closed, never the table. -/
theorem isFrozen_tag (rules : List (String × List String)) (tag : String) :
    isFrozen (rules.map fun rule => [rule.1, requiredKey]).reverse [tag] = false := by
  simp [isFrozen, List.isPrefixOf]

/-- A tag has been declared if one of the rules is for it. -/
theorem contains_declared (rules : List (String × List String)) (tag : String) :
    (rules.map fun rule => [rule.1]).reverse.contains [tag] = true ↔ tag ∈ rules.map Prod.fst := by
  simp

/-- The tag between the brackets of a header is read as a key of one part. -/
theorem readKey_tag (fuel : Nat) (tag : String) (rest : List Char) :
    readKey (fuel + 1) [] (skipGaps (writeString tag ++ ']' :: rest)) =
      .ok ([tag], ']' :: rest) :=
  readKey_written fuel tag rfl (by simp)

/-- The header of a new tag opens a table. -/
theorem readTableHeader_new (htag : tag ∉ done.map Prod.fst) (rest : List Char) :
    (draftAfter done).readTableHeader (fuel + 1) (writeString tag ++ ']' :: rest) =
      .ok (draftAt done tag, rest) := by
  have hdeclared : ¬ (draftAfter done).declared.contains [tag] = true := by
    rwa [draftAfter, contains_declared]
  have hfrozen : isFrozen (draftAfter done).frozen [tag] = false := isFrozen_tag done tag
  have hnew : tag ∉ (draftAfter done).entries.map Prod.fst := by
    rwa [draftAfter, keys_entryOf]
  have hupdate : updateAt true Problem.overwrittenValue .ok [tag] (draftAfter done).entries =
      .ok ((draftAfter done).entries ++ [(tag, .table [])]) := by
    simp [updateAt, Entries.lookup_eq_none_of_not_mem hnew, Entries.put_eq_append hnew, Except.map]
  rw [Draft.readTableHeader, readKey_tag]
  simp only [hdeclared, hfrozen, hupdate]
  rfl

/-- The header of a tag that is there already is refused. -/
theorem readTableHeader_repeated (htag : tag ∈ done.map Prod.fst) (rest : List Char) :
    (draftAfter done).readTableHeader (fuel + 1) (writeString tag ++ ']' :: rest) =
      .error (.problem (.declaredTwice [tag]) (']' :: rest)) := by
  have hdeclared : (draftAfter done).declared.contains [tag] = true := by
    rwa [draftAfter, contains_declared]
  rw [Draft.readTableHeader, readKey_tag]
  simp only [hdeclared, Bool.true_or, if_true]

theorem readKey_required (fuel : Nat) (rest : List Char) :
    readKey (fuel + 1) [] (requiredPart ++ rest) = .ok ([requiredKey], '=' :: ' ' :: rest) := by
  rfl

theorem skipGaps_writeArray (raws : List String) (rest : List Char) :
    skipGaps (' ' :: (writeArray raws ++ rest)) = writeArray raws ++ rest :=
  rfl

/-- Requirements are added to the table of the last tag. -/
theorem addPair_required (htag : tag ∉ done.map Prod.fst) (raws : List String) (rest : List Char) :
    (draftAt done tag).addPair [requiredKey] (.array (raws.map .string)) rest =
      .ok (draftAfter (done ++ [(tag, raws)])) := by
  have hnew : tag ∉ (done.map entryOf).map Prod.fst := by
    rwa [keys_entryOf]
  have hfrozen := isFrozen_tag done tag
  have hlookup : (done.map entryOf ++ [(tag, Value.table [])]).lookup tag = some (.table []) := by
    simp [List.lookup_append, Entries.lookup_eq_none_of_not_mem hnew]
  unfold Draft.addPair
  simp [Draft.pathKeys, Draft.enterAll, draftAt, draftAfter, hfrozen, updateAt, hlookup,
    Entries.put_append_self hnew, Except.map, entryOf, Value.isCompound]

/-- The line with the requirements fills the table that is open. -/
theorem readPair_required (htag : tag ∉ done.map Prod.fst) (raws : List String) (rest : List Char)
    (hfuel : raws.length + 3 ≤ fuel) :
    (draftAt done tag).readPair fuel (requiredPart ++ (writeArray raws ++ '\n' :: rest)) =
      .ok (draftAfter (done ++ [(tag, raws)]), '\n' :: rest) := by
  obtain ⟨fuel, rfl⟩ : ∃ k, fuel = k + 1 := Nat.exists_eq_add_of_le' (by omega)
  rw [Draft.readPair, readKey_required]
  simp only [skipGaps_writeArray, readValue_written raws ('\n' :: rest) hfuel,
    addPair_required htag]
  rfl

/-- A statement that ends with its line is one turn. -/
theorem readAll_line {d d' : Draft} {c : Char} {s rest : List Char} (turns : Nat)
    (hgap : isGap c = false) (hline : c ≠ '\n')
    (hread : d.readStatement fuel c s = .ok (d', '\n' :: rest)) :
    d.readAll fuel (turns + 1) (c :: s) = d'.readAll fuel turns rest := by
  have hskip : skipGaps (c :: s) = c :: s := by
    simp [skipGaps, hgap]
  have hend : skipComment (skipGaps ('\n' :: rest)) = .ok ('\n' :: rest) := rfl
  rw [Draft.readAll, hskip]
  simp [hread, hend]

/-- A statement that is refused ends the reading. -/
theorem readAll_refused {d : Draft} {c : Char} {s : List Char} {e : Stop} (turns : Nat)
    (hgap : isGap c = false) (hline : c ≠ '\n') (hread : d.readStatement fuel c s = .error e) :
    d.readAll fuel (turns + 1) (c :: s) = .error e := by
  have hskip : skipGaps (c :: s) = c :: s := by
    simp [skipGaps, hgap]
  rw [Draft.readAll, hskip]
  simp [hread]

theorem readStatement_header (fuel : Nat) (done : List (String × List String)) (tag : String)
    (rest : List Char) :
    (draftAfter done).readStatement fuel '[' (writeString tag ++ rest) =
      (draftAfter done).readTableHeader fuel (writeString tag ++ rest) :=
  rfl

/-- Reading goes on by one rule, if its tag is new. -/
theorem readAll_writeRule (htag : tag ∉ done.map Prod.fst) (raws : List String)
    (rest : List Char) (turns : Nat) (hfuel : raws.length + 3 ≤ fuel) :
    (draftAfter done).readAll fuel (turns + 2) (writeRule (tag, raws) ++ rest) =
      (draftAfter (done ++ [(tag, raws)])).readAll fuel turns rest := by
  obtain ⟨fuel, rfl⟩ : ∃ k, fuel = k + 1 := Nat.exists_eq_add_of_le' (by omega)
  let line := requiredPart ++ (writeArray raws ++ '\n' :: rest)
  have hwritten : writeRule (tag, raws) ++ rest =
      '[' :: (writeString tag ++ ']' :: '\n' :: line) := by
    simp [writeRule, line]
  have hheader := (readStatement_header (fuel + 1) done tag (']' :: '\n' :: line)).trans
    (readTableHeader_new htag ('\n' :: line))
  have hpair := readPair_required htag raws rest hfuel
  rw [hwritten, readAll_line (turns + 1) (by decide) (by decide) hheader]
  exact readAll_line turns (by decide) (by decide) hpair

/-- Rules whose tags are new are read one after the other. -/
theorem readAll_write (rules : List (String × List String)) (rest : List Char) (turns : Nat)
    (hnodup : ((done ++ rules).map Prod.fst).Nodup)
    (hfuel : ∀ rule ∈ rules, rule.2.length + 3 ≤ fuel) :
    (draftAfter done).readAll fuel (turns + 2 * rules.length) (write rules ++ rest) =
      (draftAfter (done ++ rules)).readAll fuel turns rest := by
  induction rules generalizing done with
  | nil => simp [write]
  | cons rule rules ih =>
    have hnew : rule.1 ∉ done.map Prod.fst := by
      rw [List.map_append, List.map_cons] at hnodup
      exact fun hmem => (List.nodup_append.mp hnodup).2.2 _ hmem _ List.mem_cons_self rfl
    have hwritten : write (rule :: rules) ++ rest = writeRule rule ++ (write rules ++ rest) := by
      simp [write]
    have hturns : turns + 2 * (rule :: rules).length = turns + 2 * rules.length + 2 := by
      rw [List.length_cons]
      omega
    rw [hwritten, hturns, readAll_writeRule hnew _ _ _ (hfuel rule List.mem_cons_self),
      ih (by simpa using hnodup) fun other hother => hfuel other (List.mem_cons_of_mem _ hother)]
    simp

/-- A rule for a tag that is there already stops the reading. -/
theorem readAll_repeated (htag : tag ∈ done.map Prod.fst) (raws : List String)
    (rest : List Char) (turns : Nat) :
    ∃ left, left ≠ [] ∧
      (draftAfter done).readAll (fuel + 1) (turns + 1) (writeRule (tag, raws) ++ rest) =
        .error (.problem (.declaredTwice [tag]) left) := by
  let line := requiredPart ++ (writeArray raws ++ '\n' :: rest)
  have hwritten : writeRule (tag, raws) ++ rest =
      '[' :: (writeString tag ++ ']' :: '\n' :: line) := by
    simp [writeRule, line]
  have hheader := (readStatement_header (fuel + 1) done tag (']' :: '\n' :: line)).trans
    (readTableHeader_repeated htag ('\n' :: line))
  refine ⟨']' :: '\n' :: line, List.cons_ne_nil _ _, ?_⟩
  rw [hwritten]
  exact readAll_refused turns (by decide) (by decide) hheader

end Reading

/-! ### Bounds -/

theorem length_writeArray (raws : List String) : raws.length + 2 ≤ (writeArray raws).length := by
  have hitems : raws.length ≤ (List.intercalate [',', ' '] (raws.map writeString)).length := by
    induction raws with
    | nil => simp
    | cons raw raws ih =>
      cases raws with
      | nil => simp [writeString]
      | cons next raws =>
        rw [List.map_cons, List.map_cons, List.intercalate_cons_cons]
        simp only [List.map_cons, List.length_append, List.length_cons] at ih ⊢
        omega
  simp only [writeArray, List.length_cons, List.length_append, List.length_nil]
  omega

/-- The text of a rule is long enough for the steps that reading it takes. -/
theorem length_writeRule (rule : String × List String) :
    rule.2.length + 3 ≤ (writeRule rule).length := by
  have harray := length_writeArray rule.2
  simp only [writeRule, List.length_cons, List.length_append]
  omega

theorem length_write (rules : List (String × List String)) :
    2 * rules.length ≤ (write rules).length ∧
      ∀ rule ∈ rules, rule.2.length + 3 ≤ (write rules).length := by
  induction rules with
  | nil => simp [write]
  | cons rule rules ih =>
    have hrule := length_writeRule rule
    have hlength : (write (rule :: rules)).length =
        (writeRule rule).length + (write rules).length := by
      simp [write]
    obtain ⟨hall, heach⟩ := ih
    refine ⟨?_, ?_⟩
    · rw [hlength, List.length_cons]
      omega
    · intro other hother
      rw [hlength]
      rcases List.mem_cons.mp hother with rfl | hother
      · omega
      · have := heach other hother
        omega

/-! ### Parsing and loading -/

/-- In a document that begins with rules for new tags, these are read, and a turn is left. -/
theorem readAll_source {rules : List (String × List String)} (h : (rules.map Prod.fst).Nodup)
    {rest source : List Char} (hsource : source = write rules ++ rest) :
    ∃ turns, Draft.readAll (2 * source.length + 2) (source.length + 1) {} source =
      (draftAfter rules).readAll (2 * source.length + 2) (turns + 1) rest := by
  obtain ⟨hall, heach⟩ := length_write rules
  have hlength : source.length = (write rules).length + rest.length := by
    rw [hsource, List.length_append]
  have hfuel : ∀ rule ∈ rules, rule.2.length + 3 ≤ 2 * source.length + 2 := by
    intro rule hrule
    have := heach rule hrule
    omega
  let turns := source.length - 2 * rules.length
  have hturns : source.length + 1 = turns + 1 + 2 * rules.length := by
    simp only [turns]
    omega
  have hread : (draftAfter []).readAll (2 * source.length + 2) (turns + 1 + 2 * rules.length)
      (write rules ++ rest) = (draftAfter rules).readAll (2 * source.length + 2) (turns + 1) rest :=
    readAll_write rules rest (turns + 1) h hfuel
  refine ⟨turns, ?_⟩
  rw [hturns, ← hread, ← hsource]
  rfl

/-- A file with a rule for each of several tags has a table for each. -/
theorem parse_write {rules : List (String × List String)} (h : (rules.map Prod.fst).Nodup) :
    parse (write rules) = .ok (rules.map entryOf) := by
  obtain ⟨turns, hread⟩ := readAll_source h (List.append_nil (write rules)).symm
  have hend (fuel : Nat) :
      (draftAfter rules).readAll fuel (turns + 1) [] = .ok (draftAfter rules) := rfl
  rw [parse, hread, hend]
  rfl

/-- In a list with repetitions there is a first entry that has occurred before. -/
theorem exists_first_repeated {rules : List (String × List String)}
    (h : ¬ (rules.map Prod.fst).Nodup) :
    ∃ done tag raws later, rules = done ++ (tag, raws) :: later ∧
      (done.map Prod.fst).Nodup ∧ tag ∈ done.map Prod.fst := by
  have hgeneral (rules done : List (String × List String)) (hdone : (done.map Prod.fst).Nodup)
      (hall : ¬ ((done ++ rules).map Prod.fst).Nodup) :
      ∃ before tag raws later, done ++ rules = before ++ (tag, raws) :: later ∧
        (before.map Prod.fst).Nodup ∧ tag ∈ before.map Prod.fst := by
    induction rules generalizing done with
    | nil => exact absurd (by simpa using hdone) hall
    | cons rule rules ih =>
      by_cases hmem : rule.1 ∈ done.map Prod.fst
      · exact ⟨done, rule.1, rule.2, rules, rfl, hdone, hmem⟩
      · have hlonger : ((done ++ [rule]).map Prod.fst).Nodup := by
          rw [List.map_append, List.nodup_append]
          refine ⟨hdone, by simp, ?_⟩
          rintro a ha b hb rfl
          rw [List.map_singleton, List.mem_singleton] at hb
          exact hmem (hb ▸ ha)
        obtain ⟨before, tag, raws, later, heq, hbefore⟩ := ih _ hlonger (by simpa using hall)
        exact ⟨before, tag, raws, later, by simpa using heq, hbefore⟩
  exact hgeneral rules [] List.nodup_nil h

/-- A file with a tag that occurs twice is refused, for the first such tag. -/
theorem parse_repeated {done later : List (String × List String)} {tag : String}
    {raws : List String} (hdone : (done.map Prod.fst).Nodup) (htag : tag ∈ done.map Prod.fst) :
    ∃ line column, parse (write (done ++ (tag, raws) :: later)) =
      .error (.invalid (.located (.declaredTwice [tag]) line column)) := by
  have hwritten : write (done ++ (tag, raws) :: later) =
      write done ++ (writeRule (tag, raws) ++ write later) := by
    simp [write]
  obtain ⟨turns, hread⟩ := readAll_source hdone hwritten
  obtain ⟨left, hleft, hstop⟩ := readAll_repeated htag raws (write later) turns
  have hplace : left.isEmpty = false := by simpa using hleft
  rw [parse, hread, hstop]
  simp [ParseError.locate, hplace]

/-- The tables of a written file have the right shape and no other keys. -/
theorem extract_entryOf (rules : List (String × List String)) :
    RuleShape.extract (rules.map entryOf) = ([], .ok rules) := by
  have hkeys (raws : List String) :
      RuleShape.unknownKeys [(requiredKey, .array (raws.map .string))] = [] := by
    simp [RuleShape.unknownKeys]
  have htexts (raws : List String) :
      (raws.map Value.string).mapM RuleShape.string? = some raws := by
    induction raws with
    | nil => rfl
    | cons raw raws ih => simp [ih, RuleShape.string?]
  have hgeneral (done : List (String × List String)) :
      RuleShape.extractFrom done [] (rules.map entryOf) = ([], .ok (done.reverse ++ rules)) := by
    induction rules generalizing done with
    | nil => simp [RuleShape.extractFrom]
    | cons rule rules ih =>
      simp [RuleShape.extractFrom, entryOf, RuleShape.warnings, hkeys, RuleShape.required, htexts,
        ih]
  exact hgeneral []

/-- Carriage returns are always written as escapes. -/
theorem return_not_mem_write (rules : List (String × List String)) : '\r' ∉ write rules := by
  have hpart : '\r' ∉ requiredPart := by decide
  intro hmem
  obtain ⟨rule, -, hrule⟩ := List.mem_flatMap.mp hmem
  simp [writeRule, return_not_mem_writeString, return_not_mem_writeArray, hpart] at hrule

/-- **Loading undoes writing.**  A written rule file loads, whatever the tags and requirements are,
if no tag occurs twice: the tags are in the order in which they were written, each with its
requirements in the order of their first occurrences, and there is no warning.  If a tag does occur
twice, the file is not in order, and the first such tag is named. -/
theorem load_written (fs : FileSystem) (path : Path) (rules : List (String × List String))
    (hread : fs.read path = .ok (Text.Utf8.encode (write rules))) :
    ((rules.map Prod.fst).Nodup →
      load fs path =
        ⟨.ok ⟨rules.map fun (tag, raws) => (tag, (firstOccurrences raws).map Requirement.parse)⟩,
          []⟩) ∧
    (¬ (rules.map Prod.fst).Nodup →
      ∃ done tag raws later line column, rules = done ++ (tag, raws) :: later ∧
        (done.map Prod.fst).Nodup ∧ tag ∈ done.map Prod.fst ∧
        load fs path =
          ⟨.error (.reported (.configParse path.toString
            (.toml (.located (.declaredTwice [tag]) line column)))), []⟩) := by
  have hload : load fs path = ofText path.toString (write rules) := by
    rw [load_decoded hread ((Text.Utf8.decode_eq_ok_iff _ _).2 rfl),
      Text.unifyLineEnds_of_not_mem (return_not_mem_write rules)]
  refine ⟨fun hnodup => ?_, fun hrepeated => ?_⟩
  · have hrules : RuleSet.ofMapping rules =
        ⟨rules.map fun (tag, raws) => (tag, (firstOccurrences raws).map Requirement.parse)⟩ := by
      simp [RuleSet.ofMapping, Entries.ofList_of_nodup hnodup, RuleSet.requirements,
        eraseDups_eq_firstOccurrences]
    rw [hload, ofText, parse_write hnodup]
    simp only [ofTable, extract_entryOf, hrules]
  · obtain ⟨done, tag, raws, later, rfl, hdone, htag⟩ := exists_first_repeated hrepeated
    obtain ⟨line, column, hparse⟩ := parse_repeated hdone htag
    refine ⟨done, tag, raws, later, line, column, rfl, hdone, htag, ?_⟩
    rw [hload, ofText, hparse]

/-- A tag with a dot, the empty tag, and a requirement that is all escapes. -/
theorem load_written_escapes :
    (["a.b", ""] : List String).Nodup ∧
      load (lone (Text.Utf8.encode (write [("a.b", ["id", "\"\\\r\x00", "id"]), ("", [])])))
          lonePath =
        ⟨.ok ⟨[("a.b", [⟨none, "id", "id"⟩, ⟨none, "\"\\\r\x00", "\"\\\r\x00"⟩]), ("", [])]⟩,
          []⟩ := by
  have hnodup : (["a.b", ""] : List String).Nodup := by decide
  have hload := (load_written _ _ _ (lone_read (Text.Utf8.encode
    (write [("a.b", ["id", "\"\\\r\x00", "id"]), ("", [])])))).1 hnodup
  rw [hload]
  exact ⟨hnodup, rfl⟩

end RuleFile

end AttrLint
