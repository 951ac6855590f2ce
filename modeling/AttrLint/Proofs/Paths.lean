import Mathlib.Data.List.Basic
import AttrLint.FileSystem

namespace AttrLint

/-!
# Absolute paths

An absolute path names a place by the names that lead to it from the root.  What stands there
decides how the question for a file is answered, as long as the operating system takes the path.

* `Path.ofString_toString` — an absolute path is read back from its text.
* `Path.utf8ByteSize_ofAbsolute` — the length of an absolute path, name by name.
* `FileSystem.HasFile` — a file stands at a place, with folders all the way to it.
* `FileSystem.place_of_locate` — where a path leads at all, it leads to its absolute place.
* `FileSystem.isFile_ofAbsolute` — what the question for a file answers.
-/

/-! ### Names and paths -/

/-- Says that a name can stand in a folder. -/
structure FileSystem.IsName (name : String) : Prop where
  ne_empty : name ≠ ""
  ne_dot : name ≠ "."
  ne_up : name ≠ ".."
  no_slash : '/' ∉ name.toList
  no_null : '\x00' ∉ name.toList
  short : name.utf8ByteSize ≤ FileSystem.nameLimit

instance (name : String) : Decidable (FileSystem.IsName name) :=
  decidable_of_iff
    (name ≠ "" ∧ name ≠ "." ∧ name ≠ ".." ∧ '/' ∉ name.toList ∧ '\x00' ∉ name.toList ∧
      name.utf8ByteSize ≤ FileSystem.nameLimit)
    ⟨fun h => ⟨h.1, h.2.1, h.2.2.1, h.2.2.2.1, h.2.2.2.2.1, h.2.2.2.2.2⟩,
      fun h => ⟨h.ne_empty, h.ne_dot, h.ne_up, h.no_slash, h.no_null, h.short⟩⟩

/-- The first field of a text grows by what stands before the text. -/
theorem fields_append {sep : Char} {s first : List Char} {rest : List (List Char)}
    (h : Text.fields sep s = first :: rest) {p : List Char} (hp : sep ∉ p) :
    Text.fields sep (p ++ s) = (p ++ first) :: rest := by
  induction p with
  | nil => exact h
  | cons c p ih =>
    have hc : c ≠ sep := fun heq => hp (heq ▸ List.mem_cons_self)
    have htail := ih fun hmem => hp (List.mem_cons_of_mem c hmem)
    simp only [List.cons_append, Text.fields, if_neg hc, htail]

namespace Path

/-- The bytes of names in an absolute path, each with its slash. -/
def bytes : List String → Nat
  | [] => 0
  | name :: rest => 1 + name.utf8ByteSize + bytes rest

@[simp] theorem bytes_append (names others : List String) :
    bytes (names ++ others) = bytes names + bytes others := by
  induction names with
  | nil => simp [bytes]
  | cons name rest ih => simp only [List.cons_append, bytes, ih]; omega

theorem bytes_take_le (names : List String) (n : Nat) : bytes (names.take n) ≤ bytes names := by
  have hsplit := bytes_append (names.take n) (names.drop n)
  rw [List.take_append_drop] at hsplit
  omega

theorem bytes_replicate (n : Nat) (name : String) :
    bytes (List.replicate n name) = n * (1 + name.utf8ByteSize) := by
  induction n with
  | zero => simp [bytes]
  | succ n ih =>
    rw [List.replicate_succ, bytes, ih, Nat.succ_mul]
    omega

theorem toString_ofAbsolute (names : List String) :
    (ofAbsolute names).toString = "/" ++ "/".intercalate names := by
  show (if ("/" ++ "/".intercalate names) == "" then "." else "/" ++ "/".intercalate names) = _
  rw [if_neg (by simp)]

/-- An absolute path with names is a slash before each name. -/
theorem toList_ofAbsolute {names : List String} (hnames : names ≠ []) :
    (ofAbsolute names).toString.toList = names.flatMap fun name => '/' :: name.toList := by
  rw [toString_ofAbsolute]
  induction names with
  | nil => exact absurd rfl hnames
  | cons name rest ih =>
    cases rest with
    | nil => simp
    | cons next rest =>
      rw [String.intercalate_cons_cons, List.flatMap_cons, ← ih (by simp)]
      simp

/-- The length of an absolute path with names is that of its names. -/
theorem utf8ByteSize_ofAbsolute {names : List String} (hnames : names ≠ []) :
    (ofAbsolute names).toString.utf8ByteSize = bytes names := by
  have hslash : "/".utf8ByteSize = 1 := by decide
  rw [toString_ofAbsolute, String.utf8ByteSize_append, hslash]
  induction names with
  | nil => exact absurd rfl hnames
  | cons name rest ih =>
    cases rest with
    | nil => simp [bytes]
    | cons next rest =>
      have htail := ih (by simp)
      rw [String.intercalate_cons_cons, String.utf8ByteSize_append, String.utf8ByteSize_append,
        hslash, bytes]
      omega

theorem notMem_intercalate {c : Char} (hc : c ≠ '/') {names : List String}
    (hnames : ∀ name ∈ names, c ∉ name.toList) : c ∉ ("/".intercalate names).toList := by
  induction names with
  | nil => simp
  | cons name rest ih =>
    have hname := hnames name List.mem_cons_self
    have htail := ih fun other hmem => hnames other (List.mem_cons_of_mem name hmem)
    cases rest with
    | nil => simpa using hname
    | cons next rest =>
      rw [String.intercalate_cons_cons, String.toList_append, String.toList_append]
      simp_all

/-- A path holds no NUL if its names hold none. -/
theorem no_null_toString {p : Path} (h : ∀ name ∈ p.parts, '\x00' ∉ name.toList) :
    '\x00' ∉ p.toString.toList := by
  have hparts := notMem_intercalate (by decide) h
  unfold toString
  simp only
  split
  · decide
  · rw [String.toList_append, String.toList_ofList, List.mem_append]
    rintro (hslash | hmem)
    · exact absurd (List.eq_of_mem_replicate hslash) (by decide)
    · exact hparts hmem

/-- The fields between the slashes of an absolute path are its names, after an empty one. -/
theorem fields_flatMap {names : List String} (hnames : ∀ name ∈ names, FileSystem.IsName name) :
    Text.fields '/' (names.flatMap fun name => '/' :: name.toList) =
      [] :: names.map String.toList := by
  induction names with
  | nil => rfl
  | cons name rest ih =>
    have htail := ih fun other hmem => hnames other (List.mem_cons_of_mem name hmem)
    have hfields := fields_append htail (hnames name List.mem_cons_self).no_slash
    simp [Text.fields, hfields]

/-- An absolute path is read back from its text. -/
theorem ofString_toString {names : List String} (hne : names ≠ [])
    (hnames : ∀ name ∈ names, FileSystem.IsName name) :
    ofString (ofAbsolute names).toString = ofAbsolute names := by
  have hparts : ((names.map String.toList).map String.ofList).filter
      (fun part => part != "" && part != ".") = names := by
    rw [List.map_map, List.map_congr_left (g := id) (by simp), List.map_id, List.filter_eq_self]
    intro name hmem
    simp [(hnames name hmem).ne_empty, (hnames name hmem).ne_dot]
  -- After the first slash stands a letter of the first name.
  have hslashes : leadingSlashes (names.flatMap fun name => '/' :: name.toList) = 1 := by
    obtain ⟨name, rest, rfl⟩ := List.exists_cons_of_ne_nil hne
    have hname := hnames name List.mem_cons_self
    obtain ⟨c, cs, hcs⟩ : ∃ c cs, name.toList = c :: cs :=
      List.exists_cons_of_ne_nil (by simpa using hname.ne_empty)
    have hc : c ≠ '/' := by
      rintro rfl
      exact hname.no_slash (hcs ▸ List.mem_cons_self)
    simp [leadingSlashes, hcs, hc]
  unfold ofString
  rw [toList_ofAbsolute hne, hslashes, fields_flatMap hnames, List.map_cons, List.filter_cons]
  simp only [ofAbsolute, hparts]
  simp

/-! ### Resolving `..` by name -/

theorem mem_resolveParts {name : String} {parts : List String} {done : List String}
    (h : name ∈ resolveParts done parts) : name ∈ done ∨ name ∈ parts ∧ name ≠ ".." := by
  induction parts generalizing done with
  | nil => exact .inl (by simpa [resolveParts] using h)
  | cons part rest ih =>
    by_cases hup : part = ".."
    · rw [resolveParts, if_pos (by simpa using hup)] at h
      obtain hmem | ⟨hmem, hne⟩ := ih h
      · exact .inl (List.mem_of_mem_tail hmem)
      · exact .inr ⟨List.mem_cons_of_mem part hmem, hne⟩
    · rw [resolveParts, if_neg (by simpa using hup)] at h
      obtain hmem | ⟨hmem, hne⟩ := ih h
      · obtain rfl | hmem := List.mem_cons.mp hmem
        · exact .inr ⟨List.mem_cons_self, hup⟩
        · exact .inl hmem
      · exact .inr ⟨List.mem_cons_of_mem part hmem, hne⟩

/-- Names other than `..` are kept. -/
theorem resolveParts_names {names : List String} (hnames : ".." ∉ names)
    (done parts : List String) :
    resolveParts done (names ++ parts) = resolveParts (names.reverse ++ done) parts := by
  induction names generalizing done with
  | nil => rfl
  | cons name rest ih =>
    have hne : name ≠ ".." := fun heq => hnames (heq ▸ List.mem_cons_self)
    have htail := ih (fun hmem => hnames (List.mem_cons_of_mem name hmem)) (name :: done)
    rw [List.cons_append, resolveParts, if_neg (by simpa using hne), htail]
    simp

end Path

/-! ### Following a path -/

namespace FileSystem

variable {fs : FileSystem}

/-- Says that a file stands at a place, with folders all the way to it. -/
def HasFile (fs : FileSystem) (place : List String) : Prop :=
  (∃ content, fs.entry? place = some (.file content)) ∧
    ∀ n < place.length, fs.entry? (place.take n) = some .folder

instance (fs : FileSystem) (place : List String) :
    Decidable (∃ content, fs.entry? place = some (.file content)) :=
  match h : fs.entry? place with
  | some (.file content) => .isTrue ⟨content, rfl⟩
  | some .folder => .isFalse (by simp)
  | none => .isFalse (by simp)

instance (fs : FileSystem) (place : List String) : Decidable (fs.HasFile place) :=
  inferInstanceAs (Decidable (_ ∧ _))

/-- Where a path leads at all, it leads where its names say. -/
theorem place_of_follow {parts : List String} {s spot : Spot}
    (h : fs.follow s parts = .ok spot) :
    spot.place = Path.resolveParts s.place.reverse parts := by
  induction parts generalizing s with
  | nil =>
    cases h
    simp [Path.resolveParts]
  | cons name rest ih =>
    rw [follow] at h
    split at h
    · by_cases hup : name = ".."
      · rw [if_pos (by simpa using hup)] at h
        rw [ih h, Path.resolveParts, if_pos (by simpa using hup)]
        simp [Spot.up]
      · rw [if_neg (by simpa using hup)] at h
        rw [Path.resolveParts, if_neg (by simpa using hup)]
        -- A name leads on only if it is short enough, and something stands there that can be found.
        split at h
        · cases h
        · split at h
          · cases h
          · split at h
            · cases h
            · rw [ih h]
              simp
    · cases h
    · cases h

/-- Where a path leads at all, it leads to its absolute place. -/
theorem place_of_locate {p : Path} {spot : Spot} (hcwd : ".." ∉ fs.cwd)
    (h : fs.locate p = .ok spot) : spot.place = p.absolute fs.cwd := by
  unfold locate at h
  split at h
  · cases h
  · rw [place_of_follow h, Path.absolute, origin]
    by_cases hslashes : p.slashes = 0
    · simp [hslashes, Path.resolveParts_names hcwd]
    · simp [hslashes]

/-- Says that names can be followed one after the other without going up. -/
def AreSteps (names : List String) : Prop :=
  ∀ name ∈ names, name ≠ ".." ∧ name.utf8ByteSize ≤ nameLimit

theorem AreSteps.tail {name : String} {rest : List String} (h : AreSteps (name :: rest)) :
    AreSteps rest :=
  fun other hmem => h other (List.mem_cons_of_mem name hmem)

/-- From a folder, a name leads to what stands there. -/
theorem follow_folder {name : String} {rest done : List String} {entry : Entry}
    (hnames : AreSteps (name :: rest)) (hdone : fs.entry? done = some .folder)
    (hentry : fs.entry? (done ++ [name]) = some entry) :
    fs.follow ⟨done, 0⟩ (name :: rest) = fs.follow ⟨done ++ [name], 0⟩ rest := by
  obtain ⟨hup, hshort⟩ := hnames name List.mem_cons_self
  have hdone' : fs.entryAt? ⟨done, 0⟩ = some .folder := hdone
  have hlong : ¬ nameLimit < name.utf8ByteSize := by omega
  rw [follow, hdone']
  simp [hup, hlong, hentry]

/-- From anything else, and to nothing, a name leads nowhere. -/
theorem follow_nowhere {name : String} {rest done : List String} (hnames : AreSteps (name :: rest))
    (h : fs.entry? done ≠ some .folder ∨ fs.entry? (done ++ [name]) = none) :
    ∃ refusal, fs.follow ⟨done, 0⟩ (name :: rest) = .error refusal ∧ refusal ≠ .tooLong := by
  obtain ⟨hup, hshort⟩ := hnames name List.mem_cons_self
  have hlong : ¬ nameLimit < name.utf8ByteSize := by omega
  have hat : fs.entryAt? ⟨done, 0⟩ = fs.entry? done := if_pos rfl
  rw [follow, hat]
  cases hdone : fs.entry? done with
  | none => exact ⟨.missing, rfl, by simp⟩
  | some entry =>
    cases entry with
    | file content => exact ⟨.notFolder, rfl, by simp⟩
    | folder =>
      have hentry : fs.entry? (done ++ [name]) = none := h.resolve_left fun hne => hne hdone
      exact ⟨.missing, by simp [hup, hlong, hentry], by simp⟩

/-- Folders all the way lead to what stands at the end of it. -/
theorem follow_of_folders {names : List String} (hnames : AreSteps names) {done : List String}
    {entry : Entry} (hend : fs.entry? (done ++ names) = some entry)
    (hfolders : ∀ n < names.length, fs.entry? (done ++ names.take n) = some .folder) :
    fs.follow ⟨done, 0⟩ names = .ok ⟨done ++ names, 0⟩ := by
  induction names generalizing done with
  | nil => simp [follow]
  | cons name rest ih =>
    have hdone : fs.entry? done = some .folder := by simpa using hfolders 0 (by simp)
    have hnext : ∃ entry, fs.entry? (done ++ [name]) = some entry := by
      cases rest with
      | nil => exact ⟨entry, hend⟩
      | cons => exact ⟨.folder, by simpa using hfolders 1 (by simp)⟩
    obtain ⟨_, hnext⟩ := hnext
    have hrest : ∀ n < rest.length, fs.entry? (done ++ [name] ++ rest.take n) = some .folder := by
      intro n hn
      simpa using hfolders (n + 1) (by simpa using hn)
    rw [follow_folder hnames hdone hnext, ih hnames.tail (by simpa using hend) hrest]
    simp

/-- Names lead nowhere but to the place that they name, and then through folders; and they are
never too long. -/
theorem follow_cases (fs : FileSystem) {names : List String} (hnames : AreSteps names)
    (done : List String) :
    (∃ refusal, fs.follow ⟨done, 0⟩ names = .error refusal ∧ refusal ≠ .tooLong) ∨
      (fs.follow ⟨done, 0⟩ names = .ok ⟨done ++ names, 0⟩ ∧
        ∀ n < names.length, fs.entry? (done ++ names.take n) = some .folder) := by
  induction names generalizing done with
  | nil => exact .inr ⟨by simp [follow], by simp⟩
  | cons name rest ih =>
    by_cases hdone : fs.entry? done = some .folder
    · cases hnext : fs.entry? (done ++ [name]) with
      | none => exact .inl (follow_nowhere hnames (.inr hnext))
      | some entry =>
        rw [follow_folder hnames hdone hnext]
        refine (ih hnames.tail (done ++ [name])).imp id ?_
        rintro ⟨hok, hfolders⟩
        refine ⟨by simpa using hok, ?_⟩
        intro n hn
        cases n with
        | zero => simpa using hdone
        | succ n => simpa using hfolders n (by simpa using hn)
    · exact .inl (follow_nowhere hnames (.inl hdone))

/-- The question for a file is answered by whether one stands at the place, unless the path is too
long. -/
theorem isFile_ofAbsolute {place : List String} (hplace : AreSteps place)
    (hsize : (Path.ofAbsolute place).toString.utf8ByteSize < pathLimit) :
    fs.isFile (Path.ofAbsolute place) = .ok (decide (fs.HasFile place)) := by
  have hlocate : fs.locate (Path.ofAbsolute place) = fs.follow ⟨[], 0⟩ place :=
    if_neg (by omega)
  unfold isFile
  rw [hlocate]
  by_cases hfile : fs.HasFile place
  · rw [decide_eq_true hfile]
    obtain ⟨⟨content, hcontent⟩, hfolders⟩ := hfile
    have hat : fs.entryAt? ⟨[] ++ place, 0⟩ = some (.file content) := hcontent
    rw [follow_of_folders hplace hcontent hfolders]
    simp only [hat]
  · rw [decide_eq_false hfile]
    obtain ⟨refusal, herror, hlong⟩ | ⟨hok, hfolders⟩ := fs.follow_cases hplace []
    · rw [herror]
      cases refusal <;> simp_all
    · -- The way to the place is through folders, so no file can stand at its end.
      rw [hok]
      have hat : fs.entryAt? ⟨[] ++ place, 0⟩ = fs.entry? place := if_pos rfl
      simp only [hat]
      cases hentry : fs.entry? place with
      | none => rfl
      | some entry =>
        cases entry with
        | folder => rfl
        | file content => exact absurd ⟨⟨content, hentry⟩, hfolders⟩ hfile

/-- A path that is too long is an error. -/
theorem isFile_tooLong {p : Path} (hsize : pathLimit ≤ p.toString.utf8ByteSize) :
    fs.isFile p = .error ⟨.tooLong, p.toString⟩ := by
  have hlocate : fs.locate p = .error .tooLong := if_pos hsize
  unfold isFile
  rw [hlocate]

end FileSystem

end AttrLint
