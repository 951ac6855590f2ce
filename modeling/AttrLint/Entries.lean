namespace AttrLint

/-!
# Ordered entries

Lists of key-value pairs that keep the order in which keys first appeared.

* `put` — sets the value of a key: in place if the key is there, at the end if it is not.
* `ofList` — the entries after setting a list of pairs one after the other.
* `lookup_override`, `lookup_ofList` — what is set last is what is looked up.
* `nodup_keys_override` — setting values never repeats a key.
* `override_of_nodup`, `ofList_of_nodup` — where no key is repeated, setting values adds them.
-/

namespace Entries

variable {α β : Type} [BEq α]

/-- Sets the value of `key`: a present key keeps its place, a new one comes last. -/
def put (entries : List (α × β)) (key : α) (value : β) : List (α × β) :=
  match entries with
  | [] => [(key, value)]
  | (k, v) :: rest => if k == key then (k, value) :: rest else (k, v) :: put rest key value

/-- The key that was set has the value that was set. -/
@[simp]
theorem lookup_put_self [LawfulBEq α] (entries : List (α × β)) (key : α) (value : β) :
    (put entries key value).lookup key = some value := by
  induction entries with
  | nil => simp [put]
  | cons entry rest ih =>
    obtain ⟨k, v⟩ := entry
    by_cases h : k = key
    · subst h
      simp [put]
    · have hne : (key == k) = false := by simpa using Ne.symm h
      simp [put, h, List.lookup_cons, hne, ih]

/-- No other key changes its value. -/
theorem lookup_put_of_ne [LawfulBEq α] (entries : List (α × β)) {key other : α} (value : β)
    (h : other ≠ key) : (put entries key value).lookup other = entries.lookup other := by
  have hother : (other == key) = false := by simpa using h
  induction entries with
  | nil => simp [put, List.lookup_cons, hother]
  | cons entry rest ih =>
    obtain ⟨k, v⟩ := entry
    by_cases hk : k = key
    · subst hk
      simp [put, List.lookup_cons, hother]
    · simp [put, hk, List.lookup_cons, ih]

/-- The entries after setting each pair in turn: the first appearance of a key decides its place,
the last one its value. -/
def ofList (pairs : List (α × β)) : List (α × β) :=
  pairs.foldl (fun entries pair => put entries pair.1 pair.2) []

/-- The entries of `extra` set on top of `entries`. -/
def override (entries extra : List (α × β)) : List (α × β) :=
  extra.foldl (fun entries pair => put entries pair.1 pair.2) entries

/-- A key has the last value that `extra` gives it, and otherwise the value it had. -/
@[simp] theorem lookup_override [LawfulBEq α] (entries extra : List (α × β)) (key : α) :
    (override entries extra).lookup key = (extra.reverse.lookup key).or (entries.lookup key) := by
  induction extra generalizing entries with
  | nil => rfl
  | cons pair extra ih =>
    obtain ⟨k, v⟩ := pair
    have hstep : override entries ((k, v) :: extra) = override (put entries k v) extra := rfl
    rw [hstep, ih, List.reverse_cons, List.lookup_append, Option.or_assoc]
    by_cases h : key = k
    · subst h
      simp
    · have hne : (key == k) = false := by simpa using h
      rw [lookup_put_of_ne entries v h, List.lookup_cons, hne, List.lookup_nil, Option.none_or]

/-- A key has the last value that is given to it. -/
@[simp] theorem lookup_ofList [LawfulBEq α] (pairs : List (α × β)) (key : α) :
    (ofList pairs).lookup key = pairs.reverse.lookup key := by
  have h : ofList pairs = override [] pairs := rfl
  rw [h, lookup_override, List.lookup_nil, Option.or_none]

/-! ### Keys -/

/-- The keys are those there were and the one that was set. -/
theorem mem_keys_put [LawfulBEq α] {entries : List (α × β)} {key other : α} {value : β} :
    other ∈ (put entries key value).map Prod.fst ↔ other = key ∨ other ∈ entries.map Prod.fst := by
  induction entries with
  | nil => simp [put]
  | cons entry rest ih =>
    obtain ⟨k, v⟩ := entry
    by_cases hk : k = key
    · subst hk
      simp [put]
    · have hne : (k == key) = false := by simpa using hk
      simp only [put, hne, Bool.false_eq_true, if_false, List.map_cons, List.mem_cons, ih]
      grind

/-- Setting a value does not repeat a key. -/
theorem nodup_keys_put [LawfulBEq α] {entries : List (α × β)} (h : (entries.map Prod.fst).Nodup)
    (key : α) (value : β) : ((put entries key value).map Prod.fst).Nodup := by
  induction entries with
  | nil => simp [put]
  | cons entry rest ih =>
    obtain ⟨k, v⟩ := entry
    obtain ⟨hk, hrest⟩ := List.nodup_cons.mp h
    by_cases hkey : k = key
    · subst hkey
      simpa [put] using h
    · have hne : (k == key) = false := by simpa using hkey
      simp only [put, hne, Bool.false_eq_true, if_false, List.map_cons]
      refine List.nodup_cons.mpr ⟨?_, ih hrest⟩
      rw [mem_keys_put]
      rintro (heq | hmem)
      · exact hkey heq
      · exact hk hmem

/-- Setting many values does not repeat a key either. -/
theorem nodup_keys_override [LawfulBEq α] {entries : List (α × β)}
    (h : (entries.map Prod.fst).Nodup) (extra : List (α × β)) :
    ((override entries extra).map Prod.fst).Nodup := by
  induction extra generalizing entries with
  | nil => exact h
  | cons pair extra ih => exact ih (nodup_keys_put h pair.1 pair.2)

theorem lookup_eq_none_of_not_mem [LawfulBEq α] {entries : List (α × β)} {key : α}
    (h : key ∉ entries.map Prod.fst) : entries.lookup key = none := by
  rw [List.lookup_eq_none_iff]
  intro entry hentry
  have hne : key ≠ entry.1 := by
    rintro rfl
    exact h (List.mem_map.mpr ⟨entry, hentry, rfl⟩)
  simpa using hne

/-- Without repeated keys, a look-up finds every entry. -/
theorem lookup_eq_some_iff [LawfulBEq α] {entries : List (α × β)}
    (h : (entries.map Prod.fst).Nodup) (key : α) (value : β) :
    entries.lookup key = some value ↔ (key, value) ∈ entries := by
  induction entries with
  | nil => simp
  | cons entry rest ih =>
    obtain ⟨k, v⟩ := entry
    obtain ⟨hk, hrest⟩ := List.nodup_cons.mp h
    by_cases hkey : key = k
    · subst hkey
      -- The key stands in front, so it stands nowhere else.
      have hnot : (key, value) ∉ rest := fun hmem => hk (List.mem_map.mpr ⟨_, hmem, rfl⟩)
      simp [hnot, eq_comm]
    · have hne : (key == k) = false := by simpa using hkey
      simp [List.lookup_cons, hne, ih hrest, hkey]

/-- Where no key is repeated, the order of the entries does not matter. -/
theorem lookup_reverse [LawfulBEq α] {entries : List (α × β)} (h : (entries.map Prod.fst).Nodup)
    (key : α) : entries.reverse.lookup key = entries.lookup key := by
  induction entries with
  | nil => rfl
  | cons entry rest ih =>
    obtain ⟨k, v⟩ := entry
    obtain ⟨hk, hrest⟩ := List.nodup_cons.mp h
    rw [List.reverse_cons, List.lookup_append, ih hrest]
    by_cases hkey : key = k
    · subst hkey
      simp [lookup_eq_none_of_not_mem hk]
    · have hne : (key == k) = false := by simpa using hkey
      simp [List.lookup_cons, hne]

/-! ### New keys -/

/-- A new key comes last. -/
theorem put_eq_append [LawfulBEq α] {entries : List (α × β)} {key : α}
    (h : key ∉ entries.map Prod.fst) (value : β) :
    put entries key value = entries ++ [(key, value)] := by
  induction entries with
  | nil => rfl
  | cons entry entries ih =>
    obtain ⟨k, v⟩ := entry
    rw [List.map_cons, List.mem_cons, not_or] at h
    have hne : (k == key) = false := by simpa using Ne.symm h.1
    simp [put, hne, ih h.2]

/-- Setting a key that came last changes its value. -/
theorem put_append_self [LawfulBEq α] {entries : List (α × β)} {key : α}
    (h : key ∉ entries.map Prod.fst) (old value : β) :
    put (entries ++ [(key, old)]) key value = entries ++ [(key, value)] := by
  induction entries with
  | nil => simp [put]
  | cons entry entries ih =>
    obtain ⟨k, v⟩ := entry
    rw [List.map_cons, List.mem_cons, not_or] at h
    have hne : (k == key) = false := by simpa using Ne.symm h.1
    simp [put, hne, ih h.2]

/-- Where no key is repeated, setting further pairs adds them. -/
theorem override_of_nodup [LawfulBEq α] {entries extra : List (α × β)}
    (h : ((entries ++ extra).map Prod.fst).Nodup) : override entries extra = entries ++ extra := by
  induction extra generalizing entries with
  | nil => simp [override]
  | cons pair extra ih =>
    have hnew : pair.1 ∉ entries.map Prod.fst := by
      rw [List.map_append, List.map_cons] at h
      exact fun hmem => (List.nodup_append.mp h).2.2 _ hmem _ List.mem_cons_self rfl
    have hstep : override entries (pair :: extra) = override (put entries pair.1 pair.2) extra :=
      rfl
    rw [hstep, put_eq_append hnew, ih (by simpa using h)]
    simp

/-- Where no key is repeated, setting the pairs in turn gives the pairs. -/
theorem ofList_of_nodup [LawfulBEq α] {pairs : List (α × β)} (h : (pairs.map Prod.fst).Nodup) :
    ofList pairs = pairs :=
  override_of_nodup h

/-! ### Changed keys and values -/

/-- Changing the values changes what is looked up. -/
@[simp] theorem lookup_map {γ : Type} (f : β → γ) (entries : List (α × β)) (key : α) :
    (entries.map fun (k, v) => (k, f v)).lookup key = (entries.lookup key).map f := by
  induction entries with
  | nil => rfl
  | cons entry rest ih =>
    obtain ⟨k, v⟩ := entry
    rw [List.map_cons, List.lookup_cons, List.lookup_cons, ih]
    split <;> rfl

/-- Renaming the keys keeps what is looked up, if no other key gets the new name. -/
theorem lookup_map_keys [LawfulBEq α] {γ : Type} [BEq γ] [LawfulBEq γ] {f : α → γ}
    {entries : List (α × β)} {key : α} (h : ∀ entry ∈ entries, f entry.1 = f key → entry.1 = key) :
    (entries.map fun (k, v) => (f k, v)).lookup (f key) = entries.lookup key := by
  induction entries with
  | nil => rfl
  | cons entry rest ih =>
    obtain ⟨k, v⟩ := entry
    have hrest := ih fun other hother => h other (List.mem_cons_of_mem _ hother)
    rw [List.map_cons, List.lookup_cons, List.lookup_cons, hrest]
    by_cases hk : k = key
    · subst hk
      simp
    · have hne : (f key == f k) = false := by
        rw [beq_eq_false_iff_ne]
        intro heq
        exact hk (h (k, v) List.mem_cons_self heq.symm)
      have hne' : (key == k) = false := by simpa using Ne.symm hk
      rw [hne, hne']

end Entries

end AttrLint
