-- SUMMARY: Membership and lookup in keyed lists, and lookup after writing many entries.
import DataGrid.Keyed

/-!
# Keyed lists

Lookup finds the first entry under a key. Where no key occurs twice it finds every
entry, and writing entries with distinct keys one after the other leaves each of
them to be found.
-/

namespace DataGrid.Keyed

variable {α : Type}

/-! ## Lookup and membership -/

theorem mem_of_get?_eq_some {entries : Keyed α} {key : String} {value : α}
    (h : get? entries key = some value) : (key, value) ∈ entries := by
  induction entries with
  | nil => simp at h
  | cons e rest ih =>
    obtain ⟨k, v⟩ := e
    rw [get?_cons] at h
    split at h
    · next same =>
      subst same
      simp only [Option.some.injEq] at h
      simp [h]
    · exact List.mem_cons_of_mem _ (ih h)

theorem get?_eq_none_iff {entries : Keyed α} {key : String} :
    get? entries key = none ↔ key ∉ keys entries := by
  induction entries with
  | nil => simp [keys]
  | cons e rest ih =>
    obtain ⟨k, v⟩ := e
    rw [get?_cons]
    by_cases same : k = key
    · simp [same, keys]
    · simp [same, ih, keys, Ne.symm same]

/-- A key is present exactly when something is found under it. -/
theorem mem_keys_iff {entries : Keyed α} {key : String} :
    key ∈ keys entries ↔ ∃ value, get? entries key = some value := by
  rw [← Option.ne_none_iff_exists', ne_eq, get?_eq_none_iff, Classical.not_not]

theorem contains_iff {entries : Keyed α} {key : String} :
    contains entries key = true ↔ key ∈ keys entries := by
  rw [contains, Option.isSome_iff_exists, mem_keys_iff]

theorem mem_keys_of_mem {entries : Keyed α} {key : String} {value : α} (h : (key, value) ∈ entries) :
    key ∈ keys entries :=
  List.mem_map_of_mem h

/-- Where no key occurs twice, every entry is the one that lookup finds. -/
theorem get?_eq_some_iff {entries : Keyed α} (h : (keys entries).Nodup) {key : String} {value : α} :
    get? entries key = some value ↔ (key, value) ∈ entries := by
  refine ⟨mem_of_get?_eq_some, fun hmem => ?_⟩
  induction entries with
  | nil => simp at hmem
  | cons e rest ih =>
    obtain ⟨k, v⟩ := e
    obtain ⟨hk, hrest⟩ := List.nodup_cons.mp h
    rw [get?_cons]
    rcases List.mem_cons.mp hmem with same | hmem
    · obtain ⟨rfl, rfl⟩ := Prod.mk.inj same
      simp
    · have hne : k ≠ key := fun same => hk (same ▸ mem_keys_of_mem hmem)
      rw [if_neg hne]
      exact ih hrest hmem

theorem Ascending.nodup_keys {entries : Keyed α} (h : entries.Ascending) : (keys entries).Nodup := by
  refine List.pairwise_map.mpr (h.imp fun hlt same => ?_)
  exact String.lt_irrefl _ (same ▸ hlt)


/-! ## Writing -/

theorem insert_ne_nil (entries : Keyed α) (key : String) (value : α) : insert entries key value ≠ [] := by
  cases entries with
  | nil => simp [insert]
  | cons e rest =>
    obtain ⟨k, v⟩ := e
    unfold insert
    split
    · simp
    · split <;> simp

/-- A new key adds its entry to those that are there. -/
theorem insert_perm {entries : Keyed α} {key : String} (fresh : key ∉ keys entries) (value : α) :
    (insert entries key value).Perm ((key, value) :: entries) := by
  induction entries with
  | nil => exact .refl _
  | cons e rest ih =>
    obtain ⟨k, v⟩ := e
    obtain ⟨other, fresh⟩ := not_or.mp (mt List.mem_cons.mpr fresh)
    unfold insert
    rw [if_neg other]
    split
    · exact .refl _
    · exact ((ih fresh).cons _).trans (.swap ..)

/-- Of two values written under one key the later stays. -/
theorem insert_insert (entries : Keyed α) (key : String) (value later : α) :
    insert (insert entries key value) key later = insert entries key later := by
  induction entries with
  | nil => simp [insert]
  | cons e rest ih =>
    obtain ⟨k, v⟩ := e
    grind [insert]

/-- Two keys can be written in either order. -/
theorem insert_comm (entries : Keyed α) {key other : String} (h : key ≠ other) (value value' : α) :
    insert (insert entries key value) other value' = insert (insert entries other value') key value := by
  have total : key < other ∨ other < key := by
    by_cases below : key < other
    · exact .inl below
    · exact .inr (Std.lt_of_le_of_ne (String.not_lt.mp below) h.symm)
  induction entries with
  | nil => grind [insert]
  | cons e rest ih =>
    obtain ⟨k, v⟩ := e
    grind [insert]

/-- After writing some entries with distinct keys, each of them is found, and what was there stays under the other keys. -/
theorem get?_foldl_insert {added : List (String × α)} (h : (keys added).Nodup) (start : Keyed α) (key : String) :
    get? (added.foldl (fun keyed (k, v) => insert keyed k v) start) key = (get? added key).or (get? start key) := by
  induction added generalizing start with
  | nil => simp
  | cons e rest ih =>
    obtain ⟨k, v⟩ := e
    obtain ⟨hk, hrest⟩ := List.nodup_cons.mp h
    rw [List.foldl_cons, ih hrest, get?_cons]
    by_cases same : k = key
    · subst same
      have absent : get? rest k = none := get?_eq_none_iff.mpr hk
      simp [absent]
    · simp [same, get?_insert_of_ne same]

/-- Entries that are added only under new keys leave what is there, and of entries under one key the first counts. -/
theorem get?_foldl_insertNew (entries : List (String × α)) (start : Keyed α) (key : String) :
    get? (entries.foldl (fun all (name, value) => if contains all name then all else insert all name value) start) key =
      (get? start key).or (get? entries key) := by
  induction entries generalizing start with
  | nil => simp
  | cons e rest ih =>
    obtain ⟨k, v⟩ := e
    rw [List.foldl_cons, ih, get?_cons]
    dsimp only
    split
    · next held =>
      by_cases same : k = key
      · subst same
        obtain ⟨value, found⟩ := Option.isSome_iff_exists.mp held
        simp [found]
      · simp [same]
    · next new =>
      by_cases same : k = key
      · subst same
        have none : get? start k = none := by simpa [contains] using new
        simp [none]
      · simp [same, get?_insert_of_ne same]

theorem get?_mapValues {β : Type} (f : α → β) (entries : Keyed α) (key : String) :
    get? (mapValues f entries) key = (get? entries key).map f := by
  induction entries with
  | nil => rfl
  | cons e rest ih =>
    obtain ⟨k, v⟩ := e
    change get? ((k, f v) :: mapValues f rest) key = _
    rw [get?_cons, get?_cons, ih]
    split <;> rfl


/-! ## Taking out -/

theorem get?_erase (entries : Keyed α) (key other : String) :
    get? (erase entries key) other = if key = other then none else get? entries other := by
  induction entries with
  | nil => simp [erase]
  | cons e rest ih =>
    obtain ⟨k, v⟩ := e
    by_cases taken : k = key
    · rw [erase, List.filter_cons_of_neg (by simp [taken]), ← erase, ih, get?_cons, taken]
      split <;> rfl
    · rw [erase, List.filter_cons_of_pos (by simp [taken]), ← erase, get?_cons, ih, get?_cons]
      by_cases same : key = other
      · rw [if_pos same, if_pos same, if_neg fun h => taken (h.trans same.symm)]
      · rw [if_neg same, if_neg same]

theorem Ascending.erase {entries : Keyed α} (h : entries.Ascending) (key : String) : (Keyed.erase entries key).Ascending :=
  h.sublist List.filter_sublist

/-- Keyed lists in which the same is found under every key are the same. -/
theorem Ascending.ext {a b : Keyed α} (ha : a.Ascending) (hb : b.Ascending) (same : ∀ key, get? a key = get? b key) :
    a = b := by
  have distinct {entries : Keyed α} (h : entries.Ascending) : entries.Nodup := by
    refine List.Pairwise.imp ?_ h
    rintro e _ below rfl
    exact String.lt_irrefl _ below
  have members : ∀ e, e ∈ a ↔ e ∈ b := by
    rintro ⟨key, value⟩
    rw [← get?_eq_some_iff ha.nodup_keys, ← get?_eq_some_iff hb.nodup_keys, same]
  refine ((List.perm_ext_iff_of_nodup (distinct ha) (distinct hb)).mpr members).eq_of_pairwise ?_ ha hb
  intro _ _ _ _ below above
  exact absurd above (String.lt_asymm below)

end DataGrid.Keyed
