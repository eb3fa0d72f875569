-- SUMMARY: Reading along one path of a row after writing along another, projecting, and merging.
import Mathlib.Data.List.Infix
import DataGrid.Proofs.Json
import DataGrid.Proofs.Keyed
import DataGrid.Row.Path
import DataGrid.Text.Split

/-!
# Laws of paths

Two paths are apart if neither leads through the other. Writing at a path is seen
at the path and below it, and nowhere apart from it. A projection shows every listed
column as the row has it. Merging a record changes a path only where the record has
something on the way, and leaves what the two values merge to.
-/

namespace DataGrid

/-! ## Dotted names -/

namespace Text

theorem intercalate_prefix (separator : List Char) {a b : List (List Char)} (h : a <+: b) :
    separator.intercalate a <+: separator.intercalate b := by
  induction a generalizing b with
  | nil => exact List.nil_prefix
  | cons piece rest ih =>
    obtain ⟨others, rfl⟩ := h
    match rest, others with
    | [], [] => exact List.prefix_rfl
    | [], other :: others =>
      rw [List.cons_append, List.nil_append, List.intercalate_cons_cons, List.intercalate_singleton, List.append_assoc]
      exact List.prefix_append ..
    | next :: rest, others =>
      rw [List.cons_append, List.cons_append, List.intercalate_cons_cons, List.intercalate_cons_cons]
      exact (List.prefix_append_right_inj _).mpr (ih ⟨others, rfl⟩)

/-- A name whose segments lead to another comes before it. -/
theorem le_of_segments_prefix {a b : String} (h : segments a <+: segments b) : a ≤ b := by
  have pieces : split '.' a.toList <+: split '.' b.toList :=
    (List.prefix_map_iff_of_injective fun _ _ => String.ofList_injective).mp h
  have texts := intercalate_prefix ['.'] pieces
  rw [intercalate_split, intercalate_split] at texts
  exact texts.le

theorem split_of_not_mem {separator : Char} {cs : List Char} (h : separator ∉ cs) : split separator cs = [cs] := by
  induction cs with
  | nil => rfl
  | cons c rest ih =>
    obtain ⟨other, later⟩ := not_or.mp (mt List.mem_cons.mpr h)
    unfold split
    rw [if_neg (Ne.symm other), ih later]

/-- A column without dots is one key. -/
theorem segments_of_undotted {column : String} (h : '.' ∉ column.toList) : segments column = [column] := by
  rw [segments, split_of_not_mem h, List.map_singleton, String.ofList_toList]

end Text

namespace Row

/-! ## Reading and writing -/

@[simp] theorem at?_empty (path : List String) : at? [] path = none := by
  match path with
  | [] | [_] | _ :: _ :: _ => rfl

/-- Below its first key a path is read among the members there. -/
theorem at?_cons (row : Row) (key : String) {rest : List String} (below : rest ≠ []) :
    at? row (key :: rest) = at? (membersOf (Keyed.get? row key)) rest := by
  obtain ⟨next, rest, rfl⟩ := List.exists_cons_of_ne_nil below
  conv_lhs => unfold at?
  cases Keyed.get? row key with
  | none => exact (at?_empty _).symm
  | some value =>
    cases value with
    | obj child => rfl
    | _ => exact (at?_empty _).symm

theorem insertAt_cons (row : Row) (key : String) {rest : List String} (below : rest ≠ []) (value : Json) :
    insertAt row (key :: rest) value =
      Keyed.insert row key (.obj (insertAt (membersOf (Keyed.get? row key)) rest value)) := by
  obtain ⟨next, rest, rfl⟩ := List.exists_cons_of_ne_nil below
  rfl

/-- Writing at a path writes under its first key, for which only what is there is needed. -/
theorem insertAt_eq (row : Row) (key : String) (rest : List String) (value : Json) :
    insertAt row (key :: rest) value = Keyed.insert row key
      (if rest = [] then value else .obj (insertAt (membersOf (Keyed.get? row key)) rest value)) := by
  split
  · next last =>
    rw [last]
    rfl
  · next below => exact insertAt_cons row key below value

/-- Whatever is read along a path that goes on stands among the members of an object. -/
theorem exists_child_of_at? {row : Row} {key : String} {rest : List String} {value : Json} (below : rest ≠ [])
    (h : at? row (key :: rest) = some value) :
    ∃ child, Keyed.get? row key = some (.obj child) ∧ at? child rest = some value := by
  rw [at?_cons row key below] at h
  unfold membersOf at h
  split at h
  · next child found => exact ⟨child, found, h⟩
  · simp at h

/-- A path is read in two stages. -/
theorem at?_append (row : Row) {path rest : List String} (hpath : path ≠ []) (below : rest ≠ []) :
    at? row (path ++ rest) = at? (membersOf (at? row path)) rest := by
  induction path generalizing row with
  | nil => exact absurd rfl hpath
  | cons key tail ih =>
    by_cases last : tail = []
    · subst last
      exact at?_cons row key below
    · rw [List.cons_append, at?_cons row key (by simp [last]), ih _ last, at?_cons row key last]

/-- What stands below a path is told by what stands at it. -/
theorem at?_append_congr {a b : Row} {path : List String} (hpath : path ≠ []) (same : at? a path = at? b path)
    (rest : List String) : at? a (path ++ rest) = at? b (path ++ rest) := by
  by_cases last : rest = []
  · rwa [last, List.append_nil]
  · rw [at?_append a hpath last, at?_append b hpath last, same]

theorem at?_insertAt_self (row : Row) {path : List String} (hpath : path ≠ []) (value : Json) :
    at? (insertAt row path value) path = some value := by
  induction path generalizing row with
  | nil => exact absurd rfl hpath
  | cons key rest ih =>
    by_cases last : rest = []
    · subst last
      exact Keyed.get?_insert_self row key value
    · rw [insertAt_cons row key last, at?_cons _ key last, Keyed.get?_insert_self]
      exact ih _ last

theorem lookup_insert_self (row : Row) (column : String) (value : Json) :
    (row.insert column value).lookup column = some value :=
  at?_insertAt_self row (Text.segments_ne_nil column) value

/-- Above the place of writing an object stands, with the value written into it. -/
theorem at?_insertAt_append (row : Row) {path rest : List String} (hpath : path ≠ []) (below : rest ≠ [])
    (value : Json) :
    at? (insertAt row (path ++ rest) value) path =
      some (.obj (insertAt (membersOf (at? row path)) rest value)) := by
  induction path generalizing row with
  | nil => exact absurd rfl hpath
  | cons key tail ih =>
    rw [List.cons_append, insertAt_cons row key (by simp [below])]
    by_cases last : tail = []
    · subst last
      exact Keyed.get?_insert_self row key _
    · rw [at?_cons _ key last, Keyed.get?_insert_self, at?_cons row key last]
      exact ih _ last

/-- Neither path leads through the other. -/
def Apart (a b : List String) : Prop :=
  ¬a <+: b ∧ ¬b <+: a

instance (a b : List String) : Decidable (Apart a b) :=
  inferInstanceAs (Decidable (_ ∧ _))

theorem not_apart_iff {a b : List String} : ¬Apart a b ↔ a <+: b ∨ b <+: a :=
  Decidable.not_and_iff_not_or_not.trans (or_congr Classical.not_not Classical.not_not)

theorem Apart.symm {a b : List String} (h : Apart a b) : Apart b a :=
  ⟨h.2, h.1⟩

theorem Apart.ne_nil {a b : List String} (h : Apart a b) : a ≠ [] := by
  rintro rfl
  exact h.1 List.nil_prefix

/-- Paths apart have different keys somewhere, at the first one or below a common one. -/
theorem apart_cons_iff {key key' : String} {a b : List String} :
    Apart (key :: a) (key' :: b) ↔ key ≠ key' ∨ Apart a b := by
  unfold Apart
  rw [List.cons_prefix_cons, List.cons_prefix_cons]
  by_cases same : key = key'
  · simp [same]
  · simp [same, Ne.symm same]

/-- Of two paths apart either the first keys differ, or the paths below a common first key are apart. -/
@[elab_as_elim]
theorem Apart.induction {motive : ∀ path other, Apart path other → Prop}
    (fork : ∀ key key' rest rest' (different : key ≠ key'),
      motive (key :: rest) (key' :: rest') (apart_cons_iff.mpr (.inl different)))
    (under : ∀ key rest rest' (later : Apart rest rest'), motive rest rest' later →
      motive (key :: rest) (key :: rest') (apart_cons_iff.mpr (.inr later)))
    {path other : List String} (h : Apart path other) : motive path other h := by
  induction path generalizing other with
  | nil => exact absurd rfl h.ne_nil
  | cons key rest ih =>
    obtain ⟨key', rest', rfl⟩ := List.exists_cons_of_ne_nil h.symm.ne_nil
    by_cases same : key = key'
    · subst same
      have later : Apart rest rest' := (apart_cons_iff.mp h).resolve_left (by simp)
      exact under key rest rest' later (ih later)
    · exact fork key key' rest rest' same

/-- Writing is not seen apart from where it is done. -/
theorem at?_insertAt_of_apart (row : Row) {path other : List String} (h : Apart path other) (value : Json) :
    at? (insertAt row path value) other = at? row other := by
  induction h using Apart.induction generalizing row with
  | fork key key' rest rest' different =>
    have unchanged : Keyed.get? (insertAt row (key :: rest) value) key' = Keyed.get? row key' := by
      rw [insertAt_eq, Keyed.get?_insert_of_ne different]
    by_cases last : rest' = []
    · subst last
      exact unchanged
    · rw [at?_cons _ key' last, at?_cons _ key' last, unchanged]
  | under key rest rest' later ih =>
    rw [insertAt_cons row key later.ne_nil, at?_cons _ key later.symm.ne_nil, at?_cons _ key later.symm.ne_nil,
      Keyed.get?_insert_self]
    exact ih _


/-! ## Projecting -/

/-- Writing what an ordered object holds already changes nothing. -/
theorem insert_get?_self {row : Row} (hrow : row.Ascending) {key : String} {value : Json}
    (h : Keyed.get? row key = some value) : Keyed.insert row key value = row := by
  induction row with
  | nil => cases h
  | cons e rest ih =>
    obtain ⟨k, v⟩ := e
    obtain ⟨above, tail⟩ := List.pairwise_cons.mp hrow
    rw [Keyed.get?_cons] at h
    unfold Keyed.insert
    by_cases same : k = key
    · rw [if_pos same] at h
      rw [if_pos same.symm, ← same, Option.some.inj h]
    · rw [if_neg same] at h
      have later : k < key := above _ (Keyed.mem_of_get?_eq_some h)
      rw [if_neg (Ne.symm same), if_neg (String.lt_asymm later), ih tail h]

theorem isOrdered_of_get? {row : Row} (hrow : (Json.obj row).isOrdered = true) {key : String} {value : Json}
    (h : Keyed.get? row key = some value) : value.isOrdered = true :=
  Json.isOrdered_of_mem hrow (Keyed.mem_of_get?_eq_some h)

theorem insertAt_at?_self {row : Row} (hrow : (Json.obj row).isOrdered = true) {path : List String} {value : Json}
    (h : at? row path = some value) : insertAt row path value = row := by
  induction path generalizing row with
  | nil => rfl
  | cons key rest ih =>
    by_cases last : rest = []
    · subst last
      exact insert_get?_self (Json.ascending_of_isOrdered hrow) h
    · obtain ⟨child, hchild, h⟩ := exists_child_of_at? last h
      rw [insertAt_cons row key last, hchild]
      have same : insertAt child rest value = child := ih (isOrdered_of_get? hrow hchild) h
      rw [membersOf, same]
      exact insert_get?_self (Json.ascending_of_isOrdered hrow) hchild

theorem isOrdered_at? {row : Row} (hrow : (Json.obj row).isOrdered = true) {path : List String} {value : Json}
    (h : at? row path = some value) : value.isOrdered = true := by
  induction path generalizing row with
  | nil => cases h
  | cons key rest ih =>
    by_cases last : rest = []
    · subst last
      exact isOrdered_of_get? hrow h
    · obtain ⟨child, hchild, h⟩ := exists_child_of_at? last h
      exact ih (isOrdered_of_get? hrow hchild) h

/-- A value that stands below a path stands in an object at the path. -/
theorem exists_child_of_at?_append {row : Row} {path rest : List String} {value : Json} (hpath : path ≠ [])
    (below : rest ≠ []) (h : at? row (path ++ rest) = some value) :
    ∃ child, at? row path = some (.obj child) ∧ at? child rest = some value := by
  rw [at?_append row hpath below] at h
  unfold membersOf at h
  split at h
  · next child found => exact ⟨child, found, h⟩
  · simp at h

theorem isOrdered_insert {row : Row} (hrow : (Json.obj row).isOrdered = true) {value : Json}
    (hvalue : value.isOrdered = true) (key : String) : (Json.obj (Keyed.insert row key value)).isOrdered = true := by
  simp only [Json.isOrdered, Bool.and_eq_true, decide_eq_true_eq, Json.isOrderedMembers_eq, List.all_eq_true]
  refine ⟨(Json.ascending_of_isOrdered hrow).insert key value, fun e he => ?_⟩
  rcases Keyed.eq_or_mem_of_mem_insert he with rfl | he
  · exact hvalue
  · exact Json.isOrdered_of_mem hrow he

/-- Writing an ordered value keeps a row ordered. -/
theorem isOrdered_insertAt {row : Row} (hrow : (Json.obj row).isOrdered = true) {value : Json}
    (hvalue : value.isOrdered = true) (path : List String) : (Json.obj (insertAt row path value)).isOrdered = true := by
  induction path generalizing row with
  | nil => exact hrow
  | cons key rest ih =>
    by_cases last : rest = []
    · subst last
      exact isOrdered_insert hrow hvalue key
    · rw [insertAt_cons row key last]
      refine isOrdered_insert hrow (ih ?_) key
      unfold membersOf
      split
      · next child found => exact isOrdered_of_get? hrow found
      · rfl

/-- Copying a path of a row keeps every other path as the row has it. -/
theorem at?_copy {row kept : Row} (hrow : (Json.obj row).isOrdered = true) {path other : List String} {value : Json}
    (h : at? row path = some value) (same : at? kept other = at? row other) :
    at? (insertAt kept path value) other = at? row other := by
  by_cases apart : Apart path other
  · rw [at?_insertAt_of_apart kept apart, same]
  have hpath : path ≠ [] := by
    rintro rfl
    cases h
  rcases not_apart_iff.mp apart with ⟨rest, rfl⟩ | ⟨rest, rfl⟩
  · exact at?_append_congr hpath ((at?_insertAt_self kept hpath value).trans h.symm) rest
  · by_cases root : other = []
    · subst root
      rfl
    by_cases last : rest = []
    · subst last
      rw [List.append_nil] at h ⊢
      rw [at?_insertAt_self kept root, h]
    · obtain ⟨child, hchild, hvalue⟩ := exists_child_of_at?_append root last h
      have ordered : (Json.obj child).isOrdered = true := isOrdered_at? hrow hchild
      rw [at?_insertAt_append kept root last, same, hchild, membersOf, insertAt_at?_self ordered hvalue]

/-- Copy a column of a row, if it is there. -/
def copyInto (row kept : Row) (column : String) : Row :=
  match row.lookup column with
  | some value => kept.insert column value
  | none => kept

theorem project_eq (row : Row) (columns : List String) : row.project columns = columns.foldl (copyInto row) [] := rfl

/-- What holds of a row, and stays when a column that another row has is copied into it, holds after some columns are
copied. -/
theorem copyInto_induction {p : Row → Prop} {row start : Row} {columns : List String} (empty : p start)
    (step : ∀ c ∈ columns, ∀ value, row.lookup c = some value → ∀ kept, p kept → p (kept.insert c value)) :
    p (columns.foldl (copyInto row) start) := by
  refine List.foldlRecOn columns _ empty fun kept holds c hc => ?_
  unfold copyInto
  split
  · next value found => exact step c hc value found kept holds
  · exact holds

/-- A column that is as in the row stays so while further columns are copied. -/
theorem lookup_foldl_copyInto {row : Row} (hrow : (Json.obj row).isOrdered = true) (columns : List String)
    {column : String} {start : Row} (same : start.lookup column = row.lookup column) :
    (columns.foldl (copyInto row) start).lookup column = row.lookup column :=
  copyInto_induction (p := fun kept => kept.lookup column = row.lookup column) same
    fun _ _ _ found _ same => at?_copy hrow found same

/-- A projection holds every listed column as the row does. -/
theorem lookup_project {row : Row} (hrow : (Json.obj row).isOrdered = true) {columns : List String} {column : String}
    (h : column ∈ columns) : (row.project columns).lookup column = row.lookup column := by
  rw [project_eq]
  cases found : row.lookup column with
  | none =>
    rw [← found]
    exact lookup_foldl_copyInto hrow columns ((at?_empty _).trans found.symm)
  | some value =>
    obtain ⟨before, after, rfl⟩ := List.append_of_mem h
    rw [List.foldl_append, List.foldl_cons, ← found]
    refine lookup_foldl_copyInto hrow after ?_
    rw [copyInto, found]
    exact lookup_insert_self _ column value


/-! ## Merging -/

@[simp] theorem mergeValue_none (value : Json) : mergeValue value none = value := by
  cases value <;> rfl

/-- An object goes on holding its members where an object is merged into it. -/
theorem membersOf_mergeValue_obj (source : Row) (held : Option Json) :
    membersOf (some (mergeValue (.obj source) held)) = mergeInto source (membersOf held) ∨
      membersOf held = [] ∧ membersOf (some (mergeValue (.obj source) held)) = source := by
  unfold mergeValue
  split
  · exact .inl rfl
  · next other =>
    refine .inr ⟨?_, rfl⟩
    unfold membersOf
    split
    · next target => exact absurd rfl (other target)
    · rfl

/-- What a key holds once a record is merged into a row. -/
theorem get?_mergeInto {source : Row} (hsource : (Keyed.keys source).Nodup) (target : Row) (key : String) :
    Keyed.get? (mergeInto source target) key =
      match Keyed.get? source key with
      | some value => some (mergeValue value (Keyed.get? target key))
      | none => Keyed.get? target key := by
  induction source generalizing target with
  | nil => rfl
  | cons e rest ih =>
    obtain ⟨k, v⟩ := e
    obtain ⟨fresh, distinct⟩ := List.nodup_cons.mp hsource
    rw [mergeInto, ih distinct, Keyed.get?_cons]
    by_cases same : k = key
    · subst same
      have absent : Keyed.get? rest k = none := Keyed.get?_eq_none_iff.mpr fresh
      simp [absent]
    · simp [same, Keyed.get?_insert_of_ne same]

/-- A record leaves a path alone: on the way it has nothing, or objects that leave the rest of the path alone. -/
def Spares (source : Row) : List String → Prop
  | [] => False
  | key :: rest => source.Ascending ∧ ∀ value, Keyed.get? source key = some value →
      ∃ child, value = .obj child ∧ Spares child rest

theorem Spares.at?_eq_none {source : Row} {path : List String} (h : Spares source path) : at? source path = none := by
  induction path generalizing source with
  | nil => rfl
  | cons key rest ih =>
    by_contra found
    obtain ⟨value, found⟩ := Option.ne_none_iff_exists'.mp found
    by_cases last : rest = []
    · subst last
      obtain ⟨child, -, spares⟩ := h.2 value found
      exact spares
    · obtain ⟨child, hchild, found⟩ := exists_child_of_at? last found
      obtain ⟨_, same, spares⟩ := h.2 _ hchild
      obtain rfl := Json.obj.inj same
      rw [ih spares] at found
      cases found

theorem spares_empty {path : List String} (h : path ≠ []) : Spares [] path := by
  obtain ⟨key, rest, rfl⟩ := List.exists_cons_of_ne_nil h
  exact ⟨Keyed.ascending_nil, fun _ found => by cases found⟩

/-- Merging a record changes no path that the record leaves alone. -/
theorem Spares.at?_mergeInto {source : Row} {path : List String} (h : Spares source path) (target : Row) :
    at? (mergeInto source target) path = at? target path := by
  induction path generalizing source target with
  | nil => rfl
  | cons key rest ih =>
    obtain ⟨ascending, passes⟩ := h
    have merged := get?_mergeInto ascending.nodup_keys target key
    by_cases last : rest = []
    · subst last
      have absent : Keyed.get? source key = none := by
        by_contra found
        obtain ⟨value, found⟩ := Option.ne_none_iff_exists'.mp found
        obtain ⟨child, -, spares⟩ := passes value found
        exact spares
      rw [absent] at merged
      exact merged
    rw [at?_cons _ key last, at?_cons target key last, merged]
    cases found : Keyed.get? source key with
    | none => rfl
    | some value =>
      obtain ⟨child, rfl, spares⟩ := passes value found
      dsimp only
      rcases membersOf_mergeValue_obj child (Keyed.get? target key) with both | ⟨bare, alone⟩
      · rw [both, ih spares]
      · rw [alone, bare, spares.at?_eq_none, at?_empty]

/-- Where a record holds a value, merging leaves what the two values merge to. -/
theorem at?_mergeInto {source : Row} (hsource : (Json.obj source).isOrdered = true) {path : List String} {value : Json}
    (h : at? source path = some value) (target : Row) :
    at? (mergeInto source target) path = some (mergeValue value (at? target path)) := by
  induction path generalizing source target with
  | nil => cases h
  | cons key rest ih =>
    have merged := get?_mergeInto (Json.ascending_of_isOrdered hsource).nodup_keys target key
    by_cases last : rest = []
    · subst last
      rw [show Keyed.get? source key = some value from h] at merged
      exact merged
    obtain ⟨child, hchild, hvalue⟩ := exists_child_of_at? last h
    rw [hchild] at merged
    rw [at?_cons _ key last, at?_cons target key last, merged]
    rcases membersOf_mergeValue_obj child (Keyed.get? target key) with both | ⟨bare, alone⟩
    · rw [both, ih (isOrdered_of_get? hsource hchild) hvalue]
    · rw [alone, bare, hvalue, at?_empty, mergeValue_none]

/-- Writing a value keeps alone every path apart from its own. -/
theorem Spares.insertAt {source : Row} {path other : List String} (h : Spares source path) (apart : Apart other path)
    (value : Json) : Spares (insertAt source other value) path := by
  induction apart using Apart.induction generalizing source with
  | fork key key' rest rest' different =>
    rw [insertAt_eq]
    refine ⟨h.1.insert .., fun found hfound => ?_⟩
    rw [Keyed.get?_insert_of_ne different] at hfound
    exact h.2 found hfound
  | under key rest rest' later ih =>
    rw [insertAt_cons source key later.ne_nil]
    refine ⟨h.1.insert .., fun found hfound => ?_⟩
    rw [Keyed.get?_insert_self] at hfound
    obtain rfl := Option.some.inj hfound
    refine ⟨_, rfl, ih ?_⟩
    cases held : Keyed.get? source key with
    | none => exact spares_empty later.symm.ne_nil
    | some value =>
      obtain ⟨child, rfl, spares⟩ := h.2 value held
      exact spares

end Row

end DataGrid
