-- SUMMARY: Which pairs a projection takes in, and what a row renamed by it holds.
import DataGrid.Grid.Output
import DataGrid.Proofs.GridDefinition

/-!
# Projections

A pair is taken in where neither its field nor its column has been taken. Pairs with
distinct fields and distinct columns therefore do not get into each other's way, and
a projection gives them up only to what it holds already. A renamed row holds, under
each field, what is read at its column.
-/

namespace DataGrid

namespace Projection

/-- No field of a projection is paired twice. -/
def IsKeyed (p : Projection) : Prop :=
  p.pairs.Ascending

theorem isKeyed_empty : empty.IsKeyed := Keyed.ascending_nil

theorem IsKeyed.insert {p : Projection} (h : p.IsKeyed) (field column : String) : (p.insert field column).IsKeyed := by
  unfold Projection.insert
  split
  · exact Keyed.Ascending.insert h field column
  · exact h

/-- Add some pairs one after the other, as far as they are free. -/
def insertAll (p : Projection) (pairs : List (String × String)) : Projection :=
  pairs.foldl (fun p pair => p.insert pair.1 pair.2) p

theorem ofPairs_eq (pairs : List (String × String)) : ofPairs pairs = empty.insertAll pairs := rfl

theorem extend_eq (p other : Projection) : p.extend other = p.insertAll other.pairs := rfl

theorem IsKeyed.insertAll {p : Projection} (h : p.IsKeyed) (pairs : List (String × String)) :
    (p.insertAll pairs).IsKeyed := by
  induction pairs generalizing p with
  | nil => exact h
  | cons pair rest ih => exact ih (h.insert pair.1 pair.2)

/-- A column is taken where some pair of the projection has it. -/
theorem field?_eq_none {p : Projection} {column : String} : p.field? column = none ↔ column ∉ p.columns := by
  simp only [field?, columns, Keyed.values, Option.map_eq_none_iff, List.find?_eq_none, decide_eq_true_eq, List.mem_map,
    not_exists, not_and]

theorem IsKeyed.mem_columns {p : Projection} (h : p.IsKeyed) {column : String} :
    column ∈ p.columns ↔ ∃ field, p.column? field = some column := by
  simp only [columns, Keyed.values, List.mem_map, column?, Keyed.get?_eq_some_iff (Keyed.Ascending.nodup_keys h)]
  constructor
  · rintro ⟨⟨field, _⟩, hpair, rfl⟩
    exact ⟨field, hpair⟩
  · rintro ⟨field, hpair⟩
    exact ⟨_, hpair, rfl⟩

theorem isFree_iff {p : Projection} {field column : String} :
    p.isFree field column = true ↔ p.column? field = none ∧ column ∉ p.columns := by
  rw [isFree, Bool.and_eq_true, Option.isNone_iff_eq_none, Option.isNone_iff_eq_none, field?_eq_none]

/-- A free pair is added to the pairs that are there. -/
theorem pairs_insert_perm {p : Projection} {field column : String} (free : p.isFree field column = true) :
    (Keyed.insert p.pairs field column).Perm ((field, column) :: p.pairs) :=
  Keyed.insert_perm (Keyed.get?_eq_none_iff.mp (isFree_iff.mp free).1) column

/-- A free pair is what its field is paired with afterwards. -/
theorem column?_insert_of_isFree {p : Projection} {name column : String} (free : p.isFree name column = true)
    (field : String) : (p.insert name column).column? field = if name = field then some column else p.column? field := by
  rw [insert, if_pos free, column?]
  split
  · next same => rw [same, Keyed.get?_insert_self]
  · next other => rw [Keyed.get?_insert_of_ne other, column?]

theorem mem_columns_insert {p : Projection} {field column other : String} (free : p.isFree field column = true) :
    other ∈ (p.insert field column).columns ↔ other = column ∨ other ∈ p.columns := by
  have columns := (pairs_insert_perm free).map (·.2)
  rw [insert, if_pos free]
  exact columns.mem_iff.trans List.mem_cons

/-- No column is projected twice. -/
theorem nodup_columns_insert {p : Projection} (distinct : p.columns.Nodup) (field column : String) :
    (p.insert field column).columns.Nodup := by
  unfold insert
  split
  · next free =>
    have columns := (pairs_insert_perm free).map (·.2)
    exact columns.nodup_iff.mpr (List.nodup_cons.mpr ⟨(isFree_iff.mp free).2, distinct⟩)
  · exact distinct

theorem nodup_columns_insertAll {p : Projection} (distinct : p.columns.Nodup) (pairs : List (String × String)) :
    (p.insertAll pairs).columns.Nodup :=
  List.foldlRecOn (motive := fun p : Projection => p.columns.Nodup) pairs _ distinct
    fun _ distinct pair _ => nodup_columns_insert distinct pair.1 pair.2

theorem nodup_columns_ofPairs (pairs : List (String × String)) : (ofPairs pairs).columns.Nodup :=
  nodup_columns_insertAll (p := empty) List.nodup_nil pairs

/-- Of some pairs with distinct fields and distinct columns, those are taken in whose sides are free. -/
theorem column?_insertAll {pairs : List (String × String)} (fields : (pairs.map (·.1)).Nodup)
    (columns : (pairs.map (·.2)).Nodup) (p : Projection) (field : String) :
    (p.insertAll pairs).column? field =
      (p.column? field).or ((Keyed.get? pairs field).filter (· ∉ p.columns)) := by
  induction pairs generalizing p with
  | nil => simp [insertAll]
  | cons pair rest ih =>
    obtain ⟨name, column⟩ := pair
    obtain ⟨newField, fieldsRest⟩ := List.nodup_cons.mp fields
    obtain ⟨newColumn, columnsRest⟩ := List.nodup_cons.mp columns
    have absent : Keyed.get? rest name = none := Keyed.get?_eq_none_iff.mpr newField
    refine (ih fieldsRest columnsRest (p.insert name column)).trans ?_
    rw [Keyed.get?_cons]
    by_cases free : p.isFree name column = true
    · obtain ⟨unnamed, untaken⟩ := isFree_iff.mp free
      have inserted := column?_insert_of_isFree free field
      by_cases same : name = field
      · subst same
        simp [inserted, unnamed, untaken, Option.filter]
      · rw [inserted, if_neg same, if_neg same]
        congr 1
        cases found : Keyed.get? rest field with
        | none => rfl
        | some value =>
          have other : value ≠ column := fun same =>
            newColumn (List.mem_map.mpr ⟨(field, value), Keyed.mem_of_get?_eq_some found, same⟩)
          simp [Option.filter, mem_columns_insert free, other]
    · rw [insert, if_neg free]
      by_cases same : name = field
      · subst same
        rw [if_pos rfl, absent]
        rw [isFree_iff] at free
        cases named : p.column? name with
        | some held => simp
        | none =>
          have taken : column ∈ p.columns := by simpa [named] using free
          simp [Option.filter, taken]
      · rw [if_neg same]

/-- A projection of pairs with distinct fields and distinct columns has all of them. -/
theorem column?_ofPairs {pairs : List (String × String)} (fields : (pairs.map (·.1)).Nodup)
    (columns : (pairs.map (·.2)).Nodup) (field : String) : (ofPairs pairs).column? field = Keyed.get? pairs field := by
  rw [ofPairs_eq, column?_insertAll fields columns]
  cases found : Keyed.get? pairs field <;> simp [column?, empty, Projection.columns, Keyed.values, Option.filter]

/-- A projection of pairs in the order of their fields, with distinct columns, has them as they are. -/
theorem pairs_ofPairs {pairs : Keyed String} (fields : pairs.Ascending) (columns : (Keyed.values pairs).Nodup) :
    (ofPairs pairs).pairs = pairs :=
  Keyed.Ascending.ext (isKeyed_empty.insertAll pairs) fields (column?_ofPairs fields.nodup_keys columns)

/-- Where no column is projected twice, the field of a column is the one that is paired with it. -/
theorem field?_eq_some_iff {p : Projection} (columns : p.columns.Nodup) {field column : String} :
    p.field? column = some field ↔ (field, column) ∈ p.pairs := by
  rw [field?, Option.map_eq_some_iff]
  constructor
  · rintro ⟨⟨_, paired⟩, found, rfl⟩
    obtain rfl : paired = column := by simpa using List.find?_some found
    exact List.mem_of_find?_eq_some found
  · intro hpair
    refine ⟨(field, column), ?_, rfl⟩
    cases found : p.pairs.find? (·.2 = column) with
    | none => exact absurd (List.find?_eq_none.mp found _ hpair) (by simp)
    | some pair =>
      have same : pair.2 = column := by simpa using List.find?_some found
      rw [List.inj_on_of_nodup_map columns (List.mem_of_find?_eq_some found) hpair same]

theorem column?_insert_of_eq_some {p : Projection} {field column : String} (h : p.column? field = some column)
    (name other : String) : (p.insert name other).column? field = some column := by
  by_cases free : p.isFree name other = true
  · have apart : name ≠ field := by
      rintro rfl
      exact absurd h (by simp [(isFree_iff.mp free).1])
    rw [column?_insert_of_isFree free, if_neg apart, h]
  · rw [insert, if_neg free, h]

/-- An extension keeps the pairs that are there. -/
theorem column?_extend_of_eq_some {p : Projection} {field column : String} (h : p.column? field = some column)
    (other : Projection) : (p.extend other).column? field = some column := by
  rw [extend_eq]
  generalize other.pairs = pairs
  induction pairs generalizing p with
  | nil => exact h
  | cons pair rest ih => exact ih (column?_insert_of_eq_some h pair.1 pair.2)


/-- Pairs of names with themselves. -/
def IsDiagonal (p : Projection) : Prop :=
  ∀ pair ∈ p.pairs, pair.1 = pair.2

theorem isDiagonal_insertAll {p : Projection} (h : p.IsDiagonal) {pairs : List (String × String)}
    (hpairs : ∀ pair ∈ pairs, pair.1 = pair.2) : (p.insertAll pairs).IsDiagonal := by
  refine List.foldlRecOn (motive := IsDiagonal) pairs _ h fun p hp pair hpair => ?_
  unfold insert
  split
  · intro entry hentry
    rcases Keyed.eq_or_mem_of_mem_insert hentry with rfl | hentry
    · exact hpairs pair hpair
    · exact hp entry hentry
  · exact hp

/-- A name that is paired with itself gets into an extension unless it is taken as a column. -/
theorem column?_extend_diagonal {p other : Projection} (keyed : other.IsKeyed) (diagonal : other.IsDiagonal) {name : String}
    (hname : other.column? name = some name) (fresh : p.column? name = none) :
    (p.extend other).column? name = if name ∈ p.columns then none else some name := by
  have fields : (other.pairs.map (·.1)).Nodup := Keyed.Ascending.nodup_keys keyed
  have columns : (other.pairs.map (·.2)).Nodup := by
    rwa [← List.map_congr_left diagonal]
  rw [extend_eq, column?_insertAll fields columns, fresh, show Keyed.get? other.pairs name = some name from hname]
  by_cases taken : name ∈ p.columns <;> simp [taken, Option.filter]


/-! ## Renaming -/

/-- Put what is read for a pair under its field, if it is there. -/
def put (table : Option FieldTable) (row renamed : Row) (pair : String × String) : Row :=
  match value? table row pair.1 pair.2 with
  | some value => Keyed.insert renamed pair.1 value
  | none => renamed

theorem renameRow_eq (p : Projection) (table : Option FieldTable) (row : Row) :
    p.renameRow table row = p.pairs.foldl (put table row) [] := rfl

/-- What is put under a field where all of its pairs read the same. -/
theorem get?_foldl_put {table : Option FieldTable} {row : Row} {pairs : List (String × String)} {field : String}
    {held : Option Json} (reads : ∀ pair ∈ pairs, pair.1 = field → value? table row field pair.2 = held) (start : Row) :
    Keyed.get? (pairs.foldl (put table row) start) field =
      if field ∈ Keyed.keys pairs then held.or (Keyed.get? start field) else Keyed.get? start field := by
  induction pairs generalizing start with
  | nil => rfl
  | cons pair rest ih =>
    obtain ⟨name, column⟩ := pair
    obtain ⟨here, later⟩ := List.forall_mem_cons.mp reads
    rw [List.foldl_cons, ih later]
    by_cases same : name = field
    · subst same
      have first : Keyed.get? (put table row start (name, column)) name = held.or (Keyed.get? start name) := by
        rw [put, here rfl]
        cases held with
        | none => rfl
        | some value => exact Keyed.get?_insert_self ..
      rw [first, if_pos (show name ∈ Keyed.keys ((name, column) :: rest) from List.mem_cons_self)]
      split
      · cases held <;> rfl
      · rfl
    · have untouched : Keyed.get? (put table row start (name, column)) field = Keyed.get? start field := by
        unfold put
        split
        · exact Keyed.get?_insert_of_ne same ..
        · rfl
      have others : field ∈ Keyed.keys ((name, column) :: rest) ↔ field ∈ Keyed.keys rest := by
        simp [Keyed.keys, Ne.symm same]
      simp only [untouched, others]

/-- What a renamed row holds under a field is what is read at its column. -/
theorem get?_renameRow {p : Projection} (keyed : p.IsKeyed) (table : Option FieldTable) (row : Row) (field : String) :
    Keyed.get? (p.renameRow table row) field = (p.column? field).bind (value? table row field) := by
  have reads : ∀ pair ∈ p.pairs, pair.1 = field →
      value? table row field pair.2 = (p.column? field).bind (value? table row field) := by
    rintro ⟨_, column⟩ hpair rfl
    have paired : p.column? _ = some column := (Keyed.get?_eq_some_iff (Keyed.Ascending.nodup_keys keyed)).mpr hpair
    rw [paired, Option.bind_some]
  rw [renameRow_eq, get?_foldl_put reads, Keyed.get?_nil, Option.or_none]
  split
  · rfl
  · next absent =>
    have unpaired : p.column? field = none := Keyed.get?_eq_none_iff.mpr absent
    rw [unpaired, Option.bind_none]

end Projection


/-! ## Projections of tables -/

namespace FieldTable

variable {table : FieldTable}

theorem IsRead.name_eq (h : table.IsRead) {name : String} {field : Field} (hfield : (name, field) ∈ table.fields) :
    field.name = name := by
  obtain ⟨_, checked⟩ := h.checked
  exact checked.name_eq hfield

/-- Every field of a table is found under its name. -/
theorem IsRead.get?_eq_some_iff (h : table.IsRead) {name : String} {field : Field} :
    table.get? name = some field ↔ field ∈ table.toList ∧ field.name = name := by
  refine (Keyed.get?_eq_some_iff h.names).trans ⟨fun hfield => ?_, ?_⟩
  · exact ⟨List.mem_map_of_mem hfield, h.name_eq hfield⟩
  · rintro ⟨hfield, rfl⟩
    obtain ⟨⟨name, field⟩, hentry, rfl⟩ := List.mem_map.mp hfield
    rwa [h.name_eq hentry]

theorem mem_shown {field : Field} : field ∈ table.shown ↔ field ∈ table.toList ∧ field.shown = true :=
  List.mem_filter

/-- Where the names of a table ascend, the shown fields stand in the order of their names. -/
theorem Checked.ascending_shown {taken : List String} {descriptors : List (String × FieldDescriptor)}
    (h : Checked taken descriptors table.fields) (names : (Keyed.keys table.fields).Pairwise (· < ·)) :
    table.shown.Pairwise fun a b => a.name < b.name := by
  have ascending : (table.toList.map (·.name)).Pairwise (· < ·) := by
    rw [toList, h.map_name]
    exact names
  exact (List.pairwise_map.mp ascending).sublist List.filter_sublist

/-- The names of the fields that are shown are distinct, and so are their columns. -/
theorem IsRead.nodup_shown (h : table.IsRead) :
    (table.shown.map (·.name)).Nodup ∧ (table.shown.map (·.column)).Nodup := by
  obtain ⟨_, checked⟩ := h.checked
  have names : (table.toList.map (·.name)).Nodup := checked.map_name ▸ h.names
  have columns : (table.toList.map (·.column)).Nodup := by
    rw [toList, Keyed.values, List.map_map]
    exact checked.columns
  have shown : table.shown.Sublist table.toList := List.filter_sublist
  exact ⟨names.sublist (shown.map _), columns.sublist (shown.map _)⟩

/-- A table projects the fields that it shows, each to its column. -/
theorem IsRead.column?_projection (h : table.IsRead) {name column : String} :
    table.projection.column? name = some column ↔
      ∃ field ∈ table.shown, field.name = name ∧ field.column = column := by
  obtain ⟨names, columns⟩ := h.nodup_shown
  have pairs : Keyed.get? (table.shown.map fun field => (field.name, field.column)) name = some column ↔
      (name, column) ∈ table.shown.map fun field => (field.name, field.column) :=
    Keyed.get?_eq_some_iff (by rw [Keyed.keys, List.map_map]; exact names)
  rw [projection, Projection.column?_ofPairs (by rw [List.map_map]; exact names) (by rw [List.map_map]; exact columns),
    pairs]
  simp

theorem isKeyed_projection : table.projection.IsKeyed :=
  Projection.isKeyed_empty.insertAll _

end FieldTable

end DataGrid
