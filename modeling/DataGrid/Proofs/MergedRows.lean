-- SUMMARY: What a row is after the records of a remote have been merged into it.
import DataGrid.Proofs.MergedPaths
import DataGrid.Proofs.Merging

/-!
# Merged rows

Merging makes one row of each row, in the same order. A row that joins by one value is
merged with the record of that value, if there is one. A row that joins by a list
receives under each key the values that its records have there, one for each time that
a join value leads to such a record.
-/

namespace DataGrid

namespace MergeData

/-- The values that some records have under a key, one record after the other. -/
def valuesUnder (records : List Row) (key : String) : List Json :=
  records.filterMap (Keyed.get? · key)

theorem valuesUnder_eq_nil_iff {records : List Row} {key : String} :
    valuesUnder records key = [] ↔ ∀ record ∈ records, key ∉ Keyed.keys record := by
  simp only [valuesUnder, List.filterMap_eq_nil_iff, Keyed.get?_eq_none_iff]

/-- A row holds some lists: under each key the list for it, and nothing where that list is empty. -/
def Holds (gathered : Row) (lists : String → List Json) : Prop :=
  ∀ key, Keyed.get? gathered key = if lists key = [] then none else some (.arr (lists key))

theorem holds_empty : Holds [] fun _ => [] :=
  fun _ => rfl

/-- Pushing a value appends it to the list under its name. -/
theorem Holds.push {gathered : Row} {lists : String → List Json} (h : Holds gathered lists) (name : String) (value : Json) :
    Holds (push gathered name value) fun key => if name = key then lists key ++ [value] else lists key := by
  have written : MergeData.push gathered name value = Keyed.insert gathered name (.arr (lists name ++ [value])) := by
    have held := h name
    unfold MergeData.push
    split at held
    · next none =>
      rw [held, none]
      rfl
    · rw [held]
  intro key
  rw [written]
  by_cases same : name = key
  · subst same
    simp
  · simp only [if_neg same]
    rw [Keyed.get?_insert_of_ne same]
    exact h key

/-- Push every member of a record. -/
def pushAll (gathered record : Row) : Row :=
  record.foldl (fun gathered (name, value) => push gathered name value) gathered

theorem gather_eq (records : List Row) : gather records = records.foldl pushAll [] := rfl

/-- Pushing the members of a record appends under each key what the record has there. -/
theorem Holds.pushAll {gathered record : Row} {lists : String → List Json} (h : Holds gathered lists)
    (distinct : (Keyed.keys record).Nodup) :
    Holds (pushAll gathered record) fun key => lists key ++ (Keyed.get? record key).toList := by
  induction record generalizing gathered lists with
  | nil =>
    simp only [Keyed.get?_nil, Option.toList_none, List.append_nil]
    exact h
  | cons e rest ih =>
    obtain ⟨name, value⟩ := e
    obtain ⟨fresh, distinct⟩ := List.nodup_cons.mp distinct
    have pushed := ih (h.push name value) distinct
    -- The name does not occur again, so the value is all that this record adds under it.
    have absent : Keyed.get? rest name = none := Keyed.get?_eq_none_iff.mpr fresh
    have added (key : String) :
        (if name = key then lists key ++ [value] else lists key) ++ (Keyed.get? rest key).toList =
          lists key ++ (Keyed.get? ((name, value) :: rest) key).toList := by
      rw [Keyed.get?_cons]
      by_cases same : name = key
      · subst same
        rw [if_pos rfl, if_pos rfl, absent, Option.toList_none, List.append_nil, Option.toList_some]
      · rw [if_neg same, if_neg same]
    simp only [added] at pushed
    exact pushed

/-- Pushing some records appends under each key the values that they have there. -/
theorem Holds.foldl_pushAll {gathered : Row} {records : List Row} {lists : String → List Json} (h : Holds gathered lists)
    (distinct : ∀ record ∈ records, (Keyed.keys record).Nodup) :
    Holds (records.foldl MergeData.pushAll gathered) fun key => lists key ++ valuesUnder records key := by
  induction records generalizing gathered lists with
  | nil =>
    simp only [valuesUnder, List.filterMap_nil, List.append_nil]
    exact h
  | cons record rest ih =>
    obtain ⟨first, others⟩ := List.forall_mem_cons.mp distinct
    have later := ih (h.pushAll first) others
    have added (key : String) :
        (lists key ++ (Keyed.get? record key).toList) ++ valuesUnder rest key =
          lists key ++ valuesUnder (record :: rest) key := by
      rw [List.append_assoc, valuesUnder, valuesUnder, List.filterMap_cons]
      cases Keyed.get? record key <;> rfl
    simp only [added] at later
    exact later

/-- Gathering records collects their values under each key. -/
theorem holds_gather {records : List Row} (distinct : ∀ record ∈ records, (Keyed.keys record).Nodup) :
    Holds (gather records) (valuesUnder records) := by
  rw [gather_eq]
  exact holds_empty.foldl_pushAll distinct

/-- What merging makes of a row. One that joins by nothing, or by a value without a record, stays as it is. One that joins
by a value with a record is merged with that record. In one that joins by a list, a key that occurs in a record found for
the list holds the values that the records have there, in the order of the list; and the other keys hold what they did. -/
structure IsMerged (data : MergeData) (column : String) (row merged : Row) : Prop where
  unjoined : row.lookup column = none ∨ row.lookup column = some .null → merged = row
  unmatched : ∀ value, row.lookup column = some value → (∀ items, value ≠ .arr items) → data.find? value = none →
    merged = row
  matched : ∀ value record, row.lookup column = some value → (∀ items, value ≠ .arr items) → value ≠ .null →
    data.find? value = some record → merged = row.merge record
  gathered : ∀ items, row.lookup column = some (.arr items) → ∀ key,
    (∃ record ∈ items.filterMap data.find?, key ∈ Keyed.keys record) →
      Keyed.get? merged key = some (.arr (valuesUnder (items.filterMap data.find?) key))
  kept : ∀ items, row.lookup column = some (.arr items) → ∀ key,
    (∀ record ∈ items.filterMap data.find?, key ∉ Keyed.keys record) → Keyed.get? merged key = Keyed.get? row key
  ascending : row.Ascending → merged.Ascending

/-- What a key holds in a row that joins by a list. -/
theorem get?_mergeRow_of_arr {data : MergeData} (records : ∀ record ∈ Keyed.values data, record.Ascending) {column : String}
    {row : Row} {items : List Json} (joins : row.lookup column = some (.arr items)) (key : String) :
    Keyed.get? (mergeRow data column row) key =
      if valuesUnder (items.filterMap data.find?) key = [] then Keyed.get? row key
      else some (.arr (valuesUnder (items.filterMap data.find?) key)) := by
  have distinct : ∀ record ∈ items.filterMap data.find?, (Keyed.keys record).Nodup := by
    intro record hrecord
    obtain ⟨item, -, found⟩ := List.mem_filterMap.mp hrecord
    exact (records record (mem_values_of_find? found)).nodup_keys
  have held := holds_gather distinct key
  rw [mergeRow_eq, joins, brought, Row.get?_mergeInto (isGathered_gather _).ascending.nodup_keys]
  split at held
  · next none => rw [held, if_pos none]
  · next some =>
    rw [held, if_neg some]
    rfl

theorem isMerged_mergeRow {data : MergeData} (records : ∀ record ∈ Keyed.values data, record.Ascending) (column : String)
    (row : Row) : IsMerged data column row (mergeRow data column row) where
  unjoined := by
    rintro (missing | null)
    · rw [mergeRow_eq, missing]
      rfl
    · rw [mergeRow_eq, null]
      rfl
  unmatched := by
    intro value joins single unknown
    rw [mergeRow_eq, joins]
    by_cases null : value = .null
    · rw [null]
      rfl
    · rw [brought_of_single single null, unknown]
      rfl
  matched := by
    intro value record joins single real found
    rw [mergeRow_eq, joins, brought_of_single single real, found]
    rfl
  gathered := by
    intro items joins key ⟨record, hrecord, hkey⟩
    have some : valuesUnder (items.filterMap data.find?) key ≠ [] := fun none =>
      valuesUnder_eq_nil_iff.mp none record hrecord hkey
    rw [get?_mergeRow_of_arr records joins, if_neg some]
  kept := by
    intro items joins key absent
    rw [get?_mergeRow_of_arr records joins, if_pos (valuesUnder_eq_nil_iff.mpr absent)]
  ascending := by
    intro ascending
    rw [mergeRow_eq]
    exact Row.ascending_mergeInto ascending _

/-- Merging makes one row of each row, in the same order. -/
theorem isMerged_mergeRows {data : MergeData} (records : ∀ record ∈ Keyed.values data, record.Ascending) (column : String)
    (rows : List Row) : List.Forall₂ (IsMerged data column) rows (data.mergeRows column rows) := by
  rw [mergeRows, List.forall₂_map_right_iff]
  exact List.forall₂_same.mpr fun row _ => isMerged_mergeRow records column row

/-- Two people and a town, of which one person has no age. -/
def people : MergeData :=
  [("7", [("city", .str "Oslo")]), ("ann", [("age", .ofNat 40), ("name", .str "Ann")]), ("bo", [("name", .str "Bo")])]

/-- Rows that join by a text, a list with repetitions, a number, null, nothing, and texts and lists without records. -/
def visits : List Row :=
  [[("guest", .str "ann"), ("name", .obj [("first", .str "A")])],
   [("guest", .arr [.str "bo", .str "ann", .null, .str "bo"]), ("name", .obj [("first", .str "A")]), ("note", .arr [])],
   [("guest", .ofNat 7)],
   [("guest", .null), ("name", .str "nobody")],
   [("name", .str "nobody")],
   [("guest", .str "cid")],
   [("guest", .arr [.str "cid"]), ("name", .str "nobody")]]

theorem isMerged_mergeRows_visits :
    (∀ record ∈ Keyed.values people, record.Ascending) ∧
      List.Forall₂ (IsMerged people "guest") visits (people.mergeRows "guest" visits) ∧
      people.mergeRows "guest" visits =
        [[("age", .ofNat 40), ("guest", .str "ann"), ("name", .str "Ann")],
         [("age", .arr [.ofNat 40]), ("guest", .arr [.str "bo", .str "ann", .null, .str "bo"]),
          ("name", .arr [.str "Bo", .str "Ann", .str "Bo"]), ("note", .arr [])],
         [("city", .str "Oslo"), ("guest", .ofNat 7)],
         [("guest", .null), ("name", .str "nobody")],
         [("name", .str "nobody")],
         [("guest", .str "cid")],
         [("guest", .arr [.str "cid"]), ("name", .str "nobody")]] := by
  have records : ∀ record ∈ Keyed.values people, record.Ascending := by decide
  exact ⟨records, isMerged_mergeRows records "guest" visits, by decide +kernel⟩

end MergeData

end DataGrid
