-- SUMMARY: Checked tables keep the names of their descriptors, and their columns are distinct.
import Mathlib.Data.List.Nodup
import DataGrid.Proofs.Keyed
import DataGrid.Proofs.Outcome
import DataGrid.Remote.Definition
import DataGrid.Request.Clause

/-!
# Field tables

A checked table has a field for every descriptor, under the same name and with the
column that the descriptor gives. No two fields share a column, so a column tells
which field it belongs to.
-/

namespace DataGrid

/-! ## Fields -/

/-- A join without faults: its collection has a name, and its columns are column paths. -/
structure JoinDescriptor.IsSound (join : JoinDescriptor) : Prop where
  model : Text.isIdentifier join.model = true
  destination : ∀ column, join.destination = some column → Text.isColumnPath column = true
  key : Text.isColumnPath join.keyColumn = true
  columns : ∀ column ∈ join.fields ++ join.exclude, Text.isColumnPath column = true

namespace FieldDescriptor

/-- The column of the field that is authored under a name. -/
def columnOf (descriptor : FieldDescriptor) (name : String) : String :=
  descriptor.databaseName.getD name

/-- A descriptor without faults under a name. -/
structure IsSound (descriptor : FieldDescriptor) (name : String) : Prop where
  named : Text.isBlank name = false
  column : Text.isColumnPath (descriptor.columnOf name) = true
  join : ∀ join, descriptor.join = some join → join.IsSound

/-- The field that a descriptor stands for under a name. -/
def filled (descriptor : FieldDescriptor) (name : String) : Field where
  name
  column := descriptor.columnOf name
  displayName := descriptor.displayName.getD name
  shown := descriptor.shown.getD true
  searchable := descriptor.searchable.getD false
  filterable := descriptor.filterable.getD false
  rangeable := descriptor.rangeable.getD false
  sortable := descriptor.sortable.getD false
  join := descriptor.join

end FieldDescriptor

namespace Field

theorem checkJoin_eq_ok {name : String} {join : JoinDescriptor} : checkJoin name join = .ok () ↔ join.IsSound := by
  unfold checkJoin
  constructor
  · intro h
    split at h
    · cases h
    next model =>
    split at h
    · cases h
    next columns =>
    split at h
    · cases h
    next paths =>
    simp only [Bool.not_eq_true, Bool.not_eq_false', Bool.and_eq_true] at model columns
    exact {
      model
      destination := fun column given => by simpa [given] using columns.1
      key := columns.2
      columns := by simpa using List.find?_eq_none.mp paths }
  · intro sound
    have destination : join.destination.all Text.isColumnPath = true := by
      cases given : join.destination with
      | none => rfl
      | some column => exact sound.destination column given
    have paths : (join.fields ++ join.exclude).find? (!Text.isColumnPath ·) = none :=
      List.find?_eq_none.mpr fun column hcolumn => by simp [sound.columns column hcolumn]
    simp [sound.model, destination, sound.key, paths]

/-- A descriptor passes exactly if it has no fault, and it makes its field with all defaults. -/
theorem ofDescriptor_eq_ok {name : String} {descriptor : FieldDescriptor} {field : Field} :
    ofDescriptor name descriptor = .ok field ↔ descriptor.IsSound name ∧ descriptor.filled name = field := by
  have sound_iff : descriptor.IsSound name ↔ Text.isBlank name = false ∧
      Text.isColumnPath (descriptor.databaseName.getD name) = true ∧
      ∀ join, descriptor.join = some join → join.IsSound :=
    ⟨fun h => ⟨h.named, h.column, h.join⟩, fun h => ⟨h.1, h.2.1, h.2.2⟩⟩
  simp only [ofDescriptor, Outcome.guard_eq_ok, sound_iff, and_assoc, Bool.not_eq_true, Bool.not_eq_false']
  refine and_congr_right fun _ => and_congr_right fun _ => ?_
  cases joins : descriptor.join with
  | none => simp [FieldDescriptor.filled, FieldDescriptor.columnOf, joins]
  | some join =>
    simp only [Outcome.bind_eq_ok, Outcome.pure_eq_ok, Option.some.injEq, forall_eq', FieldDescriptor.filled,
      FieldDescriptor.columnOf, joins]
    constructor
    · rintro ⟨⟨⟩, checked, made⟩
      exact ⟨checkJoin_eq_ok.mp checked, made⟩
    · rintro ⟨sound, made⟩
      exact ⟨(), checkJoin_eq_ok.mpr sound, made⟩

/-- What a checked field has of its descriptor. -/
theorem spec_of_ofDescriptor {name : String} {descriptor : FieldDescriptor} {field : Field}
    (h : ofDescriptor name descriptor = .ok field) :
    field.name = name ∧ field.column = descriptor.databaseName.getD name ∧
      Text.isColumnPath field.column = true := by
  obtain ⟨sound, rfl⟩ := ofDescriptor_eq_ok.mp h
  exact ⟨rfl, rfl, sound.column⟩

/-- The join of a checked field has no fault. -/
theorem isSound_join_of_ofDescriptor {name : String} {descriptor : FieldDescriptor} {field : Field}
    (h : ofDescriptor name descriptor = .ok field) {join : JoinDescriptor} (joins : field.join = some join) :
    join.IsSound := by
  obtain ⟨sound, rfl⟩ := ofDescriptor_eq_ok.mp h
  exact sound.join join joins

end Field


/-! ## Tables -/

namespace FieldTable

/-- Fields that are checked one after the other stand for their descriptors, and each has a column of its own. -/
structure Checked (taken : List String) (descriptors : List (String × FieldDescriptor)) (fields : Keyed Field) :
    Prop where
  stands : List.Forall₂ (fun d f => f.1 = d.1 ∧ Field.ofDescriptor d.1 d.2 = .ok f.2) descriptors fields
  columns : (fields.map (·.2.column)).Nodup
  free : ∀ f ∈ fields, f.2.column ∉ taken

/-- Descriptors pass one after the other exactly if none has a fault, no two give the same column, and no column is
taken; they make their fields. -/
theorem checkFields_eq_ok {taken : List String} {descriptors : List (String × FieldDescriptor)} {fields : Keyed Field} :
    checkFields taken descriptors = .ok fields ↔
      (∀ d ∈ descriptors, d.2.IsSound d.1) ∧ (descriptors.map fun d => d.2.columnOf d.1).Nodup ∧
      (∀ d ∈ descriptors, d.2.columnOf d.1 ∉ taken) ∧ descriptors.map (fun d => (d.1, d.2.filled d.1)) = fields := by
  induction descriptors generalizing taken fields with
  | nil => simp [checkFields]
  | cons d rest ih =>
    obtain ⟨name, descriptor⟩ := d
    simp only [checkFields, Outcome.bind_eq_ok, Outcome.guard_eq_ok, Outcome.pure_eq_ok, Field.ofDescriptor_eq_ok, ih]
    constructor
    · rintro ⟨_, ⟨sound, rfl⟩, untaken, _, ⟨sounds, distinct, free, rfl⟩, rfl⟩
      refine ⟨List.forall_mem_cons.mpr ⟨sound, sounds⟩, List.nodup_cons.mpr ⟨fun hmem => ?_, distinct⟩,
        List.forall_mem_cons.mpr ⟨untaken, fun d hd hmem => free d hd (List.mem_cons_of_mem _ hmem)⟩, rfl⟩
      obtain ⟨d, hd, same⟩ := List.mem_map.mp hmem
      exact free d hd (same ▸ List.mem_cons_self)
    · rintro ⟨sounds, distinct, free, rfl⟩
      obtain ⟨sound, sounds⟩ := List.forall_mem_cons.mp sounds
      obtain ⟨fresh, distinct⟩ := List.nodup_cons.mp distinct
      obtain ⟨untaken, free⟩ := List.forall_mem_cons.mp free
      refine ⟨_, ⟨sound, rfl⟩, untaken, _, ⟨sounds, distinct, fun d hd hmem => ?_, rfl⟩, rfl⟩
      rcases List.mem_cons.mp hmem with same | hmem
      · exact fresh (List.mem_map.mpr ⟨d, hd, same⟩)
      · exact free d hd hmem

/-- A table is made exactly of descriptors without faults, at least one and with distinct columns; it has their fields. -/
theorem ofDescriptors_eq_ok {descriptors : Keyed FieldDescriptor} {table : FieldTable} :
    ofDescriptors descriptors = .ok table ↔
      descriptors ≠ [] ∧ (∀ d ∈ descriptors, d.2.IsSound d.1) ∧ (descriptors.map fun d => d.2.columnOf d.1).Nodup ∧
      descriptors.map (fun d => (d.1, d.2.filled d.1)) = table.fields := by
  obtain ⟨fields⟩ := table
  simp only [ofDescriptors, Outcome.bind_eq_ok, Outcome.guard_eq_ok, Outcome.pure_eq_ok, checkFields_eq_ok,
    List.isEmpty_iff, FieldTable.mk.injEq]
  constructor
  · rintro ⟨_, ⟨sound, distinct, -, rfl⟩, some, rfl⟩
    exact ⟨fun none => some (by rw [none]; rfl), sound, distinct, rfl⟩
  · rintro ⟨some, sound, distinct, rfl⟩
    exact ⟨_, ⟨sound, distinct, by simp, rfl⟩, fun none => some (List.map_eq_nil_iff.mp none), rfl⟩

theorem checked_of_ofDescriptors {descriptors : Keyed FieldDescriptor} {table : FieldTable}
    (h : ofDescriptors descriptors = .ok table) : Checked [] descriptors table.fields := by
  obtain ⟨-, sound, distinct, fields⟩ := ofDescriptors_eq_ok.mp h
  rw [← fields]
  refine ⟨?_, by rwa [List.map_map], fun _ _ => List.not_mem_nil⟩
  rw [List.forall₂_map_right_iff]
  exact List.forall₂_same.mpr fun d hd => ⟨rfl, Field.ofDescriptor_eq_ok.mpr ⟨sound d hd, rfl⟩⟩

theorem Checked.keys_eq {taken : List String} {descriptors : List (String × FieldDescriptor)} {fields : Keyed Field}
    (h : Checked taken descriptors fields) : Keyed.keys fields = Keyed.keys descriptors := by
  have stands := h.stands
  clear h
  induction stands with
  | nil => rfl
  | cons hd _ ih => exact congrArg₂ List.cons hd.1 ih

/-- Two fields with one column are the same field. -/
theorem Checked.name_inj {taken : List String} {descriptors : List (String × FieldDescriptor)} {fields : Keyed Field}
    (h : Checked taken descriptors fields) {a b : String × Field} (ha : a ∈ fields) (hb : b ∈ fields)
    (same : a.2.column = b.2.column) : a = b :=
  List.inj_on_of_nodup_map h.columns ha hb same

theorem Checked.spec {taken : List String} {descriptors : List (String × FieldDescriptor)} {fields : Keyed Field}
    (h : Checked taken descriptors fields) {f : String × Field} (hf : f ∈ fields) :
    ∃ descriptor, (f.1, descriptor) ∈ descriptors ∧ Field.ofDescriptor f.1 descriptor = .ok f.2 := by
  obtain ⟨⟨name, descriptor⟩, hd, same, hfield⟩ := Outcome.exists_left_of_mem h.stands hf
  rw [same]
  exact ⟨descriptor, hd, hfield⟩

theorem Checked.name_eq {taken : List String} {descriptors : List (String × FieldDescriptor)} {fields : Keyed Field}
    (h : Checked taken descriptors fields) {f : String × Field} (hf : f ∈ fields) : f.2.name = f.1 := by
  obtain ⟨descriptor, -, made⟩ := h.spec hf
  exact (Field.spec_of_ofDescriptor made).1

/-- The fields of a checked table have the names under which they stand. -/
theorem Checked.map_name {taken : List String} {descriptors : List (String × FieldDescriptor)} {fields : Keyed Field}
    (h : Checked taken descriptors fields) : (Keyed.values fields).map (·.name) = Keyed.keys fields := by
  rw [Keyed.values, List.map_map]
  exact List.map_congr_left fun _ hf => h.name_eq hf

theorem mem_searchableColumns {table : FieldTable} {column : String} :
    column ∈ Clause.searchableColumns table ↔
      ∃ f ∈ table.fields, f.2.searchable = true ∧ f.2.column = column := by
  simp only [Clause.searchableColumns, toList, Keyed.values, List.mem_map, List.mem_filter]
  constructor
  · rintro ⟨_, ⟨⟨f, hf, rfl⟩, searchable⟩, rfl⟩
    exact ⟨f, hf, searchable, rfl⟩
  · rintro ⟨f, hf, searchable, rfl⟩
    exact ⟨f.2, ⟨⟨f, hf, rfl⟩, searchable⟩, rfl⟩

end FieldTable


/-! ## Tables of remotes -/

namespace RemoteDefinition

theorem checked_of_table {remote : RemoteDefinition} {table : FieldTable} (h : remote.table = .ok table) :
    FieldTable.Checked [] (remote.parameters.map fun p => (p.1, remote.descriptor p.1 p.2)) table.fields := by
  simp only [RemoteDefinition.table, Outcome.bind_eq_ok] at h
  obtain ⟨-, -, htable⟩ := h
  exact FieldTable.checked_of_ofDescriptors htable

theorem keys_of_table {remote : RemoteDefinition} {table : FieldTable} (h : remote.table = .ok table) :
    Keyed.keys table.fields = Keyed.keys remote.parameters := by
  rw [(checked_of_table h).keys_eq]
  simp [Keyed.keys]

theorem contains_table {remote : RemoteDefinition} {table : FieldTable} (h : remote.table = .ok table) {name : String} :
    table.contains name = true ↔ name ∈ Keyed.keys remote.parameters := by
  rw [FieldTable.contains, Keyed.contains_iff, keys_of_table h]

/-- A remote knows exactly its parameters, each under its own name for it. -/
theorem get?_table {remote : RemoteDefinition} {table : FieldTable} (h : remote.table = .ok table) (name : String) :
    (table.get? name).map (·.column) = Keyed.get? remote.parameters name := by
  have stands := (checked_of_table h).stands
  rw [List.forall₂_map_left_iff] at stands
  unfold FieldTable.get?
  generalize table.fields = fields at stands
  generalize remote.parameters = parameters at stands
  induction stands with
  | nil => rfl
  | @cons p f _ _ hf _ ih =>
    obtain ⟨_, field⟩ := f
    obtain ⟨rfl, hfield⟩ := hf
    obtain ⟨-, column, -⟩ := Field.spec_of_ofDescriptor hfield
    rw [Keyed.get?_cons, Keyed.get?_cons, ← ih]
    dsimp only
    split
    · exact congrArg some column
    · rfl

end RemoteDefinition

end DataGrid
