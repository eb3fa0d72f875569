-- SUMMARY: Which authored fields make a table, and that its projection has every shown field.
import DataGrid.Proofs.Projection

/-!
# Authored fields

Authored fields make a table exactly if there are some, none has a fault, and no two have
one column. So nothing gets into the way of a pair when the table is projected: the
projection has each shown field with its column, and is read in both directions.
-/

namespace DataGrid.FieldTable

/-- The shown fields of authored ones: those for which this is not denied. -/
theorem shown_of_ofDescriptors {descriptors : Keyed FieldDescriptor} {table : FieldTable}
    (h : ofDescriptors descriptors = .ok table) :
    table.shown = (descriptors.filter (·.2.shown ≠ some false)).map fun d => d.2.filled d.1 := by
  obtain ⟨-, -, -, fields⟩ := ofDescriptors_eq_ok.mp h
  have shown (descriptor : FieldDescriptor) (name : String) :
      (descriptor.filled name).shown = decide (descriptor.shown ≠ some false) := by
    unfold FieldDescriptor.filled
    cases descriptor.shown with
    | none => rfl
    | some shown => cases shown <;> rfl
  rw [FieldTable.shown, toList, ← fields, Keyed.values, List.map_map, List.filter_map]
  simp only [Function.comp_def, shown]

/-- Authored fields make a table exactly if there is one at least, each has a name that is not blank, a column path for its
column and no fault in its join, and all columns are distinct. Then the table projects exactly the fields for which being
shown is not denied, in the order of their names and each to its column; a pair is found from either side. -/
theorem ofDescriptors_exact {descriptors : Keyed FieldDescriptor} (keyed : descriptors.Ascending) :
    ((∃ table, ofDescriptors descriptors = .ok table) ↔
      descriptors ≠ [] ∧ (∀ d ∈ descriptors, d.2.IsSound d.1) ∧
        (descriptors.map fun d => d.2.columnOf d.1).Nodup) ∧
    ∀ table, ofDescriptors descriptors = .ok table →
      table.projection.pairs =
        (descriptors.filter (·.2.shown ≠ some false)).map (fun d => (d.1, d.2.columnOf d.1)) ∧
      table.projection.pairs.Ascending ∧
      ∀ field column,
        (table.projection.column? field = some column ↔ (field, column) ∈ table.projection.pairs) ∧
        (table.projection.field? column = some field ↔ (field, column) ∈ table.projection.pairs) := by
  constructor
  · constructor
    · rintro ⟨table, made⟩
      obtain ⟨some, sound, distinct, -⟩ := ofDescriptors_eq_ok.mp made
      exact ⟨some, sound, distinct⟩
    · rintro ⟨some, sound, distinct⟩
      exact ⟨⟨_⟩, ofDescriptors_eq_ok.mpr ⟨some, sound, distinct, rfl⟩⟩
  · intro table made
    obtain ⟨-, -, distinct, -⟩ := ofDescriptors_eq_ok.mp made
    have pairs : table.projection.pairs =
        (descriptors.filter (·.2.shown ≠ some false)).map fun d => (d.1, d.2.columnOf d.1) := by
      rw [projection, shown_of_ofDescriptors made, List.map_map]
      refine Projection.pairs_ofPairs ?_ ?_
      · exact List.pairwise_map.mpr (keyed.sublist List.filter_sublist)
      · rw [Keyed.values, List.map_map]
        exact distinct.sublist (List.filter_sublist.map _)
    refine ⟨pairs, isKeyed_projection, fun field column => ⟨?_, ?_⟩⟩
    · exact Keyed.get?_eq_some_iff (Keyed.Ascending.nodup_keys isKeyed_projection)
    · exact Projection.field?_eq_some_iff (Projection.nodup_columns_ofPairs _)

namespace Towns

/-- A town under a column of its own, its mayor from another collection, and a note that is not shown. -/
def descriptors : Keyed FieldDescriptor :=
  [("mayor", { FieldDescriptor.empty with
      databaseName := some "mayor_id", shown := some true,
      join := some ⟨"people", some "mayor", ["name"], ["token"], none⟩ }),
   ("note", { FieldDescriptor.empty with shown := some false }),
   ("town", { FieldDescriptor.empty with databaseName := some "address.town" })]

end Towns

theorem ofDescriptors_exact_towns :
    Towns.descriptors.Ascending ∧ (∀ d ∈ Towns.descriptors, d.2.IsSound d.1) ∧
      ∃ table, ofDescriptors Towns.descriptors = .ok table ∧
        table.projection.pairs = [("mayor", "mayor_id"), ("town", "address.town")] ∧
        table.projection.column? "town" = some "address.town" ∧
        table.projection.field? "address.town" = some "town" := by
  have keyed : Towns.descriptors.Ascending := by decide
  obtain ⟨accepted, projected⟩ := ofDescriptors_exact keyed
  have made : ∃ table, ofDescriptors Towns.descriptors = .ok table := ⟨_, rfl⟩
  refine ⟨keyed, (accepted.mp made).2.1, ?_⟩
  obtain ⟨table, made⟩ := made
  obtain ⟨pairs, -, found⟩ := projected table made
  have shown : table.projection.pairs = [("mayor", "mayor_id"), ("town", "address.town")] := pairs.trans (by decide)
  have paired : ("town", "address.town") ∈ table.projection.pairs := by
    rw [shown]
    decide
  exact ⟨table, made, shown, (found _ _).1.mpr paired, (found _ _).2.mpr paired⟩

end DataGrid.FieldTable
