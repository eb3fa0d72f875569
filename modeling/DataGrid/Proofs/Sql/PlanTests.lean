-- SUMMARY: The tests of a plan are on columns of its table and of its constraints.
import DataGrid.Proofs.FieldTable
import DataGrid.Proofs.QueryPlan
import DataGrid.Proofs.Sql.Tests

/-!
# The tests of a plan

Simplifying conjunctions and disjunctions adds no test. So the predicate of a plan
tests columns of its criteria only: those are columns of the field table, or come
from constraints found elsewhere.
-/

namespace DataGrid

/-! ## Predicates -/

namespace Predicate

/-- The whole tree of parts, whatever its size, has the tests of its parts. -/
private theorem tests_gather_and (parts : List Predicate) :
    tests (match parts with | [] => .all | [part] => part | parts => .and parts) = testsOf parts := by
  match parts with
  | [] => rfl
  | [part] => exact (List.append_nil _).symm
  | p :: q :: rest => rfl

private theorem tests_gather_or (parts : List Predicate) :
    tests (match parts with | [] => .nothing | [part] => part | parts => .or parts) = testsOf parts := by
  match parts with
  | [] => rfl
  | [part] => exact (List.append_nil _).symm
  | p :: q :: rest => rfl

theorem mem_tests_conjunction {t : String × Test} {parts : List Predicate} (h : t ∈ (conjunction parts).tests) :
    ∃ p ∈ parts, t ∈ p.tests := by
  simp only [conjunction] at h
  split at h
  · cases h
  · have part : t ∈ testsOf (parts.filter (!·.isAll)) := by
      rw [← tests_gather_and]
      exact h
    obtain ⟨p, hp, ht⟩ := mem_testsOf.mp part
    exact ⟨p, List.mem_of_mem_filter hp, ht⟩

theorem mem_tests_disjunction {t : String × Test} {parts : List Predicate} (h : t ∈ (disjunction parts).tests) :
    ∃ p ∈ parts, t ∈ p.tests := by
  simp only [disjunction] at h
  split at h
  · cases h
  · have part : t ∈ testsOf (parts.filter (!·.isNothing)) := by
      rw [← tests_gather_or]
      exact h
    obtain ⟨p, hp, ht⟩ := mem_testsOf.mp part
    exact ⟨p, List.mem_of_mem_filter hp, ht⟩

end Predicate


/-! ## Criteria -/

namespace Criteria

/-- The columns that the rows are restricted by. -/
def columns (c : Criteria) : List String :=
  Keyed.keys c.query ++ Keyed.keys c.queryKeys ++ Keyed.keys c.search ++ Keyed.keys c.filters ++ Keyed.keys c.range

theorem mem_tests_predicate {c : Criteria} {t : String × Test} (h : t ∈ c.predicate.tests) : t.1 ∈ c.columns := by
  obtain ⟨p, hp, ht⟩ := Predicate.mem_tests_conjunction h
  simp only [parts, List.mem_append, List.mem_map] at hp
  simp only [columns, List.mem_append, Keyed.keys, List.mem_map]
  rcases hp with ((text | ⟨e, he, rfl⟩) | ⟨e, he, rfl⟩) | ⟨e, he, rfl⟩
  · have places : p = .disjunction c.alternatives := by
      split at text
      · exact List.mem_singleton.mp text
      · cases text
    obtain ⟨q, hq, ht⟩ := Predicate.mem_tests_disjunction (places ▸ ht)
    rw [alternatives, List.mem_append, List.mem_map, List.mem_map] at hq
    rcases hq with ⟨e, he, rfl⟩ | ⟨e, he, rfl⟩
    · obtain rfl := List.mem_singleton.mp ht
      exact .inl (.inl (.inl (.inl ⟨e, he, rfl⟩)))
    · obtain rfl := List.mem_singleton.mp ht
      exact .inl (.inl (.inl (.inr ⟨e, he, rfl⟩)))
  · have column : t.1 = e.1 := by
      unfold termPredicate at ht
      split at ht
      · rw [List.mem_singleton.mp ht]
      · rw [List.mem_singleton.mp ht]
    exact .inl (.inl (.inr ⟨e, he, column.symm⟩))
  · obtain rfl := List.mem_singleton.mp ht
    exact .inl (.inr ⟨e, he, rfl⟩)
  · obtain rfl := List.mem_singleton.mp ht
    exact .inr ⟨e, he, rfl⟩

end Criteria


/-! ## Plans -/

namespace QueryPlan

/-- Add constraints found elsewhere, one pair after the other. -/
def constrainAll (plan : QueryPlan) (constraints : List (Option Constraint × Option Constraint)) : QueryPlan :=
  constraints.foldl (fun plan c => plan.constrain c.1 c.2) plan

/-- A fragment of a plan without complaints is on the column of a field that grants its kind, and comes from a value that
suits the kind. -/
theorem Covers.exists_granting {table : FieldTable} {request : Request} {plan : QueryPlan}
    (covers : Covers table request plan) {kind : Capability} (hkind : kind ≠ .display) {f : String × Fragment}
    (h : f ∈ plan.criteria.fragments kind) :
    ∃ field ∈ table.fields, field.2.column = f.1 ∧ field.2.grants kind = true ∧
      ∃ value, Fragment.ofValue? kind value = some f.2 := by
  rw [covers.fragments_eq kind hkind] at h
  obtain ⟨entry, -, accepted⟩ := List.mem_filterMap.mp h
  obtain ⟨-, field, found, grants, column, suits⟩ := Clause.accepted?_eq_some.mp accepted
  exact ⟨(entry.1, field), Keyed.mem_of_get?_eq_some found, column, grants, _, suits⟩

private theorem Covers.mem_table_of_fragment {table : FieldTable} {request : Request} {plan : QueryPlan}
    (covers : Covers table request plan) {kind : Capability} (hkind : kind ≠ .display) {f : String × Fragment}
    (h : f ∈ plan.criteria.fragments kind) : ∃ field ∈ table.fields, field.2.column = f.1 := by
  obtain ⟨field, hfield, column, -⟩ := covers.exists_granting hkind h
  exact ⟨field, hfield, column⟩

/-- A plan without complaints restricts rows by columns of its table. -/
theorem Covers.mem_table {table : FieldTable} {request : Request} {plan : QueryPlan} (covers : Covers table request plan)
    {column : String} (h : column ∈ plan.criteria.columns) : ∃ f ∈ table.fields, f.2.column = column := by
  simp only [Criteria.columns, List.mem_append, Keyed.keys, List.mem_map, covers.queryKeys_eq, List.not_mem_nil,
    false_and, exists_false, or_false] at h
  rcases h with ((h | h) | h) | h
  · obtain ⟨place, hplace, rfl⟩ := h
    rw [covers.query_eq, List.mem_flatMap] at hplace
    obtain ⟨text, -, hplace⟩ := hplace
    obtain ⟨searchable, hsearchable, rfl⟩ := List.mem_map.mp hplace
    obtain ⟨f, hf, -, column⟩ := FieldTable.mem_searchableColumns.mp hsearchable
    exact ⟨f, hf, column⟩
  · obtain ⟨e, he, rfl⟩ := h
    exact covers.mem_table_of_fragment (show Capability.search ≠ .display by decide)
      (List.mem_map.mpr ⟨e, he, rfl⟩ : (e.1, Fragment.term e.2) ∈ _)
  · obtain ⟨e, he, rfl⟩ := h
    exact covers.mem_table_of_fragment (show Capability.filter ≠ .display by decide)
      (List.mem_map.mpr ⟨e, he, rfl⟩ : (e.1, Fragment.among e.2) ∈ _)
  · obtain ⟨e, he, rfl⟩ := h
    exact covers.mem_table_of_fragment (show Capability.range ≠ .display by decide)
      (List.mem_map.mpr ⟨e, he, rfl⟩ : (e.1, Fragment.within e.2) ∈ _)

/-- A plan without complaints sorts by columns of its table. -/
theorem Covers.mem_table_of_sort {table : FieldTable} {request : Request} {plan : QueryPlan}
    (covers : Covers table request plan) {key : SortKey} (h : key ∈ plan.sortKeys) :
    ∃ f ∈ table.fields, f.2.column = key.column := by
  obtain ⟨e, he, rfl⟩ := List.mem_map.mp h
  exact covers.mem_table_of_fragment (show Capability.sort ≠ .display by decide)
    (List.mem_map.mpr ⟨e, he, rfl⟩ : (e.1, Fragment.sorted e.2) ∈ _)

theorem mem_columns_constrain {plan : QueryPlan} {filter query : Option Constraint} {column : String}
    (h : column ∈ (plan.constrain filter query).criteria.columns) :
    column ∈ plan.criteria.columns ∨ ∃ k ∈ filter.toList ++ query.toList, k.column = column := by
  cases filter <;> cases query <;>
    simp [constrain, Criteria.columns, Keyed.keys] at h ⊢ <;> grind

/-- Constraints restrict rows by their own columns besides. -/
theorem mem_columns_constrainAll {plan : QueryPlan} {constraints : List (Option Constraint × Option Constraint)}
    {column : String} (h : column ∈ (plan.constrainAll constraints).criteria.columns) :
    column ∈ plan.criteria.columns ∨ ∃ c ∈ constraints, ∃ k ∈ c.1.toList ++ c.2.toList, k.column = column := by
  induction constraints generalizing plan with
  | nil => exact .inl h
  | cons c rest ih =>
    rcases ih h with first | ⟨d, hd, later⟩
    · rcases mem_columns_constrain first with held | own
      · exact .inl held
      · exact .inr ⟨c, List.mem_cons_self, own⟩
    · exact .inr ⟨d, List.mem_cons_of_mem _ hd, later⟩

/-- The tests of a plan on a checked table, constrained by keys of column paths, are on column paths. -/
theorem isColumnPath_of_mem_tests {descriptors : Keyed FieldDescriptor} {table : FieldTable}
    (checked : FieldTable.ofDescriptors descriptors = .ok table) {request : Request}
    (quiet : (ofRequest table request).complaints = []) {constraints : List (Option Constraint × Option Constraint)}
    (paths : ∀ c ∈ constraints, ∀ k ∈ c.1.toList ++ c.2.toList, Text.isColumnPath k.column = true)
    {t : String × Test} (h : t ∈ ((ofRequest table request).constrainAll constraints).predicate.tests) :
    Text.isColumnPath t.1 = true := by
  rcases mem_columns_constrainAll (Criteria.mem_tests_predicate h) with own | ⟨c, hc, k, hk, column⟩
  · obtain ⟨f, hf, column⟩ := (covers_of_complaints_eq_nil quiet).mem_table own
    obtain ⟨descriptor, -, hfield⟩ := (FieldTable.checked_of_ofDescriptors checked).spec hf
    rw [← column]
    exact (Field.spec_of_ofDescriptor hfield).2.2
  · rw [← column]
    exact paths c hc k hk

end QueryPlan

end DataGrid
