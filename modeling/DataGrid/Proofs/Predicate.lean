-- SUMMARY: What simplified conjunctions and disjunctions mean.
import DataGrid.Predicate

/-!
# Conjunctions and disjunctions

Leaving out superfluous parts changes no answer: a conjunction holds where all of
its parts hold, a disjunction where one of them does.
-/

namespace DataGrid.Predicate

theorem isAll_iff {p : Predicate} : p.isAll = true ↔ p = .all := by
  cases p <;> simp [isAll]

theorem isNothing_iff {p : Predicate} : p.isNothing = true ↔ p = .nothing := by
  cases p <;> simp [isNothing]

@[simp] theorem holds_all (row : Row) : holds .all row = true := by rw [holds]

@[simp] theorem holds_nothing (row : Row) : holds .nothing row = false := by rw [holds]

@[simp] theorem holds_oneOf_nil (column : String) (row : Row) : holds (.oneOf column []) row = false := by
  rw [holds]
  cases row.lookup column with
  | none => rfl
  | some value => cases value <;> simp [someValue]

/-- A text at a column is one of some values exactly if it stands among them. -/
theorem holds_oneOf_of_text {column s : String} {values : List Json} {row : Row}
    (held : row.lookup column = some (.str s)) : (oneOf column values).holds row = true ↔ .str s ∈ values := by
  have same (value : Json) : (Json.str s).looselyEqual value = true ↔ value = .str s := by
    cases value with
    | str t => simpa [Json.looselyEqual, Json.same] using eq_comm
    | _ => simp [Json.looselyEqual, Json.same]
  rw [holds, held]
  simp only [someValue, List.any_eq_true, same]
  simp

/-- The whole tree of parts, whatever its size, holds where all parts hold. -/
private theorem holds_gather_and (parts : List Predicate) (row : Row) :
    holds (match parts with | [] => .all | [part] => part | parts => .and parts) row = parts.all (holds · row) := by
  match parts with
  | [] => simp
  | [part] => simp
  | p :: q :: rest => simp [holds]

private theorem holds_gather_or (parts : List Predicate) (row : Row) :
    holds (match parts with | [] => .nothing | [part] => part | parts => .or parts) row = parts.any (holds · row) := by
  match parts with
  | [] => simp
  | [part] => simp
  | p :: q :: rest => simp [holds]

/-- A conjunction holds where all of its parts hold. -/
theorem holds_conjunction (parts : List Predicate) (row : Row) :
    (conjunction parts).holds row = parts.all (holds · row) := by
  have hfilter : (parts.filter (!·.isAll)).all (holds · row) = parts.all (holds · row) := by
    rw [List.all_filter, Bool.eq_iff_iff, List.all_eq_true, List.all_eq_true]
    refine forall₂_congr fun p _ => ?_
    cases p <;> simp [isAll]
  rw [← hfilter]
  simp only [conjunction]
  split
  · next found =>
    obtain ⟨p, hp, hnothing⟩ := List.any_eq_true.mp found
    rw [isNothing_iff] at hnothing
    subst hnothing
    rw [holds_nothing, eq_comm, List.all_eq_false]
    exact ⟨.nothing, hp, by simp⟩
  · exact holds_gather_and _ row

/-- A disjunction holds where one of its parts holds. -/
theorem holds_disjunction (parts : List Predicate) (row : Row) :
    (disjunction parts).holds row = parts.any (holds · row) := by
  have hfilter : (parts.filter (!·.isNothing)).any (holds · row) = parts.any (holds · row) := by
    rw [List.any_filter, Bool.eq_iff_iff, List.any_eq_true, List.any_eq_true]
    refine exists_congr fun p => ?_
    cases p <;> simp [isNothing]
  rw [← hfilter]
  simp only [disjunction]
  split
  · next found =>
    obtain ⟨p, hp, hall⟩ := List.any_eq_true.mp found
    rw [isAll_iff] at hall
    subst hall
    rw [holds_all, eq_comm, List.any_eq_true]
    exact ⟨.all, hp, by simp⟩
  · exact holds_gather_or _ row

/-- A conjunction lets every row through as it stands only if there is nothing in it. -/
theorem conjunction_eq_all_iff {parts : List Predicate} : conjunction parts = .all ↔ ∀ p ∈ parts, p = .all := by
  have left : parts.filter (!·.isAll) = [] ↔ ∀ p ∈ parts, p = .all := by
    simp only [List.filter_eq_nil_iff, Bool.not_eq_true', Bool.not_eq_false, isAll_iff]
  rw [← left]
  unfold conjunction
  generalize hkept : parts.filter (!·.isAll) = kept
  have real : ∀ p ∈ kept, p ≠ .all := by
    intro p hp all
    rw [← hkept, List.mem_filter, isAll_iff.mpr all] at hp
    exact Bool.false_ne_true hp.2
  dsimp only
  split
  · next found =>
    refine iff_of_false nofun ?_
    rintro rfl
    exact Bool.false_ne_true found
  · match kept with
    | [] => simp
    | [part] => exact iff_of_false (real part List.mem_cons_self) (List.cons_ne_nil _ _)
    | p :: q :: rest => exact iff_of_false nofun (List.cons_ne_nil _ _)

/-- A disjunction lets every row through as it stands only if one of its parts does. -/
theorem disjunction_eq_all_iff {parts : List Predicate} : disjunction parts = .all ↔ .all ∈ parts := by
  have kept : (parts.filter (!·.isNothing)).any isAll = true ↔ .all ∈ parts := by
    simp only [List.any_eq_true, isAll_iff, exists_eq_right, List.mem_filter]
    exact and_iff_left rfl
  rw [← kept]
  unfold disjunction
  dsimp only
  split
  · next found => exact iff_of_true rfl found
  · next unfound =>
    refine iff_of_false (fun all => unfound ?_) unfound
    split at all
    · cases all
    · next part single => rw [single, all]; rfl
    · cases all

end DataGrid.Predicate
