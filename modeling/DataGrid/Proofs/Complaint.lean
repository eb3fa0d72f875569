-- SUMMARY: Complaints only grow, so none at the end means none on the way.
import DataGrid.Proofs.Keyed
import DataGrid.Complaint

/-!
# Gathering complaints

Whatever is gathered step by step without taking anything back is empty at the end
exactly when no step had something to add.
-/

namespace DataGrid.Complaints

/-- Steps that never take back what they are given end with nothing exactly when each adds nothing. -/
theorem foldl_eq_nil {α β : Type} {step : List α → β → List α} (quiet : β → Prop)
    (hstep : ∀ all b, step all b = [] ↔ all = [] ∧ quiet b) (list : List β) (start : List α) :
    list.foldl step start = [] ↔ start = [] ∧ ∀ b ∈ list, quiet b := by
  induction list generalizing start with
  | nil => simp
  | cons b rest ih => simp [ih, hstep, and_assoc]

theorem append_ne_nil (complaints : Complaints) (name : String) (more : List Complaint) :
    append complaints name more ≠ [] :=
  Keyed.insert_ne_nil _ _ _

theorem add_ne_nil (complaints : Complaints) (name : String) (complaint : Complaint) :
    add complaints name complaint ≠ [] :=
  append_ne_nil _ _ _

theorem merge_eq_nil {complaints more : Complaints} : merge complaints more = [] ↔ complaints = [] ∧ more = [] := by
  unfold merge
  rw [foldl_eq_nil (fun _ => False) fun all e => by simp [append_ne_nil]]
  refine and_congr_right fun _ => ?_
  rw [List.eq_nil_iff_forall_not_mem]

/-- The names that complaints stand under, where each step brings in its own. -/
theorem mem_keys_foldl {β : Type} {step : Complaints → β → Complaints} {name : String} (brings : β → Prop)
    (hstep : ∀ all b, name ∈ Keyed.keys (step all b) ↔ name ∈ Keyed.keys all ∨ brings b) (list : List β)
    (start : Complaints) :
    name ∈ Keyed.keys (list.foldl step start) ↔ name ∈ Keyed.keys start ∨ ∃ b ∈ list, brings b := by
  induction list generalizing start with
  | nil => simp
  | cons b rest ih => simp [ih, hstep, or_assoc]

theorem mem_keys_append {complaints : Complaints} {name other : String} {more : List Complaint} :
    name ∈ Keyed.keys (append complaints other more) ↔ name ∈ Keyed.keys complaints ∨ other = name := by
  simp only [append, Keyed.mem_keys_iff]
  by_cases same : other = name
  · simp [same]
  · simp [same, Keyed.get?_insert_of_ne same]

theorem mem_keys_merge {complaints more : Complaints} {name : String} :
    name ∈ Keyed.keys (merge complaints more) ↔ name ∈ Keyed.keys complaints ∨ name ∈ Keyed.keys more := by
  unfold merge
  rw [mem_keys_foldl (fun e => e.1 = name)]
  · simp [Keyed.keys]
  · exact fun all e => mem_keys_append

end DataGrid.Complaints
