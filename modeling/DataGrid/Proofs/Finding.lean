-- SUMMARY: Finding in memory shows a window of the matching rows, sorted stably.
import DataGrid.Proofs.SortOrder
import DataGrid.Store.Memory
import Mathlib.Data.List.Pairwise

/-!
# Finding rows in memory

A stable sort puts rows in order and leaves those that the order does not tell apart
as they stood towards each other. Under a total preorder there is just one for each
list of rows. Finding shows the rows that satisfy a predicate by their places in this
one list, so that any page of any size shows what the list holds there, and counting
gives the length of the list.
-/

namespace DataGrid

/-! ## Stable sorting -/

/-- A list of the same elements as another one, in order, with those that the order does not tell apart as they stood. -/
structure StableSort {α : Type} (cmp : α → α → Ordering) (rows sorted : List α) : Prop where
  perm : sorted.Perm rows
  ordered : sorted.Pairwise fun a b => cmp a b ≠ .gt
  ties : ∀ a, sorted.filter (cmp a · = .eq) = rows.filter (cmp a · = .eq)

namespace StableSort

variable {α : Type} {cmp : α → α → Ordering} [Std.TransCmp cmp]

/-- Merge sort is stable. -/
theorem mergeSort (rows : List α) : StableSort cmp rows (rows.mergeSort fun a b => (cmp a b).isLE) := by
  have trans (a b c : α) (hab : (cmp a b).isLE = true) (hbc : (cmp b c).isLE = true) : (cmp a c).isLE = true :=
    Std.TransCmp.isLE_trans hab hbc
  have total (a b : α) : ((cmp a b).isLE || (cmp b a).isLE) = true := by
    have swap : cmp b a = (cmp a b).swap := Std.OrientedCmp.eq_swap
    rw [swap]
    cases cmp a b <;> rfl
  have perm := List.mergeSort_perm rows fun a b => (cmp a b).isLE
  refine ⟨perm, ?_, fun a => ?_⟩
  · refine (List.pairwise_mergeSort trans total rows).imp fun h => ?_
    exact Ordering.isLE_iff_ne_gt.mp h
  · -- the equals of an element are in order as they stand, so sorting keeps them as a sublist
    have alike : (rows.filter (cmp a · = .eq)).Pairwise fun b c => (cmp b c).isLE = true := by
      refine List.pairwise_of_forall_mem_list fun b hb c hc => ?_
      have hab := of_decide_eq_true (List.mem_filter.mp hb).2
      have hac := of_decide_eq_true (List.mem_filter.mp hc).2
      rw [← Std.TransCmp.congr_left hab, hac]
      rfl
    have kept := (List.sublist_mergeSort trans total alike List.filter_sublist).filter (cmp a · = .eq)
    rw [List.filter_filter] at kept
    simp only [Bool.and_self] at kept
    exact (kept.eq_of_length (perm.filter _).length_eq.symm).symm

/-- Lists in order with the same ties are the same. -/
theorem eq_of_ties {sorted sorted' : List α} (ordered : sorted.Pairwise fun a b => cmp a b ≠ .gt)
    (ordered' : sorted'.Pairwise fun a b => cmp a b ≠ .gt)
    (ties : ∀ a, sorted.filter (cmp a · = .eq) = sorted'.filter (cmp a · = .eq)) : sorted = sorted' := by
  have self (a : α) : cmp a a = .eq := Std.ReflCmp.compare_self
  have member {a : α} {list list' : List α} (same : list.filter (cmp a · = .eq) = list'.filter (cmp a · = .eq))
      (h : a ∈ list) : a ∈ list' := by
    have tied : a ∈ list'.filter (cmp a · = .eq) := same ▸ List.mem_filter.mpr ⟨h, decide_eq_true (self a)⟩
    exact (List.mem_filter.mp tied).1
  have first {a b : α} {rest : List α} (ordered : (a :: rest).Pairwise fun a b => cmp a b ≠ .gt) (h : b ∈ a :: rest) :
      (cmp a b).isLE = true := by
    rcases List.mem_cons.mp h with rfl | later
    · rw [self]
      rfl
    · exact Ordering.isLE_iff_ne_gt.mpr (List.rel_of_pairwise_cons ordered later)
  induction sorted generalizing sorted' with
  | nil =>
    cases sorted' with
    | nil => rfl
    | cons b rest' => exact absurd (member (ties b).symm List.mem_cons_self) List.not_mem_nil
  | cons a rest ih =>
    cases sorted' with
    | nil => exact absurd (member (ties a) List.mem_cons_self) List.not_mem_nil
    | cons b rest' =>
      -- the two heads are before each other, so they are tied, and of their ties each is the first
      have tied : cmp a b = .eq := by
        apply Std.OrientedCmp.isLE_antisymm
        · exact first ordered (member (ties b).symm List.mem_cons_self)
        · exact first ordered' (member (ties a) List.mem_cons_self)
      obtain rfl : a = b := by
        have heads := ties a
        simp only [List.filter_cons, self, tied, decide_true, if_true] at heads
        exact (List.cons.inj heads).1
      refine congrArg (a :: ·) (ih ordered.of_cons ordered'.of_cons fun c => ?_)
      have same := ties c
      rw [List.filter_cons, List.filter_cons] at same
      split at same
      · exact (List.cons.inj same).2
      · exact same

/-- There is only one stable sort of a list. -/
theorem unique {rows sorted sorted' : List α} (h : StableSort cmp rows sorted) (h' : StableSort cmp rows sorted') :
    sorted = sorted' :=
  eq_of_ties h.ordered h'.ordered fun a => (h.ties a).trans (h'.ties a).symm

end StableSort

namespace Selection

theorem getElem?_window {α : Type} (skip : Nat) (limit : Option Nat) (rows : List α) (i : Nat) :
    (window skip limit rows)[i]? = if limit.all (i < ·) then rows[skip + i]? else none := by
  cases limit with
  | none => simp [window]
  | some limit => simp [window, List.getElem?_take]

end Selection

namespace MemoryStore

/-- Finding shows, place by place, a window of a list that does not depend on the window: the one stable sort of the rows
that satisfy the predicate, which without sort keys stand as they were inserted. A row is shown with the columns that are
asked for, and the length of the list is what counting gives. -/
theorem find_shows_window (store : MemoryStore) (collection : String) (selection : Selection) :
    ∃ sorted,
      StableSort (Row.order selection.sort) ((store.rows collection).filter selection.predicate.holds) sorted ∧
      (∀ other, StableSort (Row.order selection.sort) ((store.rows collection).filter selection.predicate.holds) other →
        other = sorted) ∧
      (selection.sort = [] → sorted = (store.rows collection).filter selection.predicate.holds) ∧
      (∀ i, (store.find collection selection)[i]? =
        if selection.limit.all (i < ·) then
          sorted[selection.skip + i]?.map fun row => selection.projection.elim row row.project
        else none) ∧
      store.count collection selection.predicate = sorted.length := by
  have stable : StableSort (Row.order selection.sort) _ _ :=
    StableSort.mergeSort (store.matching collection selection.predicate)
  refine ⟨_, stable, fun other h => h.unique stable, fun unsorted => ?_, fun i => ?_, stable.perm.length_eq.symm⟩
  · -- without keys all rows are ties
    have ties (rows : List Row) : rows.filter (Row.order selection.sort [] · = .eq) = rows := by
      rw [unsorted]
      exact List.filter_eq_self.mpr fun _ _ => rfl
    have same := stable.ties []
    rwa [ties, ties] at same
  · have shape : selection.shape = fun row => selection.projection.elim row row.project := by
      funext row
      rw [Selection.shape]
      cases selection.projection <;> rfl
    rw [find, List.getElem?_map, Selection.getElem?_window, shape]
    split <;> rfl

end MemoryStore

end DataGrid
