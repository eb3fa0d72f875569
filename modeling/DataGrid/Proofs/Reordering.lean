-- SUMMARY: Steps, merges and pairings in another order.
import Mathlib.Data.List.Pairwise
import Mathlib.Data.List.Perm.Basic
import DataGrid.Proofs.Columns
import DataGrid.Proofs.Merging
import DataGrid.Proofs.Projection

/-!
# Other orders

Steps that do not mind each other can be taken in any order. Records of two remotes are
merged in either order if no key of the one is a key of the other and neither changes what
the other is joined by. Names are paired with themselves in any order.
-/

namespace DataGrid

/-! ## Steps -/

section

variable {α β : Type} {f : β → α → β} {list list' : List α}

/-- Steps that pairwise do not mind each other can be taken in any order. -/
theorem foldl_eq_of_perm (perm : list.Perm list')
    (comm : list.Pairwise fun a b => ∀ state, f (f state a) b = f (f state b) a) (start : β) :
    list.foldl f start = list'.foldl f start := by
  have symmetric : Std.Symm fun a b => ∀ state, f (f state a) b = f (f state b) a :=
    ⟨fun _ _ h state => (h state).symm⟩
  refine perm.foldl_eq' (fun a ha b hb => ?_) start
  exact comm.forall_of_forall (fun _ _ _ => rfl) ha hb

/-- Two runs of steps can be taken in either order if no step of the one minds a step of the other. -/
theorem foldl_foldl_comm (comm : ∀ a ∈ list, ∀ b ∈ list', ∀ state, f (f state a) b = f (f state b) a) (start : β) :
    list'.foldl f (list.foldl f start) = list.foldl f (list'.foldl f start) := by
  induction list generalizing start with
  | nil => rfl
  | cons a rest ih =>
    obtain ⟨here, later⟩ := List.forall_mem_cons.mp comm
    have past (start : β) : list'.foldl f (f start a) = f (list'.foldl f start) a := by
      clear ih later comm
      induction list' generalizing start with
      | nil => rfl
      | cons b rest' ih =>
        obtain ⟨first, others⟩ := List.forall_mem_cons.mp here
        rw [List.foldl_cons, first, ih others, List.foldl_cons]
    rw [List.foldl_cons, ih later, past, List.foldl_cons]

end

namespace Keyed

variable {α : Type}

/-- Put a value under a key that is new. -/
def insertNew (all : Keyed α) (entry : String × α) : Keyed α :=
  if contains all entry.1 then all else Keyed.insert all entry.1 entry.2

theorem contains_insertNew {entry : String × α} {key : String} (other : entry.1 ≠ key) (all : Keyed α) :
    contains (insertNew all entry) key = contains all key := by
  unfold insertNew
  split
  · rfl
  · rw [contains, contains, get?_insert_of_ne other]

theorem insertNew_comm (all : Keyed α) {a b : String × α} (other : a.1 ≠ b.1) :
    insertNew (insertNew all a) b = insertNew (insertNew all b) a := by
  rw [insertNew, contains_insertNew other, insertNew.eq_def (insertNew all b), contains_insertNew (Ne.symm other)]
  unfold insertNew
  split_ifs
  · rfl
  · rfl
  · rfl
  · rw [insert_comm all other]

end Keyed


/-! ## Merged records -/

namespace Row

/-- A key that a record does not have can be written before the record is merged, or after it. -/
theorem mergeInto_insert {source : Row} {key : String} (absent : key ∉ Keyed.keys source) (target : Row) (value : Json) :
    mergeInto source (Keyed.insert target key value) = Keyed.insert (mergeInto source target) key value := by
  induction source generalizing target with
  | nil => rfl
  | cons e rest ih =>
    obtain ⟨k, v⟩ := e
    obtain ⟨other, absent⟩ := not_or.mp (mt List.mem_cons.mpr absent)
    rw [mergeInto, mergeInto, Keyed.get?_insert_of_ne other, Keyed.insert_comm target other, ih absent]

theorem get?_mergeInto_of_not_mem {source : Row} {key : String} (absent : key ∉ Keyed.keys source) (target : Row) :
    Keyed.get? (mergeInto source target) key = Keyed.get? target key := by
  induction source generalizing target with
  | nil => rfl
  | cons e rest ih =>
    obtain ⟨k, v⟩ := e
    obtain ⟨other, absent⟩ := not_or.mp (mt List.mem_cons.mpr absent)
    rw [mergeInto, ih absent, Keyed.get?_insert_of_ne (Ne.symm other)]

/-- Two records without a common key can be merged in either order. -/
theorem mergeInto_comm {a b : Row} (disjoint : ∀ key ∈ Keyed.keys a, key ∉ Keyed.keys b) (row : Row) :
    mergeInto a (mergeInto b row) = mergeInto b (mergeInto a row) := by
  induction a generalizing row with
  | nil => rfl
  | cons e rest ih =>
    obtain ⟨k, v⟩ := e
    obtain ⟨here, later⟩ := List.forall_mem_cons.mp disjoint
    rw [mergeInto, mergeInto, get?_mergeInto_of_not_mem here, ← mergeInto_insert here, ih later]

end Row

namespace MergeData

/-- Records without common keys are merged in either order, if neither merge changes what the other goes by. -/
theorem mergeRow_comm {a b : MergeData} {join join' : String}
    (disjoint : ∀ r ∈ Keyed.values a, ∀ s ∈ Keyed.values b, ∀ key ∈ Keyed.keys r, key ∉ Keyed.keys s)
    (keeps : ∀ row, (mergeRow a join row).lookup join' = row.lookup join')
    (keeps' : ∀ row, (mergeRow b join' row).lookup join = row.lookup join) (row : Row) :
    mergeRow a join (mergeRow b join' row) = mergeRow b join' (mergeRow a join row) := by
  have before := keeps row
  have before' := keeps' row
  rw [mergeRow_eq a join (mergeRow b join' row), mergeRow_eq b join' (mergeRow a join row), before, before',
    mergeRow_eq a, mergeRow_eq b]
  refine Row.mergeInto_comm (fun key ha hb => ?_) row
  obtain ⟨r, hr, ha⟩ := exists_record_of_mem_brought ha
  obtain ⟨s, hs, hb⟩ := exists_record_of_mem_brought hb
  exact disjoint r hr s hs key ha hb

/-! ### Sharpness -/

/-- Some row holds a value at two columns. -/
private theorem exists_row_holding {c d : String} (joint : c = d ∨ Row.Apart (Text.segments c) (Text.segments d))
    (value : Json) : ∃ row : Row, row.lookup c = some value ∧ row.lookup d = some value := by
  have first := Row.lookup_insert_self [] c value
  rcases joint with rfl | apart
  · exact ⟨_, first, first⟩
  · refine ⟨Row.insert (Row.insert [] c value) d value, ?_, Row.lookup_insert_self _ d value⟩
    rw [Row.lookup, Row.insert, Row.at?_insertAt_of_apart _ apart.symm]
    exact first

/-- Where two names have their first key in common, the order in which their records are merged is told by a row that joins
by lists: the list that is merged later takes the place of the one before. -/
theorem exists_mergeRow_ne {join join' name name' key : String} (first : (Text.segments name).head? = some key)
    (first' : (Text.segments name').head? = some key) (other : (Text.segments join).head? ≠ some key)
    (other' : (Text.segments join').head? ≠ some key)
    (joint : join = join' ∨ Row.Apart (Text.segments join) (Text.segments join')) :
    ∃ (text text' : String) (row : Row),
      mergeRow [(text, Row.insert [] name .null)] join (mergeRow [(text', Row.insert [] name' .null)] join' row) ≠
        mergeRow [(text', Row.insert [] name' .null)] join' (mergeRow [(text, Row.insert [] name .null)] join row) := by
  obtain ⟨member, hrecord⟩ := exists_insert_eq first .null
  obtain ⟨member', hrecord'⟩ := exists_insert_eq first' .null
  rw [hrecord, hrecord']
  -- The row joins one record twice and the other one once, so the lists are told apart by their lengths.
  obtain ⟨row, joins, joins'⟩ := exists_row_holding joint (.arr [.str "a", .str "a", .str "b"])
  have keeps {column : String} (other : (Text.segments column).head? ≠ some key) (row : Row) (value : Json) :
      Row.lookup (Keyed.insert row key value) column = row.lookup column := by
    have apart : Row.Apart [key] (Text.segments column) :=
      Row.apart_of_head?_ne (by simp) (Text.segments_ne_nil column) (Ne.symm other)
    exact Row.at?_insertAt_of_apart row apart value
  have twice {row : Row} (joins : row.lookup join = some (.arr [.str "a", .str "a", .str "b"])) :
      mergeRow [("a", [(key, member)])] join row = Keyed.insert row key (.arr [member, member]) := by
    rw [mergeRow_eq, joins]
    simp [brought, gather, push, find?, Json.keyText, Keyed.get?, Keyed.insert, Row.mergeInto, Row.mergeValue]
  have once {row : Row} (joins : row.lookup join' = some (.arr [.str "a", .str "a", .str "b"])) :
      mergeRow [("b", [(key, member')])] join' row = Keyed.insert row key (.arr [member']) := by
    rw [mergeRow_eq, joins]
    simp [brought, gather, push, find?, Json.keyText, Keyed.get?, Keyed.insert, Row.mergeInto, Row.mergeValue]
  refine ⟨"a", "b", row, fun same => ?_⟩
  rw [twice joins, once joins', twice ((keeps other _ _).trans joins), once ((keeps other' _ _).trans joins'),
    Keyed.insert_insert, Keyed.insert_insert] at same
  have lists := congrArg (Keyed.get? · key) same
  simp at lists

end MergeData


/-! ## Names paired with themselves -/

namespace Projection

/-- A name is as free after another one has been paired with itself as before. -/
theorem isFree_insert {name other : String} (h : name ≠ other) (p : Projection) :
    (p.insert name name).isFree other other = p.isFree other other := by
  rw [Bool.eq_iff_iff]
  by_cases free : p.isFree name name = true
  · rw [isFree_iff, isFree_iff, mem_columns_insert free, insert, if_pos free, column?, Keyed.get?_insert_of_ne h]
    simp [Ne.symm h, column?]
  · rw [insert, if_neg free]

theorem insert_comm (p : Projection) (name other : String) :
    (p.insert name name).insert other other = (p.insert other other).insert name name := by
  by_cases same : name = other
  · rw [same]
  rw [insert, isFree_insert same, insert.eq_def (p.insert other other), isFree_insert (Ne.symm same)]
  unfold insert
  split_ifs
  · rw [Keyed.insert_comm _ same]
  all_goals rfl

theorem insertAll_perm {p : Projection} {pairs pairs' : List (String × String)}
    (diagonal : ∀ pair ∈ pairs, pair.1 = pair.2) (perm : pairs.Perm pairs') : p.insertAll pairs = p.insertAll pairs' := by
  refine perm.foldl_eq' (fun a ha b hb q => ?_) p
  rw [← diagonal a ha, ← diagonal b hb]
  exact insert_comm q a.1 b.1

end Projection

end DataGrid
