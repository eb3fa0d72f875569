-- SUMMARY: Sorting compares values and rows by total preorders, which rank the kinds of values.
import DataGrid.Row.Order

/-!
# The order of sorting

Sorting compares two values by their kinds and, where the kinds are the same, by what
can be compared in them. Comparing by one thing after the other is a total preorder,
and so is comparing rows by some keys, of which the first one that tells them apart
decides.
-/

namespace DataGrid

/-- A comparison that turns around with its sides, finds everything equal to itself, is transitive, and does not tell apart
what it finds equal. -/
structure TotalPreorder {α : Type} (cmp : α → α → Ordering) : Prop where
  reversed : ∀ a b, cmp a b = (cmp b a).swap
  self : ∀ a, cmp a a = .eq
  trans : ∀ a b c, cmp a b ≠ .gt → cmp b c ≠ .gt → cmp a c ≠ .gt
  left : ∀ a b c, cmp a b = .eq → cmp a c = cmp b c
  right : ∀ a b c, cmp b c = .eq → cmp a b = cmp a c

theorem TotalPreorder.of_transCmp {α : Type} (cmp : α → α → Ordering) [Std.TransCmp cmp] : TotalPreorder cmp where
  reversed _ _ := Std.OrientedCmp.eq_swap
  self _ := Std.ReflCmp.compare_self
  trans a b c hab hbc := by
    apply Ordering.isLE_iff_ne_gt.mp
    apply Std.TransCmp.isLE_trans (b := b)
    · exact Ordering.isLE_iff_ne_gt.mpr hab
    · exact Ordering.isLE_iff_ne_gt.mpr hbc
  left _ _ _ h := Std.TransCmp.congr_left h
  right _ _ _ h := Std.TransCmp.congr_right h


/-! ## Values -/

namespace Json

/-- What sorting sees of a truth value. All other values are alike. -/
def truthKey : Option Json → Bool
  | some (.bool b) => b
  | _ => false

/-- What sorting sees of a number. All other values are alike. -/
def numberKey : Option Json → Int
  | some (.num n) => n.toDouble.rank
  | _ => 0

/-- What sorting sees of a text. All other values are alike. -/
def textKey : Option Json → String
  | some (.str s) => s
  | _ => ""

/-- The order of two values of one kind, by what can be compared in them. -/
def contentOrder : Option Json → Option Json → Ordering :=
  compareLex (compareOn truthKey) (compareLex (compareOn numberKey) (compareOn textKey))

instance : Std.TransCmp contentOrder :=
  inferInstanceAs (Std.TransCmp (compareLex _ (compareLex _ _)))

/-- Values of different kinds are sorted by their kinds. -/
theorem sortOrder_of_ne {a b : Option Json} (other : kindRank a ≠ kindRank b) :
    sortOrder a b = compare (kindRank a) (kindRank b) := by
  cases a with
  | none => rfl
  | some x =>
    cases b with
    | none => rfl
    | some y =>
      have incomparable : order? x y = none := by
        cases x <;> cases y <;> first | rfl | exact absurd rfl other
      simp only [sortOrder, incomparable, Option.getD_none]

/-- Values of one kind are sorted by their contents. -/
theorem sortOrder_of_eq {a b : Option Json} (same : kindRank a = kindRank b) : sortOrder a b = contentOrder a b := by
  cases a with
  | none =>
    cases b with
    | none => rfl
    | some y => cases y <;> first | rfl | cases same
  | some x =>
    cases b with
    | none => cases x <;> first | rfl | cases same
    | some y =>
      -- the kinds whose contents compare are left, and of the three contents only that of the kind is not alike
      cases x <;> cases y <;> first | rfl | cases same
      all_goals
        simp [sortOrder, order?, Number.order, Double.order, contentOrder, compareLex, compareOn, truthKey, numberKey, textKey]

theorem sortOrder_eq : sortOrder = compareLex (compareOn kindRank) contentOrder := by
  funext a b
  by_cases same : kindRank a = kindRank b
  · rw [sortOrder_of_eq same, compareLex, compareOn, same, Std.compare_self, Ordering.eq_then]
  · rw [sortOrder_of_ne same, compareLex, compareOn]
    cases order : compare (kindRank a) (kindRank b) with
    | eq => exact absurd (Nat.compare_eq_eq.mp order) same
    | lt => rfl
    | gt => rfl

instance : Std.TransCmp sortOrder := by
  rw [sortOrder_eq]
  infer_instance

/-- The kinds of values, in the order in which sorting ranks them. -/
def kinds : List (Option Json → Prop) := [
  fun value => value = none ∨ value = some .null,
  fun value => ∃ b, value = some (.bool b),
  fun value => ∃ n, value = some (.num n),
  fun value => ∃ s, value = some (.str s),
  fun value => ∃ items, value = some (.arr items),
  fun value => ∃ members, value = some (.obj members)]

theorem kinds_eq : kinds = (List.range 6).map fun rank value => kindRank value = rank := by
  simp only [kinds, List.range, List.range.loop, List.map]
  congr <;> funext value <;> rcases value with _ | value <;> (try cases value) <;> simp [kindRank]

/-- Every value is of one of the kinds. -/
theorem exists_kind (value : Option Json) : ∃ kind ∈ kinds, kind value := by
  have below : kindRank value < 6 := by
    unfold kindRank
    split <;> decide
  rw [kinds_eq]
  exact ⟨_, List.mem_map_of_mem (List.mem_range.mpr below), rfl⟩

/-- Whatever is of a lesser kind is sorted before. -/
theorem kinds_ascend : kinds.Pairwise fun lesser greater => ∀ a b, lesser a → greater b → sortOrder a b = .lt := by
  rw [kinds_eq, List.pairwise_map]
  refine List.pairwise_lt_range.imp fun {rank rank'} less a b ha hb => ?_
  have other : kindRank a ≠ kindRank b := by omega
  rw [sortOrder_of_ne other, ha, hb]
  exact Nat.compare_eq_lt.mpr less

end Json


/-! ## Rows -/

instance (direction : Direction) {α : Type} (cmp : α → α → Ordering) [Std.TransCmp cmp] :
    Std.TransCmp fun a b => direction.apply (cmp a b) := by
  cases direction with
  | ascending => exact inferInstanceAs (Std.TransCmp cmp)
  | descending =>
    have turned : (fun a b => Direction.descending.apply (cmp a b)) = fun a b => cmp b a := by
      funext a b
      exact Std.OrientedCmp.eq_swap.symm
    rw [turned]
    infer_instance

instance (key : SortKey) : Std.TransCmp key.order := by
  have values : Std.TransCmp fun a b => key.direction.apply (Json.sortOrder a b) := inferInstance
  exact { eq_swap := values.eq_swap, isLE_trans := values.isLE_trans }

namespace Row

instance (keys : List SortKey) : Std.TransCmp (order keys) := by
  induction keys with
  | nil => exact { eq_swap := rfl, isLE_trans := fun _ _ => rfl }
  | cons key rest ih => exact inferInstanceAs (Std.TransCmp (compareLex key.order (order rest)))

/-- The first key that tells two rows apart decides. -/
theorem order_eq_find? (keys : List SortKey) (a b : Row) :
    order keys a b = ((keys.map (·.order a b)).find? (· ≠ .eq)).getD .eq := by
  induction keys with
  | nil => rfl
  | cons key rest ih =>
    rw [order, List.map_cons, List.find?_cons, ih]
    cases key.order a b <;> rfl

/-- Rows are compared by a total preorder, whatever the keys: by the first key whose values sorting tells apart, turned around
if the key descends. Values are compared by a total preorder too, by their kinds first: missing values and null, truth
values, numbers, texts, lists, objects. -/
theorem order_isTotalPreorder (keys : List SortKey) :
    TotalPreorder (order keys) ∧
    (∀ a b, order keys a b =
      ((keys.map fun key => key.direction.apply (Json.sortOrder (a.lookup key.column) (b.lookup key.column))).find?
        (· ≠ .eq)).getD .eq) ∧
    TotalPreorder Json.sortOrder ∧
    (∀ value, ∃ kind ∈ Json.kinds, kind value) ∧
    Json.kinds.Pairwise fun lesser greater => ∀ a b, lesser a → greater b → Json.sortOrder a b = .lt :=
  ⟨.of_transCmp _, order_eq_find? keys, .of_transCmp _, Json.exists_kind, Json.kinds_ascend⟩

end Row

end DataGrid
