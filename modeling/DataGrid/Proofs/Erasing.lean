-- SUMMARY: Rows from which some columns are taken out, and the paths that do not tell the difference.
import DataGrid.Json.Order
import DataGrid.Proofs.Path

/-!
# Erasing columns

Taking out a column is not seen apart from it. Above it an object keeps being one,
though not its members, so whatever does not look inside objects sees no difference
there. Columns can be taken out in any order, and one below another need not be taken
out besides.
-/

namespace DataGrid

namespace Json

/-- A value as it is seen from outside: an object without its members. -/
def surface : Json → Json
  | .obj _ => .obj []
  | value => value

/-- Sorting does not look inside objects. -/
theorem sortOrder_surface (a b : Option Json) : sortOrder (a.map surface) (b.map surface) = sortOrder a b := by
  cases a with
  | none =>
    cases b with
    | none => rfl
    | some y => cases y <;> rfl
  | some x =>
    cases b with
    | none => cases x <;> rfl
    | some y => cases x <;> cases y <;> rfl

/-- A value from whose members a path is taken out, if it is an object. -/
def eraseBelow (path : List String) : Json → Json
  | .obj members => .obj (Row.eraseAt members path)
  | value => value

theorem surface_eraseBelow (path : List String) (value : Json) : (value.eraseBelow path).surface = value.surface := by
  cases value <;> rfl

end Json

namespace Row

variable {row : Row} {key : String} {path rest other : List String}


/-! ## Reading after erasing -/

theorem get?_eraseAt (row : Row) (key : String) (rest : List String) (other : String) :
    Keyed.get? (eraseAt row (key :: rest)) other =
      if key = other then (if rest = [] then none else (Keyed.get? row key).map (Json.eraseBelow rest))
      else Keyed.get? row other := by
  cases rest with
  | nil => exact Keyed.get?_erase row key other
  | cons next rest =>
    unfold eraseAt
    by_cases same : key = other
    · subst same
      rw [if_pos rfl, if_neg (List.cons_ne_nil next rest)]
      cases found : Keyed.get? row key with
      | none => exact found
      | some value =>
        cases value with
        | obj child => exact Keyed.get?_insert_self row key _
        | _ => exact found
    · rw [if_neg same]
      split
      · exact Keyed.get?_insert_of_ne same ..
      · rfl

@[simp] theorem eraseAt_empty (path : List String) : eraseAt [] path = [] := by
  match path with
  | [] | [_] | _ :: _ :: _ => rfl

theorem membersOf_eraseBelow (held : Option Json) (path : List String) :
    membersOf (held.map (Json.eraseBelow path)) = eraseAt (membersOf held) path := by
  cases held with
  | none => exact (eraseAt_empty path).symm
  | some value =>
    cases value with
    | obj child => rfl
    | _ => exact (eraseAt_empty path).symm

/-- What stands at a key of which something is taken out below it. -/
theorem get?_eraseAt_cons (row : Row) (key : String) (below : rest ≠ []) :
    Keyed.get? (eraseAt row (key :: rest)) key = (Keyed.get? row key).map (Json.eraseBelow rest) := by
  rw [get?_eraseAt, if_pos rfl, if_neg below]

/-- Taking out a path is not seen apart from it. -/
theorem at?_eraseAt_of_apart (row : Row) (h : Apart path other) : at? (eraseAt row path) other = at? row other := by
  induction h using Apart.induction generalizing row with
  | fork key key' rest rest' different =>
    have seen : Keyed.get? (eraseAt row (key :: rest)) key' = Keyed.get? row key' := by
      rw [get?_eraseAt, if_neg different]
    by_cases last : rest' = []
    · subst last
      exact seen
    · rw [at?_cons _ key' last, at?_cons _ key' last, seen]
  | under key rest rest' later ih =>
    rw [at?_cons _ key later.symm.ne_nil, at?_cons _ key later.symm.ne_nil, get?_eraseAt_cons row key later.ne_nil,
      membersOf_eraseBelow, ih _]

/-- What stands above the path that is taken out. -/
theorem at?_eraseAt_append (row : Row) (hpath : path ≠ []) (below : rest ≠ []) :
    at? (eraseAt row (path ++ rest)) path = (at? row path).map (Json.eraseBelow rest) := by
  induction path generalizing row with
  | nil => exact absurd rfl hpath
  | cons key tail ih =>
    by_cases last : tail = []
    · subst last
      exact get?_eraseAt_cons row key below
    · rw [List.cons_append, at?_cons _ key last, at?_cons _ key last, get?_eraseAt_cons row key (by simp [below]),
        membersOf_eraseBelow, ih _ last]

/-- A path that does not lead through the one that is taken out keeps its surface. -/
theorem surface_at?_eraseAt (row : Row) (h : ¬path <+: other) :
    (at? (eraseAt row path) other).map Json.surface = (at? row other).map Json.surface := by
  by_cases above : other <+: path
  · obtain ⟨rest, rfl⟩ := above
    by_cases root : other = []
    · rw [root]
      rfl
    · have below : rest ≠ [] := by
        rintro rfl
        exact h (by rw [List.append_nil])
      rw [at?_eraseAt_append row root below, Option.map_map]
      exact congrArg (Option.map · _) (funext (Json.surface_eraseBelow rest))
  · rw [at?_eraseAt_of_apart row ⟨h, above⟩]

/-- Nothing stands where a path leads that begins with the one that is taken out. -/
theorem at?_eraseAt_of_prefix (row : Row) (hpath : path ≠ []) (below : path <+: other) :
    at? (eraseAt row path) other = none := by
  obtain ⟨rest, rfl⟩ := below
  have taken : at? (eraseAt row path) path = none := by
    induction path generalizing row with
    | nil => exact absurd rfl hpath
    | cons key tail ih =>
      by_cases last : tail = []
      · subst last
        exact (get?_eraseAt row key [] key).trans (if_pos rfl)
      · rw [at?_cons _ key last, get?_eraseAt_cons row key last, membersOf_eraseBelow, ih _ last]
  by_cases here : rest = []
  · rw [here, List.append_nil, taken]
  · rw [at?_append _ hpath here, taken]
    exact at?_empty rest

/-- Where nothing stands nothing stands after taking out a path. -/
theorem at?_eraseAt_of_eq_none (row : Row) (hpath : path ≠ []) (h : at? row other = none) :
    at? (eraseAt row path) other = none := by
  by_cases below : path <+: other
  · exact at?_eraseAt_of_prefix row hpath below
  · have surface := surface_at?_eraseAt row below
    rwa [h, Option.map_none, Option.map_eq_none_iff] at surface


/-! ## Ordered rows -/

/-- Taking out a path keeps a row ordered. -/
theorem isOrdered_eraseAt (hrow : (Json.obj row).isOrdered = true) (path : List String) :
    (Json.obj (eraseAt row path)).isOrdered = true := by
  induction path generalizing row with
  | nil => exact hrow
  | cons key rest ih =>
    match rest with
    | [] =>
      have ascending : Keyed.Ascending row := Json.ascending_of_isOrdered hrow
      simp only [eraseAt, Json.isOrdered, Bool.and_eq_true, Json.isOrderedMembers_eq, List.all_eq_true]
      exact ⟨decide_eq_true (ascending.erase key), fun e he => Json.isOrdered_of_mem hrow (List.mem_of_mem_filter he)⟩
    | next :: rest =>
      unfold eraseAt
      split
      · next child found => exact isOrdered_insert hrow (ih (isOrdered_of_get? hrow found)) key
      · exact hrow

/-- Ordered rows are the same where they have the same under every key. -/
theorem ext_get? {a b : Row} (ha : (Json.obj a).isOrdered = true) (hb : (Json.obj b).isOrdered = true)
    (same : ∀ key, Keyed.get? a key = Keyed.get? b key) : a = b :=
  Keyed.Ascending.ext (Json.ascending_of_isOrdered ha) (Json.ascending_of_isOrdered hb) same

/-- Two paths can be taken out in either order. -/
theorem eraseAt_comm (hrow : (Json.obj row).isOrdered = true) (p q : List String) :
    eraseAt (eraseAt row p) q = eraseAt (eraseAt row q) p := by
  induction p generalizing row q with
  | nil => rfl
  | cons key rest ih =>
    cases q with
    | nil => rfl
    | cons key' rest' =>
      refine ext_get? (isOrdered_eraseAt (isOrdered_eraseAt hrow _) _) (isOrdered_eraseAt (isOrdered_eraseAt hrow _) _)
        fun other => ?_
      simp only [get?_eraseAt]
      by_cases same : key = key'
      · subst same
        simp only [if_true]
        split_ifs
        all_goals try rfl
        rw [Option.map_map, Option.map_map]
        refine Option.map_congr fun value hvalue => ?_
        cases value with
        | obj child => exact congrArg Json.obj (ih (isOrdered_of_get? hrow hvalue) rest')
        | _ => rfl
      · simp only [if_neg same, if_neg (Ne.symm same)]
        by_cases here : key = other
        · have elsewhere : key' ≠ other := fun there => same (here.trans there.symm)
          simp only [if_pos here, if_neg elsewhere]
        · simp only [if_neg here]

/-- What is taken out with all that is below it need not be taken out below it before. -/
theorem eraseAt_of_prefix (hrow : (Json.obj row).isOrdered = true) (hpath : path ≠ []) (rest : List String) :
    eraseAt (eraseAt row (path ++ rest)) path = eraseAt row path := by
  induction path generalizing row with
  | nil => exact absurd rfl hpath
  | cons key tail ih =>
    refine ext_get? (isOrdered_eraseAt (isOrdered_eraseAt hrow _) _) (isOrdered_eraseAt hrow _) fun other => ?_
    simp only [List.cons_append, get?_eraseAt, if_true]
    by_cases last : tail = []
    · simp only [if_pos last]
      split <;> rfl
    · simp only [if_neg last, if_neg (show tail ++ rest ≠ [] by simp [last])]
      split
      · rw [Option.map_map]
        refine Option.map_congr fun value hvalue => ?_
        cases value with
        | obj child => exact congrArg Json.obj (ih (isOrdered_of_get? hrow hvalue) last)
        | _ => rfl
      · rfl


/-! ## Several columns -/

/-- Take out some columns. -/
def eraseAll (columns : List String) (row : Row) : Row :=
  columns.foldl erase row

theorem isOrdered_eraseAll (hrow : (Json.obj row).isOrdered = true) (columns : List String) :
    (Json.obj (eraseAll columns row)).isOrdered = true :=
  List.foldlRecOn (motive := fun row : Row => (Json.obj row).isOrdered = true) columns _ hrow
    fun _ ordered _ _ => isOrdered_eraseAt ordered _

/-- A column apart from those that are taken out is kept. -/
theorem lookup_eraseAll {columns : List String} {column : String}
    (apart : ∀ c ∈ columns, Apart (Text.segments c) (Text.segments column)) (row : Row) :
    (eraseAll columns row).lookup column = row.lookup column :=
  List.foldlRecOn (motive := fun left : Row => left.lookup column = row.lookup column) columns _ rfl
    fun left same c hc => (at?_eraseAt_of_apart left (apart c hc)).trans same

/-- Rows that agree but for some columns hold the same at a column apart from them. -/
theorem lookup_congr_of_eraseAll {columns : List String} {a b : Row} (alike : eraseAll columns a = eraseAll columns b)
    {column : String} (apart : ∀ c ∈ columns, Apart (Text.segments c) (Text.segments column)) :
    a.lookup column = b.lookup column := by
  rw [← lookup_eraseAll apart a, alike, lookup_eraseAll apart b]

/-- A column that is not at or below one of those that are taken out keeps its surface. -/
theorem surface_lookup_eraseAll {columns : List String} {column : String}
    (outside : ∀ c ∈ columns, ¬Text.segments c <+: Text.segments column) (row : Row) :
    ((eraseAll columns row).lookup column).map Json.surface = (row.lookup column).map Json.surface :=
  List.foldlRecOn (motive := fun left : Row =>
      (left.lookup column).map Json.surface = (row.lookup column).map Json.surface) columns _ rfl
    fun left same c hc => (surface_at?_eraseAt left (outside c hc)).trans same

/-- Nothing is found at or below a column that is taken out. -/
theorem lookup_eraseAll_of_prefix {columns : List String} {column : String}
    (covered : ∃ c ∈ columns, Text.segments c <+: Text.segments column) (row : Row) :
    (eraseAll columns row).lookup column = none := by
  obtain ⟨c, hc, below⟩ := covered
  obtain ⟨before, after, rfl⟩ := List.append_of_mem hc
  rw [eraseAll, List.foldl_append, List.foldl_cons]
  refine List.foldlRecOn (motive := fun left : Row => left.lookup column = none) after _ ?_
    fun left h d _ => at?_eraseAt_of_eq_none left (Text.segments_ne_nil d) h
  exact at?_eraseAt_of_prefix _ (Text.segments_ne_nil c) below

/-- A column at or below one of those that are taken out need not be taken out before. -/
theorem eraseAll_erase {columns : List String} {column : String}
    (covered : ∃ c ∈ columns, Text.segments c <+: Text.segments column) (hrow : (Json.obj row).isOrdered = true) :
    eraseAll columns (row.erase column) = eraseAll columns row := by
  induction columns generalizing row with
  | nil => obtain ⟨_, ⟨⟩, -⟩ := covered
  | cons first columns ih =>
    change eraseAll columns ((row.erase column).erase first) = eraseAll columns (row.erase first)
    obtain ⟨c, hc, rest, hrest⟩ := covered
    rcases List.mem_cons.mp hc with rfl | hc
    · refine congrArg (eraseAll columns) ?_
      rw [erase, erase, ← hrest]
      exact eraseAt_of_prefix hrow (Text.segments_ne_nil c) rest
    · have swapped : (row.erase column).erase first = (row.erase first).erase column := eraseAt_comm hrow _ _
      rw [swapped]
      exact ih ⟨c, hc, rest, hrest⟩ (isOrdered_eraseAt hrow _)

/-- Columns at or below those that are taken out need not be taken out before. -/
theorem eraseAll_eraseAll {columns others : List String}
    (covered : ∀ column ∈ others, ∃ c ∈ columns, Text.segments c <+: Text.segments column)
    (hrow : (Json.obj row).isOrdered = true) : eraseAll columns (eraseAll others row) = eraseAll columns row := by
  induction others generalizing row with
  | nil => rfl
  | cons other others ih =>
    obtain ⟨here, later⟩ := List.forall_mem_cons.mp covered
    exact (ih later (isOrdered_eraseAt hrow _)).trans (eraseAll_erase here hrow)

/-- Where two rows hold the same under a key, or the key is taken out, they hold the same under it afterwards. -/
theorem get?_eraseAll_congr {columns : List String} {a b : Row}
    (same : Keyed.get? a key = Keyed.get? b key ∨ ∃ c ∈ columns, Text.segments c = [key]) :
    Keyed.get? (eraseAll columns a) key = Keyed.get? (eraseAll columns b) key := by
  induction columns generalizing a b with
  | nil => exact same.resolve_right (by simp)
  | cons first columns ih =>
    obtain ⟨head, rest, hfirst⟩ := List.exists_cons_of_ne_nil (Text.segments_ne_nil first)
    refine ih (a := a.erase first) (b := b.erase first) ?_
    rw [erase, erase, hfirst, get?_eraseAt, get?_eraseAt]
    rcases same with same | ⟨c, hc, taken⟩
    · left
      split
      · next here => rw [here, same]
      · exact same
    · rcases List.mem_cons.mp hc with rfl | hc
      · obtain ⟨rfl, rfl⟩ := List.cons.inj (hfirst.symm.trans taken)
        exact .inl (by simp only [if_true])
      · exact .inr ⟨c, hc, taken⟩


/-! ## Cut rows -/

variable {columns : List String} {a b : Row}

/-- Rows that agree at some columns are cut to them alike. -/
theorem project_congr (same : ∀ c ∈ columns, a.lookup c = b.lookup c) : a.project columns = b.project columns := by
  rw [project_eq, project_eq]
  refine List.foldl_ext _ _ _ fun kept c hc => ?_
  rw [copyInto, copyInto, same c hc]

theorem get?_insertAt (row : Row) (key : String) (rest : List String) (value : Json) (other : String) :
    Keyed.get? (insertAt row (key :: rest) value) other =
      if key = other then
        some (if rest = [] then value else .obj (insertAt (membersOf (Keyed.get? row key)) rest value))
      else Keyed.get? row other := by
  rw [insertAt_eq]
  by_cases same : key = other
  · rw [if_pos same, ← same, Keyed.get?_insert_self]
  · rw [if_neg same, Keyed.get?_insert_of_ne same]

/-- Rows that agree at those of some columns that begin with a key hold the same under it when they are cut. -/
theorem get?_project_congr
    (same : ∀ c ∈ columns, a.lookup c = b.lookup c ∨ (Text.segments c).head? ≠ some key) :
    Keyed.get? (a.project columns) key = Keyed.get? (b.project columns) key := by
  have copied {row kept : Row} {c : String} (other : (Text.segments c).head? ≠ some key) :
      Keyed.get? (copyInto row kept c) key = Keyed.get? kept key := by
    obtain ⟨head, rest, hc⟩ := List.exists_cons_of_ne_nil (Text.segments_ne_nil c)
    unfold copyInto
    split
    · rw [insert, hc, get?_insertAt, if_neg fun same => other (by rw [hc, same]; rfl)]
    · rfl
  suffices ∀ start start' : Row, Keyed.get? start key = Keyed.get? start' key →
      Keyed.get? (columns.foldl (copyInto a) start) key = Keyed.get? (columns.foldl (copyInto b) start') key from
    this [] [] rfl
  induction columns with
  | nil => exact fun _ _ same => same
  | cons c rest ih =>
    obtain ⟨here, later⟩ := List.forall_mem_cons.mp same
    intro start start' agree
    refine ih later _ _ ?_
    rcases here with told | other
    · obtain ⟨head, rest, hc⟩ := List.exists_cons_of_ne_nil (Text.segments_ne_nil c)
      rw [copyInto, copyInto, told]
      split
      · rw [insert, insert, hc, get?_insertAt, get?_insertAt]
        split
        · next here => rw [here, agree]
        · exact agree
      · exact agree
    · rw [copied other, copied other, agree]

theorem isOrdered_project (hrow : (Json.obj row).isOrdered = true) (columns : List String) :
    (Json.obj (row.project columns)).isOrdered = true := by
  rw [project_eq]
  exact copyInto_induction (p := fun kept => (Json.obj kept).isOrdered = true) rfl
    fun _ _ _ found _ ordered => isOrdered_insertAt ordered (isOrdered_at? hrow found) _

end Row

end DataGrid
