-- SUMMARY: Writing along the columns of a row, and cutting a row to some columns.
import Mathlib.Data.List.Perm.Basic
import DataGrid.Proofs.Erasing

/-!
# Columns of rows

What is written at a column is read there, of two values the later one. Columns apart
from it show nothing of the writing, and are written in either order. A row that is cut
to some columns is a part of the row: it has the listed columns as the row has them, and
no value that is not at or below one of them. Columns of one row are copied in any order,
whether or not they are apart, and once cut, a row is not changed by cutting it again.
-/

namespace DataGrid.Row

/-! ## Writing -/

/-- Paths apart can be written in either order. -/
theorem insertAt_comm (row : Row) {path other : List String} (h : Apart path other) (value value' : Json) :
    insertAt (insertAt row path value) other value' = insertAt (insertAt row other value') path value := by
  induction h using Apart.induction generalizing row with
  | fork key key' rest rest' different =>
    simp only [insertAt_eq, Keyed.get?_insert_of_ne different, Keyed.get?_insert_of_ne (Ne.symm different)]
    exact Keyed.insert_comm row different ..
  | under key rest rest' later ih =>
    simp only [insertAt_cons _ key later.ne_nil, insertAt_cons _ key later.symm.ne_nil, Keyed.insert_insert,
      Keyed.get?_insert_self]
    rw [membersOf, membersOf, ih _]

/-- Writing below what has just been written is writing into it. -/
theorem insertAt_below (row : Row) {path rest : List String} (hpath : path ≠ []) (below : rest ≠ []) (members : Row)
    (value : Json) :
    insertAt (insertAt row path (.obj members)) (path ++ rest) value =
      insertAt row path (.obj (insertAt members rest value)) := by
  induction path generalizing row with
  | nil => exact absurd rfl hpath
  | cons key tail ih =>
    rw [List.cons_append, insertAt_cons _ key (by simp [below])]
    by_cases last : tail = []
    · subst last
      simp only [insertAt_eq, if_true, Keyed.insert_insert, Keyed.get?_insert_self, List.nil_append]
      rfl
    · simp only [insertAt_cons _ key last, Keyed.insert_insert, Keyed.get?_insert_self]
      rw [membersOf, ih _ last]

/-- What is written over makes no difference. -/
theorem insertAt_above (row : Row) {path : List String} (hpath : path ≠ []) (rest : List String) (value value' : Json) :
    insertAt (insertAt row (path ++ rest) value') path value = insertAt row path value := by
  induction path generalizing row with
  | nil => exact absurd rfl hpath
  | cons key tail ih =>
    rw [List.cons_append, insertAt_eq _ key (tail ++ rest)]
    by_cases last : tail = []
    · subst last
      exact Keyed.insert_insert ..
    · simp only [insertAt_cons _ key last, Keyed.insert_insert, Keyed.get?_insert_self,
        if_neg (show tail ++ rest ≠ [] by simp [last])]
      rw [membersOf, ih _ last]

/-- Of two values written at one path the later stays. -/
theorem insertAt_insertAt (row : Row) {path : List String} (hpath : path ≠ []) (value later : Json) :
    insertAt (insertAt row path value) path later = insertAt row path later := by
  have above := insertAt_above row hpath [] later value
  rwa [List.append_nil] at above

/-- A value that is written at a column is read there, replaces what has been written there before, is not seen apart from
the column, and is written before or after what is written apart from it. -/
theorem insert_writes (row : Row) (column : String) (value : Json) :
    (row.insert column value).lookup column = some value ∧
      (∀ other, Apart (Text.segments column) (Text.segments other) →
        (row.insert column value).lookup other = row.lookup other) ∧
      (∀ later, (row.insert column value).insert column later = row.insert column later) ∧
      ∀ other value', Apart (Text.segments column) (Text.segments other) →
        (row.insert column value).insert other value' = (row.insert other value').insert column value := by
  refine ⟨lookup_insert_self row column value, ?_, ?_, ?_⟩
  · intro other apart
    exact at?_insertAt_of_apart row apart value
  · intro later
    exact insertAt_insertAt row (Text.segments_ne_nil column) value later
  · intro other value' apart
    exact insertAt_comm row apart value value'

/-- A person whose place is a list, which gives way to an object with coordinates. -/
def resident : Row :=
  [("address", .obj [("place", .arr [.ofNat 59, .ofNat 10]), ("street", .str "Main")]), ("name", .str "Ann"),
   ("token", .null)]

theorem insert_writes_resident :
    Apart (Text.segments "address.place.lat") (Text.segments "address.place.lon") ∧
      (resident.insert "address.place.lat" (.ofNat 59)).lookup "address.place.lon" = resident.lookup "address.place.lon" ∧
      (resident.insert "address.place.lat" (.ofNat 59)).insert "address.place.lon" (.ofNat 10) =
        (resident.insert "address.place.lon" (.ofNat 10)).insert "address.place.lat" (.ofNat 59) ∧
      (resident.insert "address.place.lat" (.ofNat 59)).insert "address.place.lon" (.ofNat 10) =
        [("address", .obj [("place", .obj [("lat", .ofNat 59), ("lon", .ofNat 10)]), ("street", .str "Main")]),
         ("name", .str "Ann"), ("token", .null)] := by
  have apart : Apart (Text.segments "address.place.lat") (Text.segments "address.place.lon") := by decide +kernel
  obtain ⟨-, unseen, -, either⟩ := insert_writes resident "address.place.lat" (.ofNat 59)
  exact ⟨apart, unseen _ apart, either _ _ apart, by decide +kernel⟩


/-! ## Copying -/

/-- Below a path that is copied from an ordered row with all its members there is nothing left to copy. -/
theorem copy_below {row : Row} (hrow : (Json.obj row).isOrdered = true) (kept : Row) {path rest : List String}
    (hpath : path ≠ []) {value value' : Json} (found : at? row path = some value)
    (found' : at? row (path ++ rest) = some value') :
    insertAt (insertAt kept path value) (path ++ rest) value' =
      insertAt (insertAt kept (path ++ rest) value') path value := by
  rw [insertAt_above kept hpath]
  by_cases last : rest = []
  · subst last
    rw [List.append_nil] at found' ⊢
    obtain rfl := Option.some.inj (found.symm.trans found')
    exact insertAt_insertAt kept hpath value value
  · obtain ⟨child, hchild, found'⟩ := exists_child_of_at?_append hpath last found'
    obtain rfl := Option.some.inj (found.symm.trans hchild)
    rw [insertAt_below kept hpath last, insertAt_at?_self (isOrdered_at? hrow found) found']

/-- Two columns of an ordered row can be copied in either order. -/
theorem copyInto_comm {row : Row} (hrow : (Json.obj row).isOrdered = true) (kept : Row) (c d : String) :
    copyInto row (copyInto row kept c) d = copyInto row (copyInto row kept d) c := by
  unfold copyInto
  cases hc : row.lookup c with
  | none => rfl
  | some value =>
    cases hd : row.lookup d with
    | none => rfl
    | some value' =>
      dsimp only
      rw [lookup] at hc hd
      unfold Row.insert
      by_cases apart : Apart (Text.segments c) (Text.segments d)
      · exact insertAt_comm kept apart value value'
      rcases not_apart_iff.mp apart with ⟨rest, same⟩ | ⟨rest, same⟩
      · rw [← same] at hd ⊢
        exact copy_below hrow kept (Text.segments_ne_nil c) hc hd
      · rw [← same] at hc ⊢
        exact (copy_below hrow kept (Text.segments_ne_nil d) hd hc).symm


/-! ## Cutting -/

/-- The order of some columns makes no difference to a row that is cut to them. -/
theorem project_perm {row : Row} (hrow : (Json.obj row).isOrdered = true) {columns columns' : List String}
    (perm : columns.Perm columns') : row.project columns = row.project columns' := by
  rw [project_eq, project_eq]
  exact perm.foldl_eq' (fun c _ d _ kept => copyInto_comm hrow kept c d) []

/-- What is read along a path after a path of a row is copied: what the row has, if the copied path leads to the other one;
an object where the row has one, if the other one leads to it; and what was there otherwise. -/
theorem at?_copy_cases {row : Row} {path : List String} {value : Json} (found : at? row path = some value) (kept : Row)
    (other : List String) :
    (path <+: other ∧ at? (insertAt kept path value) other = at? row other) ∨
      ((∃ source, at? row other = some (.obj source)) ∧
        ∃ members, at? (insertAt kept path value) other = some (.obj members)) ∨
      at? (insertAt kept path value) other = at? kept other := by
  have hpath : path ≠ [] := by
    rintro rfl
    cases found
  by_cases below : path <+: other
  · left
    refine ⟨below, ?_⟩
    obtain ⟨rest, rfl⟩ := below
    by_cases last : rest = []
    · rw [last, List.append_nil, at?_insertAt_self kept hpath, found]
    · rw [at?_append _ hpath last, at?_append _ hpath last, at?_insertAt_self kept hpath, found]
  right
  by_cases above : other <+: path
  · obtain ⟨rest, rfl⟩ := above
    by_cases root : other = []
    · subst root
      exact .inr rfl
    have last : rest ≠ [] := by
      rintro rfl
      exact below (by rw [List.append_nil])
    obtain ⟨source, hsource, -⟩ := exists_child_of_at?_append root last found
    exact .inl ⟨⟨source, hsource⟩, _, at?_insertAt_append kept root last value⟩
  · exact .inr (at?_insertAt_of_apart kept ⟨below, above⟩ value)

/-- What is kept of a row under some columns is a part of it: a value that is no object is the row's, and stands at or below
one of the columns, and an object stands where the row has one. -/
structure IsPart (columns : List String) (row kept : Row) : Prop where
  values : ∀ path value, at? kept path = some value → (∀ members, value ≠ .obj members) →
    at? row path = some value ∧ ∃ c ∈ columns, Text.segments c <+: path
  objects : ∀ path members, at? kept path = some (.obj members) → ∃ source, at? row path = some (.obj source)

theorem isPart_empty (columns : List String) (row : Row) : IsPart columns row [] where
  values path _ found := by
    rw [at?_empty] at found
    cases found
  objects path _ found := by
    rw [at?_empty] at found
    cases found

/-- One more column keeps a part of the row. -/
theorem IsPart.insert {columns : List String} {row kept : Row} (part : IsPart columns row kept) {column : String}
    (listed : column ∈ columns) {copied : Json} (found : row.lookup column = some copied) :
    IsPart columns row (kept.insert column copied) where
  values path value held single := by
    rcases at?_copy_cases found kept path with ⟨below, same⟩ | ⟨-, members, object⟩ | same
    · exact ⟨same.symm.trans held, column, listed, below⟩
    · exact absurd (Option.some.inj (held.symm.trans object)) (single members)
    · exact part.values path value (same.symm.trans held) single
  objects path members held := by
    rcases at?_copy_cases found kept path with ⟨-, same⟩ | ⟨source, -⟩ | same
    · exact ⟨members, same.symm.trans held⟩
    · exact source
    · exact part.objects path members (same.symm.trans held)

theorem isPart_project (columns : List String) (row : Row) : IsPart columns row (row.project columns) := by
  rw [project_eq]
  exact copyInto_induction (p := IsPart columns row) (isPart_empty columns row)
    fun _ listed _ found _ part => part.insert listed found

/-- A row that is cut to some columns has each of them as the row has it, and is a part of the row under these columns.
Cutting it again does not change it, and the order of the columns makes no difference. -/
theorem project_cuts {row : Row} (hrow : (Json.obj row).isOrdered = true) (columns : List String) :
    (∀ c ∈ columns, (row.project columns).lookup c = row.lookup c) ∧ IsPart columns row (row.project columns) ∧
      (row.project columns).project columns = row.project columns ∧
      ∀ columns', columns.Perm columns' → row.project columns' = row.project columns := by
  have shown : ∀ c ∈ columns, (row.project columns).lookup c = row.lookup c := by
    intro c listed
    exact lookup_project hrow listed
  refine ⟨shown, isPart_project columns row, project_congr shown, ?_⟩
  intro columns' perm
  exact (project_perm hrow perm).symm

/-- Columns below one another and repeated, one of them below a list, and one that is missing. -/
def contactColumns : List String :=
  ["address.street", "address", "address.place.lat", "phone", "name", "address.street"]

theorem project_cuts_resident :
    (Json.obj resident).isOrdered = true ∧
      ((∀ c ∈ contactColumns, (resident.project contactColumns).lookup c = resident.lookup c) ∧
        IsPart contactColumns resident (resident.project contactColumns) ∧
        (resident.project contactColumns).project contactColumns = resident.project contactColumns ∧
        ∀ columns', contactColumns.Perm columns' → resident.project columns' = resident.project contactColumns) ∧
      resident.project contactColumns =
        [("address", .obj [("place", .arr [.ofNat 59, .ofNat 10]), ("street", .str "Main")]), ("name", .str "Ann")] := by
  have ordered : (Json.obj resident).isOrdered = true := by decide +kernel
  exact ⟨ordered, project_cuts ordered contactColumns, by decide +kernel⟩

end DataGrid.Row
