-- SUMMARY: What is shown of joined records once the columns that the join excludes are taken out.
import DataGrid.Proofs.Erasing
import DataGrid.Proofs.Projection

/-!
# Excluded columns

The records that a join brings stand in the value of its field, alone or in nested lists.
Where a record was fetched a record is shown: it has nothing at or below an excluded
column, the fetched values apart from these, and objects on the way to them. Lists keep
their lengths, and so every item its place; other values are shown as they are.
-/

namespace DataGrid

/-! ## Values in nested lists -/

namespace Json

/-- The value at some positions, each in the list that stands at the ones before. -/
def item? (value : Json) : List Nat → Option Json
  | [] => some value
  | i :: rest =>
    match value with
    | .arr items => items[i]?.bind (item? · rest)
    | _ => none

theorem stripItems_eq (columns : List String) (items : List Json) : stripItems columns items = items.map (strip columns) := by
  induction items with
  | nil => rfl
  | cons x rest ih => rw [stripItems, ih, List.map_cons]

theorem strip_obj (columns : List String) (members : Row) :
    strip columns (.obj members) = .obj (Row.eraseAll columns members) := by
  rw [strip]
  rfl

theorem strip_arr (columns : List String) (items : List Json) :
    strip columns (.arr items) = .arr (items.map (strip columns)) := by
  rw [strip, stripItems_eq]

/-- Taking columns out does not move an item. -/
theorem item?_strip (columns : List String) (value : Json) (positions : List Nat) :
    (value.strip columns).item? positions = (value.item? positions).map (strip columns) := by
  induction positions generalizing value with
  | nil => rfl
  | cons i rest ih =>
    cases value with
    | arr items =>
      rw [strip_arr, item?, item?, List.getElem?_map, Option.bind_map, Option.map_bind]
      exact congrArg _ (funext ih)
    | _ => rfl

end Json


/-! ## What is left of a record -/

/-- What is left of a record without some columns: nothing at or below them, all that is apart from them, and elsewhere
an object in place of an object and any other value as it was. -/
structure Row.IsWithout (columns : List String) (record left : Row) : Prop where
  gone : ∀ column, (∃ c ∈ columns, Text.segments c <+: Text.segments column) → left.lookup column = none
  kept : ∀ column, (∀ c ∈ columns, Apart (Text.segments c) (Text.segments column)) →
    left.lookup column = record.lookup column
  above : ∀ column, (∀ c ∈ columns, ¬Text.segments c <+: Text.segments column) →
    (left.lookup column).map Json.surface = (record.lookup column).map Json.surface

theorem Row.isWithout_eraseAll (columns : List String) (record : Row) : IsWithout columns record (eraseAll columns record) where
  gone _ covered := lookup_eraseAll_of_prefix covered record
  kept _ apart := lookup_eraseAll apart record
  above _ outside := surface_lookup_eraseAll outside record

/-- What is left of a value without some columns: the rest of a record, a list of the same length, or the value. -/
def Json.IsWithout (columns : List String) : Json → Json → Prop
  | .obj record, .obj left => Row.IsWithout columns record left
  | .arr items, .arr others => others.length = items.length
  | value, left => left = value

theorem Json.isWithout_strip (columns : List String) (value : Json) : IsWithout columns value (value.strip columns) := by
  cases value with
  | obj record =>
    rw [strip_obj]
    exact Row.isWithout_eraseAll columns record
  | arr items =>
    rw [strip_arr]
    exact List.length_map _
  | _ => rfl


/-! ## Shown values -/

namespace Projection

/-- What is shown of a field that joins is what is fetched in its place, without the excluded columns, whatever the column
that the field is paired with. -/
theorem get?_renameRow_of_join {p : Projection} {table : FieldTable} {name : String} {field : Field} {join : JoinDescriptor}
    (projected : name ∈ Keyed.keys p.pairs) (known : table.get? name = some field) (joins : field.join = some join)
    (row : Row) :
    Keyed.get? (p.renameRow (some table) row) name = (row.lookup field.source).map (Json.strip join.exclude) := by
  have reads : ∀ pair ∈ p.pairs, pair.1 = name →
      value? (some table) row name pair.2 = (row.lookup field.source).map (Json.strip join.exclude) := by
    intro pair _ _
    rw [value?, Option.bind_some, known]
    simp only [joins]
  rw [renameRow_eq, get?_foldl_put reads, if_pos projected, Keyed.get?_nil, Option.or_none]

/-- Of a projected field with a join a value is shown exactly where one is fetched. At the same positions in nested lists
the two have records, of which the shown one is the fetched one without the excluded columns, lists of one length, the
same other value, or nothing. -/
theorem renameRow_excludes (p : Projection) {table : FieldTable} (row : Row) {name : String} {field : Field}
    {join : JoinDescriptor} (projected : name ∈ Keyed.keys p.pairs) (known : table.get? name = some field)
    (joins : field.join = some join) :
    Option.Rel
      (fun fetched shown => ∀ positions,
        Option.Rel (Json.IsWithout join.exclude) (fetched.item? positions) (shown.item? positions))
      (row.lookup field.source) (Keyed.get? (p.renameRow (some table) row) name) := by
  have without (columns : List String) (value : Option Json) :
      Option.Rel (Json.IsWithout columns) value (value.map (Json.strip columns)) := by
    cases value with
    | none => exact .none
    | some value => exact .some (Json.isWithout_strip columns value)
  rw [get?_renameRow_of_join projected known joins]
  cases row.lookup field.source with
  | none => exact .none
  | some fetched =>
    refine .some fun positions => ?_
    rw [Json.item?_strip]
    exact without join.exclude _

namespace Groups

/-- A join that brings the members of a group without their tokens and links; one excluded column is below another. -/
def membership : JoinDescriptor where
  model := "users"
  destination := some "members"
  fields := ["name"]
  exclude := ["link.table", "token", "link"]
  key := none

def members : Field where
  name := "members"
  column := "member_ids"
  displayName := "members"
  shown := true
  searchable := false
  filterable := false
  rangeable := false
  sortable := false
  join := some membership

def table : FieldTable := ⟨[("members", members)]⟩

/-- Two members, one of them in a list of its own beside null. -/
def row : Row :=
  [("member_ids", .arr [.ofNat 1, .arr [.ofNat 2]]),
   ("members", .arr [
    .obj [("link", .obj [("role", .str "owner"), ("table", .str "m2m")]), ("name", .str "A"), ("token", .str "t")],
    .arr [.obj [("link", .str "none"), ("name", .str "B")], .null]])]

end Groups

theorem renameRow_excludes_groups :
    "members" ∈ Keyed.keys Groups.table.projection.pairs ∧ Groups.table.get? "members" = some Groups.members ∧
      Groups.members.join = some Groups.membership ∧
      Option.Rel
        (fun fetched shown => ∀ positions,
          Option.Rel (Json.IsWithout Groups.membership.exclude) (fetched.item? positions) (shown.item? positions))
        (Groups.row.lookup Groups.members.source)
        (Keyed.get? (Groups.table.projection.renameRow (some Groups.table) Groups.row) "members") ∧
      Groups.table.projection.renameRow (some Groups.table) Groups.row =
        [("members", .arr [.obj [("name", .str "A")], .arr [.obj [("name", .str "B")], .null]])] := by
  have projected : "members" ∈ Keyed.keys Groups.table.projection.pairs := by decide
  have known : Groups.table.get? "members" = some Groups.members := rfl
  have joins : Groups.members.join = some Groups.membership := rfl
  exact ⟨projected, known, joins, renameRow_excludes Groups.table.projection Groups.row projected known joins,
    by decide +kernel⟩

end Projection

end DataGrid
