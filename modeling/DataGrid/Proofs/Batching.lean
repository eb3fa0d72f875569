-- SUMMARY: When the rows of a page are expanded together as each of them is on its own.
import DataGrid.Proofs.Expansion
import DataGrid.Proofs.JoinKeys

/-!
# Expanding rows together

The ids of all rows of a page are looked for at once: equal key texts count as one id,
records are found by loose equality with the first id of each text, and given out by
key text. A row is expanded as it is on its own where every id finds all records whose
keys have its text. Otherwise the ids of another row can find such a record, or take
the place of an id that does.
-/

namespace DataGrid.Join

/-! ## Looking records up -/

section

variable {store : MemoryStore} {join : JoinDescriptor}

/-- The columns that an expansion fetches of a record. -/
def fetched (join : JoinDescriptor) : Row → Row :=
  (selection join []).shape

/-- A fetched record holds its key. -/
theorem lookup_fetched {record : Row} (ordered : (Json.obj record).isOrdered = true) :
    (fetched join record).lookup join.keyColumn = record.lookup join.keyColumn := by
  unfold fetched Selection.shape
  split
  · next columns found =>
    refine Row.lookup_project ordered ?_
    simp only [selection, columns?, Option.ite_none_left_eq_some, Option.some.injEq] at found
    obtain ⟨-, rfl⟩ := found
    simp [List.mem_eraseDups]
  · rfl

/-- The record that is given out for a key text is the last one of those that are found for the ids and have this text. -/
theorem get?_recordsFor (ordered : ∀ record ∈ store.rows join.model, (Json.obj record).isOrdered = true)
    (ids : List Json) (text : String) :
    Keyed.get? (recordsFor store join ids) text =
      (((store.rows join.model).filter fun record =>
        (Predicate.oneOf join.keyColumn ids).holds record && isUnder join.keyColumn text record).getLast?).map
          (fetched join) := by
  have under : ∀ record ∈ store.matching join.model (.oneOf join.keyColumn ids),
      (isUnder join.keyColumn text ∘ fetched join) record = isUnder join.keyColumn text record := by
    intro record hrecord
    rw [Function.comp_apply, isUnder, isUnder, lookup_fetched (ordered record (MemoryStore.mem_matching.mp hrecord).1)]
  rw [recordsFor, MemoryStore.find_unsorted _ _ rfl rfl rfl, get?_index]
  change (((store.matching join.model (.oneOf join.keyColumn ids)).map (fetched join)).filter _).getLast? = _
  rw [List.filter_map, List.getLast?_map, List.filter_congr under, MemoryStore.matching, List.filter_filter]
  simp only [Bool.and_comm]


/-! ## Ids that find all records of their text -/

/-- An id equals a key, or an element of it. -/
def meets (id key : Json) : Bool :=
  Predicate.someValue (·.looselyEqual id) (some key)

/-- An id finds every record whose key has its text. -/
def FindsItsText (store : MemoryStore) (join : JoinDescriptor) (id : Json) : Prop :=
  ∀ record ∈ store.rows join.model, ∀ key, record.lookup join.keyColumn = some key → key.keyText = id.keyText →
    meets id key = true

theorem holds_oneOf_of_meets {column : String} {ids : List Json} {id key : Json} {record : Row} (hid : id ∈ ids)
    (held : record.lookup column = some key) (h : meets id key = true) :
    (Predicate.oneOf column ids).holds record = true := by
  rw [meets, Test.someValue_eq, List.any_eq_true] at h
  obtain ⟨element, helement, equal⟩ := h
  exact Predicate.holds_oneOf.mpr ⟨element, held ▸ helement, id, hid, equal⟩

/-- Where all ids find the records of their texts, the last record of the text of each is given out. -/
theorem get?_recordsFor_of_finds (ordered : ∀ record ∈ store.rows join.model, (Json.obj record).isOrdered = true)
    {ids : List Json} (finds : ∀ id ∈ ids, FindsItsText store join id) {id : Json} (hid : id ∈ ids) :
    Keyed.get? (recordsFor store join (distinct ids)) id.keyText =
      (((store.rows join.model).filter (isUnder join.keyColumn id.keyText)).getLast?).map (fetched join) := by
  -- of the ids with this text the first one is looked for
  obtain ⟨first, hfirst, same⟩ := exists_mem_distinct hid
  rw [get?_recordsFor ordered]
  congr 2
  refine List.filter_congr fun record hrecord => ?_
  rw [Bool.and_eq_right_iff_imp]
  intro under
  obtain ⟨key, held, text⟩ := (Option.any_eq_true _ _).mp under
  exact holds_oneOf_of_meets hfirst held
    (finds first (mem_of_mem_distinct hfirst) record hrecord key held ((beq_iff_eq.mp text).trans same.symm))

end


/-! ## Rows on their own -/

/-- A row expands to the same by records that resolve its ids to the same. -/
theorem expansion?_congr {byKey others : Keyed Row} {held : Option Json}
    (same : ∀ id ∈ values held, Keyed.get? byKey id.keyText = Keyed.get? others id.keyText) :
    expansion? byKey held = expansion? others held := by
  have resolved : ∀ id ∈ values held, resolve byKey id = resolve others id := fun id hid => by
    rw [resolve, resolve, same id hid]
  cases held with
  | none => rfl
  | some value =>
    cases value with
    | null => rfl
    | arr items =>
      have listed : items.filterMap (resolve byKey) = items.filterMap (resolve others) := List.filterMap_congr resolved
      exact congrArg (fun records => some (Json.arr records)) listed
    | _ =>
      change some (Option.getD _ _) = some (Option.getD _ _)
      rw [resolved _ (List.mem_singleton.mpr rfl)]

/-- Each row of a list is expanded as it is on its own. -/
def ExpandsAlone (store : MemoryStore) (field : Field) (join : JoinDescriptor) (rows : List Row) : Prop :=
  ∃ expanded, outcome (expand store.toStore field join rows) = .ok expanded ∧
    List.Forall₂ (fun row alone => outcome (expand store.toStore field join [row]) = .ok [alone]) rows expanded

section

variable {store : MemoryStore} {field : Field} {join : JoinDescriptor} {rows : List Row}

theorem keys_singleton (row : Row) (column : String) : keys [row] column = distinct (values (row.lookup column)) := by
  rw [keys, List.flatMap_singleton]

/-- Rows are expanded as they are on their own where the ids of all give each what its own ids do. -/
theorem expandsAlone_iff :
    ExpandsAlone store field join rows ↔
      ∀ row ∈ rows, expandBy store field join (keys [row] field.column) row =
        expandBy store field join (keys rows field.column) row := by
  simp only [ExpandsAlone, outcome_expand, Except.ok.injEq, exists_eq_left', List.map_singleton, List.cons.injEq,
    and_true, List.forall₂_map_right_iff, List.forall₂_same]

/-- The ids of some rows find the records of their texts, and an empty list of ids stands where its records would. -/
structure KeepsApart (store : MemoryStore) (field : Field) (join : JoinDescriptor) (rows : List Row) : Prop where
  finds : ∀ id ∈ joined rows field.column, FindsItsText store join id
  empty : ∀ row ∈ rows, row.lookup field.column = some (.arr []) → row.insert field.source (.arr []) = row

/-- A row without ids is left as it is, or keeps its empty list. -/
theorem KeepsApart.expandRow_of_none (apart : KeepsApart store field join rows) {row : Row} (hrow : row ∈ rows)
    (none : values (row.lookup field.column) = []) (byKey : Keyed Row) : expandRow field byKey row = row := by
  unfold expandRow
  cases held : row.lookup field.column with
  | none => rfl
  | some value =>
    rw [held] at none
    cases value with
    | null => rfl
    | arr items =>
      obtain rfl : items = [] := none
      exact apart.empty row hrow held
    | _ => cases none

/-- Rows that are kept apart are expanded as they are on their own. -/
theorem KeepsApart.expandsAlone (ordered : ∀ record ∈ store.rows join.model, (Json.obj record).isOrdered = true)
    (apart : KeepsApart store field join rows) : ExpandsAlone store field join rows := by
  refine expandsAlone_iff.mpr fun row hrow => ?_
  by_cases none : values (row.lookup field.column) = []
  · have kept (ids : List Json) : expandBy store field join ids row = row := by
      unfold expandBy
      split
      · rfl
      · exact apart.expandRow_of_none hrow none _
    rw [kept, kept]
  have together : ∀ id ∈ values (row.lookup field.column), id ∈ joined rows field.column :=
    fun id hid => mem_joined.mpr ⟨row, hrow, hid⟩
  have same : ∀ id ∈ values (row.lookup field.column),
      Keyed.get? (recordsFor store join (keys [row] field.column)) id.keyText =
        Keyed.get? (recordsFor store join (keys rows field.column)) id.keyText := by
    intro id hid
    rw [keys_singleton, keys, ← joined, get?_recordsFor_of_finds ordered apart.finds (together id hid),
      get?_recordsFor_of_finds ordered (fun other hother => apart.finds other (together other hother)) hid]
  obtain ⟨id, hid⟩ := List.exists_mem_of_ne_nil _ none
  have own : keys [row] field.column ≠ [] := by
    obtain ⟨key, hkey, -⟩ := exists_key (List.mem_singleton_self row) hid
    exact List.ne_nil_of_mem hkey
  have all : keys rows field.column ≠ [] := by
    obtain ⟨key, hkey, -⟩ := exists_key hrow hid
    exact List.ne_nil_of_mem hkey
  rw [expandBy, expandBy, if_neg own, if_neg all, expandRow, expandRow, expansion?_congr same]


/-! ## Ids that take the place of others -/

variable {id a b key : Json}

/-- A scalar is replaced by its record, or else by null. -/
theorem expandRow_of_scalar {row : Row} (scalar : id.isScalar = true) (held : row.lookup field.column = some id)
    (byKey : Keyed Row) :
    expandRow field byKey row = row.insert field.source (((Keyed.get? byKey id.keyText).map .obj).getD .null) := by
  rw [expandRow, held]
  cases id with
  | null | arr | obj => cases scalar
  | _ => rfl

/-- A scalar is tested by itself. -/
theorem someValue_of_scalar (scalar : key.isScalar = true) (test : Json → Bool) :
    Predicate.someValue test (some key) = test key := by
  cases key with
  | null | arr | obj => cases scalar
  | _ => rfl

/-- A store whose collection has one record, with a key and nothing else. -/
def oneRecord (join : JoinDescriptor) (key : Json) : MemoryStore :=
  ⟨[(join.model, [Row.insert [] join.keyColumn key])]⟩

theorem rows_oneRecord (join : JoinDescriptor) (key : Json) :
    (oneRecord join key).rows join.model = [Row.insert [] join.keyColumn key] := by
  simp [MemoryStore.rows, oneRecord, Keyed.get?_cons]

theorem isOrdered_oneRecord (join : JoinDescriptor) (scalar : key.isScalar = true) :
    ∀ record ∈ (oneRecord join key).rows join.model, (Json.obj record).isOrdered = true := by
  have ordered : key.isOrdered = true := by
    cases key with
    | arr | obj => cases scalar
    | _ => rfl
  simp only [rows_oneRecord, List.mem_singleton, forall_eq]
  exact Row.isOrdered_insertAt rfl ordered _

/-- The one record is given out where an id equals its key. -/
theorem get?_recordsFor_oneRecord (join : JoinDescriptor) (scalar : key.isScalar = true) (ids : List Json) :
    Keyed.get? (recordsFor (oneRecord join key) join ids) key.keyText =
      if ids.any key.looselyEqual then some (fetched join (Row.insert [] join.keyColumn key)) else none := by
  have found : (Predicate.oneOf join.keyColumn ids).holds (Row.insert [] join.keyColumn key) =
      ids.any key.looselyEqual := by
    rw [Predicate.holds, Row.lookup_insert_self, someValue_of_scalar scalar]
  have under : isUnder join.keyColumn key.keyText (Row.insert [] join.keyColumn key) = true := by
    rw [isUnder, Row.lookup_insert_self]
    simp
  rw [get?_recordsFor (isOrdered_oneRecord join scalar), rows_oneRecord, List.filter_singleton, found, under, Bool.and_true]
  cases ids.any key.looselyEqual <;> rfl

/-- Of two ids with one text that are not equal, the first finds a record for the second one, which finds none on its
own. -/
theorem not_expandsAlone_of_unequal (field : Field) (join : JoinDescriptor) (ha : a.isScalar = true)
    (hb : b.isScalar = true) (text : a.keyText = b.keyText) (unequal : ¬ a.looselyEqual b = true) :
    ¬ ExpandsAlone (oneRecord join a) field join [Row.insert [] field.column a, Row.insert [] field.column b] := by
  intro alone
  have heldA := Row.lookup_insert_self [] field.column a
  have heldB := Row.lookup_insert_self [] field.column b
  -- together only the first of the two is looked for
  have together : keys [Row.insert [] field.column a, Row.insert [] field.column b] field.column = [a] := by
    simp [keys, heldA, heldB, values_of_scalar ha, values_of_scalar hb, distinct, distinctFrom, text]
  have own : keys [Row.insert [] field.column b] field.column = [b] := by
    simp [keys, heldB, values_of_scalar hb, distinct, distinctFrom]
  have found : Keyed.get? (recordsFor (oneRecord join a) join [a]) b.keyText =
      some (fetched join (Row.insert [] join.keyColumn a)) := by
    rw [← text, get?_recordsFor_oneRecord join ha]
    simp [a.looselyEqual_refl]
  have missing : Keyed.get? (recordsFor (oneRecord join a) join [b]) b.keyText = none := by
    rw [← text, get?_recordsFor_oneRecord join ha]
    simp [unequal]
  have same := expandsAlone_iff.mp alone _ (List.mem_cons_of_mem _ (List.mem_singleton_self _))
  rw [own, together, expandBy, expandBy, if_neg (List.cons_ne_nil _ _), if_neg (List.cons_ne_nil _ _),
    expandRow_of_scalar hb heldB, expandRow_of_scalar hb heldB, found, missing] at same
  have stands := congrArg (Row.lookup · field.source) same
  simp only [Row.lookup_insert_self] at stands
  cases stands

/-- An empty list of ids is left where it is if no row of the page holds an id, and is written where its records would go
if one does. -/
theorem not_expandsAlone_of_empty {row : Row} (held : row.lookup field.column = some (.arr []))
    (moves : row.insert field.source (.arr []) ≠ row) (store : MemoryStore) (join : JoinDescriptor) :
    ¬ ExpandsAlone store field join [row, Row.insert [] field.column (.str "")] := by
  intro alone
  have heldOther := Row.lookup_insert_self [] field.column (.str "")
  have together : keys [row, Row.insert [] field.column (.str "")] field.column = [.str ""] := by
    simp [keys, held, heldOther, values, distinct, distinctFrom]
  have own : keys [row] field.column = [] := by
    simp [keys, held, values, distinct, distinctFrom]
  have same := expandsAlone_iff.mp alone row List.mem_cons_self
  rw [own, together, expandBy, expandBy, if_pos rfl, if_neg (List.cons_ne_nil _ _), expandRow, held] at same
  exact moves same.symm

end


/-! ## Pages of ids -/

/-- Records with keys out of some scalars, and rows that join by these only, none of them by an empty list. -/
structure DrawnFrom (scalars : Json → Prop) (store : MemoryStore) (field : Field) (join : JoinDescriptor)
    (rows : List Row) : Prop where
  ordered : ∀ record ∈ store.rows join.model, (Json.obj record).isOrdered = true
  keys : ∀ record ∈ store.rows join.model, ∀ key, record.lookup join.keyColumn = some key → scalars key
  ids : ∀ id ∈ joined rows field.column, scalars id
  nonempty : ∀ row ∈ rows, row.lookup field.column ≠ some (.arr [])

/-- The rows of a page are expanded as each of them is on its own if every id finds all records whose keys have its text,
and an empty list of ids stands where its records would go. Pages of scalar ids are always expanded so exactly if equal
key texts are those of loosely equal ids. An empty list that stands elsewhere is told apart by another row of its page. -/
theorem expand_alone (field : Field) (join : JoinDescriptor) :
    (∀ (store : MemoryStore) (rows : List Row),
      (∀ record ∈ store.rows join.model, (Json.obj record).isOrdered = true) →
      KeepsApart store field join rows → ExpandsAlone store field join rows) ∧
    (∀ scalars : Json → Prop, (∀ value, scalars value → value.isScalar = true) →
      ((∀ store rows, DrawnFrom scalars store field join rows → ExpandsAlone store field join rows) ↔
        ∀ a b, scalars a → scalars b → a.keyText = b.keyText → a.looselyEqual b = true)) ∧
    (∀ row : Row, row.lookup field.column = some (.arr []) → row.insert field.source (.arr []) ≠ row →
      ∃ other, ∀ store, ¬ ExpandsAlone store field join [row, other]) := by
  refine ⟨fun store rows ordered apart => apart.expandsAlone ordered, fun scalars scalar =>
    ⟨fun alone a b ha hb text => ?_, fun told store rows drawn => ?_⟩, fun row held moves =>
    ⟨_, fun store => not_expandsAlone_of_empty held moves store join⟩⟩
  · by_contra unequal
    have joins : joined [Row.insert [] field.column a, Row.insert [] field.column b] field.column = [a, b] := by
      simp [joined, Row.lookup_insert_self, values_of_scalar (scalar a ha), values_of_scalar (scalar b hb)]
    refine not_expandsAlone_of_unequal field join (scalar a ha) (scalar b hb) text unequal (alone _ _
      { ordered := isOrdered_oneRecord join (scalar a ha), keys := ?keys, ids := ?ids, nonempty := ?nonempty })
    case keys =>
      simp only [rows_oneRecord, List.mem_singleton, forall_eq, Row.lookup_insert_self, Option.some.injEq, forall_eq']
      exact ha
    case ids =>
      rw [joins]
      simpa using ⟨ha, hb⟩
    case nonempty =>
      have unlisted : ∀ value, scalars value → value ≠ .arr [] := fun value h same => by
        cases same ▸ scalar value h
      simpa [Row.lookup_insert_self] using ⟨unlisted a ha, unlisted b hb⟩
  · refine KeepsApart.expandsAlone drawn.ordered ⟨fun id hid record hrecord key hkey text => ?_, fun row hrow empty =>
      absurd empty (drawn.nonempty row hrow)⟩
    have hkey' := drawn.keys record hrecord key hkey
    rw [meets, someValue_of_scalar (scalar key hkey')]
    exact told key id hkey' (drawn.ids id hid) text

namespace Owners

/-- References to users, whose records go under another name. -/
def join : JoinDescriptor where
  model := "users"
  destination := some "owner"
  fields := []
  exclude := []
  key := none

def field : Field where
  name := "owner"
  column := "ref"
  displayName := "owner"
  shown := true
  searchable := false
  filterable := false
  rangeable := false
  sortable := false
  join := some join

def store : MemoryStore :=
  ⟨[("users", [[("id", .ofInt 7)]])]⟩

/-- Rows with these references and their owners. -/
def expanded (rows : List Row) : Option (List Row) :=
  (outcome (expand store.toStore field join rows)).toOption

/-- Users with a number and with texts for their ids. -/
def staff : MemoryStore :=
  ⟨[("users", [
    [("id", .ofInt 7), ("name", .str "Ann")],
    [("id", .str "b"), ("name", .str "Bob")],
    [("id", .str "c"), ("name", .str "Cid")]])]⟩

/-- A page of references to one user, to several, to nobody and to null. -/
def page : List Row :=
  [[("ref", .ofInt 7)], [("ref", .arr [.str "b", .ofInt 7])], [("ref", .str "d")], [("ref", .null)], [("ref", .str "b")]]

/-- The page with its users. -/
def shown : List Row :=
  [[("owner", .obj [("id", .ofInt 7), ("name", .str "Ann")]), ("ref", .ofInt 7)],
    [("owner", .arr [.obj [("id", .str "b"), ("name", .str "Bob")], .obj [("id", .ofInt 7), ("name", .str "Ann")]]),
      ("ref", .arr [.str "b", .ofInt 7])],
    [("owner", .null), ("ref", .str "d")],
    [("ref", .null)],
    [("owner", .obj [("id", .str "b"), ("name", .str "Bob")]), ("ref", .str "b")]]

theorem expand_page : outcome (expand staff.toStore field join page) = .ok shown := by
  have ids : keys page field.column = [.ofInt 7, .str "b", .str "d"] := by decide +kernel
  have records : recordsFor staff join [.ofInt 7, .str "b", .str "d"] =
      [("7", [("id", .ofInt 7), ("name", .str "Ann")]), ("b", [("id", .str "b"), ("name", .str "Bob")])] := by
    rw [recordsFor, MemoryStore.find_unsorted _ _ rfl rfl rfl]
    decide +kernel
  have written : expandBy staff field join [.ofInt 7, .str "b", .str "d"] = expandRow field
      [("7", [("id", .ofInt 7), ("name", .str "Ann")]), ("b", [("id", .str "b"), ("name", .str "Bob")])] :=
    funext fun row => by rw [expandBy, if_neg (List.cons_ne_nil _ _), records]
  rw [outcome_expand, ids, written]
  exact congrArg Except.ok (by decide +kernel)

end Owners

instance (store : MemoryStore) (join : JoinDescriptor) (id : Json) : Decidable (FindsItsText store join id) :=
  inferInstanceAs (Decidable (∀ record ∈ store.rows join.model, ∀ key ∈ record.lookup join.keyColumn, _ → _))

instance (store : MemoryStore) (field : Field) (join : JoinDescriptor) (rows : List Row) :
    Decidable (KeepsApart store field join rows) :=
  decidable_of_iff (_ ∧ _) ⟨fun ⟨finds, empty⟩ => ⟨finds, empty⟩, fun h => ⟨h.finds, h.empty⟩⟩

/-- The rows of a page of references are expanded as each is on its own, whoever is referred to twice or not at all. So is
every page of texts over users with texts for ids, and an empty list is told apart by another row. -/
theorem expand_alone_owners :
    (∀ record ∈ Owners.staff.rows "users", (Json.obj record).isOrdered = true) ∧
    KeepsApart Owners.staff Owners.field Owners.join Owners.page ∧
    ExpandsAlone Owners.staff Owners.field Owners.join Owners.page ∧
    outcome (expand Owners.staff.toStore Owners.field Owners.join Owners.page) = .ok Owners.shown ∧
    (∀ store rows, DrawnFrom (fun value => ∃ s, value = .str s) store Owners.field Owners.join rows →
      ExpandsAlone store Owners.field Owners.join rows) ∧
    ∃ other, ¬ ExpandsAlone Owners.staff Owners.field Owners.join [[("ref", .arr [])], other] := by
  have ordered : ∀ record ∈ Owners.staff.rows "users", (Json.obj record).isOrdered = true := by decide +kernel
  have apart : KeepsApart Owners.staff Owners.field Owners.join Owners.page := by decide +kernel
  obtain ⟨alone, scalar, empty⟩ := expand_alone Owners.field Owners.join
  refine ⟨ordered, apart, alone Owners.staff Owners.page ordered apart, Owners.expand_page,
    (scalar _ ?_).mpr ?_, ?_⟩
  · rintro value ⟨s, rfl⟩
    rfl
  · rintro a b ⟨s, rfl⟩ ⟨t, rfl⟩ text
    exact (show s = t from text) ▸ (Json.str s).looselyEqual_refl
  · obtain ⟨other, told⟩ := empty [("ref", .arr [])] (by decide +kernel) (by decide +kernel)
    exact ⟨other, told Owners.staff⟩

/-- A text is expanded by the record of a number that comes before it, and to null on its own. An empty list is written
where the records go only for the sake of another row. -/
theorem text_expanded_by_number :
    Owners.expanded [[("ref", .ofInt 7)], [("ref", .str "7")]] = some
      [[("owner", .obj [("id", .ofInt 7)]), ("ref", .ofInt 7)], [("owner", .obj [("id", .ofInt 7)]), ("ref", .str "7")]] ∧
    Owners.expanded [[("ref", .str "7")]] = some [[("owner", .null), ("ref", .str "7")]] ∧
    ¬ ExpandsAlone Owners.store Owners.field Owners.join [[("ref", .ofInt 7)], [("ref", .str "7")]] ∧
    Owners.expanded [[("ref", .arr [])], [("ref", .ofInt 7)]] = some
      [[("owner", .arr []), ("ref", .arr [])], [("owner", .obj [("id", .ofInt 7)]), ("ref", .ofInt 7)]] ∧
    Owners.expanded [[("ref", .arr [])]] = some [[("ref", .arr [])]] ∧
    ¬ ExpandsAlone Owners.store Owners.field Owners.join [[("ref", .arr [])], [("ref", .ofInt 7)]] := by
  simp only [expandsAlone_iff]
  decide +kernel

end DataGrid.Join
