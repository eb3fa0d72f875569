-- SUMMARY: What the expansion of a join writes into a row, and which paths it leaves alone.
import DataGrid.Proofs.CollectionGrid
import DataGrid.Proofs.Path

/-!
# Expanded joins

Expanding a join reads one column of a row and writes at one place, the destination
of the join. Every path apart from this place is kept, and no other one is. What is
written depends on the row only through the column. In memory a row on its own
expands without fail, one field after the other.
-/

namespace DataGrid

namespace Row

/-- What stands at a path after a value is written somewhere is told by what has stood there. -/
theorem at?_insertAt_congr {a b : Row} {path other : List String} (hpath : path ≠ []) (same : at? a other = at? b other)
    (value : Json) : at? (insertAt a path value) other = at? (insertAt b path value) other := by
  by_cases apart : Apart path other
  · rwa [at?_insertAt_of_apart a apart, at?_insertAt_of_apart b apart]
  rcases not_apart_iff.mp apart with ⟨rest, rfl⟩ | ⟨rest, rfl⟩
  · refine at?_append_congr hpath ?_ rest
    rw [at?_insertAt_self a hpath, at?_insertAt_self b hpath]
  · by_cases root : other = []
    · rw [root]
      rfl
    by_cases last : rest = []
    · rw [last, List.append_nil, at?_insertAt_self a root, at?_insertAt_self b root]
    · rw [at?_insertAt_append a root last, at?_insertAt_append b root last, same]

/-- Records that are written at a place are told apart by what stands there or below. -/
theorem exists_at?_insertAt_ne (row : Row) {path : List String} (hpath : path ≠ []) (rest : List String)
    (held : Option Json) : ∃ record : Row, at? (insertAt row path (.obj record)) (path ++ rest) ≠ held := by
  by_cases last : rest = []
  · have written (record : Row) : at? (insertAt row path (.obj record)) (path ++ rest) = some (.obj record) := by
      rw [last, List.append_nil, at?_insertAt_self row hpath]
    by_cases empty : held = some (.obj [])
    · refine ⟨[("", .null)], fun same => ?_⟩
      rw [written, empty] at same
      simp at same
    · exact ⟨[], fun same => empty (same.symm.trans (written []))⟩
  · have written (value : Json) :
        at? (insertAt row path (.obj (insertAt [] rest value))) (path ++ rest) = some value := by
      rw [at?_append _ hpath last, at?_insertAt_self row hpath]
      exact at?_insertAt_self [] last value
    by_cases null : held = some .null
    · refine ⟨insertAt [] rest (.bool true), fun same => ?_⟩
      rw [written, null] at same
      cases same
    · exact ⟨insertAt [] rest .null, fun same => null (same.symm.trans (written .null))⟩

end Row

namespace Join

/-! ## Records and rows -/

/-- Put a record under the key text of what it holds at a column, if it holds something. -/
def fileUnder (column : String) (byKey : Keyed Row) (record : Row) : Keyed Row :=
  match record.lookup column with
  | some value => Keyed.insert byKey value.keyText record
  | none => byKey

theorem index_eq (records : List Row) (column : String) : index records column = records.foldl (fileUnder column) [] :=
  rfl

/-- Whether a record is given out for a key text. -/
def isUnder (column text : String) (record : Row) : Bool :=
  (record.lookup column).any (·.keyText == text)

/-- Of the records with one key text the last is given out. -/
theorem get?_index (records : List Row) (column text : String) :
    Keyed.get? (index records column) text = (records.filter (isUnder column text)).getLast? := by
  induction records using List.reverseRecOn with
  | nil => rfl
  | append_singleton records record ih =>
    rw [index_eq, List.foldl_append, ← index_eq, List.foldl_cons, List.foldl_nil, List.filter_append, fileUnder]
    cases held : record.lookup column with
    | none =>
      have under : isUnder column text record = false := by rw [isUnder, held]; rfl
      simp [ih, under]
    | some value =>
      by_cases same : value.keyText = text
      · have under : isUnder column text record = true := by simp [isUnder, held, same]
        simp [same, under]
      · have under : isUnder column text record = false := by simp [isUnder, held, same]
        simp [Keyed.get?_insert_of_ne same, ih, under]

/-- The records by which a field of some rows is expanded. -/
def recordsFor (store : MemoryStore) (join : JoinDescriptor) (keys : List Json) : Keyed Row :=
  index (store.find join.model (selection join keys)) join.keyColumn

/-- A row with a field expanded by the records of some ids. It stays as it is if there are no ids. -/
def expandBy (store : MemoryStore) (field : Field) (join : JoinDescriptor) (ids : List Json) (row : Row) : Row :=
  if ids = [] then row else expandRow field (recordsFor store join ids) row

/-- A field of some rows is expanded without fail, in each row by the records of the ids of all. -/
theorem outcome_expand (store : MemoryStore) (field : Field) (join : JoinDescriptor) (rows : List Row) :
    outcome (expand store.toStore field join rows) = .ok
      (rows.map (expandBy store field join (keys rows field.column))) := by
  unfold expand expandBy
  cases keys rows field.column with
  | nil => exact congrArg Except.ok (List.map_id' rows).symm
  | cons key others => exact outcome_bind_eq_ok.mpr ⟨_, MemoryStore.outcome_find .., outcome_pure _⟩


/-! ## Paths that are kept -/

/-- Expanding a field in a row keeps every path apart from where the records go. -/
theorem at?_expandRow {field : Field} {path : List String} (apart : Row.Apart (Text.segments field.source) path)
    (byKey : Keyed Row) (row : Row) : Row.at? (expandRow field byKey row) path = Row.at? row path := by
  unfold expandRow
  split
  · exact Row.at?_insertAt_of_apart row apart _
  · rfl

/-- A path is kept by every expansion of a field only if it is apart from where the records go. -/
theorem at?_expandRow_iff {field : Field} {path : List String} (hpath : path ≠ []) :
    (∀ byKey row, Row.at? (expandRow field byKey row) path = Row.at? row path) ↔
      Row.Apart (Text.segments field.source) path := by
  refine ⟨fun kept => ?_, at?_expandRow⟩
  -- a row that holds an id, which joins a record of our choice
  let row : Row := Row.insert [] field.column (.str "")
  have expanded (record : Row) :
      expandRow field [(Json.keyText (.str ""), record)] row = row.insert field.source (.obj record) := by
    have held : row.lookup field.column = some (.str "") := Row.lookup_insert_self [] field.column _
    have joined : resolve [(Json.keyText (.str ""), record)] (.str "") = some (.obj record) := by
      simp [resolve, Keyed.get?_cons]
    have replaced : expansion? [(Json.keyText (.str ""), record)] (some (.str "")) = some (.obj record) := by
      change some ((resolve _ _).getD .null) = _
      rw [joined]
      rfl
    rw [expandRow, held, replaced]
  have source := Text.segments_ne_nil field.source
  have unseen (record : Row) :
      Row.at? (Row.insertAt row (Text.segments field.source) (.obj record)) path = Row.at? row path := by
    rw [← kept [(Json.keyText (.str ""), record)] row, expanded record]
    rfl
  by_contra together
  rcases Row.not_apart_iff.mp together with ⟨rest, rfl⟩ | ⟨rest, hsource⟩
  · obtain ⟨record, seen⟩ := Row.exists_at?_insertAt_ne row source rest (Row.at? row (Text.segments field.source ++ rest))
    exact seen (unseen record)
  · obtain ⟨record, seen⟩ := Row.exists_at?_insertAt_ne row source [] (Row.at? row (Text.segments field.source))
    refine seen ?_
    rw [List.append_nil, ← hsource]
    have same := unseen record
    rw [← hsource] at same
    exact Row.at?_append_congr hpath same rest

/-- Expanding joins keeps every path apart from where the records of each go. -/
theorem at?_expandAll {store : Store Id} {fields : List Field} {rows expanded : List Row} {path : List String}
    (apart : ∀ field ∈ fields, field.join.isSome = true → Row.Apart (Text.segments field.source) path)
    (h : outcome (expandAll store fields rows) = .ok expanded) :
    expanded.map (Row.at? · path) = rows.map (Row.at? · path) := by
  refine expandAll_induction (p := fun expanded => expanded.map (Row.at? · path) = rows.map (Row.at? · path)) rfl ?_ h
  intro field hfield joins before byKey same
  rw [← same, List.map_map]
  exact List.map_congr_left fun row _ => at?_expandRow (apart field hfield joins) byKey row


/-! ## One row in memory -/

/-- What takes the place of the ids that a field holds, if it joins and holds any. -/
def replacement? (store : MemoryStore) (field : Field) (held : Option Json) : Option Json :=
  field.join.bind fun join =>
    match distinct (values held) with
    | [] => none
    | keys => expansion? (index (store.find join.model (selection join keys)) join.keyColumn) held

/-- A row on its own with a field expanded. -/
def expandIn (store : MemoryStore) (row : Row) (field : Field) : Row :=
  match replacement? store field (row.lookup field.column) with
  | some value => row.insert field.source value
  | none => row

theorem expandIn_of_plain (store : MemoryStore) (row : Row) {field : Field} (plain : field.join = none) :
    expandIn store row field = row := by
  rw [expandIn, replacement?, plain]
  rfl

/-- A row on its own has its joins expanded without fail. -/
theorem expandAll_singleton (store : MemoryStore) (fields : List Field) (row : Row) :
    outcome (expandAll store.toStore fields [row]) = .ok [fields.foldl (expandIn store) row] := by
  induction fields generalizing row with
  | nil => rfl
  | cons field rest ih =>
    unfold expandAll
    rw [List.foldl_cons]
    split
    · next join hjoin =>
      refine outcome_bind_eq_ok.mpr ⟨[expandIn store row field], ?_, ih _⟩
      unfold expand
      have own : keys [row] field.column = distinct (values (row.lookup field.column)) := by
        rw [keys, List.flatMap_cons, List.flatMap_nil, List.append_nil]
      rw [own, expandIn, replacement?, hjoin, Option.bind_some]
      cases distinct (values (row.lookup field.column)) with
      | nil => rfl
      | cons key others =>
        exact outcome_bind_eq_ok.mpr ⟨_, MemoryStore.outcome_find .., outcome_pure _⟩
    · next plain => rw [expandIn_of_plain store row plain, ih]

/-- What stands where a field is shown after it is expanded is told by its ids and by what has stood there. -/
theorem lookup_expandIn_congr {store : MemoryStore} {field : Field} {a b : Row}
    (ids : field.join.isSome = true → a.lookup field.column = b.lookup field.column)
    (shown : a.lookup field.source = b.lookup field.source) :
    (expandIn store a field).lookup field.source = (expandIn store b field).lookup field.source := by
  have source := Text.segments_ne_nil field.source
  cases hjoin : field.join with
  | none =>
    rw [expandIn_of_plain store a hjoin, expandIn_of_plain store b hjoin]
    exact shown
  | some join =>
    unfold expandIn
    rw [ids (by rw [hjoin]; rfl)]
    split
    · exact (Row.at?_insertAt_self a source _).trans (Row.at?_insertAt_self b source _).symm
    · exact shown

theorem at?_expandIn {store : MemoryStore} {field : Field} {path : List String}
    (apart : field.join.isSome = true → Row.Apart (Text.segments field.source) path) (row : Row) :
    Row.at? (expandIn store row field) path = Row.at? row path := by
  cases hjoin : field.join with
  | none => rw [expandIn_of_plain store row hjoin]
  | some join =>
    unfold expandIn
    split
    · exact Row.at?_insertAt_of_apart row (apart (by rw [hjoin]; rfl)) _
    · rfl

/-- Expanding fields in a row keeps every path apart from where the records of each go. -/
theorem at?_foldl_expandIn {store : MemoryStore} {fields : List Field} {path : List String}
    (apart : ∀ field ∈ fields, field.join.isSome = true → Row.Apart (Text.segments field.source) path) (row : Row) :
    Row.at? (fields.foldl (expandIn store) row) path = Row.at? row path := by
  refine List.foldlRecOn (motive := fun expanded => Row.at? expanded path = Row.at? row path) fields _ rfl
    fun expanded kept field hfield => ?_
  rw [at?_expandIn (apart field hfield), kept]

end Join

end DataGrid
