-- SUMMARY: Which of the values that records join by become keys, and which rows the keys let through.
import DataGrid.Proofs.CollectionGrid
import DataGrid.Proofs.LooseEquality

/-!
# Join keys

The keys of some records are the first values of their key texts, in the order in
which these are seen. A test for the keys lets through what a test for all values does
where each value is loosely equal to a key, which one key text alone does not make it:
`7` and the text `"7"` have the same one, and are not equal.
-/

namespace DataGrid.Join

open Json (StandFor)

/-! ## Values and keys -/

/-- All values by which some rows join, those of a list one by one. -/
def joined (rows : List Row) (column : String) : List Json :=
  rows.flatMap fun row => values (row.lookup column)

/-- Of some values those that are the first of their key texts are kept, in the order in which these are first seen. -/
structure KeepsFirst (values kept : List Json) : Prop where
  mem_iff : ∀ value, value ∈ kept ↔ values.find? (·.keyText == value.keyText) = some value
  ordered : kept.Pairwise fun a b =>
    (values.map Json.keyText).idxOf a.keyText < (values.map Json.keyText).idxOf b.keyText
  nodup : (kept.map Json.keyText).Nodup

theorem keepsFirst_keys (rows : List Row) (column : String) : KeepsFirst (joined rows column) (keys rows column) where
  mem_iff _ := mem_distinct
  ordered := pairwise_distinct _
  nodup := nodup_distinct _

theorem mem_joined {rows : List Row} {column : String} {value : Json} :
    value ∈ joined rows column ↔ ∃ row ∈ rows, value ∈ values (row.lookup column) :=
  List.mem_flatMap

/-- Null joins nothing by itself, but an element of a list may be null. -/
theorem null_mem_values {held : Option Json} : .null ∈ values held ↔ ∃ items, held = some (.arr items) ∧ .null ∈ items := by
  cases held with
  | none => simp [values]
  | some value => cases value <;> simp [values]

/-- More rows at the end leave the keys that are there, and their order. -/
theorem keys_isPrefix_append (rows later : List Row) (column : String) : keys rows column <+: keys (rows ++ later) column := by
  have kept (seen : List String) (values others : List Json) :
      distinctFrom seen values <+: distinctFrom seen (values ++ others) := by
    induction values generalizing seen with
    | nil => exact List.nil_prefix
    | cons first rest ih =>
      rw [List.cons_append, distinctFrom, distinctFrom]
      split
      · exact ih seen
      · exact (List.prefix_cons_inj first).mpr (ih _)
  rw [keys, keys, List.flatMap_append]
  exact kept [] _ _


/-! ## Keys that stand for all values -/

/-- Equal key texts of the values by which some rows join are those of loosely equal values. -/
def TextsTellEquals (rows : List Row) (column : String) : Prop :=
  ∀ a ∈ joined rows column, ∀ b ∈ joined rows column, a.keyText = b.keyText → a.looselyEqual b = true

instance (rows : List Row) (column : String) : Decidable (TextsTellEquals rows column) :=
  inferInstanceAs (Decidable (∀ a ∈ joined rows column, ∀ b ∈ joined rows column, _ → _))

example : ¬ TextsTellEquals [[("id", .str "7")], [("id", .ofInt 7)]] "id" := by decide +kernel

theorem TextsTellEquals.standFor {rows : List Row} {column : String} (told : TextsTellEquals rows column) :
    StandFor (keys rows column) (joined rows column) := by
  intro value hvalue
  obtain ⟨key, hkey, same⟩ := exists_mem_distinct hvalue
  exact ⟨key, hkey, told value hvalue key (mem_of_mem_distinct hkey) same.symm⟩

/-- The keys of some records are the first values of their key texts, and null is among them only where a list holds null.
They let through the rows that all values but null do exactly if null is not among them and each value is loosely equal to
a key. More records take no row away if they come last, or if equal key texts are those of loosely equal values; whether
other records do is told by the keys. -/
theorem keys_keep_rows (records : List Row) (foreignKey : String) :
    KeepsFirst (joined records foreignKey) (keys records foreignKey) ∧
    (.null ∈ keys records foreignKey →
      ∃ record ∈ records, ∃ items, record.lookup foreignKey = some (.arr items) ∧ .null ∈ items) ∧
    (∀ primaryKey, (∀ row, (Predicate.oneOf primaryKey (keys records foreignKey)).holds row =
        (Predicate.oneOf primaryKey ((joined records foreignKey).filter (· ≠ .null))).holds row) ↔
      .null ∉ keys records foreignKey ∧
        StandFor (keys records foreignKey) ((joined records foreignKey).filter (· ≠ .null))) ∧
    (∀ more primaryKey, (∀ row, (Predicate.oneOf primaryKey (keys records foreignKey)).holds row = true →
        (Predicate.oneOf primaryKey (keys more foreignKey)).holds row = true) ↔
      StandFor (keys more foreignKey) (keys records foreignKey)) ∧
    (∀ later, StandFor (keys (records ++ later) foreignKey) (keys records foreignKey)) ∧
    ∀ more, records ⊆ more → TextsTellEquals more foreignKey →
      StandFor (keys more foreignKey) (keys records foreignKey) := by
  refine ⟨keepsFirst_keys records foreignKey, fun null => ?_, fun primaryKey => ?_, fun more primaryKey =>
    Predicate.holds_oneOf_mono_iff primaryKey, fun later key hkey => ?_, fun more within told key hkey => ?_⟩
  · obtain ⟨record, hrecord, held⟩ := mem_of_mem_keys null
    exact ⟨record, hrecord, null_mem_values.mp held⟩
  · rw [Predicate.holds_oneOf_eq_iff, and_comm]
    refine and_congr_left fun _ => ⟨fun stand null => ?_, fun unnull key hkey => ?_⟩
    · obtain ⟨value, hvalue, equal⟩ := stand .null null
      obtain rfl := Json.looselyEqual_null.mp (Json.looselyEqual_symm equal)
      simp at hvalue
    · have some : key ≠ .null := fun same => unnull (same ▸ hkey)
      exact ⟨key, List.mem_filter.mpr ⟨mem_of_mem_distinct hkey, by simpa using some⟩, key.looselyEqual_refl⟩
  · exact ⟨key, List.IsPrefix.subset (keys_isPrefix_append records later foreignKey) hkey, key.looselyEqual_refl⟩
  · obtain ⟨record, hrecord, held⟩ := mem_of_mem_keys hkey
    exact told.standFor key (mem_joined.mpr ⟨record, within hrecord, held⟩)

namespace Customers

/-- Records of customers: one has two ids, one none, and one id occurs twice. -/
def records : List Row :=
  [[("id", .str "c1")], [("id", .ofInt 7)], [("id", .arr [.str "c2", .str "c1"])], [("id", .null)], [("name", .str "x")]]

/-- Another customer, whose id has the key text of one that is there. -/
def later : List Row :=
  [[("id", .str "7")]]

end Customers

/-- Three keys stand for all ids of some records: they let the same rows through. A record at the end takes none away, and
one in front takes none away either, if no two ids with one key text are unequal. -/
theorem keys_keep_rows_customers :
    keys Customers.records "id" = [.str "c1", .ofInt 7, .str "c2"] ∧
    joined Customers.records "id" = [.str "c1", .ofInt 7, .str "c2", .str "c1"] ∧
    KeepsFirst (joined Customers.records "id") (keys Customers.records "id") ∧
    (∀ row, (Predicate.oneOf "customer" (keys Customers.records "id")).holds row =
      (Predicate.oneOf "customer" ((joined Customers.records "id").filter (· ≠ .null))).holds row) ∧
    (Predicate.oneOf "customer" (keys Customers.records "id")).holds [("customer", .str "c2")] = true ∧
    (Predicate.oneOf "customer" (keys Customers.records "id")).holds [("customer", .str "7")] = false ∧
    (∀ row, (Predicate.oneOf "customer" (keys Customers.records "id")).holds row = true →
      (Predicate.oneOf "customer" (keys (Customers.records ++ Customers.later) "id")).holds row = true) ∧
    TextsTellEquals ([("id", .str "c3")] :: Customers.records) "id" ∧
    ∀ row, (Predicate.oneOf "customer" (keys Customers.records "id")).holds row = true →
      (Predicate.oneOf "customer" (keys ([("id", .str "c3")] :: Customers.records) "id")).holds row = true := by
  have told : TextsTellEquals ([("id", .str "c3")] :: Customers.records) "id" := by decide +kernel
  obtain ⟨first, -, same, more, later, within⟩ := keys_keep_rows Customers.records "id"
  refine ⟨by decide +kernel, by decide +kernel, first, (same "customer").mpr (by decide +kernel), by decide +kernel,
    by decide +kernel, (more _ "customer").mpr (later Customers.later), told, (more _ "customer").mpr (within _ ?_ told)⟩
  exact List.subset_cons_self _ _

/-- The number of a record is lost to the text of another one: the row that joins it is let through by both values, and by
the number alone, but not by their one key. And null is a key where a list holds it. -/
theorem number_lost_to_text :
    keys [[("id", .str "7")], [("id", .ofInt 7)]] "id" = [.str "7"] ∧
    (Predicate.oneOf "customer" (joined [[("id", .str "7")], [("id", .ofInt 7)]] "id")).holds
      [("customer", .ofInt 7)] = true ∧
    (Predicate.oneOf "customer" (keys [[("id", .ofInt 7)]] "id")).holds [("customer", .ofInt 7)] = true ∧
    (Predicate.oneOf "customer" (keys [[("id", .str "7")], [("id", .ofInt 7)]] "id")).holds
      [("customer", .ofInt 7)] = false ∧
    keys [[("id", .arr [.null, .str "c1"])]] "id" = [.null, .str "c1"] := by
  decide +kernel

end DataGrid.Join
