-- SUMMARY: What stores hold after any history of insertions, and where two names are one collection.
import DataGrid.Proofs.Sql.Agreement

/-!
# Histories of insertions

A history inserts values into collections and asks questions in between. An insertion
is refused, or it appends all of its values. A collection then holds what was
inserted under its name, in order. SQL compares the names of tables without the case
of their letters, so there it also holds what was inserted under other spellings.
-/

namespace DataGrid

/-! ## Histories -/

/-- What a store can be asked. -/
inductive Question where
  | count (collection : String) (predicate : Predicate)
  | find (collection : String) (selection : Selection)

/-- The statement that a question is sent as. -/
def Question.statement : Question → Except StoreFault Sql.Statement
  | .count collection predicate => Sql.countStatement collection predicate
  | .find collection selection => Sql.findStatement collection selection

/-- What is done with a store. -/
inductive Deed where
  | insert (collection : String) (values : List Json)
  | ask (question : Question)

/-- A kind of store: how it begins, what it makes of values, and what a question leaves behind. -/
structure Backend (σ : Type) where
  fresh : σ
  insert : σ → String → List Json → Result (Nat × σ)
  ask : σ → Question → σ

def MemoryStore.backend : Backend MemoryStore where
  fresh := .empty
  insert := MemoryStore.insert
  ask store _ := store

def SqlStore.backend : Backend SqlStore where
  fresh := .empty
  insert := SqlStore.insert
  ask store question := store.afterwards question.statement

/-- A store, and the insertions that it has accepted. -/
structure Ledger (σ : Type) where
  store : σ
  accepted : List (String × List Json)

/-- The values that were inserted under certain names, in order. -/
def Ledger.values {σ : Type} (ledger : Ledger σ) (names : String → Bool) : List Json :=
  (ledger.accepted.filter (names ·.1)).flatMap (·.2)

/-- The values that were inserted under one name, in order. -/
def Ledger.valuesOf {σ : Type} (ledger : Ledger σ) (collection : String) : List Json :=
  ledger.values fun name => name = collection

namespace Backend

variable {σ : Type}

/-- Do one thing. An insertion that is refused leaves everything as it is. -/
def step (b : Backend σ) (ledger : Ledger σ) : Deed → Ledger σ
  | .insert collection values =>
    match b.insert ledger.store collection values with
    | .ok (_, next) => ⟨next, ledger.accepted ++ [(collection, values)]⟩
    | .error _ => ledger
  | .ask question => { ledger with store := b.ask ledger.store question }

/-- An insertion that is refused changes nothing. -/
theorem step_of_refused {b : Backend σ} {ledger : Ledger σ} {collection : String} {values : List Json} {e : GridError}
    (refused : b.insert ledger.store collection values = .error e) :
    b.step ledger (.insert collection values) = ledger := by
  unfold step
  simp only [refused]

/-- Do some things one after the other with a fresh store. -/
def run (b : Backend σ) (deeds : List Deed) : Ledger σ :=
  deeds.foldl b.step ⟨b.fresh, []⟩

/-- An insertion takes all values or none. It is refused unless its collection may be inserted into and every value is an
object; it counts its values; and if it is refused, nothing has changed. -/
structure Atomic (b : Backend σ) (admits : String → Bool) (ledger : Ledger σ) (collection : String)
    (values : List Json) : Prop where
  accepted : (∃ n next, b.insert ledger.store collection values = .ok (n, next)) ↔
    admits collection = true ∧ ∃ rows : List Row, values = rows.map .obj
  counted : ∀ n next, b.insert ledger.store collection values = .ok (n, next) → n = values.length
  refused : ∀ e, b.insert ledger.store collection values = .error e → b.step ledger (.insert collection values) = ledger

/-- A kind of store that appends to its documents what is inserted, for all names that it takes for the same. -/
structure Keeps (b : Backend σ) (documents : σ → String → List Row) (same : String → String → Bool) : Prop where
  fresh : ∀ collection, documents b.fresh collection = []
  insert : ∀ {store next : σ} {name : String} {values : List Json} {n : Nat},
    b.insert store name values = .ok (n, next) → ∀ collection,
      (documents next collection).map .obj =
        (documents store collection).map .obj ++ if same name collection then values else []
  ask : ∀ store question collection, documents (b.ask store question) collection = documents store collection

variable {b : Backend σ} {documents : σ → String → List Row} {same : String → String → Bool}

/-- One thing more is done, and the documents of a collection are still what was inserted under its names. -/
theorem Keeps.step (keeps : b.Keeps documents same) {ledger : Ledger σ} {collection : String}
    (held : (documents ledger.store collection).map .obj = ledger.values (same · collection)) (deed : Deed) :
    (documents (b.step ledger deed).store collection).map .obj = (b.step ledger deed).values (same · collection) := by
  cases deed with
  | ask question =>
    change (documents (b.ask ledger.store question) collection).map _ = _
    rw [keeps.ask]
    exact held
  | insert name values =>
    unfold Backend.step
    dsimp only
    cases inserted : b.insert ledger.store name values with
    | error e => exact held
    | ok result =>
      obtain ⟨n, next⟩ := result
      dsimp only
      rw [keeps.insert inserted collection, held]
      by_cases here : same name collection <;> simp [Ledger.values, here]

/-- After any history the documents of a collection are what was inserted under its names. -/
theorem Keeps.run (keeps : b.Keeps documents same) (deeds : List Deed) (collection : String) :
    (documents (b.run deeds).store collection).map .obj = (b.run deeds).values (same · collection) := by
  have all : ∀ ledger : Ledger σ, (documents ledger.store collection).map .obj = ledger.values (same · collection) →
      (documents (deeds.foldl b.step ledger).store collection).map .obj =
        (deeds.foldl b.step ledger).values (same · collection) := by
    induction deeds with
    | nil => exact fun _ held => held
    | cons deed rest ih => exact fun ledger held => ih _ (keeps.step held deed)
  refine all _ ?_
  rw [keeps.fresh]
  rfl

end Backend

namespace Ledger

variable {σ : Type} {ledger : Ledger σ} {names fewer : String → Bool}

/-- Under fewer names there are not more values. -/
private theorem length_values_le (within : ∀ name, fewer name = true → names name = true)
    (entries : List (String × List Json)) :
    ((entries.filter (fewer ·.1)).flatMap (·.2)).length ≤ ((entries.filter (names ·.1)).flatMap (·.2)).length := by
  induction entries with
  | nil => exact Nat.le_refl _
  | cons entry rest ih =>
    by_cases few : fewer entry.1 = true
    · simpa [few, within _ few] using ih
    · by_cases wide : names entry.1 = true
      · simp only [List.filter_cons, few, wide, Bool.false_eq_true, if_false, if_true, List.flatMap_cons, List.length_append]
        omega
      · simpa [few, wide] using ih

/-- The values under some names are those under fewer of them exactly where none were inserted under the others. -/
theorem values_eq_iff (within : ∀ name, fewer name = true → names name = true) :
    ledger.values names = ledger.values fewer ↔
      ∀ entry ∈ ledger.accepted, names entry.1 = true → fewer entry.1 = false → entry.2 = [] := by
  obtain ⟨store, accepted⟩ := ledger
  simp only [values]
  induction accepted with
  | nil => simp
  | cons entry rest ih =>
    rw [List.forall_mem_cons, ← ih]
    by_cases few : fewer entry.1 = true
    · simp [few, within _ few]
    · by_cases wide : names entry.1 = true
      · have bound := length_values_le within rest
        simp only [List.filter_cons, few, wide, Bool.false_eq_true, if_false, if_true, List.flatMap_cons]
        constructor
        · intro same
          have lengths := congrArg List.length same
          rw [List.length_append] at lengths
          have none : entry.2 = [] := List.length_eq_zero_iff.mp (by omega)
          rw [none, List.nil_append] at same
          exact ⟨fun _ _ => none, same⟩
        · rintro ⟨none, same⟩
          rw [none trivial (by simp), List.nil_append, same]
      · simp [few, wide]

end Ledger


/-! ## What stores accept -/

theorem MemoryStore.atomic (ledger : Ledger MemoryStore) (collection : String) (values : List Json) :
    backend.Atomic (fun _ => true) ledger collection values where
  accepted := by
    simp only [backend, insert_eq_ok_iff, true_and]
    constructor
    · rintro ⟨n, next, rows, rfl, -, -⟩
      exact ⟨rows, rfl⟩
    · rintro ⟨rows, rfl⟩
      exact ⟨_, _, rows, rfl, rfl, rfl⟩
  counted n next inserted := by
    obtain ⟨rows, rfl, rfl, -⟩ := insert_eq_ok_iff.mp inserted
    rw [List.length_map]
  refused _ := Backend.step_of_refused

theorem MemoryStore.keeps : backend.Keeps rows (fun name collection => name = collection) where
  fresh _ := rfl
  ask _ _ _ := rfl
  insert := by
    intro store next name values n inserted collection
    obtain ⟨added, rfl, -, rfl⟩ := insert_eq_ok_iff.mp inserted
    by_cases here : name = collection
    · simp [rows, here]
    · simp [rows, here, Keyed.get?_insert_of_ne here]

/-- In memory every collection is found as it stands. -/
theorem MemoryStore.find_all (store : MemoryStore) (collection : String) :
    store.find collection (.whole .all) = store.rows collection := by
  have all : store.matching collection .all = store.rows collection := List.filter_eq_self.mpr fun _ _ => rfl
  rw [find_unsorted store collection rfl rfl rfl, Selection.whole, all]
  exact List.map_id _

namespace SqlStore

variable {store next : SqlStore} {collection : String}

theorem documents_afterwards (store : SqlStore) (statement : Except StoreFault Sql.Statement) (other : String) :
    (store.afterwards statement).documents other = store.documents other := by
  cases statement with
  | error fault => rfl
  | ok statement =>
    rw [afterwards]
    cases opened : store.withTable statement.collection with
    | error fault => rfl
    | ok next => exact documents_withTable opened other

/-- Whether two names are those of one table. -/
def sameTable (name collection : String) : Bool :=
  Text.asciiLower name = Text.asciiLower collection

/-- Whether a collection can have a table. -/
def admits (collection : String) : Bool :=
  Text.isIdentifier collection && !Sql.isReserved collection

theorem atomic (ledger : Ledger SqlStore) (collection : String) (values : List Json) :
    backend.Atomic admits ledger collection values where
  accepted := by
    simp only [backend, insert_eq_ok_iff, withTable_eq_ok, admits, Bool.and_eq_true, Bool.not_eq_true']
    constructor
    · rintro ⟨n, next, named, rows, rfl, opened, ⟨free, -⟩, -⟩
      exact ⟨⟨named, free⟩, rows, rfl⟩
    · rintro ⟨⟨named, free⟩, rows, rfl⟩
      exact ⟨_, _, named, rows, rfl, _, ⟨free, rfl⟩, rfl, rfl⟩
  counted n next inserted := by
    obtain ⟨-, rows, rfl, opened, -, rfl, -⟩ := insert_eq_ok_iff.mp inserted
    rw [List.length_map]
  refused _ := Backend.step_of_refused

theorem keeps : backend.Keeps documents sameTable where
  fresh _ := rfl
  ask store question := documents_afterwards store question.statement
  insert := by
    intro store next name values n inserted collection
    obtain ⟨-, added, rfl, opened, hopened, -, rfl⟩ := insert_eq_ok_iff.mp inserted
    rw [documents_setDocuments, documents_withTable hopened, documents_withTable hopened]
    by_cases here : Text.asciiLower name = Text.asciiLower collection
    · simp [sameTable, here, SqlStore.documents]
    · simp [sameTable, here]

/-- A search for whole rows without a condition is prepared, whatever tables there are. -/
private theorem check_all {statement : Sql.Statement} (predicate : statement.predicate = .all)
    (trailing : statement.trailing = 2) (orderings : statement.orderings = 1) (hidden : Bool) :
    statement.check hidden = .ok () := by
  obtain ⟨collection, _, _, _, text⟩ := statement
  subst predicate trailing orderings
  cases hidden <;> rfl

private theorem findStatement_all (named : Text.isIdentifier collection = true) :
    ∃ statement, Sql.findStatement collection (.whole .all) = .ok statement ∧ statement.collection = collection ∧
      ∀ hidden, statement.check hidden = .ok () := by
  have statement : ∃ s, Sql.findStatement collection (.whole .all) = .ok s ∧ s.collection = collection ∧
      s.predicate = .all ∧ s.trailing = 2 ∧ s.orderings = 1 := by
    have table : Sql.table collection = .ok s!"\"{collection}\"" := if_pos named
    simp only [Sql.findStatement, table, Selection.whole, Sql.condition, List.mapM_nil]
    exact ⟨_, rfl, rfl, rfl, rfl, rfl⟩
  obtain ⟨s, hs, target, predicate, trailing, orderings⟩ := statement
  exact ⟨s, hs, target, check_all predicate trailing orderings⟩

/-- A collection whose name is not reserved is found as it stands, each document read back. -/
theorem find_all (named : Text.isIdentifier collection = true) (free : Sql.isReserved collection = false)
    (store : SqlStore) :
    store.find collection (.whole .all) = .ok ((store.documents collection).map Json.rereadMembers) := by
  obtain ⟨statement, hstatement, target, checked⟩ := findStatement_all named
  have prepared : store.prepare statement = .ok () := by
    refine Outcome.bind_eq_ok.mpr ⟨_, withTable_eq_ok.mpr ⟨?_, rfl⟩, Outcome.mapError_eq_ok.mpr (checked _)⟩
    rw [target]
    exact free
  have evaluated : evaluate .all (store.documents collection) = .ok () := by
    have accepted : (store.documents collection).any (Sql.refuses .all) = false :=
      List.any_eq_false.mpr fun _ _ => Bool.false_ne_true
    rw [evaluate, accepted]
    rfl
  have searched : ∃ found, store.find collection (.whole .all) = .ok found :=
    ⟨_, Outcome.bind_eq_ok.mpr ⟨statement, hstatement, Outcome.bind_eq_ok.mpr ⟨(), prepared,
      Outcome.bind_eq_ok.mpr ⟨(), evaluated, rfl⟩⟩⟩⟩
  have all : store.matching collection .all = store.documents collection := List.filter_eq_self.mpr fun _ _ => rfl
  obtain ⟨found, hfound⟩ := searched
  rw [hfound, (find_whole_eq_ok hfound).2.2, all]

/-- A collection with a reserved name can not even be searched. -/
theorem find_all_of_reserved (named : Text.isIdentifier collection = true) (reserved : Sql.isReserved collection = true)
    (store : SqlStore) : store.find collection (.whole .all) = .error (.reservedName collection) := by
  obtain ⟨statement, hstatement, target, -⟩ := findStatement_all named
  have refused : store.withTable statement.collection = .error (.reservedName collection) := by
    rw [target]
    exact if_pos reserved
  refine Outcome.bind_eq_error.mpr (.inr ⟨statement, hstatement, Outcome.bind_eq_error.mpr (.inl ?_)⟩)
  exact Outcome.bind_eq_error.mpr (.inl refused)

end SqlStore

/-- Documents whose values are read back as they were written. -/
theorem Json.map_rereadMembers {rows : List Row} (h : ∀ value ∈ rows.map Json.obj, value.reread = value) :
    rows.map Json.rereadMembers = rows := by
  refine (List.map_congr_left fun row hrow => ?_).trans (List.map_id _)
  have same := h (.obj row) (List.mem_map_of_mem hrow)
  rw [Json.reread] at same
  exact Json.obj.inj same


/-! ## What is found -/

/-- After any history an insertion takes all values or none. In memory a collection is found to hold the values inserted
under its name, in order. Under SQL, where documents are read back as written, it is found to hold the values inserted
under any spelling of its name, which are those under its name exactly where the other spellings have brought in none;
and what has a reserved name can not be searched. -/
theorem found_after_history (deeds : List Deed) :
    (∀ collection values,
      MemoryStore.backend.Atomic (fun _ => true) (MemoryStore.backend.run deeds) collection values ∧
        SqlStore.backend.Atomic SqlStore.admits (SqlStore.backend.run deeds) collection values) ∧
    (∀ collection, ((MemoryStore.backend.run deeds).store.find collection (.whole .all)).map .obj =
      (MemoryStore.backend.run deeds).valuesOf collection) ∧
    ∀ collection, Text.isIdentifier collection = true →
      (Sql.isReserved collection = true →
        (SqlStore.backend.run deeds).store.find collection (.whole .all) = .error (.reservedName collection)) ∧
      (Sql.isReserved collection = false →
        (∀ value ∈ (SqlStore.backend.run deeds).values (SqlStore.sameTable · collection), value.reread = value) →
          ∃ found, (SqlStore.backend.run deeds).store.find collection (.whole .all) = .ok found ∧
            found.map .obj = (SqlStore.backend.run deeds).values (SqlStore.sameTable · collection) ∧
            (found.map .obj = (SqlStore.backend.run deeds).valuesOf collection ↔
              ∀ entry ∈ (SqlStore.backend.run deeds).accepted,
                SqlStore.sameTable entry.1 collection = true → entry.1 ≠ collection → entry.2 = [])) := by
  refine ⟨fun collection values => ⟨MemoryStore.atomic _ _ _, SqlStore.atomic _ _ _⟩, fun collection => ?_,
    fun collection named => ⟨fun reserved => SqlStore.find_all_of_reserved named reserved _, fun free reread => ?_⟩⟩
  · rw [MemoryStore.find_all]
    exact MemoryStore.keeps.run deeds collection
  · have held := SqlStore.keeps.run deeds collection
    rw [← held] at reread
    refine ⟨_, SqlStore.find_all named free _, ?_, ?_⟩
    · rw [Json.map_rereadMembers reread, held]
    · rw [Json.map_rereadMembers reread, held, Ledger.valuesOf, Ledger.values_eq_iff]
      · simp
      · intro name same
        rw [of_decide_eq_true same]
        exact decide_eq_true rfl

namespace Deed

/-- A value with an amount. -/
def amount (n : Nat) : Json :=
  .obj [("amount", .ofNat n)]

/-- Orders and people in turns. The second insertion brings in something that is no object. -/
def turns : List Deed :=
  [.insert "orders" [amount 1], .insert "people" [amount 2, .null], .ask (.find "items" (.whole .all)),
    .insert "people" [amount 3], .insert "orders" [amount 4, amount 5]]

/-- The orders that were inserted. -/
def orders : List Row :=
  [[("amount", .ofNat 1)], [("amount", .ofNat 4)], [("amount", .ofNat 5)]]

end Deed

/-- Both stores find the orders that were inserted and none of the people. -/
theorem found_after_history_turns :
    Text.isIdentifier "orders" = true ∧ Sql.isReserved "orders" = false ∧
      (MemoryStore.backend.run Deed.turns).store.find "orders" (.whole .all) = Deed.orders ∧
      (SqlStore.backend.run Deed.turns).store.find "orders" (.whole .all) = .ok Deed.orders := by
  have named : Text.isIdentifier "orders" = true := by decide
  have free : Sql.isReserved "orders" = false := by decide
  obtain ⟨-, memory, sql⟩ := found_after_history Deed.turns
  obtain ⟨found, hfound, -, apart⟩ := (sql "orders" named).2 free (by decide +kernel)
  have inMemory : (MemoryStore.backend.run Deed.turns).valuesOf "orders" = Deed.orders.map .obj := by decide +kernel
  have underSql : (SqlStore.backend.run Deed.turns).valuesOf "orders" = Deed.orders.map .obj := by decide +kernel
  refine ⟨named, free, Row.map_obj_inj.mp ((memory "orders").trans inMemory), ?_⟩
  rw [hfound, Row.map_obj_inj.mp ((apart.mpr (by decide +kernel)).trans underSql)]

/-- Orders under two spellings are one table: an order of the one shows among the others. -/
theorem spellings_share_a_table :
    Text.isIdentifier "orders" = true ∧ Sql.isReserved "orders" = false ∧
      (SqlStore.backend.run [.insert "Orders" [Deed.amount 1]]).accepted = [("Orders", [Deed.amount 1])] ∧
      (Deed.amount 1).reread = Deed.amount 1 ∧
      (SqlStore.backend.run [.insert "Orders" [Deed.amount 1]]).valuesOf "orders" = [] ∧
      (SqlStore.backend.run [.insert "Orders" [Deed.amount 1]]).store.find "orders" (.whole .all) =
        .ok [[("amount", .ofNat 1)]] ∧
      (MemoryStore.backend.run [.insert "Orders" [Deed.amount 1]]).store.find "orders" (.whole .all) = [] := by
  refine ⟨by decide, by decide, by decide +kernel, by decide +kernel, by decide +kernel, ?_, by decide +kernel⟩
  exact Outcome.toOption_eq_some.mp (by decide +kernel)

end DataGrid
