-- SUMMARY: Predicates whose groups have two parts or more, and the text they are rendered to.
import DataGrid.Proofs.Sql.Stores

/-!
# Rendered predicates

A conjunction or a disjunction of fewer than two parts is no group, so the groups of a
plan have two parts or more. The text of such a predicate has no empty group: it is put
together of pieces that neither begin with a closing parenthesis nor end with an
opening one.
-/

namespace DataGrid

/-! ## Groups -/

namespace Predicate

/-- Every group of a predicate has two parts or more. -/
inductive Grouped : Predicate → Prop
  | all : Grouped .all
  | nothing : Grouped .nothing
  | equal (column : String) (value : Json) : Grouped (.equal column value)
  | oneOf (column : String) (values : List Json) : Grouped (.oneOf column values)
  | contains (column text : String) : Grouped (.contains column text)
  | between (column : String) (least greatest : Json) : Grouped (.between column least greatest)
  | and {parts : List Predicate} (several : 2 ≤ parts.length) (each : ∀ p ∈ parts, Grouped p) : Grouped (.and parts)
  | or {parts : List Predicate} (several : 2 ≤ parts.length) (each : ∀ p ∈ parts, Grouped p) : Grouped (.or parts)

/-- The whole tree of parts, whatever its size, has groups of two parts or more. -/
private theorem grouped_gather_and (parts : List Predicate) : (∀ p ∈ parts, p.Grouped) →
    Grouped (match parts with | [] => .all | [part] => part | parts => .and parts) := by
  match parts with
  | [] => exact fun _ => .all
  | [part] => exact fun h => h part List.mem_cons_self
  | p :: q :: rest => exact fun h => .and (by simp) h

private theorem grouped_gather_or (parts : List Predicate) : (∀ p ∈ parts, p.Grouped) →
    Grouped (match parts with | [] => .nothing | [part] => part | parts => .or parts) := by
  match parts with
  | [] => exact fun _ => .nothing
  | [part] => exact fun h => h part List.mem_cons_self
  | p :: q :: rest => exact fun h => .or (by simp) h

theorem grouped_conjunction {parts : List Predicate} (h : ∀ p ∈ parts, p.Grouped) : (conjunction parts).Grouped := by
  simp only [conjunction]
  split
  · exact .nothing
  · exact grouped_gather_and _ fun p hp => h p (List.mem_of_mem_filter hp)

theorem grouped_disjunction {parts : List Predicate} (h : ∀ p ∈ parts, p.Grouped) : (disjunction parts).Grouped := by
  simp only [disjunction]
  split
  · exact .all
  · exact grouped_gather_or _ fun p hp => h p (List.mem_of_mem_filter hp)

end Predicate

/-- Whatever the criteria are, the groups of their predicate have two parts or more. -/
theorem Criteria.grouped_predicate (c : Criteria) : c.predicate.Grouped := by
  refine Predicate.grouped_conjunction fun p hp => ?_
  simp only [parts, List.mem_append, List.mem_map] at hp
  rcases hp with ((text | ⟨e, -, rfl⟩) | ⟨e, -, rfl⟩) | ⟨e, -, rfl⟩
  · split at text
    · rw [List.mem_singleton.mp text]
      refine Predicate.grouped_disjunction fun q hq => ?_
      rcases List.mem_append.mp hq with hq | hq
      · obtain ⟨e, -, rfl⟩ := List.mem_map.mp hq
        exact .contains ..
      · obtain ⟨e, -, rfl⟩ := List.mem_map.mp hq
        exact .oneOf ..
    · cases text
  · unfold termPredicate
    split
    · exact .contains ..
    · exact .equal ..
  · exact .oneOf ..
  · exact .between ..


/-! ## Pieces of text -/

namespace Sql

/-- Two texts make an empty group only where one ends with the opening parenthesis and the other begins with the
closing one. -/
theorem emptyGroup?_append {a b : List Char} (ha : emptyGroup? a = none) (hb : emptyGroup? b = none)
    (seam : a.getLast? = some '(' → b.head? ≠ some ')') : emptyGroup? (a ++ b) = none := by
  induction a using emptyGroup?.induct with
  | case1 => cases ha
  | case2 c rest apart ih =>
    rw [emptyGroup?.eq_2 _ _ apart, Option.map_eq_none_iff] at ha
    have unbroken : ∀ tail, c = '(' → rest ++ b = ')' :: tail → False := by
      intro tail hc same
      cases rest with
      | nil => exact seam (by simp [hc]) (by simp [show b = _ from same])
      | cons d rest => exact apart rest hc (congrArg (· :: rest) (List.cons.inj same).1)
    rw [List.cons_append, emptyGroup?.eq_2 _ _ unbroken, Option.map_eq_none_iff]
    refine ih ha fun last => seam ?_
    cases rest with
    | nil => cases last
    | cons d rest => simpa using last
  | case3 => exact hb

theorem emptyGroup?_of_not_mem {cs : List Char} (h : '(' ∉ cs) : emptyGroup? cs = none := by
  induction cs with
  | nil => rfl
  | cons c rest ih =>
    rw [List.mem_cons, not_or] at h
    rw [emptyGroup?.eq_2 _ _ fun _ same => absurd same.symm h.1, ih h.2]
    rfl

/-- A text without an empty group, such that none comes about where it is put into parentheses or before another
text. -/
structure Solid (cs : List Char) : Prop where
  filled : emptyGroup? cs = none
  some : cs ≠ []
  head : cs.head? ≠ Option.some ')'
  last : cs.getLast? ≠ Option.some '('

instance (cs : List Char) : Decidable (Solid cs) :=
  decidable_of_iff (emptyGroup? cs = none ∧ cs ≠ [] ∧ cs.head? ≠ some ')' ∧ cs.getLast? ≠ some '(')
    ⟨fun h => ⟨h.1, h.2.1, h.2.2.1, h.2.2.2⟩, fun h => ⟨h.filled, h.some, h.head, h.last⟩⟩

/-- Any text without an empty group may stand behind a solid one. -/
theorem Solid.append {a b : List Char} (ha : Solid a) (hb : emptyGroup? b = none) (last : b.getLast? ≠ .some '(') :
    Solid (a ++ b) where
  filled := emptyGroup?_append ha.filled hb fun h => absurd h ha.last
  some := List.append_ne_nil_of_left_ne_nil ha.some b
  head := by
    obtain ⟨c, rest, rfl⟩ := List.exists_cons_of_ne_nil ha.some
    exact ha.head
  last := by
    rcases List.eq_nil_or_concat b with rfl | ⟨front, c, rfl⟩
    · rw [List.append_nil]
      exact ha.last
    · simpa using last

theorem Solid.append_solid {a b : List Char} (ha : Solid a) (hb : Solid b) : Solid (a ++ b) :=
  ha.append hb.filled hb.last

/-- A solid text in parentheses. -/
theorem Solid.wrap {cs : List Char} (h : Solid cs) : Solid (['('] ++ cs ++ [')']) where
  filled := by
    refine emptyGroup?_append (emptyGroup?_append rfl h.filled fun _ => h.head) rfl fun last => ?_
    rw [List.getLast?_append_of_ne_nil _ h.some] at last
    exact absurd last h.last
  some := List.append_ne_nil_of_right_ne_nil _ (List.cons_ne_nil _ _)
  head := by
    rw [List.append_assoc, List.singleton_append]
    exact nofun
  last := by
    rw [List.getLast?_concat]
    exact nofun

theorem Solid.intercalate {separator : List Char} (hseparator : Solid separator) :
    ∀ {pieces : List (List Char)}, pieces ≠ [] → (∀ piece ∈ pieces, Solid piece) → Solid (separator.intercalate pieces)
  | [], some, _ => absurd rfl some
  | [piece], _, h => by
    rw [List.intercalate_singleton]
    exact h piece List.mem_cons_self
  | piece :: next :: rest, _, h => by
    obtain ⟨first, others⟩ := List.forall_mem_cons.mp h
    rw [List.intercalate_cons_cons]
    exact (first.append_solid hseparator).append_solid (Solid.intercalate hseparator (by simp) others)


/-! ## Conditions -/

theorem solid_of_isIdentifierChars {cs : List Char} (h : Text.isIdentifierChars cs = true) : Solid cs := by
  cases cs with
  | nil => cases h
  | cons c rest =>
    obtain ⟨start, parts⟩ := Bool.and_eq_true_iff.mp h
    have opens : '(' ∉ c :: rest := by
      intro hmem
      rcases List.mem_cons.mp hmem with rfl | hrest
      · exact absurd start (by decide)
      · exact absurd (List.all_eq_true.mp parts _ hrest) (by decide)
    refine ⟨emptyGroup?_of_not_mem opens, List.cons_ne_nil _ _, ?_, fun last => opens (List.mem_of_getLast? last)⟩
    rintro ⟨⟩
    exact absurd start (by decide)

/-- A column path is identifiers between dots. -/
theorem solid_of_isColumnPath {column : String} (h : Text.isColumnPath column = true) : Solid column.toList := by
  rw [← Text.intercalate_split '.' column.toList]
  refine Solid.intercalate (by decide) (Text.split_ne_nil _ _) fun piece hpiece => ?_
  exact solid_of_isIdentifierChars (List.all_eq_true.mp h piece hpiece)

theorem solid_path {column text : String} (h : path column = .ok text) : Solid text.toList := by
  unfold path at h
  split at h
  · next name =>
    obtain rfl := Except.ok.inj h
    have opening : Solid "'$.".toList := by decide
    have closing : Solid "'".toList := by decide
    simp only [String.toList_append]
    exact (opening.append_solid (solid_of_isColumnPath name)).append_solid closing
  · cases h

theorem solid_elementTest {column test text : String} (htest : Solid test.toList)
    (h : elementTest column test = .ok text) : Solid text.toList := by
  simp only [elementTest, Outcome.bind_eq_ok, Outcome.pure_eq_ok] at h
  obtain ⟨path, hpath, rfl⟩ := h
  have opening : Solid "EXISTS (SELECT 1 FROM json_each(doc, ".toList := by decide
  have located := (opening.append_solid (solid_path hpath)).append (b := ") WHERE ".toList) (by decide) (by decide)
  simp only [String.toList_append]
  exact (located.append_solid htest).append (b := ")".toList) (by decide) (by decide)

/-- A list of some parts, in any number but none. -/
theorem solid_intercalate {separator : String} (hseparator : Solid separator.toList) {texts : List String}
    (some : texts ≠ []) (each : ∀ text ∈ texts, Solid text.toList) : Solid (separator.intercalate texts).toList := by
  rw [String.toList_intercalate]
  exact hseparator.intercalate (by simpa using some) (List.forall_mem_map.mpr each)

private theorem conditions_eq (parts : List Predicate) : conditions parts = parts.mapM condition := by
  induction parts with
  | nil => rw [conditions]; rfl
  | cons p rest ih => rw [conditions, List.mapM_cons, ih]

/-- The text of a group that is not empty. -/
theorem solid_group {separator : String} (hseparator : Solid separator.toList) {parts : List Predicate}
    (several : 2 ≤ parts.length) (each : ∀ p ∈ parts, ∀ text, condition p = .ok text → Solid text.toList) {text : String}
    (h : (conditions parts).map (fun all => "(" ++ separator.intercalate all ++ ")") = .ok text) :
    Solid text.toList := by
  obtain ⟨texts, htexts, rfl⟩ := Outcome.map_eq_ok.mp h
  rw [conditions_eq, Outcome.mapM_eq_ok] at htexts
  have some : texts ≠ [] := by
    rintro rfl
    rw [List.forall₂_nil_right_iff.mp htexts] at several
    cases several
  simp only [String.toList_append]
  refine (solid_intercalate hseparator some fun part hpart => ?_).wrap
  obtain ⟨p, hp, rendered⟩ := Outcome.exists_left_of_mem htexts hpart
  exact each p hp part rendered

/-- A test against a list that is not empty has a mark for each value. -/
theorem solid_marks {values : List Json} (some : values ≠ []) :
    Solid ("json_each.value IN (" ++ ", ".intercalate (values.map fun _ => "?") ++ ")").toList := by
  have opening : Solid "json_each.value IN ".toList := by decide
  have marks : Solid (", ".intercalate (values.map fun _ => "?")).toList := by
    refine solid_intercalate (by decide) (by simpa using some) fun mark hmark => ?_
    obtain ⟨_, -, rfl⟩ := List.mem_map.mp hmark
    decide
  have whole := opening.append_solid marks.wrap
  rw [← List.append_assoc, ← List.append_assoc] at whole
  simp only [String.toList_append]
  exact whole

/-- The text of a predicate whose groups have two parts or more has no empty group. -/
theorem solid_condition {p : Predicate} (grouped : p.Grouped) {text : String} (h : condition p = .ok text) :
    Solid text.toList := by
  induction grouped generalizing text with
  | all =>
    rw [condition] at h
    obtain rfl := Except.ok.inj h
    decide
  | nothing =>
    rw [condition] at h
    obtain rfl := Except.ok.inj h
    decide
  | equal column value =>
    rw [condition] at h
    exact solid_elementTest (by decide) h
  | oneOf column values =>
    rw [condition] at h
    split at h
    · obtain rfl := Except.ok.inj h
      decide
    · next some =>
      exact solid_elementTest (solid_marks (by simpa using some)) h
  | contains column needle =>
    rw [condition] at h
    exact solid_elementTest (by decide) h
  | between column least greatest =>
    rw [condition] at h
    exact solid_elementTest (by decide) h
  | and several each ih =>
    rw [condition] at h
    exact solid_group (by decide) several (fun p hp _ => ih p hp) h
  | or several each ih =>
    rw [condition] at h
    exact solid_group (by decide) several (fun p hp _ => ih p hp) h


/-! ## Statements -/

theorem solid_table {collection text : String} (h : table collection = .ok text) : Solid text.toList := by
  unfold table at h
  split at h
  · next name =>
    obtain rfl := Except.ok.inj h
    have quote : Solid "\"".toList := by decide
    simp only [String.toList_append]
    exact (quote.append_solid (solid_of_isIdentifierChars name)).append_solid quote
  · cases h

theorem solid_ordering {key : SortKey} {text : String} (h : ordering key = .ok text) : Solid text.toList := by
  simp only [ordering, Outcome.bind_eq_ok, Outcome.pure_eq_ok] at h
  obtain ⟨path, hpath, rfl⟩ := h
  have opening : Solid "json_extract(doc, ".toList := by decide
  have direction : Solid (directionKeyword key.direction).toList := by cases key.direction <;> decide
  simp only [String.toList_append]
  exact ((opening.append_solid (solid_path hpath)).append (b := ") ".toList) (by decide) (by decide)).append_solid
    direction

theorem solid_countStatement {collection : String} {predicate : Predicate} (grouped : predicate.Grouped)
    {statement : Statement} (h : countStatement collection predicate = .ok statement) : Solid statement.text.toList := by
  simp only [countStatement, Outcome.bind_eq_ok, Outcome.pure_eq_ok] at h
  obtain ⟨table, htable, condition, hcondition, rfl⟩ := h
  have opening : Solid "SELECT COUNT(*) FROM ".toList := by decide
  have middle : Solid " WHERE ".toList := by decide
  simp only [String.toList_append]
  exact ((opening.append_solid (solid_table htable)).append_solid middle).append_solid
    (solid_condition grouped hcondition)

theorem solid_findStatement {collection : String} {selection : Selection} (grouped : selection.predicate.Grouped)
    {statement : Statement} (h : findStatement collection selection = .ok statement) : Solid statement.text.toList := by
  simp only [findStatement, Outcome.bind_eq_ok, Outcome.pure_eq_ok] at h
  obtain ⟨table, htable, condition, hcondition, keys, hkeys, rfl⟩ := h
  have opening : Solid "SELECT doc FROM ".toList := by decide
  have middle : Solid " WHERE ".toList := by decide
  have order : Solid " ORDER BY ".toList := by decide
  have window : Solid " LIMIT ? OFFSET ?".toList := by decide
  have orderings : Solid (", ".intercalate (keys ++ ["id ASC"])).toList := by
    refine solid_intercalate (by decide) (by simp) fun text htext => ?_
    rcases List.mem_append.mp htext with htext | htext
    · obtain ⟨key, -, rendered⟩ := Outcome.exists_left_of_mem (Outcome.mapM_eq_ok.mp hkeys) htext
      exact solid_ordering rendered
    · rw [List.mem_singleton.mp htext]
      decide
  simp only [String.toList_append]
  exact (((((opening.append_solid (solid_table htable)).append_solid middle).append_solid
    (solid_condition grouped hcondition)).append_solid order).append_solid orderings).append_solid window

end Sql


/-! ## Questions -/

/-- Whether a store complains about the name of a collection or of a column. -/
def StoreFault.isName : StoreFault → Bool
  | .collectionName _ | .notAColumn _ => true
  | _ => false

namespace Sql

/-- A question about a collection that can be put into a statement: the collection is a table, every test and every sort
key is on a column path, and every group has two parts or more. -/
structure WellFormed (collection : String) (predicate : Predicate) (sort : List SortKey) : Prop where
  table : ∃ text, table collection = .ok text
  tests : ∀ t ∈ predicate.tests, ∃ text, path t.1 = .ok text
  sort : ∀ key ∈ sort, ∃ text, path key.column = .ok text
  grouped : predicate.Grouped

theorem path_isOk_iff {column : String} : (∃ text, path column = .ok text) ↔ Text.isColumnPath column = true := by
  unfold path
  split <;> simp_all

/-- Once a statement is rendered, no name in it is refused. -/
theorem isName_of_prepare {store : SqlStore} {statement : Statement} {fault : StoreFault}
    (h : store.prepare statement = .error fault) : fault.isName = false := by
  simp only [SqlStore.prepare, Outcome.bind_eq_error] at h
  rcases h with h | ⟨opened, -, h⟩
  · unfold SqlStore.withTable at h
    split at h
    · obtain rfl := Except.error.inj h
      rfl
    · cases h
  · cases hcheck : statement.check (opened.hasTable elementFunction) with
    | ok _ =>
      rw [hcheck] at h
      cases h
    | error flaw =>
      rw [hcheck] at h
      obtain rfl := Except.error.inj h
      rfl

theorem isName_of_evaluate {predicate : Predicate} {documents : List Row} {fault : StoreFault}
    (h : SqlStore.evaluate predicate documents = .error fault) : fault.isName = false := by
  unfold SqlStore.evaluate at h
  split at h
  · obtain rfl := Except.error.inj h
    rfl
  · cases h

/-- A statement that is checked and then evaluated complains about no name. -/
theorem isName_of_answering {α : Type} {store : SqlStore} {statement : Statement} {predicate : Predicate}
    {documents : List Row} {answer : α} {fault : StoreFault}
    (failed : (do store.prepare statement; SqlStore.evaluate predicate documents; return answer) = Except.error fault) :
    fault.isName = false := by
  simp only [Outcome.bind_eq_error] at failed
  rcases failed with failed | ⟨_, -, failed | ⟨_, -, failed⟩⟩
  · exact isName_of_prepare failed
  · exact isName_of_evaluate failed
  · cases failed

namespace WellFormed

variable {collection : String} {predicate : Predicate} {selection : Selection}

/-- A well-formed question is put into a statement without an empty group. -/
theorem countStatement_eq_ok (h : WellFormed collection predicate []) :
    ∃ statement, countStatement collection predicate = .ok statement ∧ emptyGroup? statement.text.toList = none := by
  obtain ⟨table, htable⟩ := h.table
  obtain ⟨condition, hcondition⟩ := condition_eq_ok predicate fun t ht => path_isOk_iff.mp (h.tests t ht)
  have rendered : ∃ statement, countStatement collection predicate = .ok statement := by
    simp only [countStatement, htable, hcondition]
    exact ⟨_, rfl⟩
  obtain ⟨statement, hstatement⟩ := rendered
  exact ⟨statement, hstatement, (solid_countStatement h.grouped hstatement).filled⟩

theorem findStatement_eq_ok (h : WellFormed collection selection.predicate selection.sort) :
    ∃ statement, findStatement collection selection = .ok statement ∧ emptyGroup? statement.text.toList = none := by
  obtain ⟨table, htable⟩ := h.table
  obtain ⟨condition, hcondition⟩ := condition_eq_ok selection.predicate fun t ht => path_isOk_iff.mp (h.tests t ht)
  obtain ⟨keys, hkeys, -⟩ := Twins.orderings_eq_ok fun key hkey => path_isOk_iff.mp (h.sort key hkey)
  have rendered : ∃ statement, findStatement collection selection = .ok statement := by
    simp only [findStatement, htable, hcondition, hkeys]
    exact ⟨_, rfl⟩
  obtain ⟨statement, hstatement⟩ := rendered
  exact ⟨statement, hstatement, (solid_findStatement h.grouped hstatement).filled⟩

/-- No store of documents complains about a name in a well-formed question. -/
theorem isName_of_count (h : WellFormed collection predicate []) {store : SqlStore} {fault : StoreFault}
    (failed : store.count collection predicate = .error fault) : fault.isName = false := by
  obtain ⟨statement, hstatement, -⟩ := h.countStatement_eq_ok
  rw [SqlStore.count, hstatement] at failed
  exact isName_of_answering failed

theorem isName_of_find (h : WellFormed collection selection.predicate selection.sort) {store : SqlStore}
    {fault : StoreFault} (failed : store.find collection selection = .error fault) : fault.isName = false := by
  obtain ⟨statement, hstatement, -⟩ := h.findStatement_eq_ok
  rw [SqlStore.find, hstatement] at failed
  exact isName_of_answering failed

end WellFormed

end Sql

end DataGrid
