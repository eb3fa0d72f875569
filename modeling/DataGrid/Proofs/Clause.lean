-- SUMMARY: What the entries of a checked clause become, whatever the kind of the clause.
import DataGrid.Proofs.Complaint
import DataGrid.Proofs.Outcome
import DataGrid.Remote.Rendering
import DataGrid.Request.Plan

/-!
# Entries and fragments

An entry of a clause either names a field or holds the free text. A named entry
is accepted where its field grants the kind of the clause and its value suits the
kind. Once a clause is checked without a complaint, every named entry has been
accepted, and its fragments are the accepted ones in the order of the entries.
-/

namespace DataGrid

/-- What a named entry asks of the column of its field. -/
inductive Fragment where
  | term (value : Json)
  | among (values : List Json)
  | within (bounds : Bounds)
  | sorted (direction : Direction)

namespace Fragment

/-- The fragment of a value in a clause of some kind, if the value suits the kind. A scalar is searched for that is no blank
text. A scalar is a filter, and so is a list of scalars that is not empty. A range has two bounds, the first below the
second; and a direction is given in words. -/
def ofValue? : Capability → Json → Option Fragment
  | .search, .str s => if Text.isBlank s then none else some (.term (.str s))
  | .search, value => if value.isScalar then some (.term value) else none
  | .filter, .arr items => if items ≠ [] ∧ ∀ item ∈ items, item.isScalar = true then some (.among items) else none
  | .filter, value => if value.isScalar then some (.among [value]) else none
  | .range, value =>
    match value.member? "min", value.member? "max" with
    | some least, some greatest =>
      if least.order? greatest = some .lt then some (.within ⟨least, greatest⟩) else none
    | _, _ => none
  | .sort, .str "ascending" => some (.sorted .ascending)
  | .sort, .str "descending" => some (.sorted .descending)
  | .sort, _ | .display, _ => none

/-- The value that a remote is sent for a fragment. -/
def toJson : Fragment → Json
  | .term value => value
  | .among values => .arr values
  | .within bounds => .obj [("max", bounds.greatest), ("min", bounds.least)]
  | .sorted direction => .str direction.text

/-- What a fragment demands of a row: a text is contained, another term is equal, and a direction demands nothing. -/
def predicate (column : String) : Fragment → Predicate
  | .term (.str text) => .contains column text
  | .term value => .equal column value
  | .among values => .oneOf column values
  | .within bounds => .between column bounds.least bounds.greatest
  | .sorted _ => .all

/-! The checks of entries find these fragments. -/

theorem ofValue?_search (value : Json) :
    ofValue? .search value = if Clause.isSearchable value then some (.term value) else none := by
  cases value with
  | str s => cases hblank : Text.isBlank s <;> simp [ofValue?, Clause.isSearchable, hblank]
  | _ => rfl

theorem ofValue?_filter (value : Json) : ofValue? .filter value = (Clause.filterValues? value).map .among := by
  cases value with
  | arr items =>
    simp only [ofValue?, Clause.filterValues?, Bool.and_eq_true, Bool.not_eq_true', List.isEmpty_eq_false_iff,
      List.all_eq_true, apply_ite (Option.map among), Option.map_some, Option.map_none]
  | _ => rfl

theorem ofValue?_range (value : Json) : ofValue? .range value = (Clause.checkBounds value).toOption.map .within := by
  simp only [ofValue?, Clause.checkBounds]
  cases value.member? "min" with
  | none => rfl
  | some least =>
    cases value.member? "max" with
    | none => rfl
    | some greatest =>
      dsimp only
      cases least.order? greatest with
      | none => rfl
      | some found => cases found <;> rfl

theorem ofValue?_sort (value : Json) : ofValue? .sort value = (value.str?.bind Direction.ofText?).map .sorted := by
  cases value with
  | str s =>
    change ofValue? .sort (.str s) = (Direction.ofText? s).map .sorted
    unfold ofValue? Direction.ofText?
    split <;> simp_all
  | _ => rfl

theorem ofValue?_search_of_not_blank {s : String} (h : Text.isBlank s = false) :
    ofValue? .search (.str s) = some (.term (.str s)) := by
  simp [ofValue?, h]

theorem ofValue?_range_of_lt {least greatest : Json} (h : least.order? greatest = some .lt) :
    ofValue? .range (.obj [("max", greatest), ("min", least)]) = some (.within ⟨least, greatest⟩) := by
  simp [ofValue?, Json.member?, Keyed.get?, h]

theorem predicate_term (column : String) (value : Json) :
    (term value).predicate column = Criteria.termPredicate column value := by
  cases value <;> rfl

end Fragment

namespace Clause

/-! ## Entries -/

/-- Whether an entry names a field. The other entries hold free text. -/
def isNamed (kind : Capability) (name : String) : Bool :=
  !(kind = .search && name = Request.freeTextKey)

/-- The column and the fragment of a named entry that stands up to a table. -/
def accepted? (table : FieldTable) (kind : Capability) (entry : String × Json) : Option (String × Fragment) :=
  if isNamed kind entry.1 then
    match table.get? entry.1 with
    | some field => if field.grants kind then (Fragment.ofValue? kind entry.2).map (field.column, ·) else none
    | none => none
  else none

/-- The usable free texts among the entries of a search clause. -/
def freeTexts (entries : Row) : List String :=
  entries.filterMap fun (name, value) =>
    if name = Request.freeTextKey then (checkFreeText value).toOption else none

/-- The fragments of a clause with their columns. -/
def named : Clause → List (String × Fragment)
  | .search terms _ _ => terms.map fun (column, value) => (column, .term value)
  | .filter fragments => fragments.map fun (column, values) => (column, .among values)
  | .range fragments => fragments.map fun (column, bounds) => (column, .within bounds)
  | .sort fragments => fragments.map fun (column, direction) => (column, .sorted direction)

def kind : Clause → Capability
  | .search .. => .search
  | .filter _ => .filter
  | .range _ => .range
  | .sort _ => .sort

theorem checkFreeText_eq_ok {value : Json} {text : String} :
    checkFreeText value = .ok text ↔ ∃ s, value = .str s ∧ Text.isBlank s = false ∧ text = Text.trim s := by
  cases value with
  | str s =>
    simp only [checkFreeText, Json.str.injEq, exists_eq_left']
    cases Text.isBlank s <;> simp [@eq_comm _ text]
  | _ => simp [checkFreeText]

/-- The usable free texts are the trimmed texts that are not blank. -/
theorem mem_freeTexts {entries : Row} {text : String} :
    text ∈ freeTexts entries ↔
      ∃ s, (Request.freeTextKey, .str s) ∈ entries ∧ Text.isBlank s = false ∧ text = Text.trim s := by
  unfold freeTexts
  rw [List.mem_filterMap]
  constructor
  · rintro ⟨⟨name, value⟩, hmem, hvalue⟩
    dsimp only at hvalue
    split at hvalue
    · next same =>
      obtain ⟨s, rfl, hblank, rfl⟩ := checkFreeText_eq_ok.mp (Outcome.toOption_eq_some.mp hvalue)
      exact ⟨s, same ▸ hmem, hblank, rfl⟩
    · cases hvalue
  · rintro ⟨s, hmem, hblank, rfl⟩
    refine ⟨_, hmem, (if_pos rfl).trans ?_⟩
    rw [Outcome.toOption_eq_some]
    exact checkFreeText_eq_ok.mpr ⟨s, rfl, hblank, rfl⟩

/-- Among fewer entries there are no other free texts. -/
theorem freeTexts_eq_nil_of_subset {entries fewer : Row} (none : freeTexts entries = []) (sub : fewer ⊆ entries) :
    freeTexts fewer = [] := by
  refine List.eq_nil_iff_forall_not_mem.mpr fun text htext => ?_
  obtain ⟨s, hs, usable⟩ := mem_freeTexts.mp htext
  exact List.eq_nil_iff_forall_not_mem.mp none text (mem_freeTexts.mpr ⟨s, sub hs, usable⟩)

theorem isNamed_iff {kind : Capability} {name : String} :
    isNamed kind name = true ↔ ¬(kind = .search ∧ name = Request.freeTextKey) := by
  simp only [isNamed, Bool.not_eq_true', ← Bool.not_eq_true, Bool.and_eq_true, decide_eq_true_eq]

theorem accepted?_eq_some {table : FieldTable} {kind : Capability} {entry : String × Json} {column : String}
    {fragment : Fragment} :
    accepted? table kind entry = some (column, fragment) ↔
      isNamed kind entry.1 = true ∧ ∃ field, table.get? entry.1 = some field ∧ field.grants kind = true ∧
        field.column = column ∧ Fragment.ofValue? kind entry.2 = some fragment := by
  unfold accepted?
  cases hnamed : isNamed kind entry.1 with
  | false => simp
  | true =>
    cases hfield : table.get? entry.1 with
    | none => simp
    | some field =>
      cases hgrants : field.grants kind with
      | false => simp [hgrants]
      | true => simp [hgrants, and_comm]

theorem grantedField_eq_ok {table : FieldTable} {kind : Capability} {name : String} {field : Field} :
    grantedField table kind name = .ok field ↔ table.get? name = some field ∧ field.grants kind = true := by
  unfold grantedField
  cases hfield : table.get? name with
  | none => simp
  | some found =>
    by_cases hgrants : found.grants kind
    · simp only [hgrants, if_true, Except.ok.injEq, Option.some.injEq]
      refine ⟨?_, And.left⟩
      rintro rfl
      exact ⟨rfl, hgrants⟩
    · simp only [hgrants, Bool.false_eq_true, if_false, reduceCtorEq, Option.some.injEq, false_iff, not_and]
      rintro rfl
      exact hgrants

/-- A kind whose entries all name fields: an entry passes its check exactly when it is accepted. -/
private theorem check_iff_accepted {α : Type} (check : FieldTable → String → Json → Except Complaint (String × α))
    (read : Json → Except Complaint α) {kind : Capability} {wrap : α → Fragment} (hkind : kind ≠ .search)
    (hinj : ∀ a b, wrap a = wrap b → a = b)
    (hread : ∀ value, Fragment.ofValue? kind value = (read value).toOption.map wrap)
    (hcheck : ∀ table name value, check table name value =
      grantedField table kind name >>= fun field => read value >>= fun a => .ok (field.column, a))
    (table : FieldTable) (name : String) (value : Json) (column : String) (a : α) :
    check table name value = .ok (column, a) ↔ accepted? table kind (name, value) = some (column, wrap a) := by
  have hnamed : isNamed kind name = true := by simp [isNamed, hkind]
  simp only [hcheck, Outcome.bind_eq_ok, grantedField_eq_ok, accepted?_eq_some, hnamed, true_and, hread,
    Option.map_eq_some_iff, Outcome.toOption_eq_some, Except.ok.injEq, Prod.mk.injEq]
  constructor
  · rintro ⟨field, ⟨hget, hgrants⟩, b, hb, hcolumn, rfl⟩
    exact ⟨field, hget, hgrants, hcolumn, b, hb, rfl⟩
  · rintro ⟨field, hget, hgrants, hcolumn, b, hb, hwrap⟩
    exact ⟨field, ⟨hget, hgrants⟩, b, hb, hcolumn, hinj _ _ hwrap⟩

theorem checkFilter_eq_ok {table : FieldTable} {name : String} {value : Json} {column : String} {values : List Json} :
    checkFilter table name value = .ok (column, values) ↔
      accepted? table .filter (name, value) = some (column, .among values) := by
  refine check_iff_accepted checkFilter
    (fun value => (filterValues? value).elim (.error .unusableFilter) .ok)
    (by decide) (fun a b h => Fragment.among.inj h) (fun value => ?_) (fun table name value => ?_) ..
  · rw [Fragment.ofValue?_filter]
    cases filterValues? value <;> rfl
  · simp only [checkFilter]
    cases filterValues? value <;> rfl

theorem checkRange_eq_ok {table : FieldTable} {name : String} {value : Json} {column : String} {bounds : Bounds} :
    checkRange table name value = .ok (column, bounds) ↔
      accepted? table .range (name, value) = some (column, .within bounds) :=
  check_iff_accepted checkRange checkBounds (by decide) (fun _ _ h => Fragment.within.inj h)
    Fragment.ofValue?_range (fun _ _ _ => rfl) ..

theorem checkSort_eq_ok {table : FieldTable} {name : String} {value : Json} {column : String}
    {direction : Direction} :
    checkSort table name value = .ok (column, direction) ↔
      accepted? table .sort (name, value) = some (column, .sorted direction) := by
  refine check_iff_accepted checkSort
    (fun value => (value.str?.bind Direction.ofText?).elim (.error .unknownDirection) .ok)
    (by decide) (fun a b h => Fragment.sorted.inj h) (fun value => ?_) (fun table name value => ?_) ..
  · rw [Fragment.ofValue?_sort]
    cases value.str?.bind Direction.ofText? <;> rfl
  · simp only [checkSort]
    cases value.str?.bind Direction.ofText? <;> rfl

theorem checkSearch_eq_term {table : FieldTable} {name : String} {value : Json} {column : String} {sought : Json} :
    checkSearch table name value = .ok (.term column sought) ↔
      accepted? table .search (name, value) = some (column, .term sought) := by
  rw [accepted?_eq_some]
  unfold checkSearch
  by_cases htext : name = Request.freeTextKey
  · have hunnamed : isNamed .search Request.freeTextKey = false := rfl
    cases hcheck : checkFreeText value <;> simp [htext, hunnamed, Except.map]
  · have hnamed : isNamed .search name = true := by simp [isNamed, htext]
    simp only [if_neg htext, Outcome.bind_eq_ok, grantedField_eq_ok, hnamed, true_and, Fragment.ofValue?_search]
    refine exists_congr fun field => ?_
    cases hvalue : isSearchable value <;> simp [and_assoc]

theorem checkSearch_eq_freeText {table : FieldTable} {name : String} {value : Json} {text : String} :
    checkSearch table name value = .ok (.freeText text) ↔
      name = Request.freeTextKey ∧ checkFreeText value = .ok text := by
  unfold checkSearch
  by_cases htext : name = Request.freeTextKey
  · simp [htext, Outcome.map_eq_ok]
  · rw [if_neg htext, Outcome.bind_eq_ok]
    refine ⟨?_, fun h => absurd h.1 htext⟩
    rintro ⟨field, -, h⟩
    split at h <;> simp at h


/-! ## Gathering -/

private theorem complaints_eq_nil {α : Type} {check : String → Json → Except Complaint α} {entries : Row} :
    complaints check entries = [] ↔ ∀ e ∈ entries, ∃ a, check e.1 e.2 = .ok a := by
  unfold complaints
  rw [Complaints.foldl_eq_nil (fun e => ∃ a, check e.1 e.2 = .ok a)]
  · simp
  · rintro all ⟨name, value⟩
    dsimp only
    cases hcheck : check name value with
    | ok a => simp
    | error complaint => simp [Complaints.add_ne_nil]

private theorem fragments_cons {α : Type} {check : String → Json → Except Complaint α} {e : String × Json} {a : α}
    (h : check e.1 e.2 = .ok a) (rest : Row) : fragments check (e :: rest) = a :: fragments check rest := by
  obtain ⟨name, value⟩ := e
  exact List.filterMap_cons_some (Outcome.toOption_eq_some.mpr h)

/-- A clause is gathered without a complaint exactly when each entry passes its check. -/
theorem gather_eq_ok {α : Type} {check : String → Json → Except Complaint α} {entries : Row} {list : List α} :
    gather check entries = .ok list ↔ List.Forall₂ (fun e a => check e.1 e.2 = .ok a) entries list := by
  unfold gather
  simp only [List.isEmpty_iff]
  constructor
  · intro h
    split at h
    · next none =>
      obtain rfl := Except.ok.inj h
      rw [complaints_eq_nil] at none
      clear h
      induction entries with
      | nil => exact .nil
      | cons e rest ih =>
        obtain ⟨a, ha⟩ := none e List.mem_cons_self
        rw [fragments_cons ha]
        exact .cons ha (ih fun e he => none e (List.mem_cons_of_mem _ he))
    · cases h
  · intro h
    have passes : complaints check entries = [] := by
      refine complaints_eq_nil.mpr fun e he => ?_
      obtain ⟨a, -, ha⟩ := Outcome.exists_right_of_mem h he
      exact ⟨a, ha⟩
    rw [if_pos passes, Except.ok.injEq]
    clear passes
    induction h with
    | nil => rfl
    | cons ha _ ih => rw [fragments_cons ha, ih]


/-! ## Clauses -/

/-- A clause whose entries all name fields: its fragments are the accepted ones. -/
private theorem gathered_named {α : Type} {check : String → Json → Except Complaint (String × α)} {table : FieldTable}
    {kind : Capability} {wrap : α → Fragment}
    (hcheck : ∀ name value column a,
      check name value = .ok (column, a) ↔ accepted? table kind (name, value) = some (column, wrap a))
    {entries : Row} {list : List (String × α)} (h : gather check entries = .ok list) :
    list.map (fun f => (f.1, wrap f.2)) = entries.filterMap (accepted? table kind) ∧
      ∀ e ∈ entries, (accepted? table kind e).isSome = true := by
  rw [gather_eq_ok] at h
  induction h with
  | nil => simp
  | cons ha _ ih =>
    have accepted := (hcheck ..).mp ha
    obtain ⟨others, all⟩ := ih
    refine ⟨?_, ?_⟩
    · rw [List.map_cons, List.filterMap_cons_some accepted, others]
    · intro e he
      rcases List.mem_cons.mp he with rfl | he
      · rw [accepted]
        rfl
      · exact all e he

/-- The free text that an entry is, if it is one. -/
private def textOf? : SearchEntry → Option String
  | .freeText text => some text
  | .term _ _ => none

/-- The free texts that are gathered are the usable ones among the entries. -/
private theorem texts_of_gathered {table : FieldTable} {entries : Row} {list : List SearchEntry}
    (h : gather (checkSearch table) entries = .ok list) : list.filterMap textOf? = freeTexts entries := by
  rw [gather_eq_ok] at h
  unfold freeTexts
  induction h with
  | nil => rfl
  | @cons e a rest others ha _ ih =>
    rw [List.filterMap_cons, List.filterMap_cons, ih]
    obtain ⟨name, value⟩ := e
    cases a with
    | term column sought =>
      have hnamed := (accepted?_eq_some.mp (checkSearch_eq_term.mp ha)).1
      have other : name ≠ Request.freeTextKey := by simpa [isNamed] using hnamed
      simp [textOf?, other]
    | freeText text =>
      obtain ⟨same, usable⟩ := checkSearch_eq_freeText.mp ha
      have same : name = Request.freeTextKey := same
      simp [textOf?, same, Outcome.toOption_eq_some.mpr usable]

/-- The terms that are gathered are the accepted ones among the entries. -/
private theorem named_of_gathered {table : FieldTable} {entries : Row} {list : List SearchEntry}
    (h : gather (checkSearch table) entries = .ok list) :
    (ofSearchEntries table list).named = entries.filterMap (accepted? table .search) := by
  rw [gather_eq_ok] at h
  simp only [ofSearchEntries, named, List.map_filterMap]
  induction h with
  | nil => rfl
  | @cons e a rest others ha _ ih =>
    rw [List.filterMap_cons, List.filterMap_cons, ih]
    cases a with
    | term column sought => simp [checkSearch_eq_term.mp ha]
    | freeText text =>
      have unnamed : accepted? table .search e = none := by
        simp [accepted?, isNamed, (checkSearch_eq_freeText.mp ha).1]
      simp [unnamed]

/-- A search clause: an entry is either an accepted one or a usable free text. -/
private theorem gathered_search {table : FieldTable} {entries : Row} {list : List SearchEntry}
    (h : gather (checkSearch table) entries = .ok list) :
    (ofSearchEntries table list).named = entries.filterMap (accepted? table .search) ∧
      ∃ terms, ofSearchEntries table list = .search terms
        ((freeTexts entries).flatMap fun text => (searchableColumns table).map (·, text))
        (!(freeTexts entries).isEmpty) :=
  ⟨named_of_gathered h, _, by rw [← texts_of_gathered h]; rfl⟩

/-- What a clause that is checked without a complaint consists of: all named entries of its kind, each of them
accepted, and for a search the usable free texts. -/
structure Covers (table : FieldTable) (kind : Capability) (entries : Row) (clause : Clause) : Prop where
  kind_eq : clause.kind = kind
  named_eq : clause.named = entries.filterMap (accepted? table kind)
  accepts : ∀ e ∈ entries, isNamed kind e.1 = true → (accepted? table kind e).isSome = true
  texts : kind = .search → ∃ terms, clause = .search terms
    ((freeTexts entries).flatMap fun text => (searchableColumns table).map (·, text))
    (!(freeTexts entries).isEmpty)

theorem covers_of_check {table : FieldTable} {kind : Capability} {entries : Row} {clause : Clause}
    (h : check table kind entries = .ok clause) : Covers table kind entries clause := by
  unfold check at h
  cases kind with
  | search =>
    obtain ⟨list, hlist, rfl⟩ := Outcome.map_eq_ok.mp h
    obtain ⟨named, texts⟩ := gathered_search hlist
    refine ⟨rfl, named, ?_, fun _ => texts⟩
    intro e he hnamed
    obtain ⟨a, -, ha⟩ := Outcome.exists_right_of_mem (gather_eq_ok.mp hlist) he
    cases a with
    | term column value => rw [checkSearch_eq_term.mp ha]; rfl
    | freeText text => simp [isNamed, (checkSearch_eq_freeText.mp ha).1] at hnamed
  | filter =>
    obtain ⟨list, hlist, rfl⟩ := Outcome.map_eq_ok.mp h
    obtain ⟨named, accepts⟩ := gathered_named (fun _ _ _ _ => checkFilter_eq_ok) hlist
    exact ⟨rfl, named, fun e he _ => accepts e he, nofun⟩
  | range =>
    obtain ⟨list, hlist, rfl⟩ := Outcome.map_eq_ok.mp h
    obtain ⟨named, accepts⟩ := gathered_named (fun _ _ _ _ => checkRange_eq_ok) hlist
    exact ⟨rfl, named, fun e he _ => accepts e he, nofun⟩
  | sort =>
    obtain ⟨list, hlist, rfl⟩ := Outcome.map_eq_ok.mp h
    obtain ⟨named, accepts⟩ := gathered_named (fun _ _ _ _ => checkSort_eq_ok) hlist
    exact ⟨rfl, named, fun e he _ => accepts e he, nofun⟩
  | display => cases h

/-- An entry stands up to a table: a named one is accepted, and a free text is usable. -/
def Stands (table : FieldTable) (kind : Capability) (e : String × Json) : Prop :=
  if isNamed kind e.1 then (accepted? table kind e).isSome = true else ∃ text, checkFreeText e.2 = .ok text

/-- A named entry stands up where its field grants the kind and its value suits it. -/
theorem stands_named {table : FieldTable} {kind : Capability} {name : String} {value : Json}
    (named : isNamed kind name = true) :
    Stands table kind (name, value) ↔
      (∃ field, table.get? name = some field ∧ field.grants kind = true) ∧ (Fragment.ofValue? kind value).isSome = true := by
  rw [Stands, if_pos named, Option.isSome_iff_exists]
  constructor
  · rintro ⟨⟨column, fragment⟩, accepted⟩
    obtain ⟨-, field, hfield, grants, -, hvalue⟩ := accepted?_eq_some.mp accepted
    exact ⟨⟨field, hfield, grants⟩, by rw [hvalue]; rfl⟩
  · rintro ⟨⟨field, hfield, grants⟩, suits⟩
    obtain ⟨fragment, hvalue⟩ := Option.isSome_iff_exists.mp suits
    exact ⟨(field.column, fragment), accepted?_eq_some.mpr ⟨named, field, hfield, grants, rfl, hvalue⟩⟩

/-- A free text stands up where it is a text that is not blank, whatever the fields. -/
theorem stands_freeText_iff {table : FieldTable} {value : Json} :
    Stands table .search (Request.freeTextKey, value) ↔ ∃ s, value = .str s ∧ Text.isBlank s = false := by
  have unnamed : ¬isNamed .search Request.freeTextKey = true := by decide
  rw [Stands, if_neg unnamed]
  constructor
  · rintro ⟨text, usable⟩
    obtain ⟨s, hs, some, -⟩ := checkFreeText_eq_ok.mp usable
    exact ⟨s, hs, some⟩
  · rintro ⟨s, hs, some⟩
    exact ⟨_, checkFreeText_eq_ok.mpr ⟨s, hs, some, rfl⟩⟩

private theorem exists_gather_eq_ok {α : Type} {check : String → Json → Except Complaint α} {entries : Row} :
    (∃ list, gather check entries = .ok list) ↔ ∀ e ∈ entries, ∃ a, check e.1 e.2 = .ok a := by
  rw [← complaints_eq_nil, ← List.isEmpty_iff, gather]
  split <;> simp_all

/-- A kind whose entries all name fields: an entry passes its check exactly when it stands up to the table. -/
private theorem exists_check_iff {α : Type} {check : String → Json → Except Complaint (String × α)} {table : FieldTable}
    {kind : Capability} {wrap : α → Fragment} (hkind : kind ≠ .search)
    (hcheck : ∀ name value column a,
      check name value = .ok (column, a) ↔ accepted? table kind (name, value) = some (column, wrap a))
    (hwrap : ∀ value fragment, Fragment.ofValue? kind value = some fragment → ∃ a, fragment = wrap a)
    (e : String × Json) : (∃ a, check e.1 e.2 = .ok a) ↔ Stands table kind e := by
  have named : isNamed kind e.1 = true := by simp [isNamed, hkind]
  rw [Stands, if_pos named, Option.isSome_iff_exists]
  constructor
  · rintro ⟨⟨column, a⟩, passes⟩
    exact ⟨_, (hcheck ..).mp passes⟩
  · rintro ⟨⟨column, fragment⟩, accepted⟩
    obtain ⟨-, -, -, -, -, hvalue⟩ := accepted?_eq_some.mp accepted
    obtain ⟨a, rfl⟩ := hwrap _ _ hvalue
    exact ⟨(column, a), (hcheck ..).mpr accepted⟩

/-- An entry of a search clause is a term or the free text. -/
private theorem exists_checkSearch_iff (table : FieldTable) (e : String × Json) :
    (∃ a, checkSearch table e.1 e.2 = .ok a) ↔ Stands table .search e := by
  unfold Stands
  split
  · next named =>
    rw [Option.isSome_iff_exists]
    constructor
    · rintro ⟨a, passes⟩
      cases a with
      | term column value => exact ⟨_, checkSearch_eq_term.mp passes⟩
      | freeText text => exact absurd ⟨rfl, (checkSearch_eq_freeText.mp passes).1⟩ (isNamed_iff.mp named)
    · rintro ⟨⟨column, fragment⟩, accepted⟩
      obtain ⟨-, -, -, -, -, hvalue⟩ := accepted?_eq_some.mp accepted
      simp only [Fragment.ofValue?_search, Option.ite_none_right_eq_some, Option.some.injEq] at hvalue
      obtain ⟨-, rfl⟩ := hvalue
      exact ⟨_, checkSearch_eq_term.mpr accepted⟩
  · next unnamed =>
    have text : e.1 = Request.freeTextKey := by simpa [isNamed] using unnamed
    constructor
    · rintro ⟨a, passes⟩
      cases a with
      | term column value => exact absurd (accepted?_eq_some.mp (checkSearch_eq_term.mp passes)).1 unnamed
      | freeText text => exact ⟨text, (checkSearch_eq_freeText.mp passes).2⟩
    · rintro ⟨found, usable⟩
      exact ⟨_, checkSearch_eq_freeText.mpr ⟨text, usable⟩⟩

/-- A clause is accepted exactly when each of its entries stands up to the table. -/
theorem check_isOk_iff {table : FieldTable} {kind : Capability} (hkind : kind ≠ .display) {entries : Row} :
    (∃ clause, check table kind entries = .ok clause) ↔ ∀ e ∈ entries, Stands table kind e := by
  have mapped {α : Type} {gathered : Except Complaints (List α)} (f : List α → Clause) :
      (∃ clause, gathered.map f = .ok clause) ↔ ∃ list, gathered = .ok list := by
    cases gathered <;> simp [Except.map]
  cases kind with
  | display => exact absurd rfl hkind
  | search =>
    refine (mapped _).trans (exists_gather_eq_ok.trans ?_)
    exact forall₂_congr fun e _ => exists_checkSearch_iff table e
  | filter =>
    refine (mapped _).trans (exists_gather_eq_ok.trans ?_)
    refine forall₂_congr fun e _ => exists_check_iff (by decide) (fun _ _ _ _ => checkFilter_eq_ok) (fun _ _ h => ?_) e
    obtain ⟨values, -, rfl⟩ := Option.map_eq_some_iff.mp (Fragment.ofValue?_filter _ ▸ h)
    exact ⟨values, rfl⟩
  | range =>
    refine (mapped _).trans (exists_gather_eq_ok.trans ?_)
    refine forall₂_congr fun e _ => exists_check_iff (by decide) (fun _ _ _ _ => checkRange_eq_ok) (fun _ _ h => ?_) e
    obtain ⟨bounds, -, rfl⟩ := Option.map_eq_some_iff.mp (Fragment.ofValue?_range _ ▸ h)
    exact ⟨bounds, rfl⟩
  | sort =>
    refine (mapped _).trans (exists_gather_eq_ok.trans ?_)
    refine forall₂_congr fun e _ => exists_check_iff (by decide) (fun _ _ _ _ => checkSort_eq_ok) (fun _ _ h => ?_) e
    obtain ⟨direction, -, rfl⟩ := Option.map_eq_some_iff.mp (Fragment.ofValue?_sort _ ▸ h)
    exact ⟨direction, rfl⟩

/-- The names in complaints about gathered entries are those of the entries that fail their check. -/
private theorem mem_keys_complaints {α : Type} {check : String → Json → Except Complaint α} {entries : Row}
    {name : String} :
    name ∈ Keyed.keys (complaints check entries) ↔ ∃ e ∈ entries, e.1 = name ∧ ¬∃ a, check e.1 e.2 = .ok a := by
  unfold complaints
  rw [Complaints.mem_keys_foldl (fun e => e.1 = name ∧ ¬∃ a, check e.1 e.2 = .ok a)]
  · simp [Keyed.keys]
  · rintro all ⟨other, value⟩
    dsimp only
    cases check other value with
    | ok a => simp
    | error complaint => simp [Complaints.add, Complaints.mem_keys_append]

/-- The names of a refused clause, where the clause is gathered by a check of its entries. -/
private theorem mem_keys_gathered {α : Type} {check : String → Json → Except Complaint α} {wrap : List α → Clause}
    {table : FieldTable} {kind : Capability} (hkind : kind ≠ .display)
    (hcheck : ∀ entries, Clause.check table kind entries = (gather check entries).map wrap) {entries : Row}
    {complaints : Complaints} (h : Clause.check table kind entries = .error complaints) {name : String} :
    name ∈ Keyed.keys complaints ↔ ∃ e ∈ entries, e.1 = name ∧ ¬Stands table kind e := by
  -- a clause of a single entry is accepted where the entry passes its check
  have stands (e : String × Json) : (∃ a, check e.1 e.2 = .ok a) ↔ Stands table kind e := by
    have single := @check_isOk_iff table kind hkind [e]
    rw [List.forall_mem_singleton] at single
    rw [← single, ← List.forall_mem_singleton (p := fun e : String × Json => ∃ a, check e.1 e.2 = .ok a),
      ← exists_gather_eq_ok]
    simp only [hcheck, Outcome.map_eq_ok]
    exact ⟨fun ⟨list, hlist⟩ => ⟨_, list, hlist, rfl⟩, fun ⟨_, list, hlist, _⟩ => ⟨list, hlist⟩⟩
  rw [hcheck, gather] at h
  split at h
  · cases h
  · obtain rfl := Except.error.inj h
    simp only [mem_keys_complaints, stands]

/-- A refused clause complains of the entries that do not stand up to the table, each under its name. -/
theorem mem_keys_of_check {table : FieldTable} {kind : Capability} (hkind : kind ≠ .display) {entries : Row}
    {complaints : Complaints} (h : check table kind entries = .error complaints) {name : String} :
    name ∈ Keyed.keys complaints ↔ ∃ e ∈ entries, e.1 = name ∧ ¬Stands table kind e := by
  cases kind with
  | display => exact absurd rfl hkind
  | search => exact mem_keys_gathered hkind (fun _ => rfl) h
  | filter => exact mem_keys_gathered hkind (fun _ => rfl) h
  | range => exact mem_keys_gathered hkind (fun _ => rfl) h
  | sort => exact mem_keys_gathered hkind (fun _ => rfl) h

/-- A clause is refused with complaints, never without any. -/
theorem complaints_ne_nil_of_check {table : FieldTable} {kind : Capability} {entries : Row} {complaints : Complaints}
    (h : check table kind entries = .error complaints) : complaints ≠ [] := by
  have gathered {α : Type} {f : String → Json → Except Complaint α} {g : List α → Clause}
      (h : (gather f entries).map g = .error complaints) : complaints ≠ [] := by
    unfold gather at h
    simp only [List.isEmpty_iff] at h
    split at h
    · cases h
    · next some => exact Except.error.inj h ▸ some
  unfold check at h
  cases kind with
  | search => exact gathered h
  | filter => exact gathered h
  | range => exact gathered h
  | sort => exact gathered h
  | display => exact Except.error.inj h ▸ by simp

end Clause

end DataGrid
