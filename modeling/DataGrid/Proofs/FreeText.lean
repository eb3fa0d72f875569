-- SUMMARY: When a free text restricts the rows shown, and when it is lost.
import DataGrid.Proofs.CompositeRun

/-!
# Free text

A free text restricts the rows while one of its ways stays open: the collection
looks for it unless a remote has a parameter under its name, and remotes add the
keys that they find for it. Where both ways are closed, the rows are selected by
the other criteria alone.
-/

namespace DataGrid

namespace CompositeGrid

variable {definition : GridDefinition} {caller : Caller Id} {grid : CompositeGrid}

/-- A remote's free-text call has brought in keys. -/
def FindsKeys (caller : Caller Id) (grid : CompositeGrid) : Prop :=
  ∃ remote ∈ grid.remotes, ∃ body, remote.rendered.freeText = some body ∧
    ∃ records, remote.Brings caller body records ∧ remote.keysOf records ≠ []

/-- A row contains a text in a searchable column, or joins a key that a free-text call has brought in. -/
def HoldsText (definition : GridDefinition) (caller : Caller Id) (grid : CompositeGrid) (text : String) (row : Row) :
    Prop :=
  (∃ f ∈ definition.fields.fields, f.2.searchable = true ∧ (Predicate.contains f.2.column text).holds row = true) ∨
    ∃ remote ∈ grid.remotes, ∃ body, remote.rendered.freeText = some body ∧
      ∃ records, remote.Brings caller body records ∧
        (Predicate.oneOf remote.definition.primaryKey (remote.keysOf records)).holds row = true

theorem localTexts_eq (definition : GridDefinition) (request : Request) :
    localTexts definition request =
      if Request.freeTextKey ∈ definition.remoteFields then [] else Clause.freeTexts (request.entries .search) := by
  rw [localTexts, Request.entries_without, Clause.freeTexts, List.filterMap_filter]
  split
  · next taken =>
    refine List.filterMap_eq_nil_iff.mpr fun e _ => ?_
    by_cases same : e.1 = Request.freeTextKey
    · simp [same, taken]
    · simp [same]
  · next free =>
    refine List.filterMap_congr fun e _ => ?_
    by_cases same : e.1 = Request.freeTextKey
    · simp [same, free]
    · simp [same]

/-- Where a free text has a way left, every row shown holds it. Where it has none, because a remote has a parameter
under its name and no free-text call brings in keys, the other criteria alone decide about a row. -/
theorem fetch_holds_text {header body : Json} {store : MemoryStore} {version : String} {envelope : Envelope} {s : String}
    (hbody : body.isOrdered = true) (htext : (Request.freeTextKey, .str s) ∈ Request.entriesOf body .search)
    (hblank : Text.isBlank s = false) (hgrid : ofJson definition header body = .ok grid)
    (hfetch : outcome (grid.fetch store.toStore caller version) = .ok envelope) :
    ∃ resolved, outcome (grid.resolve caller) = .ok resolved ∧
      Shows store caller version resolved (resolved.primary.documents store) envelope ∧
      (Request.freeTextKey ∉ definition.remoteFields ∨ FindsKeys caller grid →
        ∀ doc ∈ resolved.primary.documents store,
          doc ∈ store.rows definition.collection ∧ HoldsText definition caller grid (Text.trim s) doc) ∧
      (Request.freeTextKey ∈ definition.remoteFields → ¬FindsKeys caller grid →
        ∀ row, resolved.primary.plan.predicate.holds row = true ↔
          MeetsLocal definition grid.request row ∧ JoinsExact caller grid row) := by
  have made := made_of_ofJson hgrid
  obtain ⟨resolved, found, ran⟩ := ran_of_fetch hgrid hfetch
  have resolution := ran.resolution
  rw [← Request.entries_of_ofJson hbody made.request_eq (by nofun)] at htext
  have distinct {value : Json} : Keyed.get? (grid.request.entries .search) Request.freeTextKey = some value ↔
      (Request.freeTextKey, value) ∈ grid.request.entries .search := by
    rw [Request.entries_of_ofJson hbody made.request_eq (by nofun)]
    exact Keyed.get?_eq_some_iff (Request.ascending_entriesOf hbody .search).nodup_keys
  refine ⟨resolved, ran.resolve_eq, ran.shows, fun way doc hdoc => ?_, fun taken missed row => ?_⟩
  · obtain ⟨stored, holds⟩ := ran.mem_documents hdoc
    have asked : localTexts definition grid.request ≠ [] ∨ constraintsOf .freeText found ≠ [] := by
      rcases way with free | ⟨remote, hremote, body, hcall, records, hbrings, hkeys⟩
      · refine .inl (List.ne_nil_of_mem (a := Text.trim s) ?_)
        rw [localTexts_eq, if_neg free]
        exact Clause.mem_freeTexts.mpr ⟨s, htext, hblank, rfl⟩
      · exact .inr (List.ne_nil_of_mem (resolution.mem_constraintsOf.mpr ⟨remote, hremote, body,
          Rendered.mem_calls.mpr (.inr ⟨rfl, hcall⟩), records, hbrings, hkeys, rfl⟩))
    refine ⟨stored, ?_⟩
    rcases ((ran.holds_predicate doc).mp holds).1 asked with ⟨text, hmem, column, hcolumn, contains⟩ | ⟨c, hc, joins⟩
    · rw [localTexts_eq] at hmem
      split at hmem
      · simp at hmem
      · obtain ⟨s', hs', -, rfl⟩ := Clause.mem_freeTexts.mp hmem
        have once := (distinct.mpr htext).symm.trans (distinct.mpr hs')
        obtain rfl := Json.str.inj (Option.some.inj once)
        obtain ⟨f, hf, searchable, rfl⟩ := FieldTable.mem_searchableColumns.mp hcolumn
        exact .inl ⟨f, hf, searchable, contains⟩
    · obtain ⟨remote, hremote, body, hcall, records, hbrings, -, rfl⟩ := resolution.mem_constraintsOf.mp hc
      obtain ⟨shape, -⟩ | ⟨-, hcall⟩ := Rendered.mem_calls.mp hcall
      · cases shape
      · exact .inr ⟨remote, hremote, body, hcall, records, hbrings, joins⟩
  · have unasked : ¬(localTexts definition grid.request ≠ [] ∨ constraintsOf .freeText found ≠ []) := by
      rw [localTexts_eq, if_pos taken]
      rintro (asked | asked)
      · exact asked rfl
      · obtain ⟨c, hc⟩ := List.exists_mem_of_ne_nil _ asked
        obtain ⟨remote, hremote, body, hcall, records, hbrings, hkeys, -⟩ := resolution.mem_constraintsOf.mp hc
        obtain ⟨shape, -⟩ | ⟨-, hcall⟩ := Rendered.mem_calls.mp hcall
        · cases shape
        · exact missed ⟨remote, hremote, body, hcall, records, hbrings, hkeys⟩
    rw [ran.holds_predicate]
    simp only [unasked, false_implies, true_and]

/-- A free text that the collection contains and the remote misses. -/
theorem fetch_holds_text_orders : ∃ grid envelope,
    ofJson (Orders.definition [("city", "city")]) .null
      (Orders.body [("city", .str "Oslo"), ("query", .str " Alpha ")]) = .ok grid ∧
    outcome (grid.fetch Orders.store.toStore Orders.caller "1") = .ok envelope ∧ envelope.content.length = 1 ∧
    ∃ resolved, outcome (grid.resolve Orders.caller) = .ok resolved ∧
      ∀ doc ∈ resolved.primary.documents Orders.store,
        HoldsText (Orders.definition [("city", "city")]) Orders.caller grid "Alpha" doc := by
  have shown : (Orders.shown [("city", "city")] [("city", .str "Oslo"), ("query", .str " Alpha ")]).map (·.length) =
      some 1 := by decide +kernel
  obtain ⟨rows, hrows, one⟩ := Option.map_eq_some_iff.mp shown
  obtain ⟨grid, envelope, hgrid, hfetch, rfl⟩ := Orders.shown_eq_some.mp hrows
  obtain ⟨resolved, hresolved, -, holds, -⟩ := fetch_holds_text (s := " Alpha ") (by decide +kernel) (by decide +kernel)
    (by decide +kernel) hgrid hfetch
  have trimmed : Text.trim " Alpha " = "Alpha" := by decide +kernel
  exact ⟨grid, envelope, hgrid, hfetch, one, resolved, hresolved, fun doc hdoc =>
    trimmed ▸ (holds (.inl (by decide +kernel)) doc hdoc).2⟩

/-- Whether some document is shown for a text that no searchable column contains and no remote has found. -/
private def losesText (fields : FieldTable) (text : String) (grid : CompositeGrid) : Bool :=
  ((outcome (grid.resolve Orders.caller)).toOption.any fun resolved =>
    (resolved.primary.documents Orders.store).any fun doc =>
      fields.fields.all fun f => !(Predicate.contains f.2.column text).holds doc) &&
  grid.remotes.all fun remote => remote.rendered.freeText.all fun body =>
    (outcome (RemoteGrid.call Orders.caller remote body)).toOption = some []

/-- With a parameter called `query` the free text is taken from the collection. The remote misses it, and yet the order
is shown for its customer's city. -/
theorem text_lost_to_parameter : ∃ grid envelope resolved doc,
    (Orders.definition [("city", "city"), ("query", "q")]).check "orders" = .ok () ∧
    (Orders.body [("city", .str "Oslo"), ("query", .str "zzz")]).isOrdered = true ∧
    ofJson (Orders.definition [("city", "city"), ("query", "q")]) .null
      (Orders.body [("city", .str "Oslo"), ("query", .str "zzz")]) = .ok grid ∧
    outcome (grid.fetch Orders.store.toStore Orders.caller "1") = .ok envelope ∧
    outcome (grid.resolve Orders.caller) = .ok resolved ∧
    Shows Orders.store Orders.caller "1" resolved (resolved.primary.documents Orders.store) envelope ∧
    doc ∈ resolved.primary.documents Orders.store ∧
    ¬HoldsText (Orders.definition [("city", "city"), ("query", "q")]) Orders.caller grid "zzz" doc := by
  have shown : (Orders.shown [("city", "city"), ("query", "q")] [("city", .str "Oslo"), ("query", .str "zzz")]).isSome =
      true := by decide +kernel
  have loses : (ofJson (Orders.definition [("city", "city"), ("query", "q")]) .null
      (Orders.body [("city", .str "Oslo"), ("query", .str "zzz")])).toOption.all
        (losesText (Orders.definition [("city", "city"), ("query", "q")]).fields "zzz") = true := by decide +kernel
  obtain ⟨rows, hrows⟩ := Option.isSome_iff_exists.mp shown
  obtain ⟨grid, envelope, hgrid, hfetch, -⟩ := Orders.shown_eq_some.mp hrows
  obtain ⟨resolved, found, ran⟩ := ran_of_fetch hgrid hfetch
  rw [Outcome.toOption_eq_some.mpr hgrid, Option.all_some, losesText, Outcome.toOption_eq_some.mpr ran.resolve_eq,
    Option.any_some, Bool.and_eq_true, List.any_eq_true] at loses
  obtain ⟨⟨doc, hdoc, absent⟩, missed⟩ := loses
  refine ⟨grid, envelope, resolved, doc, Outcome.toOption_eq_some.mp (by decide +kernel), by decide +kernel, hgrid, hfetch,
    ran.resolve_eq, ran.shows, hdoc, ?_⟩
  rintro (⟨f, hf, -, contains⟩ | ⟨remote, hremote, body, hcall, records, hbrings, joins⟩)
  · have lacking := List.all_eq_true.mp absent f hf
    simp [contains] at lacking
  · have none := List.all_eq_true.mp missed remote hremote
    rw [hcall, Option.all_some, decide_eq_true_eq, Outcome.toOption_eq_some, RemoteGrid.call_eq_ok] at none
    obtain rfl := hbrings.unique none
    simp [RemoteGrid.keysOf, Join.keys, Join.distinct, Join.distinctFrom] at joins

end CompositeGrid

end DataGrid
