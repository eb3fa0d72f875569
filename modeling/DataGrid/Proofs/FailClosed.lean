-- SUMMARY: A page is shown only if every remote has answered, and only rows that all sides agree on.
import DataGrid.Proofs.CompositeRun

/-!
# Failing closed

A run that succeeds leaves nothing out: each call of each remote has succeeded,
each exact one with keys, and the documents shown satisfy the local criteria and
join the keys of every exact call.
-/

namespace DataGrid

namespace CompositeGrid

/-- A run that succeeds has lost no answer. Every call that the remotes are sent succeeds, an exact one with at least
one key; if there is anything to ask, some call has keys. Every row shown comes from a stored document that satisfies
all local named entries and, for each remote with an exact call, joins one of the keys that this call found. -/
theorem fetch_fails_closed {definition : GridDefinition} {header body : Json} {store : MemoryStore} {version : String}
    {envelope : Envelope} {caller : Caller Id} {grid : CompositeGrid} (hgrid : ofJson definition header body = .ok grid)
    (hfetch : outcome (grid.fetch store.toStore caller version) = .ok envelope) :
    (∀ remote ∈ grid.remotes, ∀ call ∈ remote.rendered.calls, ∃ records, remote.Brings caller call.2 records) ∧
    (∀ remote ∈ grid.remotes, ∀ exact, remote.rendered.exact = some exact →
      ∃ records, remote.Brings caller exact records ∧ remote.keysOf records ≠ []) ∧
    ((∃ remote ∈ grid.remotes, remote.isApplicable = true) →
      ∃ remote ∈ grid.remotes, ∃ call ∈ remote.rendered.calls, ∃ records,
        remote.Brings caller call.2 records ∧ remote.keysOf records ≠ []) ∧
    ∃ resolved, outcome (grid.resolve caller) = .ok resolved ∧
      Shows store caller version resolved (resolved.primary.documents store) envelope ∧
      ∀ doc ∈ resolved.primary.documents store,
        doc ∈ store.rows definition.collection ∧ MeetsLocal definition grid.request doc ∧ JoinsExact caller grid doc := by
  obtain ⟨resolved, found, ran⟩ := ran_of_fetch hgrid hfetch
  have resolution := ran.resolution
  refine ⟨fun remote hremote call hcall => ?_, fun remote hremote _ hexact => resolution.exact_keys hremote hexact,
    fun applicable => ?_, resolved, ran.resolve_eq, ran.shows, fun doc hdoc => ?_⟩
  · obtain ⟨replies, hfound⟩ := resolution.exists_found hremote
    obtain ⟨records, hbrings, -⟩ := resolution.brings hfound hcall
    exact ⟨records, hbrings⟩
  · obtain ⟨c, hc⟩ := List.exists_mem_of_ne_nil _ (resolution.contributes applicable)
    obtain ⟨shape, hc⟩ : ∃ shape, c ∈ constraintsOf shape found := by
      rcases List.mem_append.mp hc with hc | hc
      · exact ⟨.exact, hc⟩
      · exact ⟨.freeText, hc⟩
    obtain ⟨remote, hremote, body, hcall, records, hbrings, hkeys, -⟩ := resolution.mem_constraintsOf.mp hc
    exact ⟨remote, hremote, (shape, body), hcall, records, hbrings, hkeys⟩
  · obtain ⟨stored, holds⟩ := ran.mem_documents hdoc
    obtain ⟨-, meets, joins⟩ := (ran.holds_predicate doc).mp holds
    exact ⟨stored, meets, joins⟩

namespace Orders

/-- Orders of two customers with several titles. -/
def several : MemoryStore :=
  ⟨[("orders", [
    [("customer", .str "c1"), ("title", .str "alpha")],
    [("customer", .str "c1"), ("title", .str "beta")],
    [("customer", .str "c2"), ("title", .str "alpha")]])]⟩

end Orders

/-- The remote finds a customer in Oslo. Of three orders the one is shown that is of this customer and has the title: one
of the others does not meet the local criterion, and one does not join the key. -/
theorem fetch_fails_closed_orders : ∃ grid envelope resolved,
    ofJson (Orders.definition [("city", "city")]) .null
      (Orders.body [("city", .str "Oslo"), ("title", .str "alpha")]) = .ok grid ∧
    outcome (grid.fetch Orders.several.toStore Orders.caller "1") = .ok envelope ∧
    envelope.content = [[("title", .str "alpha")]] ∧ outcome (grid.resolve Orders.caller) = .ok resolved ∧
    resolved.primary.documents Orders.several = [[("customer", .str "c1"), ("title", .str "alpha")]] ∧
    (∃ remote ∈ grid.remotes, ∃ exact records, remote.rendered.exact = some exact ∧
      remote.Brings Orders.caller exact records ∧ remote.keysOf records = [.str "c1"]) ∧
    MeetsLocal (Orders.definition [("city", "city")]) grid.request [("customer", .str "c1"), ("title", .str "alpha")] ∧
    JoinsExact Orders.caller grid [("customer", .str "c1"), ("title", .str "alpha")] ∧
    ¬MeetsLocal (Orders.definition [("city", "city")]) grid.request [("customer", .str "c1"), ("title", .str "beta")] ∧
    ¬JoinsExact Orders.caller grid [("customer", .str "c2"), ("title", .str "alpha")] := by
  have shown : ((ofJson (Orders.definition [("city", "city")]) .null
      (Orders.body [("city", .str "Oslo"), ("title", .str "alpha")])).toOption.any fun grid =>
        (outcome (grid.fetch Orders.several.toStore Orders.caller "1")).toOption.any (fun envelope =>
          decide (envelope.content = [[("title", .str "alpha")]])) &&
        (outcome (grid.resolve Orders.caller)).toOption.any (fun resolved =>
          decide (resolved.primary.documents Orders.several = [[("customer", .str "c1"), ("title", .str "alpha")]])) &&
        decide (("title", Json.str "alpha") ∈ grid.request.entries .search) &&
        grid.remotes.any fun remote => decide (remote.definition.primaryKey = "customer") &&
          remote.rendered.exact.any fun exact =>
            (outcome (RemoteGrid.call Orders.caller remote exact)).toOption.any fun records =>
              decide (remote.keysOf records = [.str "c1"])) = true := by
    decide +kernel
  simp only [Option.any_eq_true, Bool.and_eq_true, decide_eq_true_eq, List.any_eq_true, Outcome.toOption_eq_some] at shown
  obtain ⟨grid, hgrid, ⟨⟨⟨envelope, hfetch, content⟩, resolved, hresolve, documents⟩, titled⟩, remote, hremote, joined,
    exact, hexact, records, called, keys⟩ := shown
  have brings := RemoteGrid.call_eq_ok.mp called
  obtain ⟨-, -, -, resolved', hresolve', -, rows⟩ := fetch_fails_closed hgrid hfetch
  obtain rfl := Except.ok.inj (hresolve'.symm.trans hresolve)
  rw [documents, List.forall_mem_singleton] at rows
  refine ⟨grid, envelope, resolved', hgrid, hfetch, content, hresolve, documents,
    ⟨remote, hremote, exact, records, hexact, brings, keys⟩, rows.2.1, rows.2.2, fun meets => ?_, fun joins => ?_⟩
  · obtain ⟨column, fragment, accepted, holds⟩ :=
      meets .search ("title", .str "alpha") titled (by decide +kernel) (by decide +kernel)
    obtain ⟨-, field, known, -, rfl, suits⟩ := Clause.accepted?_eq_some.mp accepted
    obtain rfl := Option.some.inj (known.symm.trans rfl)
    rw [Fragment.ofValue?_search_of_not_blank (by decide +kernel), Option.some.injEq] at suits
    subst suits
    revert holds
    decide +kernel
  · obtain ⟨records', brings', holds⟩ := joins remote hremote exact hexact
    obtain rfl := brings.unique brings'
    rw [joined, keys] at holds
    revert holds
    decide +kernel

end CompositeGrid

end DataGrid
