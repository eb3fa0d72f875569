-- SUMMARY: What is known of a remote once its share of a request has been resolved.
import DataGrid.Proofs.Rendering
import DataGrid.Remote.Grid

/-!
# Resolving a remote's share

A remote's share resolves only if each of its calls succeeds. What it contributes
are the keys of the records that the calls have brought in, and nothing where they
have no keys.
-/

namespace DataGrid

/-- A reply of some rows holds these rows. -/
theorem Reply.records_ofRows (rows : List Row) : (ofRows rows).records = .ok rows := by
  refine Outcome.mapM_eq_ok.mpr (List.forall₂_map_left_iff.mpr (List.forall₂_same.mpr fun row _ => ?_))
  rfl

namespace RemoteGrid

/-- A grid for the share of a request has what its definition and the request say. -/
theorem spec_of_ofRequest {definition : RemoteDefinition} {header : Json} {request : Request} {remote : RemoteGrid}
    (h : ofRequest definition header request = .ok remote) :
    remote.definition = definition ∧ remote.definition.table = .ok remote.table ∧
      remote.rendered = Rendering.render remote.table remote.definition.maxKeys request := by
  unfold ofRequest at h
  split at h
  · next htable =>
    obtain rfl := Except.ok.inj h
    exact ⟨rfl, htable, rfl⟩
  · cases h


/-! ## Calls -/

/-- A call with this body succeeds and brings in some records. -/
def Brings (caller : Caller Id) (remote : RemoteGrid) (body : Request) (records : List Row) : Prop :=
  ∃ reply, outcome (caller ⟨remote.definition.address, body.toJson, remote.header⟩) = .ok reply ∧
    reply.records = .ok records

/-- A remote answers as a function, so a body brings in one list of records. -/
theorem Brings.unique {caller : Caller Id} {remote : RemoteGrid} {body : Request} {records records' : List Row}
    (h : remote.Brings caller body records) (h' : remote.Brings caller body records') : records = records' := by
  obtain ⟨reply, hreply, hrecords⟩ := h
  obtain ⟨reply', hreply', hrecords'⟩ := h'
  obtain rfl := Except.ok.inj (hreply.symm.trans hreply')
  exact Except.ok.inj (hrecords.symm.trans hrecords')

theorem call_eq_ok {caller : Caller Id} {remote : RemoteGrid} {body : Request} {records : List Row} :
    outcome (call caller remote body) = .ok records ↔ remote.Brings caller body records := by
  unfold call Brings
  simp only [outcome_bind_eq_ok, outcome_adapt, Outcome.mapError_eq_ok]
  refine exists_congr fun reply => and_congr_right fun _ => ?_
  cases reply.records <;> simp

/-- What the calls of a remote bring in, call by call. -/
def Answers (caller : Caller Id) (remote : RemoteGrid) (calls : List (CallShape × Request))
    (replies : List (CallShape × List Row)) : Prop :=
  List.Forall₂ (fun call reply => reply.1 = call.1 ∧ remote.Brings caller call.2 reply.2) calls replies

theorem callAll_eq_ok {caller : Caller Id} {remote : RemoteGrid} {calls : List (CallShape × Request)}
    {replies : List (CallShape × List Row)} :
    outcome (callAll caller remote calls) = .ok replies ↔ remote.Answers caller calls replies := by
  induction calls generalizing replies with
  | nil => cases replies <;> simp [callAll, Answers]
  | cons c rest ih =>
    obtain ⟨shape, body⟩ := c
    simp only [callAll, outcome_bind_eq_ok, outcome_pure, call_eq_ok, ih, Except.ok.injEq]
    constructor
    · rintro ⟨records, hrecords, others, hothers, rfl⟩
      exact .cons ⟨rfl, hrecords⟩ hothers
    · rintro (_ | ⟨⟨hshape, hrecords⟩, hothers⟩)
      obtain rfl : _ = shape := hshape
      exact ⟨_, hrecords, _, hothers, rfl⟩


/-! ## Resolution -/

/-- What a remote contributes for the records of its calls. -/
def contributions (remote : RemoteGrid) (replies : List (CallShape × List Row)) : List (CallShape × Contribution) :=
  replies.map fun reply => (reply.1, .ofKeys reply.1 (remote.keysOf reply.2))

/-- A resolution that succeeds makes every call, and takes in what these bring, if there are any. -/
theorem fetch_eq_ok {caller : Caller Id} {remote next : RemoteGrid} {parts : List (CallShape × Contribution)}
    (h : outcome (fetch caller remote) = .ok (parts, next)) :
    ∃ replies, remote.Answers caller remote.rendered.calls replies ∧ parts = remote.contributions replies ∧
      (next = remote ∨ next = remote.takeRecords replies) := by
  unfold fetch at h
  split at h
  · simp at h
  · split at h
    · next none =>
      rw [outcome_pure, Except.ok.injEq, Prod.mk.injEq] at h
      obtain ⟨rfl, rfl⟩ := h
      exact ⟨[], by rw [none]; exact .nil, rfl, .inl rfl⟩
    · simp only [outcome_bind_eq_ok, callAll_eq_ok, outcome_pure, Except.ok.injEq, Prod.mk.injEq] at h
      obtain ⟨replies, answers, rfl, rfl⟩ := h
      exact ⟨replies, answers, rfl, .inr rfl⟩

theorem kept_of_fetch {caller : Caller Id} {remote next : RemoteGrid} {parts : List (CallShape × Contribution)}
    (h : outcome (fetch caller remote) = .ok (parts, next)) :
    next.definition = remote.definition ∧ next.table = remote.table := by
  obtain ⟨replies, -, -, rfl | rfl⟩ := fetch_eq_ok h
  · exact ⟨rfl, rfl⟩
  · exact ⟨rfl, rfl⟩

/-- The constraints that the calls of one shape put on the join column, one for each call with keys. -/
def constraintsOf (remote : RemoteGrid) (shape : CallShape) (replies : List (CallShape × List Row)) :
    List (String × List Json) :=
  (replies.filter fun reply => reply.1 = shape && !(remote.keysOf reply.2).isEmpty).map fun reply =>
    (remote.definition.primaryKey, remote.keysOf reply.2)

/-- A reply with keys adds its constraint to those of its shape. -/
theorem constraintsOf_cons (remote : RemoteGrid) (shape own : CallShape) (records : List Row)
    (rest : List (CallShape × List Row)) :
    remote.constraintsOf shape ((own, records) :: rest) =
      (if own = shape ∧ remote.keysOf records ≠ [] then [(remote.definition.primaryKey, remote.keysOf records)] else []) ++
        remote.constraintsOf shape rest := by
  by_cases adds : own = shape ∧ remote.keysOf records ≠ []
  · simp [constraintsOf, adds]
  · have unchanged : (own = shape && !(remote.keysOf records).isEmpty) = false := by simpa using adds
    simp [constraintsOf, unchanged, adds]

theorem mem_constraintsOf {remote : RemoteGrid} {shape : CallShape} {replies : List (CallShape × List Row)}
    {constraint : String × List Json} :
    constraint ∈ remote.constraintsOf shape replies ↔
      ∃ records, (shape, records) ∈ replies ∧ remote.keysOf records ≠ [] ∧
        constraint = (remote.definition.primaryKey, remote.keysOf records) := by
  simp only [constraintsOf, List.mem_map, List.mem_filter, Bool.and_eq_true, decide_eq_true_eq, Bool.not_eq_true',
    List.isEmpty_eq_false_iff]
  constructor
  · rintro ⟨⟨_, records⟩, ⟨hmem, rfl, hkeys⟩, rfl⟩
    exact ⟨records, hmem, hkeys, rfl⟩
  · rintro ⟨records, hmem, hkeys, rfl⟩
    exact ⟨(shape, records), ⟨hmem, rfl, hkeys⟩, rfl⟩

end RemoteGrid

end DataGrid
