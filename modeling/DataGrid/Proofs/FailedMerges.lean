-- SUMMARY: That a failed call for records to merge counts as one that finds no records.
import DataGrid.Proofs.RemoteOrder

/-!
# Failed merges

Once the page is fixed, no remote can refuse the request any more. Two runs are compared
whose callers answer alike, except that the second is told of no records where a chosen call
of the first fails. Where the first run gets as far as merging, both yield the same envelope.
-/

namespace DataGrid

/-! ## Runs side by side -/

section

variable {σ α β γ δ : Type}

/-- What a run yields from a state, and the state that it leaves. -/
def runFrom (s : σ) (x : StateM σ α) : α × σ :=
  (StateT.run x s).run

@[simp] theorem runFrom_pure (s : σ) (a : α) : runFrom s (pure a) = (a, s) := rfl

@[simp] theorem runFrom_bind (s : σ) (x : StateM σ α) (f : α → StateM σ β) :
    runFrom s (x >>= f) = runFrom (runFrom s x).2 (f (runFrom s x).1) := rfl

@[simp] theorem runFrom_map (s : σ) (x : StateM σ α) (f : α → β) :
    runFrom s (f <$> x) = (f (runFrom s x).1, (runFrom s x).2) := rfl

/-- What follows a step that succeeds is started with what it yields. -/
theorem runFrom_bind_of_ok {s s' : σ} {x : ExceptT GridError (StateM σ) α} {a : α} (h : runFrom s x.run = (.ok a, s'))
    (f : α → ExceptT GridError (StateM σ) β) : runFrom s (x >>= f).run = runFrom s' (f a).run := by
  rw [ExceptT.run_bind, runFrom_bind, h]

/-- From every state, two runs yield related results and leave the same state. -/
def Beside (R : α → β → Prop) (x : StateM σ α) (y : StateM σ β) : Prop :=
  ∀ s, R (runFrom s x).1 (runFrom s y).1 ∧ (runFrom s x).2 = (runFrom s y).2

theorem Beside.pure {R : α → β → Prop} {a : α} {b : β} (h : R a b) : Beside R (pure a : StateM σ α) (pure b) :=
  fun _ => ⟨h, rfl⟩

theorem Beside.bind {R : α → β → Prop} {S : γ → δ → Prop} {x : StateM σ α} {y : StateM σ β} {f : α → StateM σ γ}
    {g : β → StateM σ δ} (hx : Beside R x y) (hf : ∀ a b, R a b → Beside S (f a) (g b)) : Beside S (x >>= f) (y >>= g) := by
  intro s
  obtain ⟨related, same⟩ := hx s
  rw [runFrom_bind, runFrom_bind, ← same]
  exact hf _ _ related _

theorem Beside.mapM {R : β → γ → Prop} {f : α → StateM σ β} {g : α → StateM σ γ} (h : ∀ a, Beside R (f a) (g a))
    (list : List α) : Beside (List.Forall₂ R) (list.mapM f) (list.mapM g) := by
  induction list with
  | nil => exact .pure .nil
  | cons a rest ih =>
    rw [List.mapM_cons, List.mapM_cons]
    apply (h a).bind
    intro b c first
    apply ih.bind
    intro others others' later
    exact .pure (.cons first later)

/-- From every state in which the first of two runs yields a result of some kind, the other does the same. -/
def Follows (p : α → Prop) (x y : StateM σ α) : Prop :=
  ∀ s, p (runFrom s x).1 → runFrom s y = runFrom s x

theorem Follows.refl (p : α → Prop) (x : StateM σ α) : Follows p x x :=
  fun _ _ => rfl

theorem Follows.mapM {p : β → Prop} {f g : α → StateM σ β} (h : ∀ a, Follows p (f a) (g a)) (list : List α) :
    Follows (fun results => ∀ b ∈ results, p b) (list.mapM f) (list.mapM g) := by
  induction list with
  | nil => exact .refl _ _
  | cons a rest ih =>
    intro s all
    rw [List.mapM_cons] at all
    simp only [runFrom_bind, runFrom_pure, List.forall_mem_cons] at all
    obtain ⟨first, others⟩ := all
    rw [List.mapM_cons, List.mapM_cons]
    simp only [runFrom_bind, runFrom_pure]
    rw [h a s first, ih _ others]

/-- A step has succeeded. -/
def Succeeds (r : Result α) : Prop :=
  ∃ a, r = .ok a

theorem Follows.bindExcept {x y : ExceptT GridError (StateM σ) α} {f g : α → ExceptT GridError (StateM σ) β}
    (hx : Follows Succeeds x.run y.run) (hf : ∀ a, Follows Succeeds (f a).run (g a).run) :
    Follows Succeeds (x >>= f).run (y >>= g).run := by
  intro s success
  rw [ExceptT.run_bind, runFrom_bind] at success
  rw [ExceptT.run_bind, ExceptT.run_bind, runFrom_bind, runFrom_bind]
  cases held : (runFrom s x.run).1 with
  | error error =>
    rw [held] at success
    obtain ⟨_, failure⟩ := success
    cases failure
  | ok a =>
    rw [held] at success
    rw [hx s ⟨a, held⟩, held]
    exact hf a _ success

end


/-! ## Excused calls -/

section

variable {σ : Type}

/-- The answer without records in place of a failure, also of a reply that holds no records. -/
def Reply.excuse : Result Reply → Result Reply
  | .ok reply =>
    match reply.records with
    | .ok _ => .ok reply
    | .error _ => .ok (.ofRows [])
  | .error _ => .ok (.ofRows [])

/-- The same caller, except that a chosen call that fails finds no records. Calls are chosen by the state in which they are
made, which may tell equal calls apart. -/
def Caller.sparing (caller : Caller (StateM σ)) (chosen : σ → Call → Bool) : Caller (StateM σ) := fun call => .mk do
  let state ← get
  let answer ← (caller call).run
  return if chosen state call then Reply.excuse answer else answer

theorem runFrom_sparing (caller : Caller (StateM σ)) (chosen : σ → Call → Bool) (call : Call) (s : σ) :
    runFrom s (caller.sparing chosen call).run =
      (if chosen s call then Reply.excuse (runFrom s (caller call).run).1 else (runFrom s (caller call).run).1,
        (runFrom s (caller call).run).2) := rfl

namespace RemoteGrid

variable {caller : Caller (StateM σ)} {chosen : σ → Call → Bool} {remote : RemoteGrid}

theorem excuse_of_succeeds {answer : Result Reply} (h : Succeeds (remote.reading answer)) : Reply.excuse answer = answer := by
  obtain ⟨records, h⟩ := h
  cases answer with
  | error error => cases h
  | ok reply =>
    rw [reading, Outcome.mapError_eq_ok] at h
    rw [Reply.excuse, h]

/-- A call that succeeds needs no excuse. -/
theorem follows_call (body : Request) :
    Follows Succeeds (call caller remote body).run (call (caller.sparing chosen) remote body).run := by
  intro s success
  rw [run_call, runFrom_map] at success
  rw [run_call, run_call, runFrom_map, runFrom_map, runFrom_sparing]
  split
  · rw [excuse_of_succeeds success]
  · rfl

theorem follows_callAll (calls : List (CallShape × Request)) :
    Follows Succeeds (callAll caller remote calls).run (callAll (caller.sparing chosen) remote calls).run := by
  induction calls with
  | nil => exact .refl _ _
  | cons c rest ih =>
    obtain ⟨shape, body⟩ := c
    apply (follows_call body).bindExcept
    intro records
    apply ih.bindExcept
    intro others
    exact .refl _ _

theorem follows_fetch (remote : RemoteGrid) :
    Follows Succeeds (remote.fetch caller).run (remote.fetch (caller.sparing chosen)).run := by
  unfold fetch
  split
  · exact .refl _ _
  · split
    · exact .refl _ _
    · apply (follows_callAll _).bindExcept
      intro replies
      exact .refl _ _

/-- The second of two results is the first one, or stands without anything for a failure. -/
def Excuses {α : Type} (nothing : α) (r r' : Result α) : Prop :=
  r' = r ∨ ¬Succeeds r ∧ r' = .ok nothing

/-- An excused failure reads as no records. -/
theorem excuses_reading (remote : RemoteGrid) (answer : Result Reply) :
    Excuses [] (remote.reading answer) (remote.reading (Reply.excuse answer)) := by
  by_cases success : Succeeds (remote.reading answer)
  · exact .inl (by rw [excuse_of_succeeds success])
  · refine .inr ⟨success, ?_⟩
    have excused : Reply.excuse answer = .ok (.ofRows []) := by
      cases answer with
      | error error => rfl
      | ok reply =>
        rw [Reply.excuse]
        cases found : reply.records with
        | error fault => rfl
        | ok records => exact absurd ⟨records, by rw [reading, found]; rfl⟩ success
    rw [excused]
    rfl

theorem beside_call (body : Request) :
    Beside (Excuses []) (call caller remote body).run (call (caller.sparing chosen) remote body).run := by
  intro s
  rw [run_call, run_call, runFrom_map, runFrom_map, runFrom_sparing]
  refine ⟨?_, rfl⟩
  split
  · exact excuses_reading remote _
  · exact .inl rfl

/-- A remote provides the same to merge, or no data where it has failed before. -/
theorem beside_mergeData (remote : RemoteGrid) (rows : List Row) :
    Beside (Excuses []) (remote.mergeData caller rows).run (remote.mergeData (caller.sparing chosen) rows).run := by
  unfold mergeData
  split
  · exact .pure (.inl rfl)
  · dsimp only
    split
    · exact .pure (.inl rfl)
    · rw [ExceptT.run_bind, ExceptT.run_bind]
      apply (beside_call _).bind
      intro records records' excuses
      rcases excuses with rfl | ⟨failed, rfl⟩
      · cases records' with
        | ok => exact .pure (.inl rfl)
        | error => exact .pure (.inl rfl)
      · cases records with
        | ok records => exact absurd ⟨records, rfl⟩ failed
        | error error => exact .pure (.inr ⟨nofun, rfl⟩)

end RemoteGrid

end


/-! ## Merging without records -/

theorem MergeData.mergeRow_empty (column : String) (row : Row) : mergeRow [] column row = row := by
  have nothing : Keyed.keys (brought [] (row.lookup column)) = [] := by
    refine List.eq_nil_iff_forall_not_mem.mpr fun key hkey => ?_
    obtain ⟨record, hrecord, -⟩ := exists_record_of_mem_brought hkey
    cases hrecord
  rw [mergeRow_eq, List.map_eq_nil_iff.mp nothing]
  rfl

theorem MergeData.mergeRows_empty (column : String) (rows : List Row) : mergeRows [] column rows = rows := by
  have kept : mergeRow [] column = id := funext (mergeRow_empty column)
  rw [mergeRows, kept, List.map_id]

namespace CompositeGrid

variable {σ : Type} {store : Store (StateM σ)} {caller : Caller (StateM σ)} {chosen : σ → Call → Bool}
  {version : String} {grid resolved : CompositeGrid} {page : Page} {s s' : σ}

/-- What a remote provides to merge, and the same or no data in place of its failure. -/
def SameMerge (merge merge' : RemoteGrid × Result MergeData) : Prop :=
  merge'.1 = merge.1 ∧ RemoteGrid.Excuses [] merge.2 merge'.2

/-- Where a remote has failed, no data merge to the same rows. -/
theorem mergeAll_of_sameMerge {merges merges' : List (RemoteGrid × Result MergeData)}
    (h : List.Forall₂ SameMerge merges merges') (rows : List Row) : mergeAll rows merges' = mergeAll rows merges := by
  induction h generalizing rows with
  | nil => rfl
  | @cons merge merge' rest rest' same _ ih =>
    obtain ⟨remote, data⟩ := merge
    obtain ⟨remote', data'⟩ := merge'
    obtain ⟨rfl : remote' = remote, rfl | ⟨failed, rfl⟩⟩ := same
    · exact ih _
    · cases data with
      | ok data => exact absurd ⟨data, rfl⟩ failed
      | error error =>
        calc mergeAll rows ((remote', .ok []) :: rest')
          _ = mergeAll (MergeData.mergeRows [] remote'.definition.primaryKey rows) rest' := rfl
          _ = mergeAll rows rest' := by rw [MergeData.mergeRows_empty]
          _ = mergeAll rows rest := ih rows

theorem beside_askMerges (rows : List Row) (remotes : List RemoteGrid) :
    Beside (List.Forall₂ SameMerge) (askMerges caller rows remotes) (askMerges (caller.sparing chosen) rows remotes) := by
  apply Beside.mapM
  intro remote
  apply (remote.beside_mergeData rows).bind
  intro data data' excuses
  exact .pure ⟨rfl, excuses⟩

/-- The grid resolves only if every remote does. -/
theorem succeeds_of_resolved {outcomes : List Outcome} (h : Succeeds (grid.resolved outcomes)) :
    ∀ outcome ∈ outcomes, Succeeds outcome := by
  obtain ⟨resolved, h⟩ := h
  obtain ⟨⟨contributions, remotes⟩, gathered, -⟩ := Outcome.bind_eq_ok.mp h
  intro outcome houtcome
  obtain ⟨next, -, parts, rfl⟩ := Outcome.exists_right_of_mem (forall₂_of_gather gathered) houtcome
  exact ⟨_, rfl⟩

theorem follows_resolve (grid : CompositeGrid) :
    Follows Succeeds (grid.resolve caller).run (grid.resolve (caller.sparing chosen)).run := by
  unfold resolve
  rw [ExceptT.run_bind_lift, ExceptT.run_bind_lift]
  intro s success
  have asked := succeeds_of_resolved success
  rw [runFrom_bind, runFrom_bind, Follows.mapM RemoteGrid.follows_fetch grid.remotes s asked]

/-- A run from a state gets as far as merging records into a page. -/
structure ReachesMerge (store : Store (StateM σ)) (caller : Caller (StateM σ)) (grid : CompositeGrid) (s : σ)
    (resolved : CompositeGrid) (page : Page) (s' : σ) : Prop where
  initial : grid.phase = .init
  quiet : grid.complaints = []
  reached : ∃ between, runFrom s (grid.resolve caller).run = (.ok resolved, between) ∧
    runFrom between (resolved.primary.fetch store).run = (.ok page, s')

/-- From there it only merges what the remotes provide. -/
theorem ReachesMerge.runFrom_fetch (h : ReachesMerge store caller grid s resolved page s') :
    runFrom s (grid.fetch store caller version).run =
      (.ok (resolved.envelope version (mergeAll page.rows (runFrom s' (askMerges caller page.rows resolved.remotes)).1)
        page.pagination), (runFrom s' (askMerges caller page.rows resolved.remotes)).2) := by
  obtain ⟨initial, quiet, between, hresolved, hpage⟩ := h
  have accepted : ¬(!grid.complaints.isEmpty) = true := by
    rw [quiet]
    decide
  unfold fetch
  rw [initial]
  dsimp only
  unfold run
  rw [if_neg accepted, runFrom_bind_of_ok hresolved, runFrom_bind_of_ok hpage, ExceptT.run_bind_lift]
  rfl

theorem ReachesMerge.sparing (h : ReachesMerge store caller grid s resolved page s') (chosen : σ → Call → Bool) :
    ReachesMerge store (caller.sparing chosen) grid s resolved page s' := by
  obtain ⟨between, hresolved, hpage⟩ := h.reached
  refine ⟨h.initial, h.quiet, between, ?_, hpage⟩
  rw [follows_resolve grid s ⟨resolved, by rw [hresolved]⟩, hresolved]

/-- A run that gets as far as merging succeeds, and each of its merge calls that fails might as well have found no records:
the envelope is the same, and so is the state that the run leaves. -/
theorem fetch_excuses_merges (h : ReachesMerge store caller grid s resolved page s') (version : String)
    (chosen : σ → Call → Bool) : ∃ envelope after,
      runFrom s (grid.fetch store caller version).run = (.ok envelope, after) ∧
      runFrom s (grid.fetch store (caller.sparing chosen) version).run = (.ok envelope, after) := by
  refine ⟨_, _, h.runFrom_fetch, ?_⟩
  have asked : Beside (List.Forall₂ SameMerge) (askMerges caller page.rows resolved.remotes)
      (askMerges (caller.sparing chosen) page.rows resolved.remotes) := beside_askMerges _ _
  obtain ⟨merges, states⟩ := asked s'
  rw [(h.sparing chosen).runFrom_fetch, mergeAll_of_sameMerge merges, states]

namespace Branches

/-- Remotes that answer from a script. -/
def scripted : Caller (StateM (List (Result Reply))) := fun _ => .mk do
  match ← get with
  | [] => return .error (.unavailable "crm" "" "silent")
  | answer :: rest =>
    set rest
    return answer

/-- The customers are not available, and the branch `b1` is found. -/
def script : List (Result Reply) :=
  [.error (.unavailable "crm" "customers" "down"), .ok (.ofRows [[("city", .str "Oslo"), ("id", .str "b1")]])]

/-- The first of two calls. -/
def isFirst (script : List (Result Reply)) (_ : Call) : Bool :=
  script.length = 2

end Branches

/-- The customers fail to be merged and the branches do not, as if no customers had been found. -/
theorem fetch_excuses_merges_branches : ∃ grid resolved page between envelope after,
    ReachesMerge Branches.store.toStore Branches.scripted grid Branches.script resolved page between ∧
    runFrom Branches.script (grid.fetch Branches.store.toStore Branches.scripted "1").run = (.ok envelope, after) ∧
    runFrom Branches.script (grid.fetch Branches.store.toStore (Branches.scripted.sparing Branches.isFirst) "1").run =
      (.ok envelope, after) ∧
    envelope.content = [[("city", .str "Oslo"), ("title", .str "alpha")]] ∧ after = [] := by
  have conditions : ((GridDefinition.decode (Branches.description "home")).toOption.any fun definition =>
      (ofJson definition .null (.obj [])).toOption.any fun grid =>
        decide (grid.phase = .init) && grid.complaints.isEmpty &&
        ((runFrom Branches.script (grid.resolve Branches.scripted).run).1.toOption.any fun resolved =>
          (runFrom (runFrom Branches.script (grid.resolve Branches.scripted).run).2
            (resolved.primary.fetch Branches.store.toStore).run).1.toOption.isSome) &&
        ((runFrom Branches.script (grid.fetch Branches.store.toStore Branches.scripted "1").run).1.toOption.any
          fun envelope => decide (envelope.content = [[("city", .str "Oslo"), ("title", .str "alpha")]])) &&
        decide ((runFrom Branches.script (grid.fetch Branches.store.toStore Branches.scripted "1").run).2 = [])) = true := by
    decide +kernel
  obtain ⟨definition, -, conditions⟩ := (Option.any_eq_true _ _).mp conditions
  obtain ⟨grid, -, conditions⟩ := (Option.any_eq_true _ _).mp conditions
  simp only [Bool.and_eq_true, decide_eq_true_eq, List.isEmpty_iff, Option.any_eq_true, Option.isSome_iff_exists,
    Outcome.toOption_eq_some] at conditions
  obtain ⟨⟨⟨⟨initial, quiet⟩, resolved, hresolved, page, hpage⟩, envelope, hfetch, content⟩, spent⟩ := conditions
  have reaches : ReachesMerge Branches.store.toStore Branches.scripted grid Branches.script resolved page _ :=
    ⟨initial, quiet, _, Prod.ext hresolved rfl, Prod.ext hpage rfl⟩
  obtain ⟨envelope', after, first, second⟩ := fetch_excuses_merges reaches "1" Branches.isFirst
  rw [first] at hfetch spent
  obtain rfl := Except.ok.inj hfetch
  exact ⟨grid, resolved, page, _, _, after, reaches, first, second, content, spent⟩

end CompositeGrid

end DataGrid
