-- SUMMARY: A hosted grid without remotes answers requests and calls from other grids alike.
import DataGrid.Proofs.CompositeRun
import DataGrid.Proofs.Solitary
import DataGrid.Service.Host

/-!
# Dispatch

A hosted grid can be run for a request, as a composite grid that makes an envelope,
or be called by another grid, which is sent the rows of its collection. Without
remotes both are one run: what fails on one way fails on the other, and what is
replied is the content of the envelope.
-/

namespace DataGrid

variable {m : Type → Type} [Monad m]

namespace Host

/-! ## Requests and calls -/

/-- The status and envelope that are sent for the outcome of a run. -/
def respond (host : Host) : Result Envelope → Nat × Envelope
  | .ok envelope => (200, envelope)
  | .error e => (status e, .ofError host.version e)

/-- What a call is answered with for the outcome of a run. -/
def relay (address : Address) : Result Envelope → Result Reply
  | .ok envelope => .ok (.ofRows envelope.content)
  | .error e => .error (.unavailable address.role address.cmd e.message)

/-- No failure travels with the status of a success. -/
theorem status_ne_ok (e : GridError) : status e ≠ 200 := by
  cases e <;> simp [status]

/-- A call is answered with records exactly where a response has the status of a success, and then they are the rows of
the response. -/
theorem relay_agrees (host : Host) (address : Address) (result : Result Envelope) :
    ((∃ reply, relay address result = .ok reply) ↔ (host.respond result).1 = 200) ∧
      ∀ reply, relay address result = .ok reply →
        reply = .ofRows (host.respond result).2.content ∧ reply.records = .ok (host.respond result).2.content := by
  cases result with
  | ok envelope =>
    refine ⟨iff_of_true ⟨_, rfl⟩ rfl, ?_⟩
    rintro reply sent
    obtain rfl := Except.ok.inj sent
    exact ⟨rfl, Reply.records_ofRows _⟩
  | error e => exact ⟨iff_of_false (fun ⟨_, sent⟩ => nomatch sent) (status_ne_ok e), fun _ sent => nomatch sent⟩

variable [LawfulMonad m] {host : Host} {definition : GridDefinition} {name : String}

/-- The rows that are replied are the content of the envelope that a run makes. -/
theorem run_rows (alone : definition.remotes = []) (store : Store m) (header body : Json) :
    (rows store definition body).run = (·.map Envelope.content) <$> (host.answer store definition header body).run := by
  unfold rows answer
  rw [CompositeGrid.ofJson_eq_solitary alone, CollectionGrid.ofJson]
  cases Request.ofJson body with
  | error fault =>
    change (throw (.input fault) >>= _ : ExceptT GridError m _).run =
      _ <$> (throw (.input fault) >>= _ : ExceptT GridError m _).run
    simp only [ExceptT.run_bind, ExceptT.run_throw, pure_bind, map_pure]
    rfl
  | ok request =>
    change (pure _ >>= _ : ExceptT GridError m _).run = _ <$> (pure _ >>= _ : ExceptT GridError m _).run
    rw [pure_bind, pure_bind, CompositeGrid.run_fetch_solitary, Functor.map_map, ExceptT.run_bind, map_eq_pure_bind]
    refine congrArg _ (funext fun page => ?_)
    cases page with
    | error error => rfl
    | ok page =>
      dsimp only [Except.map]
      rw [CompositeGrid.content_envelope_solitary]
      rfl

/-- A hosted grid without remotes has one run for requests and for calls. A request is sent its envelope or its failure.
A call is answered with the rows of the envelope, or it finds the remote unavailable for the reason that the failure
shows. Neither succeeds where the other fails. -/
theorem dispatch_agrees (hosted : Keyed.get? host.grids name = some definition) (alone : definition.remotes = [])
    (store : Store m) (header body callHeader : Json) :
    host.run store name header body = host.respond <$> (host.answer store definition header body).run ∧
      (host.dispatch store ⟨⟨host.service, name⟩, body, callHeader⟩).run =
        relay ⟨host.service, name⟩ <$> (host.answer store definition header body).run ∧
      ∀ result,
        ((∃ reply, relay ⟨host.service, name⟩ result = .ok reply) ↔ (host.respond result).1 = 200) ∧
          ∀ reply, relay ⟨host.service, name⟩ result = .ok reply →
            reply = .ofRows (host.respond result).2.content ∧
              reply.records = .ok (host.respond result).2.content := by
  refine ⟨?_, ?_, host.relay_agrees _⟩
  · rw [run, hosted, map_eq_pure_bind]
    dsimp only
    refine congrArg _ (funext fun result => ?_)
    cases result <;> rfl
  · rw [dispatch]
    dsimp only
    rw [if_neg (by simp), hosted]
    dsimp only
    rw [ExceptT.run_bind, ExceptT.run_adapt, run_rows alone store header body, Functor.map_map, bind_map_left,
      map_eq_pure_bind]
    refine congrArg _ (funext fun result => ?_)
    cases result <;> rfl

end Host

namespace CompositeGrid.Orders

/-- The grid of the orders without their customers. -/
def plain : GridDefinition :=
  { definition [] with remotes := [] }

/-- The host of the orders without their customers. -/
def host : Host :=
  ⟨"shop", [("orders", plain)], "1"⟩

/-- The outcome of a run for some search entries. -/
def answered (entries : Row) : Result Envelope :=
  outcome (host.answer store.toStore plain .null (body entries))

/-- The outcome of a call with some search entries. -/
def called (entries : Row) : Result Reply :=
  outcome (host.dispatch store.toStore ⟨⟨"shop", "orders"⟩, body entries, .null⟩)

/-- The text of a failure. -/
def failureText? {α : Type} : Result α → Option String
  | .ok _ => none
  | .error e => some e.message

end CompositeGrid.Orders

open CompositeGrid in
/-- An order that is found is sent to a caller too, and a search by a field that orders do not have makes the remote
unavailable. -/
theorem Host.dispatch_agrees_orders :
    Keyed.get? Orders.host.grids "orders" = some Orders.plain ∧ Orders.plain.remotes = [] ∧
      Orders.called [("title", .str "ALP")] = .ok (.ofRows [[("title", .str "alpha")]]) ∧
      Orders.called [("price", .str "1")] =
        .error (.unavailable "shop" "orders" "Validation failed for price") := by
  have hosted : Keyed.get? Orders.host.grids "orders" = some Orders.plain := rfl
  have relayed (entries : Row) : Orders.called entries = relay ⟨"shop", "orders"⟩ (Orders.answered entries) :=
    congrArg Id.run (dispatch_agrees hosted rfl Orders.store.toStore .null (Orders.body entries) .null).2.1
  have found : (Orders.answered [("title", .str "ALP")]).toOption.map (·.content) = some [[("title", .str "alpha")]] := by
    decide +kernel
  have failed : Orders.failureText? (Orders.answered [("price", .str "1")]) = some "Validation failed for price" := by
    decide +kernel
  refine ⟨hosted, rfl, ?_, ?_⟩
  · obtain ⟨envelope, answered, content⟩ := Option.map_eq_some_iff.mp found
    rw [relayed, Outcome.toOption_eq_some.mp answered, relay, content]
  · rw [relayed]
    cases answered : Orders.answered [("price", .str "1")] with
    | ok => rw [answered] at failed; cases failed
    | error e =>
      rw [answered] at failed
      rw [relay, Option.some.inj failed]

end DataGrid
