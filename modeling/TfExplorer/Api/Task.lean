import TfExplorer.Store

/-!
# Reservation API: Collaborators, Requests and Handler States

The request handlers of `pkg/workloads/reservation.go` run as parallel tasks that share
only the store (spec §5). A handler is modelled as a sequence of atomic steps, each doing
at most one store operation or escrow call (`Op`); a `Task` is a handler between two steps,
with the local data it has computed so far.

- §1 the collaborators the handlers call (`Env`): validation, the directory, the
  phonebook, signature checks and the escrow's `RegisterReservation`;
- §2 requests and replies;
- §3 the handler states.

Everything a handler reads from the store is read in the step that performs the read;
a store operation can fail (the `ok` flag of a step), in which case it changes nothing and
the handler returns the error as the source does.
-/

namespace TfExplorer

/-! ## §1 Collaborators -/

/-- The error of `stellar.NewAddressValidator`. -/
inductive ValidatorError where
  | assetCodeNotSupported
  | other (message : String)
  deriving DecidableEq, Repr

/-- A wallet address of a farm. -/
structure WalletAddress where
  asset : String
  address : String
  deriving DecidableEq, Repr

/-- The parts of a farm that `validAddresses` reads. -/
structure Farm where
  name : String
  walletAddresses : List WalletAddress
  deriving DecidableEq, Repr

/-- The collaborators of the reservation handlers: code outside the core (spec §1), or
    helpers of the reservation type that are not in the source tree. -/
structure Env where
  /-- `Reservation.Validate`. -/
  validate : Reservation → Except String Unit
  /-- `config.Config.Network`. -/
  network : String
  /-- `directory.FarmsForNodes`. -/
  farmsForNodes : List String → Except String (List Farm)
  /-- `stellar.NewAddressValidator(network, asset)`, a validator of addresses. -/
  newAddressValidator : String → String → Except ValidatorError (String → Except String Unit)
  /-- `NodeFilter.WithNodeIDs(ids).WithFreeToUse(true).Count`. -/
  freeNodeCount : List String → Except String Nat
  /-- `GatewayFilter.WithGWIDs(ids).WithFreeToUse(true).Count`. -/
  freeGatewayCount : List String → Except String Nat
  /-- The phonebook: the current public key of a user. -/
  userPubkey : Int → Option String
  /-- `Reservation.Verify(pubkey, signature)`: the customer signature. -/
  verify : Reservation → String → List UInt8 → Bool
  /-- `Reservation.SignatureVerify(pubkey, signature)`: a provision or delete signature. -/
  signatureVerify : Reservation → String → List UInt8 → Bool
  /-- `Result.Verify(nodeID)`: the node's signature of a result. -/
  resultVerify : Result → String → Bool
  /-- Escrow `RegisterReservation`: the customer's escrow information. -/
  registerReservation : Reservation → List String → Except String String

/-- Collaborators that accept every request: no network configured, every node free to use,
    every user known and every signature valid. -/
def Env.accepting : Env where
  validate _ := .ok ()
  network := ""
  farmsForNodes _ := .ok []
  newAddressValidator _ _ := .error .assetCodeNotSupported
  freeNodeCount ids := .ok ids.length
  freeGatewayCount ids := .ok ids.length
  userPubkey _ := some ""
  verify _ _ _ := true
  signatureVerify _ _ _ := true
  resultVerify _ _ := true
  registerReservation _ _ := .ok ""

/-- A hexadecimal digit. -/
def hexDigit (c : Char) : Option Nat :=
  if '0' ≤ c ∧ c ≤ '9' then some (c.toNat - '0'.toNat)
  else if 'a' ≤ c ∧ c ≤ 'f' then some (c.toNat - 'a'.toNat + 10)
  else if 'A' ≤ c ∧ c ≤ 'F' then some (c.toNat - 'A'.toNat + 10)
  else none

/-- `hex.DecodeString` on a list of characters. -/
def hexDecodeChars : List Char → Option (List UInt8)
  | [] => some []
  | [_] => none
  | a :: b :: rest => do
    let hi ← hexDigit a
    let lo ← hexDigit b
    let tail ← hexDecodeChars rest
    pure ((hi * 16 + lo).toUInt8 :: tail)

/-- `hex.DecodeString`. -/
def hexDecode (s : String) : Option (List UInt8) := hexDecodeChars s.toList

/-! ## §2 Requests and replies -/

/-- The filter of `GET /reservations` (`customer_tid`, `next_action`). -/
structure ReservationFilter where
  customerTid : Option Int
  nextAction : Option NextAction
  deriving DecidableEq, Repr

/-- A request to one of the reservation handlers, with its decoded path and body. -/
inductive Request where
  | create (body : Reservation)
  | get (id : Nat)
  | list (filter : ReservationFilter) (page size : Nat)
  | signProvision (id : Nat) (signature : SigningSignature)
  | signDelete (id : Nat) (signature : SigningSignature)
  /-- The node poll; `from_` is `none` when the `from` parameter is not an integer. -/
  | workloads (nodeId : String) (from_ : Option Int)
  | workloadGet (gwid : WorkloadId)
  | workloadPutResult (nodeId : String) (gwid : WorkloadId) (result : Result)
  | workloadPutDeleted (nodeId : String) (gwid : WorkloadId)
  deriving Repr

/-- An HTTP status of a reply. -/
inductive Status where
  | ok | created | badRequest | unauthorized | notFound | failedDependency
  | internalServerError
  deriving DecidableEq, Repr

/-- A handler's reply. -/
inductive Reply where
  /-- `create`'s `201` with the reservation id and the escrow information. -/
  | created (id : Nat) (escrowInformation : String)
  | reservation (r : Reservation)
  /-- `list`, with the `Pages` header. -/
  | reservations (rs : List Reservation) (pages : Nat)
  /-- The node poll, with the `x-last-id` header when the handler sets one. -/
  | workloads (ws : List Workload) (lastId : Option Nat)
  | workload (w : Workload) (results : List Result)
  /-- A reply without a body. -/
  | status (s : Status)
  | error (s : Status) (message : String)
  /-- A runtime panic, recovered by the HTTP server. -/
  | panic (message : String)
  deriving Repr

/-- The text of an error returned by the document store. -/
def storeError : String := "store error"

/-! ## §3 Handler states -/

/-- What a handler does after `setReservationDeleted` returns. -/
inductive AfterDelete where
  /-- `signDelete`: push the queue rows of the reservation it read. -/
  | pushRows (r : Reservation)
  /-- `workloadPutResult`: reply `201`. -/
  | created
  /-- The node poll: go on with its scan after reservation `r`. -/
  | poll (nodeId : String) (r : Reservation) (rest : List Reservation) (acc : List Workload)
      (lastId : Nat)
  deriving Repr

/-- A handler between two of its atomic steps. -/
inductive Task where
  /-- A request that has not started. -/
  | start (req : Request)
  /-- `create` after `ReservationCreate`: read the reservation back. -/
  | createGet (id : Nat) (currencies : List String)
  /-- `create`: register the reservation with the escrow. -/
  | createRegister (r : Reservation) (currencies : List String)
  /-- `signProvision`, `signDelete`: `ReservationPushSignature`. -/
  | pushSignature (id : Nat) (mode : SignatureMode) (sig : SigningSignature)
  /-- `signProvision` after its push: read the reservation again. -/
  | provisionGet (id : Nat)
  /-- `signDelete` after its push: read the reservation again. -/
  | deleteGet (id : Nat)
  /-- `WorkloadPush` of the rows of `r`; `check` says whether the handler returns its error. -/
  | workloadPush (r : Reservation) (check : Bool)
  /-- `setReservationDeleted`: call escrow `ReservationCanceled`. -/
  | cancelEscrow (id : Nat) (after : AfterDelete)
  /-- `setReservationDeleted`: set `next_action` to `Delete`. -/
  | setDelete (id : Nat) (after : AfterDelete)
  /-- The node poll after reading the queue: read the last reservation id. -/
  | pollLastId (nodeId : String) (from_ : Int) (acc : List Workload)
  /-- The node poll: find the reservations on the node from `from_`. -/
  | pollFind (nodeId : String) (from_ : Int) (acc : List Workload) (lastId : Nat)
  /-- The node poll: the scan loop over the reservations found. -/
  | pollScan (nodeId : String) (rest : List Reservation) (acc : List Workload) (lastId : Nat)
  /-- `workloadPutResult`: `ResultPush`. -/
  | resultPush (rid : Nat) (nodeId : String) (result : Result)
  /-- `workloadPutResult`: `WorkloadPop`. -/
  | resultPop (rid : Nat) (nodeId : String) (result : Result)
  /-- `workloadPutResult` after an `OK` result: read the reservation again. -/
  | resultGet (rid : Nat)
  /-- `workloadPutResult`: call escrow `ReservationDeployed`. -/
  | resultDeployed (rid : Nat)
  /-- `workloadPutDeleted`: `ResultPush`. -/
  | deletedPush (rid : Nat) (nodeId : String) (gwid : WorkloadId) (result : Result)
  /-- `workloadPutDeleted`: `WorkloadPop`. -/
  | deletedPop (rid : Nat) (nodeId : String) (gwid : WorkloadId)
  /-- `workloadPutDeleted`: read the reservation again. -/
  | deletedGet (rid : Nat)
  /-- `workloadPutDeleted`: set `next_action` to `Deleted`. -/
  | deletedSet (id : Nat)
  /-- A handler that has replied. -/
  | done (reply : Reply)
  deriving Repr

/-- `API.pipeline` on a stored reservation: the reservation as `Next` leaves it. -/
def pipeline (r : Reservation) (now : Int) : Reservation := (Pipeline.next r now).1

/-- A store read of reservation `id` through `API.pipeline`; `none` when the read fails. -/
def readReservation (w : World) (ok : Bool) (id : Nat) : Option Reservation :=
  if ok then (w.store.get id).map (pipeline · w.now) else none

/-- The reply to a failed store operation (`mw.Error(err)`). -/
def Reply.storeFailed : Reply := .error .internalServerError storeError

/-- A handler's read of reservation `id` before it goes on: it goes on with the reservation
    when `p` holds, replies `otherwise` when not, and `failed` when the read fails. -/
def readIf (w : World) (ok : Bool) (id : Nat) (p : Reservation → Bool)
    (failed otherwise : Reply) : Except Reply Reservation :=
  match readReservation w ok id with
  | none => .error failed
  | some r => if p r then .ok r else .error otherwise

/-- A successful read is the stored document as `Next` leaves it. -/
theorem readReservation_eq_some {w : World} {ok : Bool} {id : Nat} {r : Reservation}
    (h : readReservation w ok id = some r) :
    ∃ r₀, w.store.get id = some r₀ ∧ r = pipeline r₀ w.now := by
  unfold readReservation at h
  split at h
  · obtain ⟨r₀, h₀, rfl⟩ := Option.map_eq_some'.mp h
    exact ⟨r₀, h₀, rfl⟩
  · cases h

/-- A handler that goes on after `readIf` read the reservation and found `p`. -/
theorem readIf_ok {w : World} {ok : Bool} {id : Nat} {p : Reservation → Bool}
    {failed otherwise : Reply} {r : Reservation} (h : readIf w ok id p failed otherwise = .ok r) :
    readReservation w ok id = some r ∧ p r = true := by
  unfold readIf at h
  split at h
  · cases h
  · split at h
    · cases h; exact ⟨by assumption, by assumption⟩
    · cases h

/-- A handler that returns early with a reply, or goes on as `k`. -/
def Task.orReply {α : Type} (x : Except Reply α) (k : α → Task) : Task :=
  match x with
  | .error reply => .done reply
  | .ok a => k a

@[simp] theorem Task.orReply_error {α : Type} (reply : Reply) (k : α → Task) :
    Task.orReply (.error reply) k = .done reply := rfl

@[simp] theorem Task.orReply_ok {α : Type} (a : α) (k : α → Task) :
    Task.orReply (.ok a) k = k a := rfl

/-- A handler that goes on does so as `k` of what it computed. -/
theorem Task.orReply_cases {α : Type} (x : Except Reply α) (k : α → Task) :
    (∃ reply, Task.orReply x k = .done reply) ∨
      ∃ a, x = .ok a ∧ Task.orReply x k = k a := by
  cases x with
  | error reply => exact .inl ⟨reply, rfl⟩
  | ok a => exact .inr ⟨a, rfl, rfl⟩

end TfExplorer
