import TfExplorer.Api.Task
import TfExplorer.Currency

/-!
# Reservation Endpoints: `create`, `get`, `list`

`API.create`, `API.get` and `API.list` of `pkg/workloads/reservation.go`.

`create` runs in three atomic steps: every check and `ReservationCreate`, then the read
back of the stored reservation, then escrow `RegisterReservation`. Its checks are split at
the point where the reservation to store is final (`createPrepare`); the rest
(`createAdmit`) only computes the currencies passed to the escrow.
-/

namespace TfExplorer

/-! ## §1 `create` -/

/-- `time.Hour`, in seconds. -/
def hour : Int := 3600

/-- `API.validAddresses`: with a network configured, every wallet address of the farms of
    the reservation's nodes must be valid for its asset; assets without a validator are
    skipped. -/
def validAddresses (env : Env) (r : Reservation) : Except String Unit :=
  if env.network = "" then .ok ()
  else do
    let farms ← env.farmsForNodes ((r.workloads "").map (·.nodeId))
    farms.forM fun farm => farm.walletAddresses.forM fun a =>
      match env.newAddressValidator env.network a.asset with
      | .error .assetCodeNotSupported => pure ()
      | .error (.other e) => throw ("could not initialize address validator: " ++ e)
      | .ok valid =>
        match valid a.address with
        | .ok () => pure ()
        | .error e => throw ("farm " ++ farm.name ++ " has an invalid address for currency " ++
            a.asset ++ ": " ++ e)

/-- The reservation with the four arrays `create` initializes to empty lists. -/
def withEmptyArrays (r : Reservation) : Reservation :=
  { r with signaturesProvision := [], signaturesDelete := [], signaturesFarmer := [],
           results := [] }

/-- `create` up to its state check: the reservation it goes on with. -/
def createPrepare (env : Env) (now : Int) (body : Reservation) : Except Reply Reservation :=
  if body.expired now then
    .error (.error .badRequest "creating for a reservation that expires in the past")
  else if body.dataReservation.expirationReservation - now < hour then
    .error (.error .badRequest "the minimum duration for a reservation is 1 hour")
  else
    match env.validate (withEmptyArrays body) with
    | .error e => .error (.error .badRequest e)
    | .ok () =>
      let reservation := pipeline (withEmptyArrays body) now
      if reservation.isAny [.invalid, .delete] then
        .error (.error .badRequest "invalid request wrong status")
      else .ok reservation

/-- The rest of `create`'s checks, up to `ReservationCreate`: farmer addresses, currency
    admission, and the customer signature. Returns the currencies for the escrow. -/
def createAdmit (env : Env) (reservation : Reservation) : Except Reply (List String) := do
  match validAddresses env reservation with
  | .error e => throw (.error .failedDependency e)
  | .ok () =>
    let freeNodes ← (env.freeNodeCount reservation.nodeIds).mapError
      (.error .internalServerError)
    let freeGateways ← (env.freeGatewayCount reservation.gatewayIds).mapError
      (.error .internalServerError)
    let paidNodes := reservation.nodeIds.length + reservation.gatewayIds.length
    let currencies ← (allowedCurrencies (freeNodes + freeGateways) paidNodes
      reservation.dataReservation.currencies).mapError .panic
    let some pubkey := env.userPubkey reservation.customerTid
      | throw (.error .badRequest "cannot find user with id")
    let some signature := hexDecode reservation.customerSignature
      | throw (.error .badRequest "invalid signature format, expecting hex encoded string")
    if !env.verify reservation pubkey signature then
      throw (.error .badRequest "failed to verify customer signature")
    return currencies

/-- Every check of `create`: the reservation to store and the currencies for the escrow. -/
def createCheck (env : Env) (now : Int) (body : Reservation) :
    Except Reply (Reservation × List String) := do
  let reservation ← createPrepare env now body
  let currencies ← createAdmit env reservation
  return ({ reservation with epoch := now }, currencies)

/-- `create` after `ReservationCreate`: the reservation read back. -/
def createGet (w : World) (ok : Bool) (id : Nat) : Except Reply Reservation :=
  match if ok then w.store.get id else none with
  | none => .error .storeFailed
  | some r => .ok r

/-- `create`'s reply once escrow `RegisterReservation` has answered. -/
def createRegister (env : Env) (r : Reservation) (currencies : List String) : Reply :=
  match env.registerReservation r currencies with
  | .error e => .error .internalServerError e
  | .ok info => .created r.id info

/-! ## §2 `get` and `list` -/

/-- `API.get`. -/
def get (w : World) (ok : Bool) (id : Nat) : Reply :=
  match readReservation w ok id with
  | none => .error .notFound storeError
  | some r => .reservation r

/-- Modelled from the spec: the `customer_tid` and `next_action` filters of `list`. -/
def ReservationFilter.matches (f : ReservationFilter) (r : Reservation) : Bool :=
  f.customerTid.all (· == r.customerTid) && f.nextAction.all (· == r.nextAction)

/-- Modelled from the spec: `models.NrPages`, `ceil(total / limit)`. -/
def nrPages (total limit : Nat) : Nat := (total + limit - 1) / limit

/-- `API.list`: one page of the matching reservations by ascending id, each through
    `API.pipeline`, with the number of pages. -/
def list (w : World) (ok : Bool) (filter : ReservationFilter) (page size : Nat) : Reply :=
  if !ok then .storeFailed
  else
    let found := w.store.reservations.filter filter.matches
    let onPage := (found.drop ((page - 1) * size)).take size
    .reservations (onPage.map (pipeline · w.now)) (nrPages found.length size)

/-! ## §3 What `create` stores -/

theorem Except.bind_eq_ok {ε α β : Type} {x : Except ε α} {f : α → Except ε β} {b : β}
    (h : x >>= f = .ok b) : ∃ a, x = .ok a ∧ f a = .ok b := by
  cases x with
  | error e => cases h
  | ok a => exact ⟨a, rfl, h⟩

/-- `create` stores the reservation `createPrepare` produced, stamped with the current time. -/
theorem createCheck_ok {env : Env} {now : Int} {body r : Reservation} {cs : List String}
    (h : createCheck env now body = .ok (r, cs)) :
    ∃ r₀, createPrepare env now body = .ok r₀ ∧ r = { r₀ with epoch := now } := by
  obtain ⟨r₀, h₀, h⟩ := Except.bind_eq_ok h
  obtain ⟨_, -, h⟩ := Except.bind_eq_ok h
  exact ⟨r₀, h₀, (Prod.mk.inj (Except.ok.inj h)).1.symm⟩

/-- `createPrepare` yields the body with empty arrays after `Next`, never in `Invalid` or
    `Delete`. -/
theorem createPrepare_ok {env : Env} {now : Int} {body r : Reservation}
    (h : createPrepare env now body = .ok r) :
    r = pipeline (withEmptyArrays body) now ∧ r.nextAction ≠ .invalid ∧
      r.nextAction ≠ .delete := by
  unfold createPrepare at h
  split_ifs at h
  split at h
  · cases h
  · dsimp only at h
    split_ifs at h with hany
    cases h
    simp only [Reservation.isAny, List.contains_cons, List.contains_nil, Bool.or_false,
      Bool.or_eq_true, beq_iff_eq, not_or] at hany
    exact ⟨rfl, hany.1, hany.2⟩

/-- The `next_action` `create` stores for a body: `Sign`, or `Pay` when the provisioning
    quorum is at most zero, for a body in `Create` or `Sign`; the body's own `Pay`, `Deploy`
    or `Deleted`; `none` for a body in `Delete` or `Invalid`, which it rejects. -/
def createdNextAction (body : Reservation) : Option NextAction :=
  match body.nextAction with
  | .create | .sign =>
    some (if body.dataReservation.signingRequestProvision.quorumMin ≤ 0 then .pay else .sign)
  | .pay | .deploy | .deleted => some body.nextAction
  | .delete | .invalid => none

/-- **What `create` stores as `next_action`** is `createdNextAction` of the body. -/
theorem createCheck_nextAction {env : Env} {now : Int} {body r : Reservation}
    {cs : List String} (h : createCheck env now body = .ok (r, cs)) :
    createdNextAction body = some r.nextAction := by
  obtain ⟨r₀, h₀, rfl⟩ := createCheck_ok h
  obtain ⟨rfl, hinv, hdel⟩ := createPrepare_ok h₀
  have hstage := Pipeline.next_nextAction_of_ne_delete hdel
  rw [Pipeline.checkProvisionSignatures_of_nil rfl] at hstage
  show createdNextAction body = some (pipeline (withEmptyArrays body) now).nextAction
  rw [pipeline] at hinv hdel ⊢
  rw [hstage] at hinv hdel ⊢
  clear h h₀ hstage
  simp only [withEmptyArrays, createdNextAction] at hinv hdel ⊢
  generalize body.nextAction = a at hinv hdel ⊢
  by_cases hq : body.dataReservation.signingRequestProvision.quorumMin ≤ 0 <;>
    simp only [hq, if_true, if_false] at hinv hdel ⊢ <;>
    cases a <;> simp_all [Pipeline.stage]

end TfExplorer
