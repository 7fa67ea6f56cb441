import TfExplorer.Api.Create
import TfExplorer.Api.Sign
import TfExplorer.Api.Workloads

/-!
# The Explorer as a Transition System

The handlers of `pkg/workloads/reservation.go` in flight over one world. An event is the
arrival of a request, one atomic step of a handler (whose store operation may fail), the
escrow collaborator's `Pay → Deploy` write, or the clock moving on. Any interleaving of
the handlers' steps is a run.

- §1 `Task.step`: the operation each handler state performs and where it goes on;
- §2 events, runs and reachable systems;
- §3 `Task.stepOp`: everything a handler step can write, once for all invariants.
-/

namespace TfExplorer

/-! ## §1 Handler steps -/

/-- Where a handler goes on after its signature push. -/
def afterPush (id : Nat) : SignatureMode → Task
  | .provision => .provisionGet id
  | .delete => .deleteGet id
  | .farmer => .done (.status .created)

/-- Where a handler goes on once `setReservationDeleted` has returned. -/
def AfterDelete.resume : AfterDelete → Task
  | .pushRows r => .workloadPush r true
  | .created => .done (.status .created)
  | .poll nodeId r rest acc lastId =>
    Task.orReply (pollContinue nodeId r acc lastId) fun acc => .pollScan nodeId rest acc lastId

/-- `workloadPutResult` after its pop: an `Error` result deletes the reservation, an `OK`
    result may complete its deployment. -/
def afterPop (rid : Nat) : ResultState → Task
  | .error => .cancelEscrow rid .created
  | .ok => .resultGet rid
  | .deleted => .done (.status .created)

/-- One atomic step of a handler at world `w`: the operation it performs and the state it
    goes on in. `ok` is whether its store operation succeeds. -/
def Task.step (env : Env) (w : World) (ok : Bool) : Task → Op × Task
  | .start (.create body) =>
    match createCheck env w.now body with
    | .error reply => (.skip, .done reply)
    | .ok (r, currencies) =>
      if ok then (.reservationCreate r, .createGet (w.store.lastId + 1) currencies)
      else (.skip, .done .storeFailed)
  | .start (.get id) => (.skip, .done (get w ok id))
  | .start (.list filter page size) => (.skip, .done (list w ok filter page size))
  | .start (.signProvision id sig) =>
    (.skip, Task.orReply (signProvision env w ok id sig) (.pushSignature id .provision))
  | .start (.signDelete id sig) =>
    (.skip, Task.orReply (signDelete env w ok id sig) (.pushSignature id .delete))
  | .start (.workloads nodeId from_) =>
    (.skip, Task.orReply (workloads w ok nodeId from_) fun (from_, acc) =>
      .pollLastId nodeId from_ acc)
  | .start (.workloadGet gwid) => (.skip, .done (workloadGet w ok gwid))
  | .start (.workloadPutResult nodeId gwid result) =>
    (.skip, Task.orReply (workloadPutResult env w ok nodeId gwid result)
      (.resultPush gwid.reservation nodeId))
  | .start (.workloadPutDeleted nodeId gwid) =>
    (.skip, Task.orReply (workloadPutDeleted w ok nodeId gwid)
      (.deletedPush gwid.reservation nodeId gwid))
  | .createGet id currencies =>
    (.skip, Task.orReply (TfExplorer.createGet w ok id) fun r => .createRegister r currencies)
  | .createRegister r currencies =>
    (.escrow (.registerReservation r.id currencies),
      .done (TfExplorer.createRegister env r currencies))
  | .pushSignature id mode sig =>
    if ok then (.pushSignature id mode sig, afterPush id mode) else (.skip, .done .storeFailed)
  | .provisionGet id =>
    (.skip, Task.orReply (TfExplorer.provisionGet w ok id) fun r => .workloadPush r false)
  | .deleteGet id =>
    (.skip, Task.orReply (TfExplorer.deleteGet w ok id) fun r => .cancelEscrow r.id (.pushRows r))
  | .workloadPush r check =>
    if ok then
      (.workloadPush (r.workloads ""),
        .done (if (w.store.workloadPush (r.workloads "")).2 || !check then .status .created
          else .storeFailed))
    else (.skip, .done (if check then .storeFailed else .status .created))
  | .cancelEscrow id after => (.escrow (.reservationCanceled id), .setDelete id after)
  | .setDelete id after =>
    if ok then (.setNextAction id .delete, after.resume) else (.skip, .done .storeFailed)
  | .pollLastId nodeId from_ acc =>
    (.skip, Task.orReply (TfExplorer.pollLastId w ok) (.pollFind nodeId from_ acc))
  | .pollFind nodeId from_ acc lastId =>
    (.skip, Task.orReply (TfExplorer.pollFind w ok nodeId from_) fun found =>
      .pollScan nodeId found acc lastId)
  | .pollScan _ [] acc lastId => (.skip, .done (.workloads acc (some lastId)))
  | .pollScan nodeId (r :: rest) acc lastId =>
    let r := pipeline r w.now
    (.skip, if r.nextAction = .delete then .cancelEscrow r.id (.poll nodeId r rest acc lastId)
      else Task.orReply (pollContinue nodeId r acc lastId) fun acc =>
        .pollScan nodeId rest acc lastId)
  | .resultPush rid nodeId result =>
    if ok then (.resultPush rid result, .resultPop rid nodeId result)
    else (.skip, .done .storeFailed)
  | .resultPop rid nodeId result =>
    if ok then (.workloadPop result.workloadId nodeId, afterPop rid result.state)
    else (.skip, .done .storeFailed)
  | .resultGet rid =>
    (.skip, Task.orReply (TfExplorer.resultGet w ok rid) fun _ => .resultDeployed rid)
  | .resultDeployed rid => (.escrow (.reservationDeployed rid), .done (.status .created))
  | .deletedPush rid nodeId gwid result =>
    if ok then (.resultPush rid result, .deletedPop rid nodeId gwid)
    else (.skip, .done .storeFailed)
  | .deletedPop rid nodeId gwid =>
    if ok then (.workloadPop gwid nodeId, .deletedGet rid) else (.skip, .done .storeFailed)
  | .deletedGet rid =>
    (.skip, Task.orReply (TfExplorer.deletedGet w ok rid) fun r => .deletedSet r.id)
  | .deletedSet id =>
    if ok then (.setNextAction id .deleted, .done (.status .ok)) else (.skip, .done .storeFailed)
  | .done reply => (.skip, .done reply)

/-! ## §2 Events and runs -/

/-- The explorer: the world and the handlers in flight. -/
structure System where
  world : World
  tasks : List Task
  deriving Repr

/-- What can happen next. -/
inductive Event where
  /-- A request arrives. -/
  | request (req : Request)
  /-- Handler `i` takes its next atomic step; `ok` is whether its store operation succeeds. -/
  | step (i : Nat) (ok : Bool)
  /-- The escrow's `Pay → Deploy` write for reservation `id`. -/
  | escrowPaid (id : Nat)
  /-- The clock moves on to `now`. -/
  | tick (now : Int)
  deriving Repr

/-- A handler that has replied. -/
def Task.isDone : Task → Bool
  | .done _ => true
  | _ => false

/-- Modelled from the spec: the escrow collaborator "drives `NextActionPay →
    NextActionDeploy` by writing back to the Store out-of-band" (§2): it writes `Deploy`
    to a reservation that `Next` leaves in `Pay`. -/
def escrowPaid (w : World) (id : Nat) : Option World :=
  match w.store.get id with
  | some r =>
    if (pipeline r w.now).nextAction = .pay then some ((Op.setNextAction id .deploy).apply w)
    else none
  | none => none

/-- The system after an event, when the event can happen. -/
def System.apply (env : Env) (s : System) : Event → Option System
  | .request req => some { s with tasks := s.tasks ++ [.start req] }
  | .step i ok =>
    match s.tasks[i]? with
    | some t =>
      if t.isDone then none
      else
        some ⟨(t.step env s.world ok).1.apply s.world, s.tasks.set i (t.step env s.world ok).2⟩
    | none => none
  | .escrowPaid id => (escrowPaid s.world id).map fun w => { s with world := w }
  | .tick now => if s.world.now ≤ now then some { s with world := { s.world with now } } else none

/-- The empty store at time `now`, with no request in flight. -/
def System.init (now : Int) : System := ⟨⟨Store.empty, [], now⟩, []⟩

/-- A run: the events in order. -/
def System.run (env : Env) : System → List Event → Option System
  | s, [] => some s
  | s, e :: es => (s.apply env e).bind fun s' => System.run env s' es

/-- The systems some run from an empty store reaches. -/
inductive Reachable (env : Env) : System → Prop where
  | init (now : Int) : Reachable env (System.init now)
  | step {s s' : System} (e : Event) : Reachable env s → s.apply env e = some s' →
      Reachable env s'

/-- What a run reaches from a reachable system is reachable. -/
theorem Reachable.run {env : Env} {s s' : System} (hs : Reachable env s) {es : List Event}
    (h : System.run env s es = some s') : Reachable env s' := by
  induction es generalizing s with
  | nil => cases h; exact hs
  | cons e es ih =>
    simp only [System.run, Option.bind_eq_some] at h
    obtain ⟨s₁, h₁, h₂⟩ := h
    exact ih (.step e hs h₁) h₂

/-! ## §3 What a step writes -/

/-- The operations a handler step can perform, by handler state. -/
inductive StepOp (env : Env) (w : World) : Task → Op → Prop where
  | skip (t : Task) : StepOp env w t .skip
  | reservationCreate (body r : Reservation) (currencies : List String) :
      createCheck env w.now body = .ok (r, currencies) →
      StepOp env w (.start (.create body)) (.reservationCreate r)
  | register (r : Reservation) (currencies : List String) :
      StepOp env w (.createRegister r currencies) (.escrow (.registerReservation r.id currencies))
  | pushSignature (id : Nat) (mode : SignatureMode) (sig : SigningSignature) :
      StepOp env w (.pushSignature id mode sig) (.pushSignature id mode sig)
  | workloadPush (r : Reservation) (check : Bool) :
      StepOp env w (.workloadPush r check) (.workloadPush (r.workloads ""))
  | cancel (id : Nat) (after : AfterDelete) :
      StepOp env w (.cancelEscrow id after) (.escrow (.reservationCanceled id))
  | setDelete (id : Nat) (after : AfterDelete) :
      StepOp env w (.setDelete id after) (.setNextAction id .delete)
  | resultPush (rid : Nat) (nodeId : String) (result : Result) :
      StepOp env w (.resultPush rid nodeId result) (.resultPush rid result)
  | resultPop (rid : Nat) (nodeId : String) (result : Result) :
      StepOp env w (.resultPop rid nodeId result) (.workloadPop result.workloadId nodeId)
  | deployed (rid : Nat) :
      StepOp env w (.resultDeployed rid) (.escrow (.reservationDeployed rid))
  | deletedPush (rid : Nat) (nodeId : String) (gwid : WorkloadId) (result : Result) :
      StepOp env w (.deletedPush rid nodeId gwid result) (.resultPush rid result)
  | deletedPop (rid : Nat) (nodeId : String) (gwid : WorkloadId) :
      StepOp env w (.deletedPop rid nodeId gwid) (.workloadPop gwid nodeId)
  | deletedSet (id : Nat) :
      StepOp env w (.deletedSet id) (.setNextAction id .deleted)

/-- **Everything a handler step writes**: the operation of every step is one of `StepOp`. -/
theorem Task.stepOp (env : Env) (w : World) (ok : Bool) (t : Task) :
    StepOp env w t (t.step env w ok).1 := by
  cases t with
  | start req =>
    cases req with
    | create body =>
      simp only [Task.step]
      split
      · exact .skip _
      · cases ok
        · exact .skip _
        · exact .reservationCreate _ _ _ (by assumption)
    | _ => exact .skip _
  | createRegister r currencies => exact .register r currencies
  | pushSignature id mode sig => cases ok <;> first | exact .skip _ | exact .pushSignature _ _ _
  | workloadPush r check => cases ok <;> first | exact .skip _ | exact .workloadPush _ _
  | cancelEscrow id after => exact .cancel id after
  | setDelete id after => cases ok <;> first | exact .skip _ | exact .setDelete _ _
  | pollScan nodeId rest acc lastId => cases rest <;> exact .skip _
  | resultPush rid nodeId result => cases ok <;> first | exact .skip _ | exact .resultPush _ _ _
  | resultPop rid nodeId result => cases ok <;> first | exact .skip _ | exact .resultPop _ _ _
  | resultDeployed rid => exact .deployed rid
  | deletedPush rid nodeId gwid result =>
    cases ok <;> first | exact .skip _ | exact .deletedPush _ _ _ _
  | deletedPop rid nodeId gwid => cases ok <;> first | exact .skip _ | exact .deletedPop _ _ _
  | deletedSet id => cases ok <;> first | exact .skip _ | exact .deletedSet _
  | _ => exact .skip _

/-- The operation an event performs on the store and the escrow log. -/
inductive EventOp (env : Env) (s : System) : Event → Op → Prop where
  | request (req : Request) : EventOp env s (.request req) .skip
  | step (i : Nat) (ok : Bool) (t : Task) (o : Op) :
      s.tasks[i]? = some t → StepOp env s.world t o → EventOp env s (.step i ok) o
  | escrowPaid (id : Nat) (r : Reservation) :
      s.world.store.get id = some r → (pipeline r s.world.now).nextAction = .pay →
      EventOp env s (.escrowPaid id) (.setNextAction id .deploy)
  | tick (now : Int) : EventOp env s (.tick now) .skip

/-- What an event does to the world: a handler step applies its operation, the escrow writes
    `Deploy` to a reservation `Next` leaves in `Pay`, the clock only moves forward, and a
    request changes nothing until its handler steps. -/
theorem System.apply_world {env : Env} {s s' : System} {e : Event}
    (h : s.apply env e = some s') :
    (∃ req, e = .request req ∧ s'.world = s.world) ∨
    (∃ i ok t, e = .step i ok ∧ s.tasks[i]? = some t ∧ t.isDone = false ∧
      s'.world = (t.step env s.world ok).1.apply s.world ∧
      s'.tasks = s.tasks.set i (t.step env s.world ok).2) ∨
    (∃ id r, e = .escrowPaid id ∧ s.world.store.get id = some r ∧
      (pipeline r s.world.now).nextAction = .pay ∧
      s'.world = (Op.setNextAction id .deploy).apply s.world ∧ s'.tasks = s.tasks) ∨
    (∃ now, e = .tick now ∧ s.world.now ≤ now ∧ s'.world = { s.world with now } ∧
      s'.tasks = s.tasks) := by
  cases e with
  | request req => cases h; exact .inl ⟨req, rfl, rfl⟩
  | step i ok =>
    simp only [System.apply] at h
    split at h
    · rename_i t ht
      split at h
      · cases h
      · rename_i hd
        cases h; exact .inr (.inl ⟨i, ok, t, rfl, ht, Bool.eq_false_iff.mpr hd, rfl, rfl⟩)
    · cases h
  | escrowPaid id =>
    simp only [System.apply, escrowPaid, Option.map_eq_some'] at h
    obtain ⟨w, hw, rfl⟩ := h
    split at hw
    · rename_i r hr
      split at hw
      · cases hw; exact .inr (.inr (.inl ⟨id, r, rfl, hr, by assumption, rfl, rfl⟩))
      · cases hw
    · cases hw
  | tick now =>
    simp only [System.apply] at h
    split at h
    · cases h; exact .inr (.inr (.inr ⟨now, rfl, by assumption, rfl, rfl⟩))
    · cases h

/-- The clock never goes back. -/
theorem System.apply_now_le {env : Env} {s s' : System} {e : Event}
    (h : s.apply env e = some s') : s.world.now ≤ s'.world.now := by
  rcases System.apply_world h with
    ⟨_, _, hw⟩ | ⟨_, _, _, _, _, _, hw, _⟩ | ⟨_, _, _, _, _, hw, _⟩ |
    ⟨_, _, hle, hw, _⟩
  · rw [hw]
  · rw [hw, Op.apply_now]
  · rw [hw, Op.apply_now]
  · rw [hw]; exact hle

/-- **Every event performs one `EventOp`** on the store and the escrow log. -/
theorem System.apply_eventOp {env : Env} {s s' : System} {e : Event}
    (h : s.apply env e = some s') :
    ∃ o, EventOp env s e o ∧ s'.world.store = (o.apply s.world).store ∧
      s'.world.escrow = (o.apply s.world).escrow := by
  rcases System.apply_world h with
    ⟨req, rfl, hw⟩ | ⟨i, ok, t, rfl, ht, -, hw, -⟩ | ⟨id, r, rfl, hr, hpay, hw, -⟩ |
    ⟨now, rfl, -, hw, -⟩
  · exact ⟨.skip, .request req, by rw [hw]; rfl, by rw [hw]; rfl⟩
  · exact ⟨_, .step i ok t _ ht (t.stepOp env s.world ok), by rw [hw], by rw [hw]⟩
  · exact ⟨_, .escrowPaid id r hr hpay, by rw [hw], by rw [hw]⟩
  · exact ⟨.skip, .tick now, by rw [hw]; rfl, by rw [hw]; rfl⟩

end TfExplorer
