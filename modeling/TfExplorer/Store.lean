import TfExplorer.Pipeline

/-!
# Reservation Store and World

The explorer's persistent state and the single-document operations the handlers perform
on it. The store functions of `pkg/workloads/types` (`ReservationCreate`, `ResultPush`,
`WorkloadPush`, …) are not in the source tree and are modelled from the specification
(§4.1); the queue indexes are those `Setup` declares (`types/setup.go`).

- §1 the queue indexes of `Setup` and ordered `InsertMany`: no index is unique, so a push
  never refuses a row (`insertMany_setup`).
- §2 the store and its operations.
- §3 the world: store, the escrow collaborator's call log, the clock; one `Op` per atomic
  operation a handler can perform.
- §4 frame lemmas: no operation removes a reservation, changes its id or payload, or drops
  a result (`Op.grows`).
-/

namespace TfExplorer

/-! ## §1 Queue indexes -/

/-- The indexed fields of the `workload_queue` collection. -/
inductive QueueField where
  | nodeId | workloadId
  deriving DecidableEq, Repr

/-- `mongo.IndexModel`: the key fields of an index and whether it is unique. -/
structure IndexModel where
  keys : List QueueField
  unique : Bool
  deriving DecidableEq, Repr

/-- The queue half of `Setup`: one index on `node_id` and one on `workload_id`, each on its
    own field and neither unique. -/
def setupQueueIndexes : List IndexModel := [⟨[.nodeId], false⟩, ⟨[.workloadId], false⟩]

/-- Two rows agree on a field. -/
def QueueField.agree : QueueField → Workload → Workload → Bool
  | .nodeId, a, b => a.nodeId == b.nodeId
  | .workloadId, a, b => a.workloadId == b.workloadId

/-- Two rows clash on an index when it is unique and they agree on all of its keys. -/
def IndexModel.clash (idx : IndexModel) (a b : Workload) : Bool :=
  idx.unique && idx.keys.all fun k => k.agree a b

/-- Ordered `InsertMany`: rows go in one by one; the first that clashes with a stored row on
    a unique index stops the insert with a duplicate-key error (`false`). -/
def insertMany (indexes : List IndexModel) :
    List Workload → List Workload → List Workload × Bool
  | queue, [] => (queue, true)
  | queue, w :: ws =>
    if indexes.any fun idx => queue.any (idx.clash w) then (queue, false)
    else insertMany indexes (queue ++ [w]) ws

/-- **No index of `Setup` rejects a row**: a push appends all of its rows. -/
theorem insertMany_setup (queue rows : List Workload) :
    insertMany setupQueueIndexes queue rows = (queue ++ rows, true) := by
  induction rows generalizing queue with
  | nil => simp [insertMany]
  | cons w ws ih =>
    rw [insertMany, if_neg (by simp [setupQueueIndexes, IndexModel.clash]), ih]
    simp

/-- The row of workload `gwid` on node `nodeId`: the filter of `WorkloadPop`. -/
def Workload.isRow (gwid : WorkloadId) (nodeId : String) (w : Workload) : Bool :=
  w.workloadId == gwid && w.nodeId == nodeId

/-- Erasing the first element that a predicate selects lowers its count by one. -/
theorem List.countP_eraseP_self {α : Type} (p : α → Bool) (l : List α) :
    (l.eraseP p).countP p = l.countP p - 1 := by
  induction l with
  | nil => rfl
  | cons a l ih =>
    rw [List.eraseP_cons]
    cases h : p a
    · simp [List.countP_cons, h, ih]
    · simp [List.countP_cons, h]

/-- Erasing an element that `p` does not select leaves the count of `p` alone. -/
theorem List.countP_eraseP_of_disjoint {α : Type} {p q : α → Bool} (l : List α)
    (h : ∀ a, q a = true → p a = false) : (l.eraseP q).countP p = l.countP p := by
  induction l with
  | nil => rfl
  | cons a l ih =>
    rw [List.eraseP_cons]
    cases hq : q a
    · simp [List.countP_cons, ih]
    · simp [List.countP_cons, h a hq]

/-- A pop of one row lowers the count of its own pair by one and no other. -/
theorem countP_isRow_eraseP (queue : List Workload) (g g' : WorkloadId) (n n' : String) :
    (queue.eraseP (Workload.isRow g' n')).countP (Workload.isRow g n) =
      if g' = g ∧ n' = n then queue.countP (Workload.isRow g n) - 1
      else queue.countP (Workload.isRow g n) := by
  split
  · obtain ⟨rfl, rfl⟩ := ‹g' = g ∧ n' = n›
    exact List.countP_eraseP_self _ queue
  · refine List.countP_eraseP_of_disjoint queue fun w hw => ?_
    simp only [Workload.isRow, Bool.and_eq_true, beq_iff_eq] at hw ⊢
    rcases hw with ⟨rfl, rfl⟩
    simpa using ‹¬(w.workloadId = g ∧ w.nodeId = n)›

/-! ## §2 Store -/

/-- `SignatureMode`: the signature list a push goes to. -/
inductive SignatureMode where
  | provision | delete | farmer
  deriving DecidableEq, Repr

/-- Modelled from the spec: the append of `PushSignature`, "appends iff no existing entry
    with same `tid` (dedup by signer)" (§4.1). -/
def appendSignature (l : List SigningSignature) (sig : SigningSignature) : List SigningSignature :=
  if l.any (·.tid == sig.tid) then l else l ++ [sig]

/-- `PushSignature` on one reservation document. -/
def Reservation.pushSignature (mode : SignatureMode) (sig : SigningSignature)
    (r : Reservation) : Reservation :=
  match mode with
  | .provision => { r with signaturesProvision := appendSignature r.signaturesProvision sig }
  | .delete => { r with signaturesDelete := appendSignature r.signaturesDelete sig }
  | .farmer => { r with signaturesFarmer := appendSignature r.signaturesFarmer sig }

/-- The persistent state: the `reservation` collection in id order, the id counter, and the
    `workload_queue` collection in insertion order. -/
structure Store where
  reservations : List Reservation
  lastId : Nat
  queue : List Workload
  deriving Repr

namespace Store

/-- The empty store. -/
def empty : Store := ⟨[], 0, []⟩

/-- Modelled from the spec: `ReservationFilter.WithID(id).Get`. -/
def get (s : Store) (id : Nat) : Option Reservation :=
  s.reservations.find? (·.id == id)

/-- Modelled from the spec: the document `ReservationCreate` writes for `r` under `id`, with
    its "array fields initialized to empty" (§4.1). -/
def created (r : Reservation) (id : Nat) : Reservation :=
  { r with id, signaturesProvision := [], signaturesDelete := [], signaturesFarmer := [],
           results := [] }

/-- Modelled from the spec: `ReservationCreate`, which "assigns `id`, writes document,
    initializes array fields to empty" (§4.1); ids come from the counter. -/
def reservationCreate (s : Store) (r : Reservation) : Store where
  reservations := s.reservations ++ [created r (s.lastId + 1)]
  lastId := s.lastId + 1
  queue := s.queue

/-- A single-document update of reservation `id`. -/
def update (s : Store) (id : Nat) (f : Reservation → Reservation) : Store :=
  { s with reservations := s.reservations.map fun r => if r.id = id then f r else r }

/-- `ReservationPushSignature`. -/
def pushSignature (s : Store) (id : Nat) (mode : SignatureMode) (sig : SigningSignature) :
    Store :=
  s.update id (Reservation.pushSignature mode sig)

/-- Modelled from the spec: `ResultPush`, which "appends" the result (§4.1). -/
def resultPush (s : Store) (id : Nat) (result : Result) : Store :=
  s.update id fun r => { r with results := r.results ++ [result] }

/-- Modelled from the spec: `ReservationSetNextAction`, an unconditional overwrite (§4.1). -/
def setNextAction (s : Store) (id : Nat) (a : NextAction) : Store :=
  s.update id fun r => { r with nextAction := a }

/-- Modelled from the spec: `WorkloadPush`, an insert into the queue collection, subject to
    its indexes; `false` is a duplicate-key error. -/
def workloadPush (s : Store) (rows : List Workload) : Store × Bool :=
  let (queue, ok) := insertMany setupQueueIndexes s.queue rows
  ({ s with queue }, ok)

/-- Modelled from the spec: `WorkloadPop(workload_id, node_id)`, which removes the queue
    row of the workload on the node. -/
def workloadPop (s : Store) (gwid : WorkloadId) (nodeId : String) : Store :=
  { s with queue := s.queue.eraseP (Workload.isRow gwid nodeId) }

/-- Modelled from the spec: `API.queued`'s `QueueFilter.WithNodeID(nodeID).Find` with a
    limit, FIFO by insertion. -/
def queued (s : Store) (nodeId : String) (limit : Nat) : List Workload :=
  (s.queue.filter (·.nodeId == nodeId)).take limit

/-- Modelled from the spec: `ReservationFilter.WithIDGE(from).WithNodeID(nodeID).Find`, the
    reservations with `id ≥ from` that have a workload on the node, by ascending id. -/
def find (s : Store) (from_ : Int) (nodeId : String) : List Reservation :=
  s.reservations.filter fun r =>
    decide (from_ ≤ r.id) && r.dataReservation.workloads.any (·.nodeIds.contains nodeId)

end Store

/-! ## §3 World and atomic operations -/

/-- A call the core makes to the escrow collaborator, in the order made. -/
inductive EscrowCall where
  | registerReservation (id : Nat) (currencies : List String)
  | reservationDeployed (id : Nat)
  | reservationCanceled (id : Nat)
  deriving DecidableEq, Repr

/-- What the handlers act on: the store, the log of escrow calls, and the clock. -/
structure World where
  store : Store
  escrow : List EscrowCall
  now : Int
  deriving Repr

/-- One atomic operation of a handler: a single-document store write or an escrow call.
    Reads are part of the step that performs them and change nothing. -/
inductive Op where
  | skip
  | reservationCreate (r : Reservation)
  | pushSignature (id : Nat) (mode : SignatureMode) (sig : SigningSignature)
  | resultPush (id : Nat) (result : Result)
  | setNextAction (id : Nat) (a : NextAction)
  | workloadPush (rows : List Workload)
  | workloadPop (gwid : WorkloadId) (nodeId : String)
  | escrow (call : EscrowCall)
  deriving Repr

/-- The effect of an operation on the world. -/
def Op.apply : Op → World → World
  | .skip, w => w
  | .reservationCreate r, w => { w with store := w.store.reservationCreate r }
  | .pushSignature id mode sig, w => { w with store := w.store.pushSignature id mode sig }
  | .resultPush id result, w => { w with store := w.store.resultPush id result }
  | .setNextAction id a, w => { w with store := w.store.setNextAction id a }
  | .workloadPush rows, w => { w with store := (w.store.workloadPush rows).1 }
  | .workloadPop gwid nodeId, w => { w with store := w.store.workloadPop gwid nodeId }
  | .escrow call, w => { w with escrow := w.escrow ++ [call] }

@[simp] theorem Op.apply_now (o : Op) (w : World) : (o.apply w).now = w.now := by
  cases o <;> rfl

/-- What an operation does to the queue: a push appends its rows (no index of `Setup`
    refuses one), a pop erases the first row of its pair. -/
def Op.onQueue : Op → List Workload → List Workload
  | .workloadPush rows, queue => queue ++ rows
  | .workloadPop gwid nodeId, queue => queue.eraseP (Workload.isRow gwid nodeId)
  | _, queue => queue

theorem Op.apply_queue (o : Op) (w : World) :
    (o.apply w).store.queue = o.onQueue w.store.queue := by
  cases o <;> simp [Op.apply, Op.onQueue, Store.workloadPush, insertMany_setup,
    Store.workloadPop, Store.reservationCreate, Store.pushSignature, Store.resultPush,
    Store.setNextAction, Store.update]

/-- The escrow calls an operation makes. -/
def Op.calls : Op → List EscrowCall
  | .escrow call => [call]
  | _ => []

/-- Operations add their calls to the end of the escrow log. -/
theorem Op.apply_escrow (o : Op) (w : World) : (o.apply w).escrow = w.escrow ++ o.calls := by
  cases o <;> simp [Op.apply, Op.calls]

/-- An operation that logs `call` is the escrow call itself. -/
theorem Op.eq_escrow_of_calls {o : Op} {call : EscrowCall} (h : o.calls = [call]) :
    o = .escrow call := by
  cases o <;> simp_all [Op.calls]

/-! ## §4 Frame lemmas -/

/-- `r'` is a later version of document `r`: same id and payload, and every result of `r`
    is still there. -/
structure Reservation.Grows (r r' : Reservation) : Prop where
  id : r'.id = r.id
  data : r'.dataReservation = r.dataReservation
  results : ∀ x ∈ r.results, x ∈ r'.results

namespace Reservation

theorem Grows.refl (r : Reservation) : r.Grows r := ⟨rfl, rfl, fun _ h => h⟩

theorem Grows.trans {r₁ r₂ r₃ : Reservation} (h₁ : r₁.Grows r₂) (h₂ : r₂.Grows r₃) :
    r₁.Grows r₃ :=
  ⟨h₂.id.trans h₁.id, h₂.data.trans h₁.data,
    fun x hx => h₂.results x (h₁.results x hx)⟩

/-- The workload ids of a reservation depend only on its id and payload. -/
theorem Grows.workloadIds {r r' : Reservation} (h : r.Grows r') (nodeId : String) :
    (r'.workloads nodeId).map (·.workloadId) = (r.workloads nodeId).map (·.workloadId) := by
  simp only [workloads, List.map_flatMap, List.map_map, Function.comp_def, row, h.id, h.data]

/-- A per-workload check on the results, such as `IsSuccessfullyDeployed` or `AllDeleted`,
    stays true as results are added. -/
theorem Grows.all_hasResult {r r' : Reservation} (h : r.Grows r') (p : ResultState → Bool)
    (hr : (r.workloads "").all fun w => r.hasResult w.workloadId p) :
    (r'.workloads "").all fun w => r'.hasResult w.workloadId p := by
  simp only [List.all_eq_true, hasResult, List.any_eq_true] at hr ⊢
  intro w hw
  have hmem : w.workloadId ∈ (r.workloads "").map (·.workloadId) :=
    h.workloadIds "" ▸ List.mem_map_of_mem _ hw
  obtain ⟨w₀, hw₀, hid⟩ := List.mem_map.mp hmem
  obtain ⟨x, hx, hp⟩ := hr w₀ hw₀
  exact ⟨x, h.results x hx, hid ▸ hp⟩

theorem Grows.isSuccessfullyDeployed {r r' : Reservation} (h : r.Grows r')
    (hr : r.isSuccessfullyDeployed) : r'.isSuccessfullyDeployed :=
  h.all_hasResult _ hr

theorem Grows.allDeleted {r r' : Reservation} (h : r.Grows r') (hr : r.allDeleted) :
    r'.allDeleted :=
  h.all_hasResult _ hr

theorem pushSignature_grows (mode : SignatureMode) (sig : SigningSignature) (r : Reservation) :
    r.Grows (r.pushSignature mode sig) := by
  cases mode <;> exact ⟨rfl, rfl, fun _ h => h⟩

@[simp] theorem pushSignature_nextAction (mode : SignatureMode) (sig : SigningSignature)
    (r : Reservation) : (r.pushSignature mode sig).nextAction = r.nextAction := by
  cases mode <;> rfl

end Reservation

namespace Store

theorem get_eq_some {s : Store} {id : Nat} {r : Reservation} (h : s.get id = some r) :
    r.id = id := by
  simpa using List.find?_some h

/-- An update of reservation `id'` by an id-preserving `f` changes `get id` only at `id'`. -/
theorem get_update (s : Store) (id id' : Nat) (f : Reservation → Reservation)
    (hf : ∀ r, (f r).id = r.id) :
    (s.update id' f).get id = if id = id' then (s.get id).map f else s.get id := by
  have hp : ((fun r : Reservation => r.id == id) ∘ fun r => if r.id = id' then f r else r) =
      fun r => r.id == id := by
    funext r; by_cases h : r.id = id' <;> simp [h, hf]
  simp only [get, update, List.find?_map, hp]
  cases hfind : s.reservations.find? (·.id == id) with
  | none => simp
  | some r =>
    have : r.id = id := by simpa using List.find?_some hfind
    by_cases h : id = id' <;> simp [this, h]

theorem get_update_of_get {s : Store} {id id' : Nat} {r : Reservation}
    (f : Reservation → Reservation) (hf : ∀ r, (f r).id = r.id) (h : s.get id = some r) :
    (s.update id' f).get id = some (if id = id' then f r else r) := by
  rw [get_update s id id' f hf, h]; split <;> rfl

/-- A new document goes after the existing ones: `get` finds it only under the new id, and
    only when no document has that id yet. -/
theorem get_reservationCreate (s : Store) (r : Reservation) (id : Nat) :
    (s.reservationCreate r).get id =
      (s.get id).or (if s.lastId + 1 = id then some (created r (s.lastId + 1)) else none) := by
  simp only [get, reservationCreate, List.find?_append, List.find?_cons, List.find?_nil, created]
  congr 1
  by_cases h : s.lastId + 1 = id
  · simp [h]
  · simp [h, (beq_eq_false_iff_ne).mpr h]

end Store

/-- What an operation does to stored document `id`. -/
def Op.onDoc (id : Nat) : Op → Reservation → Reservation
  | .pushSignature id' mode sig, r => if id = id' then r.pushSignature mode sig else r
  | .resultPush id' result, r => if id = id' then { r with results := r.results ++ [result] } else r
  | .setNextAction id' a, r => if id = id' then { r with nextAction := a } else r
  | _, r => r

/-- **Every operation acts on each stored document through `Op.onDoc`.** -/
theorem Op.get_apply (o : Op) (w : World) {id : Nat} {r : Reservation}
    (h : w.store.get id = some r) : (o.apply w).store.get id = some (o.onDoc id r) := by
  cases o with
  | reservationCreate r₀ =>
    show (w.store.reservationCreate r₀).get id = some r
    rw [Store.get_reservationCreate, h]; rfl
  | pushSignature id' mode sig =>
    exact Store.get_update_of_get _ (fun r => (r.pushSignature_grows mode sig).id) h
  | resultPush id' result => exact Store.get_update_of_get _ (fun _ => rfl) h
  | setNextAction id' a => exact Store.get_update_of_get _ (fun _ => rfl) h
  | skip | workloadPush _ | workloadPop _ _ | escrow _ => exact h

/-- **Only `ReservationCreate` adds a document**, under the next id. -/
theorem Op.get_apply_of_none (o : Op) (w : World) {id : Nat} {r' : Reservation}
    (h : w.store.get id = none) (h' : (o.apply w).store.get id = some r') :
    ∃ r, o = .reservationCreate r ∧ id = w.store.lastId + 1 ∧ r' = Store.created r id := by
  have hupdate : ∀ (id' : Nat) (f : Reservation → Reservation), (∀ r, (f r).id = r.id) →
      (w.store.update id' f).get id = none := fun id' f hf => by
    rw [Store.get_update _ _ _ _ hf, h]; split <;> rfl
  cases o with
  | reservationCreate r =>
    change (w.store.reservationCreate r).get id = some r' at h'
    rw [Store.get_reservationCreate, h] at h'
    split at h'
    · cases h'; exact ⟨r, rfl, by omega, by subst id; rfl⟩
    · cases h'
  | pushSignature id' mode sig =>
    cases (hupdate id' (Reservation.pushSignature mode sig)
      fun r => (r.pushSignature_grows mode sig).id).symm.trans h'
  | resultPush id' result =>
    cases (hupdate id' (fun r => { r with results := r.results ++ [result] })
      fun _ => rfl).symm.trans h'
  | setNextAction id' a =>
    cases (hupdate id' (fun r => { r with nextAction := a }) fun _ => rfl).symm.trans h'
  | skip | workloadPush _ | workloadPop _ _ | escrow _ => cases h.symm.trans h'

/-- Every operation makes a later version of each document. -/
theorem Op.onDoc_grows (o : Op) (id : Nat) (r : Reservation) : r.Grows (o.onDoc id r) := by
  cases o <;> simp only [Op.onDoc] <;> (try split) <;>
    first
    | exact .refl r
    | exact r.pushSignature_grows _ _
    | exact ⟨rfl, rfl, fun _ hx => List.mem_append_left _ hx⟩
    | exact ⟨rfl, rfl, fun _ hx => hx⟩

/-- **No operation loses a document or a result**: whatever a handler does, every stored
    reservation is still there, with its id, its payload and its results. -/
theorem Op.grows (o : Op) (w : World) {id : Nat} {r : Reservation}
    (h : w.store.get id = some r) :
    ∃ r', (o.apply w).store.get id = some r' ∧ r.Grows r' :=
  ⟨_, o.get_apply w h, o.onDoc_grows id r⟩

/-- **Only `setNextAction` changes a stored `next_action`.** -/
theorem Op.onDoc_nextAction (o : Op) (id : Nat) (r : Reservation) :
    (o.onDoc id r).nextAction = r.nextAction ∨
      ∃ a, o = .setNextAction id a ∧ (o.onDoc id r).nextAction = a := by
  cases o with
  | setNextAction id' a =>
    by_cases h : id = id'
    · subst h; exact .inr ⟨a, rfl, by simp [Op.onDoc]⟩
    · exact .inl (by simp [Op.onDoc, h])
  | pushSignature id' mode sig => exact .inl (by simp only [Op.onDoc]; split <;> simp)
  | resultPush id' result => exact .inl (by simp only [Op.onDoc]; split <;> rfl)
  | _ => exact .inl rfl

/-- A push adds at most one signature and removes none. -/
theorem signatureCount_appendSignature (request : SigningRequest) (l : List SigningSignature)
    (sig : SigningSignature) :
    signatureCount request l ≤ signatureCount request (appendSignature l sig) := by
  unfold appendSignature
  split
  · exact le_rfl
  · simp only [signatureCount, List.countP_append]; omega

/-- **No operation loses a signature**: each quorum that held still holds. -/
theorem Op.onDoc_quorums (o : Op) (id : Nat) (r : Reservation) :
    (Pipeline.checkProvisionSignatures r = true →
      Pipeline.checkProvisionSignatures (o.onDoc id r) = true) ∧
    (Pipeline.checkDeleteSignatures r = true →
      Pipeline.checkDeleteSignatures (o.onDoc id r) = true) := by
  cases o with
  | pushSignature id' mode sig =>
    simp only [Op.onDoc]
    split
    · cases mode
      · refine ⟨fun h => ?_, fun h => h⟩
        rw [Pipeline.checkProvisionSignatures_iff] at h ⊢
        have := signatureCount_appendSignature r.dataReservation.signingRequestProvision
          r.signaturesProvision sig
        exact h.imp_right (le_trans · this)
      · refine ⟨fun h => h, fun h => ?_⟩
        rw [Pipeline.checkDeleteSignatures_iff] at h ⊢
        have := signatureCount_appendSignature r.dataReservation.signingRequestDelete
          r.signaturesDelete sig
        exact h.imp_right (le_trans · this)
      · exact ⟨fun h => h, fun h => h⟩
    · exact ⟨fun h => h, fun h => h⟩
  | resultPush id' result => simp only [Op.onDoc]; split <;> exact ⟨fun h => h, fun h => h⟩
  | setNextAction id' a => simp only [Op.onDoc]; split <;> exact ⟨fun h => h, fun h => h⟩
  | _ => exact ⟨fun h => h, fun h => h⟩

end TfExplorer
