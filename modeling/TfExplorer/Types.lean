import Mathlib.Data.List.Dedup

/-!
# Reservation Data Model

The documents of the explorer's `reservation` and `workload_queue` collections
(`pkg/workloads/types`, `models/generated/workloads`) and the reservation helpers that
the handlers of `pkg/workloads/reservation.go` and the pipeline call.

## Sources

The handlers and the pipeline are in the source tree. The reservation type and its
helpers (`Workloads`, `ResultOf`, `IsSuccessfullyDeployed`, `AllDeleted`, `Expired`,
`NodeIDs`, `GatewayIDs`, `IsAny`) are not: they are modelled from the specification
(§3, §4.2, §4.4), and their docstrings say so.

Workloads are generic over their tag (spec §9): each carries its type, its index inside
the reservation and the nodes it is addressed to (one node, or one per network resource
for a network). Times are Unix seconds.
-/

namespace TfExplorer

/-- `NextActionEnum`: the lifecycle state of a reservation. -/
inductive NextAction where
  | create | sign | pay | deploy | delete | invalid | deleted
  deriving DecidableEq, Repr

/-- The order of the lifecycle, `Create < Sign < Pay < Deploy < Delete`, with `Deleted`
    ranked with `Delete` and `Invalid` with `Create`. -/
def NextAction.rank : NextAction → Nat
  | .create | .invalid => 0
  | .sign => 1
  | .pay => 2
  | .deploy => 3
  | .delete | .deleted => 4

/-- The last rank is that of `Delete` and `Deleted`. -/
theorem NextAction.rank_eq_four {a : NextAction} : a.rank = 4 ↔ a = .delete ∨ a = .deleted := by
  cases a <;> simp [rank]

theorem NextAction.rank_le_four (a : NextAction) : a.rank ≤ 4 := by
  cases a <;> simp [rank]

/-- `ResultStateEnum`: the state a node reports for one of its workloads. -/
inductive ResultState where
  | error | ok | deleted
  deriving DecidableEq, Repr

/-- `WorkloadTypeEnum`, the tag of a workload. -/
inductive WorkloadType where
  | network | volume | zdb | container | kubernetes
  | proxy | reverseProxy | subdomain | domainDelegate | gateway4To6
  deriving DecidableEq, Repr

/-- Gateway workloads are counted by `GatewayIDs`, all others by `NodeIDs`. -/
def WorkloadType.isGateway : WorkloadType → Bool
  | .proxy | .reverseProxy | .subdomain | .domainDelegate | .gateway4To6 => true
  | _ => false

/-- A workload id `<reservation_id>-<index>`; the model keeps the two numbers. -/
structure WorkloadId where
  reservation : Nat
  index : Int
  deriving DecidableEq, Repr

/-- `SigningSignature`: one signature of a signing request. -/
structure SigningSignature where
  tid : Int
  signature : String
  epoch : Int
  deriving DecidableEq, Repr

/-- `SigningRequest`: who may sign, and how many signatures make a quorum. -/
structure SigningRequest where
  signers : List Int
  quorumMin : Int
  deriving DecidableEq, Repr

/-- A workload of the reservation payload, with its index and its nodes. -/
structure WorkloadDef where
  type : WorkloadType
  workloadId : Int
  nodeIds : List String
  content : String
  deriving DecidableEq, Repr

/-- `DataReservation`: the signed, immutable payload of a reservation. -/
structure DataReservation where
  expirationReservation : Int
  expirationProvisioning : Int
  currencies : List String
  signingRequestProvision : SigningRequest
  signingRequestDelete : SigningRequest
  workloads : List WorkloadDef
  deriving DecidableEq, Repr

/-- `Result`: what a node reports for one of its workloads. -/
structure Result where
  workloadId : WorkloadId
  nodeId : String
  state : ResultState
  dataJson : String
  signature : String
  epoch : Int
  deriving DecidableEq, Repr

/-- `Reservation`: a document of the `reservation` collection. -/
structure Reservation where
  id : Nat
  customerTid : Int
  customerSignature : String
  epoch : Int
  nextAction : NextAction
  dataReservation : DataReservation
  signaturesProvision : List SigningSignature
  signaturesDelete : List SigningSignature
  signaturesFarmer : List SigningSignature
  results : List Result
  deriving DecidableEq, Repr

/-- `types.Workload`: a row of the workload queue, and the unit of a node poll reply. -/
structure Workload where
  workloadId : WorkloadId
  user : String
  type : WorkloadType
  content : String
  created : Int
  duration : Int
  toDelete : Bool
  nodeId : String
  deriving DecidableEq, Repr

namespace Reservation

/-- Modelled from the spec: the queue row of payload workload `d` on node `n`
    (§3 "Workload unit"; `to_delete` is set for a reservation in `Delete`). -/
def row (r : Reservation) (d : WorkloadDef) (n : String) : Workload where
  workloadId := ⟨r.id, d.workloadId⟩
  user := toString r.customerTid
  type := d.type
  content := d.content
  created := r.epoch
  duration := r.dataReservation.expirationReservation - r.epoch
  toDelete := r.nextAction == .delete
  nodeId := n

/-- Modelled from the spec: `Reservation.Workloads(nodeID)`, one row per workload and node,
    restricted to node `nodeId` unless it is empty. -/
def workloads (r : Reservation) (nodeId : String) : List Workload :=
  r.dataReservation.workloads.flatMap fun d =>
    (d.nodeIds.filter fun n => nodeId.isEmpty || n == nodeId).map (r.row d)

/-- Every workload of the payload has a row on each of its nodes. -/
theorem row_mem_workloads {r : Reservation} {d : WorkloadDef} {n : String}
    (hd : d ∈ r.dataReservation.workloads) (hn : n ∈ d.nodeIds) :
    r.row d n ∈ r.workloads "" :=
  List.mem_flatMap.mpr ⟨d, hd, List.mem_map_of_mem _ (List.mem_filter.mpr ⟨hn, rfl⟩)⟩

/-- A row is `to_delete` exactly when its reservation is in `Delete`. -/
theorem toDelete_of_mem_workloads {r : Reservation} {nodeId : String} {w : Workload}
    (hw : w ∈ r.workloads nodeId) : w.toDelete = (r.nextAction == .delete) := by
  obtain ⟨d, -, hw⟩ := List.mem_flatMap.mp hw
  obtain ⟨n, -, rfl⟩ := List.mem_map.mp hw
  rfl

/-- Modelled from the spec: `Reservation.IsAny(states...)`. -/
def isAny (r : Reservation) (states : List NextAction) : Bool :=
  states.contains r.nextAction

/-- Modelled from the spec: `Reservation.Expired()`, "now ≥ expiration_reservation". -/
def expired (r : Reservation) (now : Int) : Bool :=
  decide (r.dataReservation.expirationReservation ≤ now)

/-- Modelled from the spec: `Reservation.ResultOf(gwid)`, the first result of the workload. -/
def resultOf (r : Reservation) (gwid : WorkloadId) : Option Result :=
  r.results.find? (·.workloadId == gwid)

/-- Some result of workload `gwid` has a state satisfying `p`. -/
def hasResult (r : Reservation) (gwid : WorkloadId) (p : ResultState → Bool) : Bool :=
  r.results.any fun res => res.workloadId == gwid && p res.state

/-- Modelled from the spec: `IsSuccessfullyDeployed`, "for every workload in the reservation
    there exists a result with state = OK and matching workload_id" (§4.2). -/
def isSuccessfullyDeployed (r : Reservation) : Bool :=
  (r.workloads "").all fun w => r.hasResult w.workloadId (· == .ok)

/-- Modelled from the spec: `AllDeleted`, "for every workload there is a result with
    state ∈ {Deleted, Error}" (§4.2). -/
def allDeleted (r : Reservation) : Bool :=
  (r.workloads "").all fun w => r.hasResult w.workloadId fun s => s == .deleted || s == .error

/-- Modelled from the spec: `NodeIDs()`, the distinct nodes of the non-gateway workloads. -/
def nodeIds (r : Reservation) : List String :=
  ((r.dataReservation.workloads.filter fun d => !d.type.isGateway).flatMap (·.nodeIds)).dedup

/-- Modelled from the spec: `GatewayIDs()`, the distinct nodes of the gateway workloads. -/
def gatewayIds (r : Reservation) : List String :=
  ((r.dataReservation.workloads.filter (·.type.isGateway)).flatMap (·.nodeIds)).dedup

end Reservation

end TfExplorer
