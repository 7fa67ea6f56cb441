import TfExplorer.Api.Task

/-!
# Node Endpoints: the Poll, Results and Deletions

`API.workloads`, `API.workloadGet`, `API.workloadPutResult` and `API.workloadPutDeleted`
of `pkg/workloads/reservation.go`: what nodes call to learn their work and to report on it.

The poll reads the node's queue rows (`queued`), the last reservation id and a cursor of
the reservations on the node; the cursor is modelled as the list found when it is opened.
Its scan loop persists `Delete` for every reservation the pipeline moves there, and
appends the node's workloads of every reservation in `Deploy` or `Delete`.

Each phase returns the reply the handler returns early with, or what it goes on with.
-/

namespace TfExplorer

/-! ## §1 The node poll -/

/-- `maxPageSize` of `API.workloads`. -/
def maxPageSize : Nat := 200

/-- `API.workloads` up to its scan: the `from` cursor and the node's queue rows. -/
def workloads (w : World) (ok : Bool) (nodeId : String) (from_ : Option Int) :
    Except Reply (Int × List Workload) :=
  if !ok then .error .storeFailed
  else
    let queued := w.store.queued nodeId maxPageSize
    if queued.length > maxPageSize then .error (.workloads queued none)
    else
      match from_ with
      | none => .error (.error .badRequest "invalid id format")
      | some from_ => .ok (from_, queued)

/-- The poll: `ReservationLastID`. -/
def pollLastId (w : World) (ok : Bool) : Except Reply Nat :=
  if ok then .ok w.store.lastId else .error .storeFailed

/-- The poll: the cursor of the reservations on the node from `from_`. -/
def pollFind (w : World) (ok : Bool) (nodeId : String) (from_ : Int) :
    Except Reply (List Reservation) :=
  if ok then .ok (w.store.find from_ nodeId) else .error .storeFailed

/-- The scan loop after reservation `r`, already through the pipeline: it is skipped unless
    in `Deploy` or `Delete`; otherwise its rows on the node are appended, and the poll
    replies once the page is full. -/
def pollContinue (nodeId : String) (r : Reservation) (acc : List Workload) (lastId : Nat) :
    Except Reply (List Workload) :=
  if !r.isAny [.deploy, .delete] then .ok acc
  else
    let acc := acc ++ r.workloads nodeId
    if acc.length ≥ maxPageSize then .error (.workloads acc (some lastId)) else .ok acc

/-! ## §2 Results and deletions -/

/-- The loop of the node handlers that looks a workload up by id. -/
def findWorkload (ws : List Workload) (gwid : WorkloadId) : Option Workload :=
  ws.find? (·.workloadId == gwid)

/-- `API.workloadGet`: a workload of a reservation and its first result. -/
def workloadGet (w : World) (ok : Bool) (gwid : WorkloadId) : Reply :=
  match readReservation w ok gwid.reservation with
  | none => .error .notFound storeError
  | some r =>
    match findWorkload (r.workloads "") gwid with
    | none => .error .notFound "workload not found"
    | some wl => .workload wl (r.resultOf gwid).toList

/-- `API.workloadPutResult` up to its push: the workload must be one of the node's, and the
    result, stamped with the node, the workload id and the time, must carry the node's
    signature. -/
def workloadPutResult (env : Env) (w : World) (ok : Bool) (nodeId : String)
    (gwid : WorkloadId) (result : Result) : Except Reply Result := do
  let some r := readReservation w ok gwid.reservation
    | throw (.error .notFound storeError)
  let some _ := findWorkload (r.workloads nodeId) gwid
    | throw (.error .notFound "workload not found")
  let result := { result with nodeId, workloadId := gwid, epoch := w.now }
  if !env.resultVerify result nodeId then
    throw (.error .unauthorized "invalid result signature")
  return result

/-- `workloadPutResult` after an `OK` result: the reservation read again, when it is
    successfully deployed. -/
def resultGet (w : World) (ok : Bool) (rid : Nat) : Except Reply Reservation :=
  readIf w ok rid (·.isSuccessfullyDeployed) (.error .notFound storeError) (.status .created)

/-- `API.workloadPutDeleted` up to its push: the workload's result, or a new one, in state
    `Deleted`. The handler checks no signature. -/
def workloadPutDeleted (w : World) (ok : Bool) (nodeId : String) (gwid : WorkloadId) :
    Except Reply Result := do
  let some r := readReservation w ok gwid.reservation
    | throw (.error .notFound storeError)
  let some _ := findWorkload (r.workloads nodeId) gwid
    | throw (.error .notFound "workload not found")
  let result := (r.resultOf gwid).getD
    { workloadId := gwid, nodeId := "", state := .error, dataJson := "", signature := "",
      epoch := w.now }
  return { result with state := .deleted }

/-- `workloadPutDeleted` after its pop: the reservation read again, when every workload has
    a `Deleted` or `Error` result. -/
def deletedGet (w : World) (ok : Bool) (rid : Nat) : Except Reply Reservation :=
  readIf w ok rid (·.allDeleted) .storeFailed (.status .ok)

end TfExplorer
