import Mathlib.Data.String.Basic
import TfExplorer.Invariant

/-!
# What the Handlers Check

What each handler that writes checks before it writes, and what it writes as a result:

- `signProvision` and `signDelete` push a signature of a requested signer whose key the
  phonebook has, once it verifies against the reservation they read
  (`SigningSignature.Accepted`, `signProvision_ok`, `signDelete_ok`);
- `workloadPutResult` pushes a result of a workload of the reservation, stamped with the
  posting node, once it verifies as that node's (`Result.Recorded`, `workloadPutResult_ok`);
- `workloadPutDeleted` pushes the workload's result, or a new one of no node, in state
  `Deleted`, and checks no signature (`Result.MarksDeleted`, `workloadPutDeleted_ok`);
- the rows of a reservation are rows of its workloads on their nodes (`Workload.RowOf`).

Each check reads only the id, the payload and the results of the reservation, which every
later version keeps (`Reservation.Grows`), so what a handler checked of the version it read
holds of the stored document whatever runs in between.
-/

namespace TfExplorer

/-- Signature `s` passed the checks of `signProvision` or `signDelete` for signing request
    `request` of reservation `r`: its signer is one of the request's, the phonebook knows
    the signer's key, and the hex decoded signature verifies against a version of `r` the
    handler read. -/
def SigningSignature.Accepted (env : Env) (r : Reservation) (request : SigningRequest)
    (s : SigningSignature) : Prop :=
  tidIn s.tid request.signers = true ∧
    ∃ pubkey sig r', env.userPubkey s.tid = some pubkey ∧ hexDecode s.signature = some sig ∧
      r'.Grows r ∧ env.signatureVerify r' pubkey sig = true

/-- Signature `s` passed the checks of the handler that pushes it to list `mode` of `r`. No
    handler pushes a farmer signature. -/
def SigningSignature.Signs (env : Env) (r : Reservation) (s : SigningSignature) :
    SignatureMode → Prop
  | .provision => s.Accepted env r r.dataReservation.signingRequestProvision
  | .delete => s.Accepted env r r.dataReservation.signingRequestDelete
  | .farmer => False

/-- Result `res` is about a workload of `r`, from no node or from a node of that workload,
    and verifies as that node's unless it marks the workload `Deleted`. -/
def Result.Recorded (env : Env) (r : Reservation) (res : Result) : Prop :=
  ∃ d ∈ r.dataReservation.workloads, res.workloadId = ⟨r.id, d.workloadId⟩ ∧
    (res.nodeId = "" ∨ res.nodeId ∈ d.nodeIds) ∧
    (res.state ≠ .deleted → env.resultVerify res res.nodeId = true)

/-- What `workloadPutDeleted` pushes for reservation `r`: a result in state `Deleted`, either
    new, from no node, for a workload of `r`, or a copy of a result of `r` of the same
    workload and node. -/
def Result.MarksDeleted (r : Reservation) (res : Result) : Prop :=
  res.state = .deleted ∧
    ((res.nodeId = "" ∧
        ∃ d ∈ r.dataReservation.workloads, res.workloadId = ⟨r.id, d.workloadId⟩) ∨
      ∃ x ∈ r.results, x.workloadId = res.workloadId ∧ x.nodeId = res.nodeId)

/-- Workload `x` is the row of a workload of `r` on one of that workload's nodes. -/
def Workload.RowOf (r : Reservation) (x : Workload) : Prop :=
  ∃ d ∈ r.dataReservation.workloads, x.nodeId ∈ d.nodeIds ∧
    x.workloadId = ⟨r.id, d.workloadId⟩ ∧ x.type = d.type ∧ x.content = d.content

/-- Workload `x` may go to node `nodeId` in a poll reply at world `w`: it is addressed to
    the node (to any node when `nodeId` is empty) and is the row of a workload of the stored
    reservation it names. -/
def Workload.Served (w : World) (nodeId : String) (x : Workload) : Prop :=
  (nodeId = "" ∨ x.nodeId = nodeId) ∧
    ∃ r, w.store.get x.workloadId.reservation = some r ∧ x.RowOf r

section Grows

variable {env : Env} {r r' : Reservation}

/-! Each check reads only the id, the payload and the results of the reservation, which a
later version keeps. -/

theorem SigningSignature.Accepted.grows {request : SigningRequest} {s : SigningSignature}
    (h : s.Accepted env r request) (hg : r.Grows r') : s.Accepted env r' request := by
  obtain ⟨hsigner, pubkey, sig, r₀, hpk, hhex, hg₀, hv⟩ := h
  exact ⟨hsigner, pubkey, sig, r₀, hpk, hhex, hg₀.trans hg, hv⟩

theorem SigningSignature.Signs.grows {s : SigningSignature} {mode : SignatureMode}
    (h : s.Signs env r mode) (hg : r.Grows r') : s.Signs env r' mode := by
  cases mode with
  | farmer => exact h
  | _ => simpa only [SigningSignature.Signs, hg.data] using SigningSignature.Accepted.grows h hg

theorem Result.Recorded.grows {res : Result} (h : res.Recorded env r) (hg : r.Grows r') :
    res.Recorded env r' := by
  rwa [Result.Recorded, hg.id, hg.data]

theorem Result.MarksDeleted.grows {res : Result} (h : res.MarksDeleted r) (hg : r.Grows r') :
    res.MarksDeleted r' := by
  obtain ⟨hst, h⟩ := h
  refine ⟨hst, h.imp (fun h => ?_) fun ⟨x, hx, h⟩ => ⟨x, hg.results x hx, h⟩⟩
  rwa [hg.id, hg.data]

theorem Workload.RowOf.grows {x : Workload} (h : x.RowOf r) (hg : r.Grows r') : x.RowOf r' := by
  rwa [Workload.RowOf, hg.id, hg.data]

theorem Workload.RowOf.reservation {x : Workload} (h : x.RowOf r) :
    x.workloadId.reservation = r.id := by
  obtain ⟨d, -, -, hid, -⟩ := h
  rw [hid]

theorem Workload.Served.mono {w w' : World} (hk : w.Keeps w') {nodeId : String} {x : Workload}
    (h : x.Served w nodeId) : x.Served w' nodeId := by
  obtain ⟨hn, r, hr, hrow⟩ := h
  obtain ⟨r', hr', hg⟩ := hk _ _ hr
  exact ⟨hn, r', hr', hrow.grows hg⟩

end Grows

/-- The rows of `r` for node `nodeId` are rows of workloads of `r` on their nodes, on
    `nodeId` unless it is empty. -/
theorem rowOf_of_mem_workloads {r : Reservation} {nodeId : String} {x : Workload}
    (hx : x ∈ r.workloads nodeId) : x.RowOf r ∧ (nodeId = "" ∨ x.nodeId = nodeId) := by
  obtain ⟨d, hd, hx⟩ := List.mem_flatMap.mp hx
  obtain ⟨n, hn, rfl⟩ := List.mem_map.mp hx
  obtain ⟨hn, hnode⟩ := List.mem_filter.mp hn
  simp only [Bool.or_eq_true, beq_iff_eq, String.isEmpty_iff] at hnode
  exact ⟨⟨d, hd, hn, rfl, rfl, rfl⟩, hnode⟩

/-- The workload the node handlers look up is one of the list, with the id looked for. -/
theorem findWorkload_some {ws : List Workload} {gwid : WorkloadId} {x : Workload}
    (h : findWorkload ws gwid = some x) : x ∈ ws ∧ x.workloadId = gwid :=
  ⟨List.mem_of_find?_eq_some h, by simpa using List.find?_some h⟩

/-- The checks of the two signature handlers on the reservation `r` they read, for the
    signing request `sel` picks from its payload: the signature they push is accepted for
    the stored document. -/
theorem accepted_of_read {env : Env} {w : World} {ok : Bool} {id : Nat}
    {sel : DataReservation → SigningRequest} {signature : SigningSignature} {sig : List UInt8}
    {r : Reservation} (hsig : hexDecode signature.signature = some sig)
    (hr : readReservation w ok id = some r)
    (h : signatureAccepted env r (sel r.dataReservation) signature sig = .ok ()) :
    ∃ r₀, w.store.get id = some r₀ ∧
      ({ signature with epoch := w.now } : SigningSignature).Accepted env r₀
        (sel r₀.dataReservation) := by
  obtain ⟨r₀, h₀, hg⟩ := get_of_read hr
  refine ⟨r₀, h₀, ?_⟩
  unfold signatureAccepted at h
  split at h
  · cases h
  · rename_i hsigner
    split at h
    · cases h
    · rename_i pubkey hpk
      split at h
      · rw [hg.data]
        exact ⟨by simpa using hsigner, pubkey, sig, r, hpk, hsig, hg, ‹_›⟩
      · cases h

/-- What `signProvision` pushes is accepted for the provisioning request of a stored
    reservation. -/
theorem signProvision_ok {env : Env} {w : World} {ok : Bool} {id : Nat}
    {signature s : SigningSignature} (h : signProvision env w ok id signature = .ok s) :
    ∃ r, w.store.get id = some r ∧ s.Signs env r .provision := by
  unfold signProvision at h
  split at h
  · rename_i sig hsig
    split at h
    · rename_i r hr
      simp only at h
      split at h
      · cases h
      · obtain ⟨_, -, h⟩ := Except.bind_eq_ok h
        obtain ⟨_, ha, h⟩ := Except.bind_eq_ok h
        cases h
        exact accepted_of_read hsig hr ha
    · cases h
  · cases h

/-- What `signDelete` pushes is accepted for the delete request of a stored reservation. -/
theorem signDelete_ok {env : Env} {w : World} {ok : Bool} {id : Nat}
    {signature s : SigningSignature} (h : signDelete env w ok id signature = .ok s) :
    ∃ r, w.store.get id = some r ∧ s.Signs env r .delete := by
  unfold signDelete at h
  split at h
  · rename_i sig hsig
    split at h
    · rename_i r hr
      obtain ⟨_, ha, h⟩ := Except.bind_eq_ok h
      cases h
      exact accepted_of_read hsig hr ha
    · cases h
  · cases h

/-- What `workloadPutResult` pushes is recorded for the stored reservation it names. -/
theorem workloadPutResult_ok {env : Env} {w : World} {ok : Bool} {nodeId : String}
    {gwid : WorkloadId} {result res : Result}
    (h : workloadPutResult env w ok nodeId gwid result = .ok res) :
    ∃ r, w.store.get gwid.reservation = some r ∧ res.Recorded env r := by
  unfold workloadPutResult at h
  split at h
  · rename_i r hr
    split at h
    · rename_i x hx
      obtain ⟨r₀, h₀, hg⟩ := get_of_read hr
      refine ⟨r₀, h₀, Result.Recorded.grows ?_ hg⟩
      obtain ⟨hxw, hxid⟩ := findWorkload_some hx
      obtain ⟨⟨d, hd, hn, hid, -⟩, hnode⟩ := rowOf_of_mem_workloads hxw
      simp only at h
      split at h
      · cases h
      · rename_i hv
        obtain ⟨_, -, h⟩ := Except.bind_eq_ok h
        cases h
        have hnode : nodeId = "" ∨ nodeId ∈ d.nodeIds :=
          hnode.imp_right fun (h : x.nodeId = nodeId) => h ▸ hn
        exact ⟨d, hd, hxid ▸ hid, hnode, fun _ => by simpa using hv⟩
    · cases h
  · cases h

/-- What `workloadPutDeleted` pushes marks a workload of the stored reservation it names
    deleted. -/
theorem workloadPutDeleted_ok {w : World} {ok : Bool} {nodeId : String} {gwid : WorkloadId}
    {res : Result} (h : workloadPutDeleted w ok nodeId gwid = .ok res) :
    ∃ r, w.store.get gwid.reservation = some r ∧ res.MarksDeleted r := by
  unfold workloadPutDeleted at h
  split at h
  · rename_i r hr
    split at h
    · rename_i x hx
      obtain ⟨r₀, h₀, hg⟩ := get_of_read hr
      refine ⟨r₀, h₀, Result.MarksDeleted.grows ?_ hg⟩
      cases h
      refine ⟨rfl, ?_⟩
      cases hres : r.resultOf gwid with
      | none =>
        obtain ⟨hxw, hxid⟩ := findWorkload_some hx
        obtain ⟨⟨d, hd, -, hid, -⟩, -⟩ := rowOf_of_mem_workloads hxw
        exact .inl ⟨rfl, d, hd, hxid ▸ hid⟩
      | some y =>
        exact .inr ⟨y, List.mem_of_find?_eq_some hres, rfl, rfl⟩
    · cases h
  · cases h

end TfExplorer
