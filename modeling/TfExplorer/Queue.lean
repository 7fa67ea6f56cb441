import TfExplorer.Results

/-!
# The Workload Queue over Runs

How the `workload_queue` collection changes over any interleaving. Two handlers push rows:
`signProvision`, for a reservation it reads in `Deploy` after its signature, and
`signDelete`, for one it reads in `Delete`, after `setReservationDeleted`. Each pushes one
row for every workload on every node, on every call that reads that state, and `Setup`
declares no unique index, so no row is refused. Two handlers pop rows: a result posting
(`workloadPutResult`, `workloadPutDeleted`) erases the first row of its pair.

- §1 what a step does to the queue (`queue_step`);
- §2 how many rows a pair has;
- §3 the rows with `to_delete`;
- §4 runs.
-/

namespace TfExplorer

/-! ## §1 Queue steps -/

/-- The number of queue rows of workload `gwid` on node `nodeId`. -/
def Store.rowCount (s : Store) (gwid : WorkloadId) (nodeId : String) : Nat :=
  s.queue.countP (Workload.isRow gwid nodeId)

/-- A handler about to pop the row of workload `gwid` on node `nodeId`: a result posting of
    that node for that workload. -/
def Task.popsRow (gwid : WorkloadId) (nodeId : String) : Task → Prop
  | .resultPop _ n result => n = nodeId ∧ result.workloadId = gwid
  | .deletedPop _ n g => n = nodeId ∧ g = gwid
  | _ => False

section Steps

variable {env : Env} {s s' : System} {e : Event}

/-- A step leaves the queue alone, appends all rows of a reservation that a signature
    handler read, or erases the first row of one pair for a result posting. -/
theorem queue_step (hs : Reachable env s) (he : s.apply env e = some s') :
    s'.world.store.queue = s.world.store.queue ∨
    (∃ i ok r check, e = .step i ok ∧ s.tasks[i]? = some (.workloadPush r check) ∧
      r.nextAction = (if check then .delete else .deploy) ∧ Stored s.world r ∧
      s'.world.store.queue = s.world.store.queue ++ r.workloads "") ∨
    (∃ i ok t gwid nodeId, e = .step i ok ∧ s.tasks[i]? = some t ∧ t.popsRow gwid nodeId ∧
      s'.world.store.queue = s.world.store.queue.eraseP (Workload.isRow gwid nodeId)) := by
  obtain ⟨o, ho, hst, -⟩ := System.apply_eventOp he
  rw [hst, Op.apply_queue]
  cases ho with
  | step i ok t o ht hop =>
    cases hop with
    | workloadPush r check =>
      obtain ⟨hna, hstored⟩ := hs.inv _ (List.getElem?_mem ht)
      exact .inr (.inl ⟨i, ok, r, check, rfl, ht, hna, hstored, rfl⟩)
    | resultPop => exact .inr (.inr ⟨i, ok, _, _, _, rfl, ht, ⟨rfl, rfl⟩, rfl⟩)
    | deletedPop => exact .inr (.inr ⟨i, ok, _, _, _, rfl, ht, ⟨rfl, rfl⟩, rfl⟩)
    | _ => exact .inl rfl
  | _ => exact .inl rfl

/-- A pair loses rows only one at a time, popped by a result posting of its node for its
    workload. -/
theorem rowCount_drop (hs : Reachable env s) (he : s.apply env e = some s')
    {gwid : WorkloadId} {nodeId : String}
    (hlt : s'.world.store.rowCount gwid nodeId < s.world.store.rowCount gwid nodeId) :
    s'.world.store.rowCount gwid nodeId + 1 = s.world.store.rowCount gwid nodeId ∧
      ∃ i ok t, e = .step i ok ∧ s.tasks[i]? = some t ∧ t.popsRow gwid nodeId := by
  simp only [Store.rowCount] at hlt ⊢
  rcases queue_step hs he with hq | ⟨_, _, _, _, _, _, _, _, hq⟩ |
    ⟨i, ok, t, g, n, rfl, ht, hpop, hq⟩
  · rw [hq] at hlt; omega
  · rw [hq, List.countP_append] at hlt; omega
  · rw [hq, countP_isRow_eraseP] at hlt ⊢
    split_ifs at hlt ⊢ with hpair
    · obtain ⟨rfl, rfl⟩ := hpair
      exact ⟨by omega, i, ok, t, rfl, ht, hpop⟩
    · omega

end Steps

/-! ## §2 Rows per pair -/

/-- **How many rows a pair has.** Over any step of a reachable system, the rows of workload
    `gwid` on node `nodeId` grow by that pair's rows of a reservation pushed whole by
    `signDelete` (read in `Delete`) or `signProvision` (read in `Deploy`), with no row
    refused; or drop by one, popped by a result posting of that node for that workload; or
    stay as they are. -/
theorem rowCount_step {env : Env} {s s' : System} {e : Event} (hs : Reachable env s)
    (he : s.apply env e = some s') (gwid : WorkloadId) (nodeId : String) :
    (∃ i ok r check, e = .step i ok ∧ s.tasks[i]? = some (.workloadPush r check) ∧
      r.nextAction = (if check then .delete else .deploy) ∧ Stored s.world r ∧
      s'.world.store.rowCount gwid nodeId = s.world.store.rowCount gwid nodeId +
        (r.workloads "").countP (Workload.isRow gwid nodeId)) ∨
    (∃ i ok t, e = .step i ok ∧ s.tasks[i]? = some t ∧ t.popsRow gwid nodeId ∧
      s'.world.store.rowCount gwid nodeId = s.world.store.rowCount gwid nodeId - 1) ∨
    s'.world.store.rowCount gwid nodeId = s.world.store.rowCount gwid nodeId := by
  simp only [Store.rowCount]
  rcases queue_step hs he with hq | ⟨i, ok, r, check, rfl, ht, hna, hstored, hq⟩ |
    ⟨i, ok, t, g, n, rfl, ht, hpop, hq⟩
  · exact .inr (.inr (by rw [hq]))
  · exact .inl ⟨i, ok, r, check, rfl, ht, hna, hstored, by rw [hq, List.countP_append]⟩
  · rw [hq, countP_isRow_eraseP]
    split
    · obtain ⟨rfl, rfl⟩ := ‹g = gwid ∧ n = nodeId›
      exact .inr (.inl ⟨i, ok, t, rfl, ht, hpop, rfl⟩)
    · exact .inr (.inr rfl)

/-! ## §3 Delete rows -/

/-- A `signDelete` handler that reads back reservation `r` in `Delete` goes on, when its
    steps run and its store calls succeed, through the escrow's `ReservationCanceled` and the
    write of `setReservationDeleted` to the push of `r`'s rows. -/
theorem deleteGet_pushes {env : Env} {s : System} {i id : Nat} {r : Reservation}
    (ht : s.tasks[i]? = some (.deleteGet id)) (hr : deleteGet s.world true id = .ok r) :
    ∃ s', System.run env s (List.replicate 4 (.step i true)) = some s' ∧
      s'.world.store.queue = s.world.store.queue ++ r.workloads "" := by
  have hi : i < s.tasks.length := (List.getElem?_eq_some_iff.mp ht).1
  -- the read back, the escrow's cancel, the write of `Delete`, and the push
  have h₁ : (Task.deleteGet id).step env s.world true =
      (.skip, .cancelEscrow r.id (.pushRows r)) := by
    simp only [Task.step, hr, Task.orReply_ok]
  have h₂ : ∀ w, (Task.cancelEscrow r.id (.pushRows r)).step env w true =
      (.escrow (.reservationCanceled r.id), .setDelete r.id (.pushRows r)) := fun _ => rfl
  have h₃ : ∀ w, (Task.setDelete r.id (.pushRows r)).step env w true =
      (.setNextAction r.id .delete, .workloadPush r true) := fun _ => rfl
  have h₄ : ∀ w, ((Task.workloadPush r true).step env w true).1 =
      .workloadPush (r.workloads "") := fun _ => rfl
  simp only [List.replicate, System.run, System.apply, ht, h₁, h₂, h₃, h₄,
    List.getElem?_set_self hi, List.set_set, Task.isDone, Bool.false_eq_true, ↓reduceIte,
    Option.some_bind, Option.some.injEq, exists_eq_left', Op.apply_queue, Op.onQueue]

/-- **Delete rows.** Over any step of a reachable system, rows with `to_delete` enter the
    queue only as the push of `signDelete` for a reservation it read in `Delete`: a row for
    every workload on every node of the stored reservation, each with `to_delete`. A pair
    loses rows only one at a time, popped by a result posting of its node for its
    workload. And a `signDelete` handler that reads back a reservation in `Delete` pushes
    those rows: its next steps, when they run with their store calls succeeding, append a
    row with `to_delete` for every workload on every node of the reservation. -/
theorem delete_rows_step {env : Env} {s s' : System} {e : Event} (hs : Reachable env s)
    (he : s.apply env e = some s') :
    (∀ rows, s'.world.store.queue = s.world.store.queue ++ rows →
      (∃ w ∈ rows, w.toDelete = true) →
      ∃ i ok r, e = .step i ok ∧ s.tasks[i]? = some (.workloadPush r true) ∧
        r.nextAction = .delete ∧ Stored s.world r ∧ rows = r.workloads "" ∧
        (∀ d ∈ r.dataReservation.workloads, ∀ n ∈ d.nodeIds, r.row d n ∈ rows) ∧
        ∀ w ∈ rows, w.toDelete = true) ∧
    (∀ gwid nodeId,
      s'.world.store.rowCount gwid nodeId < s.world.store.rowCount gwid nodeId →
      s'.world.store.rowCount gwid nodeId + 1 = s.world.store.rowCount gwid nodeId ∧
      ∃ i ok t, e = .step i ok ∧ s.tasks[i]? = some t ∧ t.popsRow gwid nodeId) ∧
    (∀ i id r, s.tasks[i]? = some (.deleteGet id) → deleteGet s.world true id = .ok r →
      r.nextAction = .delete ∧
      (∀ d ∈ r.dataReservation.workloads, ∀ n ∈ d.nodeIds, r.row d n ∈ r.workloads "") ∧
      (∀ w ∈ r.workloads "", w.toDelete = true) ∧
      ∃ s'', System.run env s (List.replicate 4 (.step i true)) = some s'' ∧
        s''.world.store.queue = s.world.store.queue ++ r.workloads "") := by
  refine ⟨?_, fun gwid nodeId hlt => rowCount_drop hs he hlt, fun i id r ht hr => ?_⟩
  · intro rows hrows ⟨w, hw, hdel⟩
    rcases queue_step hs he with hq | ⟨i, ok, r, check, rfl, ht, hna, hstored, hq⟩ |
      ⟨i, ok, t, g, n, rfl, ht, hpop, hq⟩
    · rw [hq] at hrows
      cases List.append_right_eq_self.mp hrows.symm
      cases hw
    · obtain rfl := List.append_cancel_left (hq.symm.trans hrows)
      have hr : r.nextAction = .delete := by
        simpa [Reservation.toDelete_of_mem_workloads hw] using hdel
      cases check
      · cases hna.symm.trans hr
      · exact ⟨i, ok, r, rfl, ht, hr, hstored, rfl,
          fun d hd n hn => Reservation.row_mem_workloads hd hn,
          fun w hw => by simp [Reservation.toDelete_of_mem_workloads hw, hr]⟩
    · have hlen : (s.world.store.queue.eraseP (Workload.isRow g n)).length ≤
          s.world.store.queue.length := List.length_eraseP_le _
      rw [← hq, hrows, List.length_append] at hlen
      cases List.eq_nil_of_length_eq_zero (by omega : rows.length = 0)
      cases hw
  · have hdel : r.nextAction = .delete := by simpa using (readIf_ok hr).2
    exact ⟨hdel, fun d hd n hn => Reservation.row_mem_workloads hd hn,
      fun w hw => by simp [Reservation.toDelete_of_mem_workloads hw, hdel],
      deleteGet_pushes ht hr⟩

/-! ## §4 Runs -/

/-- Reservation 1 created from `deletableBody`, and a first delete signature handled up to
    its push. -/
def deleteSignedRun : List Event :=
  [.request (.create deletableBody), .step 0 true] ++ signDeleteRun 1 5

/-- The push of `signDelete` adds the row of workload `1-0` on `n1`. -/
theorem rowCount_step_signDelete :
    let s := sampleRun deleteSignedRun
    let s' := sampleRun (deleteSignedRun ++ [.step 1 true])
    Reachable Env.accepting s ∧ s.apply Env.accepting (.step 1 true) = some s' ∧
    ((∃ i ok r check, Event.step 1 true = .step i ok ∧
        s.tasks[i]? = some (.workloadPush r check) ∧
        r.nextAction = (if check then .delete else .deploy) ∧ Stored s.world r ∧
        s'.world.store.rowCount ⟨1, 0⟩ "n1" = s.world.store.rowCount ⟨1, 0⟩ "n1" +
          (r.workloads "").countP (Workload.isRow ⟨1, 0⟩ "n1")) ∨
      (∃ i ok t, Event.step 1 true = .step i ok ∧ s.tasks[i]? = some t ∧
        t.popsRow ⟨1, 0⟩ "n1" ∧
        s'.world.store.rowCount ⟨1, 0⟩ "n1" = s.world.store.rowCount ⟨1, 0⟩ "n1" - 1) ∨
      s'.world.store.rowCount ⟨1, 0⟩ "n1" = s.world.store.rowCount ⟨1, 0⟩ "n1") := by
  intro s s'
  have hs : Reachable Env.accepting s := reachable_sampleRun rfl
  have he : s.apply Env.accepting (.step 1 true) = some s' := rfl
  exact ⟨hs, he, rowCount_step hs he ⟨1, 0⟩ "n1"⟩

/-- Reservation 1 created from `deletableBody`, and a first delete signature handled up to
    the read back of the reservation. -/
def deleteReadRun : List Event :=
  [.request (.create deletableBody), .step 0 true] ++ signDeleteRun 1 2

/-- The read back of `signDelete`, which finds reservation 1 in `Delete`, read as delete
    rows: its next steps push the row of workload `1-0` on `n1`. -/
theorem delete_rows_step_signDelete :
    let s := sampleRun deleteReadRun
    let s' := sampleRun (deleteReadRun ++ [.step 1 true])
    s.tasks[1]? = some (.deleteGet 1) ∧
    Reachable Env.accepting s ∧ s.apply Env.accepting (.step 1 true) = some s' ∧
    (∀ rows, s'.world.store.queue = s.world.store.queue ++ rows →
      (∃ w ∈ rows, w.toDelete = true) →
      ∃ i ok r, Event.step 1 true = .step i ok ∧ s.tasks[i]? = some (.workloadPush r true) ∧
        r.nextAction = .delete ∧ Stored s.world r ∧ rows = r.workloads "" ∧
        (∀ d ∈ r.dataReservation.workloads, ∀ n ∈ d.nodeIds, r.row d n ∈ rows) ∧
        ∀ w ∈ rows, w.toDelete = true) ∧
    (∀ gwid nodeId,
      s'.world.store.rowCount gwid nodeId < s.world.store.rowCount gwid nodeId →
      s'.world.store.rowCount gwid nodeId + 1 = s.world.store.rowCount gwid nodeId ∧
      ∃ i ok t, Event.step 1 true = .step i ok ∧ s.tasks[i]? = some t ∧
        t.popsRow gwid nodeId) ∧
    (∀ i id r, s.tasks[i]? = some (.deleteGet id) → deleteGet s.world true id = .ok r →
      r.nextAction = .delete ∧
      (∀ d ∈ r.dataReservation.workloads, ∀ n ∈ d.nodeIds, r.row d n ∈ r.workloads "") ∧
      (∀ w ∈ r.workloads "", w.toDelete = true) ∧
      ∃ s'', System.run Env.accepting s (List.replicate 4 (.step i true)) = some s'' ∧
        s''.world.store.queue = s.world.store.queue ++ r.workloads "") := by
  intro s s'
  have hs : Reachable Env.accepting s := reachable_sampleRun rfl
  have he : s.apply Env.accepting (.step 1 true) = some s' := rfl
  exact ⟨rfl, hs, he, delete_rows_step hs he⟩

/-- The pairs and `to_delete` flags of the queue after the events `es`. -/
def queueRows (es : List Event) : List (WorkloadId × String × Bool) :=
  (sampleRun es).world.store.queue.map fun w => (w.workloadId, w.nodeId, w.toDelete)

/-- A second delete signature, from the same signer, pushes the row of workload `1-0` on
    `n1` again: the queue holds it twice. -/
theorem delete_signed_twice :
    queueRows (deleteSignedRun ++ [.step 1 true] ++ signDeleteRun 2 6) =
      [(⟨1, 0⟩, "n1", true), (⟨1, 0⟩, "n1", true)] := by
  decide

/-- The node poll after the reservation expired persists `Delete` and pushes no row: workload
    `1-0` has no result and no row in the queue. -/
theorem expiry_deletes_without_rows :
    let es := [.request (.create (sampleBody .sign)), .step 0 true, .tick 7200,
      .request (.workloads "n1" (some 0))] ++ List.replicate 6 (.step 1 true)
    observe es 1 = some (.delete, .delete) ∧ queueRows es = [] ∧
      ((sampleRun es).world.store.get 1).map (·.results) = some [] := by
  decide

end TfExplorer
