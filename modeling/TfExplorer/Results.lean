import TfExplorer.Lifecycle

/-!
# Results and the Escrow

What `workloadPutResult` and `workloadPutDeleted` record, and when the escrow hears of a
deployment.

- §1 `ReservationDeployed(id)` is called only by `workloadPutResult`, at a step where every
  workload of the stored reservation `id` has an `OK` result. Nothing checks `next_action`:
  the call can come in any state, after `ReservationCanceled(id)` too.
- §2 both handlers push a result without looking for one of the same workload, and the
  store's push appends: a workload can have several results.
-/

namespace TfExplorer

/-! ## §1 `ReservationDeployed` -/

/-- **When the escrow hears `ReservationDeployed`.** Over any step of a reachable system,
    a call `ReservationDeployed(rid)` is the last step of a `workloadPutResult` handler, made
    while every workload of the stored reservation `rid` has an `OK` result. -/
theorem reservationDeployed_when_all_ok {env : Env} {s s' : System} {e : Event}
    (hs : Reachable env s) (he : s.apply env e = some s') {rid : Nat}
    (hc : s'.world.escrow = s.world.escrow ++ [.reservationDeployed rid]) :
    ∃ i ok r, e = .step i ok ∧ s.tasks[i]? = some (.resultDeployed rid) ∧
      s.world.store.get rid = some r ∧ r.isSuccessfullyDeployed = true := by
  obtain ⟨o, ho, -, hesc⟩ := System.apply_eventOp he
  rw [Op.apply_escrow, hc] at hesc
  cases Op.eq_escrow_of_calls (List.append_cancel_left hesc).symm
  cases ho with
  | step i ok t _ ht hop =>
    cases hop with
    | deployed _ =>
      obtain ⟨r, hr, hd⟩ := hs.inv _ (List.getElem?_mem ht)
      exact ⟨i, ok, r, rfl, ht, hr, hd⟩

/-- User 1's delete signature, handled to the end, and then an `OK` result for the
    workload, handled up to its last step. -/
def canceledThenDeployedRun : List Event :=
  [.request (.create deletableBody), .step 0 true] ++ signDeleteRun 1 6 ++ resultRun .ok 2 4

/-- The last step of the `OK` result's handler calls `ReservationDeployed`. -/
theorem reservationDeployed_when_all_ok_run :
    let s := sampleRun canceledThenDeployedRun
    let s' := sampleRun (canceledThenDeployedRun ++ [.step 2 true])
    Reachable Env.accepting s ∧ s.apply Env.accepting (.step 2 true) = some s' ∧
    s'.world.escrow = s.world.escrow ++ [.reservationDeployed 1] ∧
    ∃ i ok r, Event.step 2 true = .step i ok ∧ s.tasks[i]? = some (.resultDeployed 1) ∧
      s.world.store.get 1 = some r ∧ r.isSuccessfullyDeployed = true := by
  intro s s'
  have hs : Reachable Env.accepting s := reachable_sampleRun rfl
  have he : s.apply Env.accepting (.step 2 true) = some s' := rfl
  have hc : s'.world.escrow = s.world.escrow ++ [.reservationDeployed 1] := by decide
  exact ⟨hs, he, hc, reservationDeployed_when_all_ok hs he hc⟩

/-- A reservation that was never paid for is canceled by its delete quorum, and an `OK`
    result then reports it deployed: the escrow hears `ReservationCanceled(1)` and then
    `ReservationDeployed(1)`, while reservation 1 is in `Delete`. -/
theorem reservationDeployed_after_canceled :
    (sampleRun (canceledThenDeployedRun ++ [.step 2 true])).world.escrow =
        [.reservationCanceled 1, .reservationDeployed 1] ∧
      observe (canceledThenDeployedRun ++ [.step 2 true]) 1 = some (.delete, .delete) := by
  decide

/-! ## §2 Results -/

/-- Node `n1` reports workload `1-0` deleted, then posts an `OK` result for it: reservation 1
    records two results for the workload. -/
theorem two_results_for_one_workload :
    ((sampleRun ([.request (.create (sampleBody .sign)), .step 0 true] ++ putDeletedRun 1 ++
        resultRun .ok 2 2)).world.store.get 1).map (·.results.map (·.workloadId)) =
      some [⟨1, 0⟩, ⟨1, 0⟩] := by
  decide

end TfExplorer
