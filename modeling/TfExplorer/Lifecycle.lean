import TfExplorer.Invariant

/-!
# The Reservation Lifecycle over Runs

How a stored `next_action` moves over any interleaving of the handlers, the escrow and the
clock. Three writers set it: `setReservationDeleted` (`Delete`), `workloadPutDeleted`
(`Deleted`) and the escrow (`Deploy`); `create` sets the first value.

- §1 what an event does to a stored document, said once (`EventOp.setNextAction`);
- §2 where a stored `Deploy` comes from: the escrow, or a body that carried it;
- §3 the stored `next_action` never moves back in the lifecycle order, with `Delete` and
  `Deleted` ranked together, and `Deleted` is written only when every workload has a
  `Deleted` or `Error` result;
- §4 runs that leave the order of §4.2 of the specification.
-/

namespace TfExplorer

/-! ## §1 What an event does to a stored document -/

section Events

variable {env : Env} {s s' : System} {e : Event}

/-- An event changes an existing document through the operation it performs. -/
theorem System.get_apply (he : s.apply env e = some s') {id : Nat} {r : Reservation}
    (h : s.world.store.get id = some r) :
    ∃ o, EventOp env s e o ∧ s'.world.store.get id = some (o.onDoc id r) := by
  obtain ⟨o, ho, hst, -⟩ := System.apply_eventOp he
  exact ⟨o, ho, hst ▸ o.get_apply s.world h⟩

/-- Only a `create` step adds a document: the one `create` checked, under the next id. -/
theorem System.get_apply_of_none (he : s.apply env e = some s') {id : Nat} {r' : Reservation}
    (h : s.world.store.get id = none) (h' : s'.world.store.get id = some r') :
    ∃ i ok body r cs, e = .step i ok ∧ s.tasks[i]? = some (.start (.create body)) ∧
      createCheck env s.world.now body = .ok (r, cs) ∧ r' = Store.created r id := by
  obtain ⟨o, ho, hst, -⟩ := System.apply_eventOp he
  rw [hst] at h'
  obtain ⟨r, rfl, -, rfl⟩ := o.get_apply_of_none s.world h h'
  cases ho with
  | step i ok t _ ht hop =>
    cases hop with
    | reservationCreate body r cs hc => exact ⟨i, ok, body, r, cs, rfl, ht, hc, rfl⟩

/-- **The `next_action` writes**: `setReservationDeleted` writes `Delete`,
    `workloadPutDeleted` writes `Deleted`, and the escrow writes `Deploy` to a reservation
    that `Next` leaves in `Pay`. -/
theorem EventOp.setNextAction {id : Nat} {a : NextAction}
    (ho : EventOp env s e (.setNextAction id a)) :
    (a = .delete ∧
      ∃ i ok after, e = .step i ok ∧ s.tasks[i]? = some (.setDelete id after)) ∨
    (a = .deleted ∧ ∃ i ok, e = .step i ok ∧ s.tasks[i]? = some (.deletedSet id)) ∨
    (a = .deploy ∧ e = .escrowPaid id ∧
      ∃ r, s.world.store.get id = some r ∧ (pipeline r s.world.now).nextAction = .pay) := by
  cases ho with
  | step i ok t _ ht hop =>
    cases hop with
    | setDelete _ after => exact .inl ⟨rfl, i, ok, after, rfl, ht⟩
    | deletedSet _ => exact .inr (.inl ⟨rfl, i, ok, rfl, ht⟩)
  | escrowPaid _ r hr hpay => exact .inr (.inr ⟨rfl, rfl, r, hr, hpay⟩)

/-- A `next_action` write ranks at least as high as the document it overwrites, stored and
    normalized. -/
theorem EventOp.rank_le_setNextAction {id : Nat} {a : NextAction} {r : Reservation}
    (ho : EventOp env s e (.setNextAction id a)) (h : s.world.store.get id = some r) :
    r.nextAction.rank ≤ a.rank ∧ (pipeline r s.world.now).nextAction.rank ≤ a.rank := by
  rcases ho.setNextAction with ⟨rfl, -⟩ | ⟨rfl, -⟩ | ⟨rfl, -, r₀, h₀, hpay⟩
  · exact ⟨r.nextAction.rank_le_four, NextAction.rank_le_four _⟩
  · exact ⟨r.nextAction.rank_le_four, NextAction.rank_le_four _⟩
  · cases h.symm.trans h₀
    refine ⟨?_, by rw [hpay]; decide⟩
    rcases Pipeline.next_eq_pay hpay with hr | hr | hr <;> rw [hr] <;> decide

end Events

/-! ## Sample runs -/

/-- A reservation with one container workload on node `n1`, expiring after two hours, whose
    provisioning needs the signature of user 1 and whose deletion needs none. -/
def sampleBody (a : NextAction) : Reservation where
  id := 0
  customerTid := 1
  customerSignature := ""
  epoch := 0
  nextAction := a
  dataReservation :=
    { expirationReservation := 7200, expirationProvisioning := 1800, currencies := []
      signingRequestProvision := ⟨[1], 1⟩, signingRequestDelete := ⟨[], 0⟩
      workloads := [⟨.container, 0, ["n1"], ""⟩] }
  signaturesProvision := []
  signaturesDelete := []
  signaturesFarmer := []
  results := []

/-- The system after the events `es` from an empty store at time 0, with collaborators that
    accept every request. -/
def sampleRun (es : List Event) : System :=
  (System.run Env.accepting (System.init 0) es).getD (System.init 0)

/-- A sample run that goes through reaches its system. -/
theorem reachable_sampleRun {es : List Event}
    (h : (System.run Env.accepting (System.init 0) es).isSome) :
    Reachable Env.accepting (sampleRun es) := by
  obtain ⟨s, hs⟩ := Option.isSome_iff_exists.mp h
  simp only [sampleRun, hs, Option.getD_some]
  exact Reachable.run (.init 0) hs

/-- Reservation `id` after the events `es`: its stored `next_action` and the one `Next`
    computes. -/
def observe (es : List Event) (id : Nat) : Option (NextAction × NextAction) :=
  (System.run Env.accepting (System.init 0) es).bind fun s =>
    (s.world.store.get id).map fun r => (r.nextAction, (pipeline r s.world.now).nextAction)

/-- Node `n1` reports workload `1-0` deleted, and handler `i` runs up to its last step. -/
def putDeletedRun (i : Nat) : List Event :=
  [.request (.workloadPutDeleted "n1" ⟨1, 0⟩), .step i true, .step i true, .step i true,
    .step i true]

/-- Node `n1` posts a result in state `state` for workload `1-0`, and handler `i` runs
    `steps` steps. -/
def resultRun (state : ResultState) (i steps : Nat) : List Event :=
  .request (.workloadPutResult "n1" ⟨1, 0⟩ ⟨⟨1, 0⟩, "n1", state, "", "", 0⟩) ::
    List.replicate steps (.step i true)

/-- `sampleBody` in `Sign` whose deletion needs the signature of user 1. -/
def deletableBody : Reservation :=
  { sampleBody .sign with
    dataReservation :=
      { (sampleBody .sign).dataReservation with signingRequestDelete := ⟨[1], 1⟩ } }

/-- User 1 signs the deletion of reservation 1, and handler `i` runs `steps` steps. -/
def signDeleteRun (i steps : Nat) : List Event :=
  .request (.signDelete 1 ⟨1, "", 0⟩) :: List.replicate steps (.step i true)

/-- A reservation in `Pay`, paid through the escrow, past its provisioning deadline, to
    which node `n1` posts an `OK` result: the events up to the push of that result. -/
def lateResultRun : List Event :=
  [.request (.create (sampleBody .pay)), .step 0 true, .escrowPaid 1, .tick 1801] ++
    resultRun .ok 1 1

/-! ## §2 Where `Deploy` comes from -/

/-- **Where a stored `next_action` comes from.** A new document is one `create` stored: its
    four arrays are empty and its `next_action` is `createdNextAction` of the body. An
    existing document becomes `Deploy` only if it was, or by the escrow's write to a
    reservation that `Next` leaves in `Pay`. -/
theorem deploy_only_by_escrow {env : Env} {s s' : System} {e : Event}
    (he : s.apply env e = some s') {id : Nat} {r' : Reservation}
    (h' : s'.world.store.get id = some r') :
    (s.world.store.get id = none →
      ∃ i ok body, e = .step i ok ∧ s.tasks[i]? = some (.start (.create body)) ∧
        withEmptyArrays r' = r' ∧ createdNextAction body = some r'.nextAction) ∧
    (∀ r, s.world.store.get id = some r → r'.nextAction = .deploy →
      r.nextAction = .deploy ∨
        (e = .escrowPaid id ∧ (pipeline r s.world.now).nextAction = .pay)) := by
  constructor
  · intro h
    obtain ⟨i, ok, body, r, cs, rfl, ht, hc, rfl⟩ := System.get_apply_of_none he h h'
    have hna := createCheck_nextAction hc
    exact ⟨i, ok, body, rfl, ht, rfl, hna⟩
  · intro r h hd
    obtain ⟨o, ho, ho'⟩ := System.get_apply he h
    cases h'.symm.trans ho'
    rcases o.onDoc_nextAction id r with hsame | ⟨a, rfl, ha⟩
    · exact .inl (hsame ▸ hd)
    · rcases ho.setNextAction with ⟨rfl, -⟩ | ⟨rfl, -⟩ | ⟨-, rfl, r₀, h₀, hpay⟩
      · cases ha.symm.trans hd
      · cases ha.symm.trans hd
      · cases h.symm.trans h₀
        exact .inr ⟨rfl, hpay⟩

/-- The first step of `create` stores reservation 1. -/
theorem deploy_only_by_escrow_create :
    let s := sampleRun [.request (.create (sampleBody .sign))]
    let s' := sampleRun [.request (.create (sampleBody .sign)), .step 0 true]
    let r' := (s'.world.store.get 1).getD (sampleBody .sign)
    s.apply Env.accepting (.step 0 true) = some s' ∧ s'.world.store.get 1 = some r' ∧
    (s.world.store.get 1 = none →
      ∃ i ok body, Event.step 0 true = .step i ok ∧
        s.tasks[i]? = some (.start (.create body)) ∧
        withEmptyArrays r' = r' ∧ createdNextAction body = some r'.nextAction) ∧
    (∀ r, s.world.store.get 1 = some r → r'.nextAction = .deploy →
      r.nextAction = .deploy ∨
        (Event.step 0 true = .escrowPaid 1 ∧ (pipeline r s.world.now).nextAction = .pay)) := by
  intro s s' r'
  have he : s.apply Env.accepting (.step 0 true) = some s' := rfl
  have h' : s'.world.store.get 1 = some r' := rfl
  exact ⟨he, h', deploy_only_by_escrow he h'⟩

/-! ## §3 The lifecycle order -/

/-- **`next_action` moves forward.** Over any step of a reachable system, a stored
    `next_action` never moves back in the order `Create < Sign < Pay < Deploy < Delete`, with
    `Deleted` ranked with `Delete`. Nor does the one `Next` computes, except that a `Delete`
    `Next` computed only for an expired provisioning is dropped once the reservation is
    successfully deployed. `Deleted` is written only over a reservation whose every workload
    has a `Deleted` or `Error` result, whatever its state. -/
theorem nextAction_forward {env : Env} {s s' : System} {e : Event}
    (hs : Reachable env s) (he : s.apply env e = some s') {id : Nat} {r : Reservation}
    (h : s.world.store.get id = some r) :
    ∃ r', s'.world.store.get id = some r' ∧
      r.nextAction.rank ≤ r'.nextAction.rank ∧
      ((pipeline r s.world.now).nextAction.rank ≤ (pipeline r' s'.world.now).nextAction.rank ∨
        (Pipeline.deletesForProvisioning r s.world.now ∧ r'.isSuccessfullyDeployed = true)) ∧
      (r'.nextAction = .deleted → r.nextAction = .deleted ∨ r.allDeleted = true) := by
  obtain ⟨o, ho, h'⟩ := System.get_apply he h
  refine ⟨_, h', ?stored, ?normalized, ?deleted⟩
  case stored =>
    rcases o.onDoc_nextAction id r with hsame | ⟨a, rfl, ha⟩
    · rw [hsame]
    · rw [ha]; exact (ho.rank_le_setNextAction h).1
  case normalized =>
    have hle := Pipeline.next_rank_le (o.onDoc id r) s'.world.now
    rcases o.onDoc_nextAction id r with hsame | ⟨a, rfl, ha⟩
    · exact Pipeline.next_rank_mono (System.apply_now_le he) hsame (o.onDoc_grows id r).data
        (o.onDoc_quorums id r).1 (o.onDoc_quorums id r).2
    · rw [ha] at hle
      exact .inl (le_trans (ho.rank_le_setNextAction h).2 hle)
  case deleted =>
    intro hd
    rcases o.onDoc_nextAction id r with hsame | ⟨a, rfl, ha⟩
    · exact .inl (hsame ▸ hd)
    · rcases ho.setNextAction with ⟨rfl, -⟩ | ⟨-, i, ok, rfl, ht⟩ | ⟨rfl, -⟩
      · cases ha.symm.trans hd
      · obtain ⟨r₀, h₀, hall⟩ := hs.inv _ (List.getElem?_mem ht)
        cases h.symm.trans h₀
        exact .inr hall
      · cases ha.symm.trans hd

/-- The step of `workloadPutDeleted` that writes `Deleted` over a reservation in `Sign`. -/
theorem nextAction_forward_putDeleted :
    let s := sampleRun ([.request (.create (sampleBody .sign)), .step 0 true] ++ putDeletedRun 1)
    let s' := sampleRun ([.request (.create (sampleBody .sign)), .step 0 true] ++ putDeletedRun 1 ++
      [.step 1 true])
    let r := (s.world.store.get 1).getD (sampleBody .sign)
    Reachable Env.accepting s ∧ s.apply Env.accepting (.step 1 true) = some s' ∧
    s.world.store.get 1 = some r ∧
    ∃ r', s'.world.store.get 1 = some r' ∧
      r.nextAction.rank ≤ r'.nextAction.rank ∧
      ((pipeline r s.world.now).nextAction.rank ≤ (pipeline r' s'.world.now).nextAction.rank ∨
        (Pipeline.deletesForProvisioning r s.world.now ∧ r'.isSuccessfullyDeployed = true)) ∧
      (r'.nextAction = .deleted → r.nextAction = .deleted ∨ r.allDeleted = true) := by
  intro s s' r
  have hs : Reachable Env.accepting s := reachable_sampleRun rfl
  have he : s.apply Env.accepting (.step 1 true) = some s' := rfl
  have h : s.world.store.get 1 = some r := rfl
  exact ⟨hs, he, h, nextAction_forward hs he h⟩

/-! ## §4 Runs that leave the order of the specification -/

/-- `create` with a body in `Deploy`: with no escrow event, reservation 1 is stored in
    `Deploy`. -/
theorem create_stores_deploy :
    observe [.request (.create (sampleBody .deploy)), .step 0 true] 1 =
      some (.deploy, .deploy) := by
  decide

/-- Three steps that move `next_action` back: a reservation in `Sign` becomes `Deleted` in
    one step of `workloadPutDeleted`; an `Error` result then puts it back in `Delete`; and a
    late `OK` result turns the `Delete` that `Next` computes for an expired provisioning
    back into `Deploy`. -/
theorem nextAction_moves_back :
    let created := [.request (.create (sampleBody .sign)), .step 0 true]
    observe (created ++ putDeletedRun 1) 1 = some (.sign, .sign) ∧
      observe (created ++ putDeletedRun 1 ++ [.step 1 true]) 1 = some (.deleted, .deleted) ∧
      observe (created ++ putDeletedRun 1 ++ [.step 1 true] ++ resultRun .error 2 5) 1 =
        some (.delete, .delete) ∧
      observe lateResultRun 1 = some (.deploy, .delete) ∧
      observe (lateResultRun ++ [.step 1 true]) 1 = some (.deploy, .deploy) := by
  decide

end TfExplorer
