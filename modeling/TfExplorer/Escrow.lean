import TfExplorer.Provenance

/-!
# The Escrow Calls

The explorer tells the escrow collaborator of a reservation three times in its life:
`create` registers it, `workloadPutResult` reports it deployed, and `setReservationDeleted`
cancels it. Over any interleaving of the handlers:

- §1 `ReservationDeployed` is called only while every workload of the reservation has an
  `OK` result of one of its nodes that verifies as that node's;
- §2 every call names a stored reservation;
- §3 `RegisterReservation` is called at most once per reservation: each `create` handler
  registers the id it took from the counter, and the counter never hands an id out twice.
-/

namespace TfExplorer

/-! ## §1 `ReservationDeployed` -/

/-- The step that calls escrow `ReservationDeployed(rid)` is the last step of a
    `workloadPutResult` handler. -/
theorem EventOp.deployed {env : Env} {s : System} {e : Event} {rid : Nat}
    (ho : EventOp env s e (.escrow (.reservationDeployed rid))) :
    ∃ i ok, e = .step i ok ∧ s.tasks[i]? = some (.resultDeployed rid) := by
  cases ho with
  | step i ok t _ ht hop =>
    cases hop with
    | deployed => exact ⟨i, ok, rfl, ht⟩

/-- **The escrow hears `ReservationDeployed` only on verified `OK` results.** Over any step
    of a reachable system, a call `ReservationDeployed(rid)` is made while every workload
    row of the stored reservation `rid` has an `OK` result of its workload, from no node or
    from a node of that workload, which verifies as that node's. -/
theorem reservationDeployed_verified {env : Env} {s s' : System} {e : Event}
    (hs : Reachable env s) (he : s.apply env e = some s') {rid : Nat}
    (hc : s'.world.escrow = s.world.escrow ++ [.reservationDeployed rid]) :
    ∃ r, s.world.store.get rid = some r ∧ ∀ x ∈ r.workloads "", ∃ res ∈ r.results,
      res.workloadId = x.workloadId ∧ res.state = .ok ∧ res.Recorded env r := by
  obtain ⟨o, ho, -, hesc⟩ := System.apply_eventOp he
  rw [Op.apply_escrow, hc] at hesc
  cases Op.eq_escrow_of_calls (List.append_cancel_left hesc).symm
  obtain ⟨i, ok, rfl, ht⟩ := EventOp.deployed ho
  obtain ⟨r, hr, hd⟩ := hs.inv _ (List.getElem?_mem ht)
  refine ⟨r, hr, fun x hx => ?_⟩
  obtain ⟨res, hres, hok⟩ := List.any_eq_true.mp (List.all_eq_true.mp hd x hx)
  simp only [Bool.and_eq_true, beq_iff_eq] at hok
  exact ⟨res, hres, hok.1, hok.2, (hs.authentic _ r hr).results res hres⟩

/-- The last step of the `OK` result's handler of `canceledThenDeployedRun`. -/
theorem reservationDeployed_verified_run :
    let s := sampleRun canceledThenDeployedRun
    let s' := sampleRun (canceledThenDeployedRun ++ [.step 2 true])
    Reachable Env.accepting s ∧ s.apply Env.accepting (.step 2 true) = some s' ∧
    s'.world.escrow = s.world.escrow ++ [.reservationDeployed 1] ∧
    ∃ r, s.world.store.get 1 = some r ∧ ∀ x ∈ r.workloads "", ∃ res ∈ r.results,
      res.workloadId = x.workloadId ∧ res.state = .ok ∧ res.Recorded Env.accepting r := by
  intro s s'
  have hs : Reachable Env.accepting s := reachable_sampleRun rfl
  have he : s.apply Env.accepting (.step 2 true) = some s' := rfl
  have hc : s'.world.escrow = s.world.escrow ++ [.reservationDeployed 1] := by decide
  exact ⟨hs, he, hc, reservationDeployed_verified hs he hc⟩

/-! ## §2 Calls name stored reservations -/

/-- The reservation an escrow call is about. -/
def EscrowCall.id : EscrowCall → Nat
  | .registerReservation id _ | .reservationDeployed id | .reservationCanceled id => id

/-- An escrow call an event makes names a stored reservation: `create` registers the
    document it read back, `workloadPutResult` reports the reservation it read, and
    `setReservationDeleted` cancels a reservation that `signDelete`, the poll or
    `workloadPutResult` read. -/
theorem EventOp.call_stored {env : Env} {s : System} {e : Event} (hs : Reachable env s)
    {call : EscrowCall} (ho : EventOp env s e (.escrow call)) :
    ∃ r, s.world.store.get call.id = some r := by
  cases ho with
  | step i ok t _ ht hop =>
    have ht := List.getElem?_mem ht
    cases hop with
    | register r cs =>
      obtain ⟨r₀, h₀, -⟩ := hs.createInv _ ht
      exact ⟨r₀, h₀⟩
    | cancel id after => exact (hs.checked _ ht).1
    | deployed rid =>
      obtain ⟨r, hr, -⟩ := hs.inv _ ht
      exact ⟨r, hr⟩

/-- **Every escrow call names a stored reservation**, in every reachable system: the
    explorer registers, reports deployed and cancels only reservations it has stored. -/
theorem Reachable.calls_stored {env : Env} {s : System} (hs : Reachable env s) :
    ∀ call ∈ s.world.escrow, ∃ r, s.world.store.get call.id = some r := by
  induction hs with
  | init now => exact fun _ h => nomatch h
  | step e hs he ih =>
    obtain ⟨o, ho, -, hesc⟩ := System.apply_eventOp he
    intro call hcall
    rw [hesc, Op.apply_escrow] at hcall
    refine (System.apply_keeps he).exists_get ?_
    rcases List.mem_append.mp hcall with hcall | hcall
    · exact ih call hcall
    · cases o with
      | escrow c =>
        cases List.mem_singleton.mp hcall
        exact EventOp.call_stored hs ho
      | _ => cases hcall

/-- The escrow calls of `canceledThenDeployedRun` after its last step. -/
theorem calls_stored_canceled_deployed :
    let s := sampleRun (canceledThenDeployedRun ++ [.step 2 true])
    Reachable Env.accepting s ∧
      ∀ call ∈ s.world.escrow, ∃ r, s.world.store.get call.id = some r := by
  intro s
  have hs : Reachable Env.accepting s := reachable_sampleRun rfl
  exact ⟨hs, Reachable.calls_stored hs⟩

/-! ## §3 One registration per reservation -/

/-- The reservation a `create` handler in flight is to register: the one it stored, from its
    read back on. -/
def Task.registers : Task → Option Nat
  | .createGet id _ => some id
  | .createRegister r _ => some r.id
  | _ => none

/-- The reservation an operation registers with the escrow. -/
def Op.registers : Op → Option Nat
  | .escrow (.registerReservation id _) => some id
  | _ => none

/-- `ReservationCreate`, the one operation that moves the id counter. -/
def Op.isCreate : Op → Bool
  | .reservationCreate _ => true
  | _ => false

/-- Whether escrow call `c` registers reservation `id`. -/
def EscrowCall.registers (id : Nat) : EscrowCall → Bool
  | .registerReservation id' _ => id' == id
  | _ => false

theorem Op.apply_lastId (o : Op) (w : World) :
    (o.apply w).store.lastId = w.store.lastId + if o.isCreate then 1 else 0 := by
  cases o <;> simp [Op.apply, Op.isCreate, Store.reservationCreate, Store.pushSignature,
    Store.resultPush, Store.setNextAction, Store.update, Store.workloadPush, insertMany_setup,
    Store.workloadPop]

theorem Op.countP_calls_registers (o : Op) (id : Nat) :
    o.calls.countP (·.registers id) = if o.registers = some id then 1 else 0 := by
  cases o with
  | escrow c =>
    cases c with
    | registerReservation id' cs =>
      by_cases h : id' = id <;> simp [Op.calls, Op.registers, EscrowCall.registers, h]
    | _ => simp [Op.calls, Op.registers, EscrowCall.registers]
  | _ => simp [Op.calls, Op.registers]

theorem Task.registers_orReply {α : Type} {x : Except Reply α} {k : α → Task}
    (h : ∀ a, (k a).registers = none) : (Task.orReply x k).registers = none := by
  cases x with
  | error reply => rfl
  | ok a => exact h a

/-- The read back of `create` yields the document under the id it reads. -/
theorem createGet_id {w : World} {ok : Bool} {id : Nat} {r : Reservation}
    (h : createGet w ok id = .ok r) : r.id = id := by
  unfold createGet at h
  split at h
  · cases h
  · rename_i hr
    cases h
    split at hr
    · exact Store.get_eq_some hr
    · cases hr

/-- What a step of handler `t`, writing `o` and going on as `t'`, does to registrations: it
    keeps the reservation `t` is to register or drops it, registering nothing and creating
    nothing; or it is `ReservationCreate`, after which `t'` is to register the new id; or it
    registers the reservation `t` was to register, and `t'` has none. -/
def RegisterStep (w : World) (t : Task) (o : Op) (t' : Task) : Prop :=
  ((t'.registers = none ∨ t'.registers = t.registers) ∧ o.registers = none ∧
      o.isCreate = false) ∨
    (t.registers = none ∧ t'.registers = some (w.store.lastId + 1) ∧ o.registers = none ∧
      o.isCreate = true) ∨
    (t'.registers = none ∧ o.registers = t.registers ∧ o.isCreate = false)

/-- **What every handler step does to registrations.** -/
theorem Task.registerStep (env : Env) (w : World) (ok : Bool) (t : Task) :
    RegisterStep w t (t.step env w ok).1 (t.step env w ok).2 := by
  have keep : ∀ {o t'}, t'.registers = none → o.registers = none → o.isCreate = false →
      RegisterStep w t o t' := fun h ho hc => .inl ⟨.inl h, ho, hc⟩
  cases t with
  | start req =>
    cases req with
    | create body =>
      simp only [Task.step]
      split
      · exact keep rfl rfl rfl
      · cases ok
        · exact keep rfl rfl rfl
        · exact .inr (.inl ⟨rfl, rfl, rfl, rfl⟩)
    | workloads nodeId from_ => exact keep (Task.registers_orReply fun _ => rfl) rfl rfl
    | _ => first | exact keep rfl rfl rfl | exact keep (Task.registers_orReply fun _ => rfl) rfl rfl
  | createGet id cs =>
    refine .inl ⟨?_, rfl, rfl⟩
    cases hg : TfExplorer.createGet w ok id with
    | error reply => exact .inl (by simp only [Task.step, hg, Task.orReply_error]; rfl)
    | ok r =>
      simp [Task.step, hg, Task.registers, createGet_id hg]
  | createRegister r cs => exact .inr (.inr ⟨rfl, rfl, rfl⟩)
  | pushSignature id mode sig => cases ok <;> cases mode <;> exact keep rfl rfl rfl
  | setDelete id after =>
    cases ok
    · exact keep rfl rfl rfl
    · cases after with
      | poll => exact keep (Task.registers_orReply fun _ => rfl) rfl rfl
      | _ => exact keep rfl rfl rfl
  | pollScan nodeId rest acc lastId =>
    cases rest with
    | nil => exact keep rfl rfl rfl
    | cons r rest =>
      simp only [Task.step]
      split
      · exact keep rfl rfl rfl
      · exact keep (Task.registers_orReply fun _ => rfl) rfl rfl
  | resultPop rid nodeId result =>
    cases ok
    · exact keep rfl rfl rfl
    · cases h : result.state <;> simp only [Task.step, h, afterPop] <;> exact keep rfl rfl rfl
  | _ =>
    first
    | exact keep rfl rfl rfl
    | (cases ok <;> exact keep rfl rfl rfl)
    | exact keep (Task.registers_orReply fun _ => rfl) rfl rfl

/-- The registrations of reservation `id`: the escrow calls that made one, and the `create`
    handlers in flight that are to make one. -/
def System.registrations (s : System) (id : Nat) : Nat :=
  s.tasks.countP (·.registers == some id) + s.world.escrow.countP (·.registers id)

/-- No reservation has two registrations, and none beyond the id counter has one. -/
def System.RegisterOnce (s : System) : Prop :=
  ∀ id, s.registrations id ≤ 1 ∧ (s.world.store.lastId < id → s.registrations id = 0)

/-- **Every event keeps registrations to one per reservation.** -/
theorem System.RegisterOnce.apply {env : Env} {s s' : System} {e : Event} (h : s.RegisterOnce)
    (he : s.apply env e = some s') : s'.RegisterOnce := by
  rcases System.apply_world he with
    ⟨req, rfl, hw⟩ | ⟨i, ok, t, rfl, ht, -, hw, htasks⟩ |
    ⟨id, r, rfl, -, -, hw, htasks⟩ | ⟨now, rfl, -, hw, htasks⟩
  · cases he
    intro id
    simpa [System.registrations, List.countP_append, Task.registers] using h id
  · intro id
    obtain ⟨hi, hget⟩ := List.getElem?_eq_some_iff.mp ht
    have hle := List.boole_getElem_le_countP (·.registers == some id) s.tasks i hi
    obtain ⟨h1, h2⟩ := h id
    simp only [System.registrations, htasks, hw, Op.apply_escrow, List.countP_append,
      List.countP_set _ _ _ _ hi, Op.countP_calls_registers, Op.apply_lastId, hget] at h1 h2 hle ⊢
    generalize s.tasks.countP (·.registers == some id) = T at h1 h2 hle ⊢
    generalize s.world.escrow.countP (·.registers id) = E at h1 h2 hle ⊢
    rcases Task.registerStep env s.world ok t with
      ⟨ht' | ht', hreg, hc⟩ | ⟨ht0, ht', hreg, hc⟩ | ⟨ht', hreg, hc⟩
    · -- `t` drops its registration, or had none
      simp only [ht', hreg, hc, beq_iff_eq, reduceCtorEq, Bool.false_eq_true, if_false,
        Nat.add_zero] at hle ⊢
      split_ifs at hle ⊢ <;> omega
    · -- `t` keeps its registration
      simp only [ht', hreg, hc, beq_iff_eq, reduceCtorEq, Bool.false_eq_true, if_false,
        Nat.add_zero] at hle ⊢
      split_ifs at hle ⊢ <;> omega
    · -- `ReservationCreate`: `t` is to register the new id, which nothing else has
      simp only [ht0, ht', hreg, hc, beq_iff_eq, reduceCtorEq, if_true, if_false,
        Nat.add_zero, Nat.sub_zero, Option.some.injEq] at hle ⊢
      split_ifs at hle ⊢ <;> omega
    · -- the registration call: the registration moves from `t` to the escrow log
      simp only [ht', hreg, hc, beq_iff_eq, reduceCtorEq, Bool.false_eq_true, if_false,
        Nat.add_zero] at hle ⊢
      split_ifs at hle ⊢ <;> omega
  · intro id
    simpa [System.registrations, htasks, hw, Op.apply_escrow, Op.calls, Op.apply_lastId,
      Op.isCreate] using h id
  · intro id
    simpa [System.registrations, htasks, hw] using h id

end TfExplorer
