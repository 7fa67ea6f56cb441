import TfExplorer.Checks
import TfExplorer.Queue
import TfExplorer.Poll
import TfExplorer.CreateRun

/-!
# Where What the Explorer Stores Comes From

Every signature, result, queue row and poll reply of the explorer comes out of a handler
that checked it against a stored reservation (`TfExplorer.Checks`). Between the check and
the write other handlers and the escrow run; what the check established survives them,
because no operation removes a document or changes its id or payload (`Op.grows`).

- §1 the stored ids: `ReservationCreate` never reuses one, so a document found by the
  poll's cursor is the one `get` finds;
- §2 every queue row is the row of a stored reservation's workload on one of its nodes;
- §3 what each handler in flight has checked (`Task.Checked`), in every reachable system;
- §4 every stored signature and result came through those checks
  (`Reservation.Authentic`);
- §5 every workload a poll replies with is a row of a stored reservation, for the node
  that polls, over any interleaving.
-/

namespace TfExplorer

/-! ## §1 Stored ids -/

/-- No two stored reservations share an id, and the counter is at least every id. -/
def Store.IdsDistinct (s : Store) : Prop :=
  (s.reservations.map (·.id)).Nodup ∧ ∀ i ∈ s.reservations.map (·.id), i ≤ s.lastId

theorem Store.update_ids (s : Store) (id : Nat) (f : Reservation → Reservation)
    (hf : ∀ r, (f r).id = r.id) :
    (s.update id f).reservations.map (·.id) = s.reservations.map (·.id) := by
  simp only [Store.update, List.map_map]
  exact List.map_congr_left fun r _ => by by_cases h : r.id = id <;> simp [h, hf]

/-- **Every operation keeps the ids distinct**: updates keep every id, and
    `ReservationCreate` adds the one after the counter. -/
theorem Store.IdsDistinct.apply {w : World} (h : w.store.IdsDistinct) (o : Op) :
    (o.apply w).store.IdsDistinct := by
  have hupdate : ∀ id f, (∀ r, (f r).id = r.id) → (w.store.update id f).IdsDistinct :=
    fun id f hf => by rw [Store.IdsDistinct, Store.update_ids _ _ _ hf]; exact h
  cases o with
  | reservationCreate r =>
    show (w.store.reservationCreate r).IdsDistinct
    simp only [Store.IdsDistinct, Store.reservationCreate, Store.created, List.map_append,
      List.map_singleton, List.mem_append, List.mem_singleton]
    refine ⟨h.1.append (List.nodup_singleton _) fun i hi hi' => ?_, fun i hi => ?_⟩
    · have := h.2 i hi
      rw [List.mem_singleton.mp hi'] at this
      omega
    · rcases hi with hi | rfl
      · exact Nat.le_succ_of_le (h.2 i hi)
      · exact le_rfl
  | pushSignature id mode sig => exact hupdate _ _ fun r => (r.pushSignature_grows mode sig).id
  | resultPush id result => exact hupdate _ _ fun _ => rfl
  | setNextAction id a => exact hupdate _ _ fun _ => rfl
  | workloadPush rows => simpa only [Op.apply, Store.workloadPush, insertMany_setup] using h
  | skip | workloadPop _ _ | escrow _ => exact h

/-- With distinct ids, `get` finds every stored reservation under its id. -/
theorem Store.get_of_mem {s : Store} (h : s.IdsDistinct) {r : Reservation}
    (hr : r ∈ s.reservations) : s.get r.id = some r := by
  obtain ⟨rs, _, _⟩ := s
  replace h := h.1
  unfold Store.get
  dsimp only at h hr ⊢
  induction rs with
  | nil => cases hr
  | cons r' rs ih =>
    obtain ⟨hnot, hnd⟩ := List.nodup_cons.mp h
    rcases List.mem_cons.mp hr with rfl | hr
    · simp
    · have hne : r'.id ≠ r.id := fun he => hnot (List.mem_map.mpr ⟨r, hr, he.symm⟩)
      simp [hne, ih hr hnd]

/-- **The stored ids are distinct** in every reachable system. -/
theorem Reachable.idsDistinct {env : Env} {s : System} (hs : Reachable env s) :
    s.world.store.IdsDistinct := by
  induction hs with
  | init now => exact ⟨List.nodup_nil, fun _ h => nomatch h⟩
  | step e _ he ih =>
    obtain ⟨o, -, hst, -⟩ := System.apply_eventOp he
    rw [hst]
    exact ih.apply o

/-- What the poll's cursor finds is stored. -/
theorem stored_of_find {w : World} (h : w.store.IdsDistinct) {from_ : Int} {nodeId : String}
    {r : Reservation} (hr : r ∈ w.store.find from_ nodeId) : Stored w r :=
  ⟨r, Store.get_of_mem h (List.mem_filter.mp hr).1, .refl r⟩

/-! ## §2 The queue -/

/-- Every event keeps every document of the world, as a later version. -/
theorem System.apply_keeps {env : Env} {s s' : System} {e : Event}
    (he : s.apply env e = some s') : s.world.Keeps s'.world := fun _ r h => by
  obtain ⟨o, -, ho⟩ := System.get_apply he h
  exact ⟨_, ho, o.onDoc_grows _ r⟩

/-- What later versions of a document keep holds of the document in a world that keeps
    it. -/
theorem World.Keeps.get {w w' : World} (hk : w.Keeps w') {id : Nat} {p : Reservation → Prop}
    (hp : ∀ {r r'}, r.Grows r' → p r → p r') (h : ∃ r, w.store.get id = some r ∧ p r) :
    ∃ r, w'.store.get id = some r ∧ p r :=
  let ⟨_, hr, h⟩ := h
  let ⟨r', hr', hg⟩ := hk _ _ hr
  ⟨r', hr', hp hg h⟩

theorem World.Keeps.exists_get {w w' : World} (hk : w.Keeps w') {id : Nat}
    (h : ∃ r, w.store.get id = some r) : ∃ r, w'.store.get id = some r :=
  let ⟨_, hr⟩ := h
  let ⟨r', hr', _⟩ := hk _ _ hr
  ⟨r', hr'⟩

/-- Every row of the queue is the row of a workload of the stored reservation it names, on
    one of that workload's nodes. -/
def Store.RowsStored (s : Store) : Prop :=
  ∀ x ∈ s.queue, ∃ r, s.get x.workloadId.reservation = some r ∧ x.RowOf r

/-- A version of a stored reservation has its rows stored. -/
theorem Stored.rowsStored {w : World} {r : Reservation} (h : Stored w r) {nodeId : String}
    {x : Workload} (hx : x ∈ r.workloads nodeId) :
    ∃ r₀, w.store.get x.workloadId.reservation = some r₀ ∧ x.RowOf r₀ := by
  obtain ⟨hrow, -⟩ := rowOf_of_mem_workloads hx
  obtain ⟨r₀, h₀, hg⟩ := h
  exact ⟨r₀, hrow.reservation ▸ h₀, hrow.grows hg⟩

/-- **Every event keeps the queue rows stored**: a push is of a stored reservation's rows, a
    pop removes a row, and documents stay. -/
theorem Store.RowsStored.apply {env : Env} {s s' : System} {e : Event} (hs : Reachable env s)
    (hq : s.world.store.RowsStored) (he : s.apply env e = some s') :
    s'.world.store.RowsStored := by
  have hold : ∀ x ∈ s.world.store.queue,
      ∃ r, s'.world.store.get x.workloadId.reservation = some r ∧ x.RowOf r := fun x hx =>
    (System.apply_keeps he).get (fun hg h => h.grows hg) (hq x hx)
  rcases queue_step hs he with hsame | ⟨_, _, r, _, -, -, -, hstored, hpush⟩ |
    ⟨_, _, _, _, _, -, -, -, hpop⟩
  · intro x hx
    rw [hsame] at hx
    exact hold x hx
  · intro x hx
    rw [hpush] at hx
    rcases List.mem_append.mp hx with hx | hx
    · exact hold x hx
    · exact ((System.apply_keeps he).stored hstored).rowsStored hx
  · intro x hx
    rw [hpop] at hx
    exact hold x (List.mem_of_mem_eraseP hx)

/-- The queue rows are stored in every reachable system. -/
theorem Reachable.rowsStored {env : Env} {s : System} (hs : Reachable env s) :
    s.world.store.RowsStored := by
  induction hs with
  | init now => exact fun _ h => nomatch h
  | step e hs he ih => exact ih.apply hs he

/-- The queue rows a poll reads are served to the node. -/
theorem served_queued {w : World} (hq : w.store.RowsStored) (nodeId : String) :
    ∀ x ∈ w.store.queued nodeId maxPageSize, x.Served w nodeId := fun x hx => by
  obtain ⟨hx, hnode⟩ := List.mem_filter.mp (List.mem_of_mem_take hx)
  exact ⟨.inr (by simpa using hnode), hq x hx⟩

/-! ## §3 What a handler in flight has checked -/

/-- What the node poll carries into `setReservationDeleted`: the reservation it read and
    the rest of its cursor are stored, and the rows it holds are served. -/
def AfterDelete.Checked (w : World) : AfterDelete → Prop
  | .poll nodeId r rest acc _ =>
    Stored w r ∧ (∀ r ∈ rest, Stored w r) ∧ ∀ x ∈ acc, x.Served w nodeId
  | _ => True

/-- What a handler in flight has checked of what it goes on to write or reply. -/
def Task.Checked (env : Env) (w : World) : Task → Prop
  | .pushSignature id mode sig => ∃ r, w.store.get id = some r ∧ sig.Signs env r mode
  | .resultPush rid _ result => ∃ r, w.store.get rid = some r ∧ result.Recorded env r
  | .resultPop rid _ _ => ∃ r, w.store.get rid = some r
  | .deletedPush rid _ _ result => ∃ r, w.store.get rid = some r ∧ result.MarksDeleted r
  | .cancelEscrow id after => (∃ r, w.store.get id = some r) ∧ after.Checked w
  | .setDelete _ after => after.Checked w
  | .pollLastId nodeId _ acc | .pollFind nodeId _ acc _ => ∀ x ∈ acc, x.Served w nodeId
  | .pollScan nodeId rest acc _ => (∀ r ∈ rest, Stored w r) ∧ ∀ x ∈ acc, x.Served w nodeId
  | _ => True

section Checked

variable {env : Env} {w w' : World}

theorem AfterDelete.Checked.mono (hk : w.Keeps w') {after : AfterDelete}
    (h : after.Checked w) : after.Checked w' := by
  cases after with
  | poll nodeId r rest acc _ =>
    obtain ⟨hr, hrest, hacc⟩ := h
    exact ⟨hk.stored hr, fun r hr => hk.stored (hrest r hr), fun x hx => (hacc x hx).mono hk⟩
  | _ => trivial

/-- **Writes keep what handlers have checked.** -/
theorem Task.Checked.mono (hk : w.Keeps w') {t : Task} (h : t.Checked env w) :
    t.Checked env w' := by
  cases t with
  | pushSignature id mode sig => exact hk.get (fun hg h => h.grows hg) h
  | resultPush rid _ result => exact hk.get (fun hg h => h.grows hg) h
  | resultPop rid _ _ => exact hk.exists_get h
  | deletedPush rid _ _ result => exact hk.get (fun hg h => h.grows hg) h
  | cancelEscrow id after => exact ⟨hk.exists_get h.1, h.2.mono hk⟩
  | setDelete _ after => exact AfterDelete.Checked.mono hk h
  | pollLastId nodeId _ acc => exact fun x hx => (h x hx).mono hk
  | pollFind nodeId _ acc _ => exact fun x hx => (h x hx).mono hk
  | pollScan nodeId rest acc _ =>
    exact ⟨fun r hr => hk.stored (h.1 r hr), fun x hx => (h.2 x hx).mono hk⟩
  | _ => trivial

theorem Task.checked_orReply {α : Type} {x : Except Reply α} {k : α → Task}
    (h : ∀ a, x = .ok a → (k a).Checked env w) : (Task.orReply x k).Checked env w := by
  cases x with
  | error reply => trivial
  | ok a => exact h a rfl

/-- Rows of a stored reservation join served rows as served rows. -/
theorem served_append {nodeId : String} {acc : List Workload} {r : Reservation}
    (hacc : ∀ x ∈ acc, x.Served w nodeId) (hr : Stored w r) :
    ∀ x ∈ acc ++ r.workloads nodeId, x.Served w nodeId := fun x hx => by
  rcases List.mem_append.mp hx with hx | hx
  · exact hacc x hx
  · exact ⟨(rowOf_of_mem_workloads hx).2, hr.rowsStored hx⟩

/-- A reply whose workloads are served to node `nodeId`; other replies carry none. -/
def Reply.Served (w : World) (nodeId : String) : Reply → Prop
  | .workloads ws _ => ∀ x ∈ ws, x.Served w nodeId
  | _ => True

/-- After reservation `r`, the scan goes on with served rows or replies with served rows. -/
theorem pollContinue_served {nodeId : String} {r : Reservation} {acc : List Workload}
    {lastId : Nat} (hr : Stored w r) (hacc : ∀ x ∈ acc, x.Served w nodeId) :
    (∀ acc', pollContinue nodeId r acc lastId = .ok acc' →
        ∀ x ∈ acc', x.Served w nodeId) ∧
      ∀ reply, pollContinue nodeId r acc lastId = .error reply → reply.Served w nodeId := by
  rcases pollContinue_cases nodeId r acc lastId with
    ⟨-, hc⟩ | ⟨-, -, hc⟩ | ⟨-, -, hc⟩ <;> rw [hc] <;> refine ⟨fun acc' h => ?_, fun reply h => ?_⟩ <;> cases h
  · exact hacc
  · exact served_append hacc hr
  · exact served_append hacc hr

/-- The version of a stored reservation that the pipeline leaves is stored. -/
theorem Stored.pipeline {r : Reservation} (h : Stored w r) (now : Int) :
    Stored w (pipeline r now) := by
  obtain ⟨r₀, h₀, hg⟩ := h
  exact ⟨r₀, (pipeline_grows r now).id ▸ h₀, (grows_of_pipeline r now).trans hg⟩

/-- **One step of a handler establishes what it goes on with**, from what it has checked,
    in a world whose ids are distinct and whose queue rows are stored. -/
theorem Task.checked_step (ok : Bool) (hw : w.store.IdsDistinct ∧ w.store.RowsStored)
    {t : Task} (h : t.Checked env w) : (t.step env w ok).2.Checked env w := by
  cases t with
  | start req =>
    -- the checks of each request: a signature or a result that passed them, the queue rows
    cases req with
    | create body =>
      simp only [Task.step]
      split
      · trivial
      · cases ok <;> trivial
    | signProvision id sig => exact Task.checked_orReply fun _ => signProvision_ok
    | signDelete id sig => exact Task.checked_orReply fun _ => signDelete_ok
    | workloads nodeId from_ =>
      refine Task.checked_orReply fun (_, acc) hq => ?_
      unfold workloads at hq
      dsimp only at hq
      split at hq <;> (try split at hq) <;> (try split at hq) <;> cases hq
      exact served_queued hw.2 nodeId
    | workloadPutResult nodeId gwid result =>
      exact Task.checked_orReply fun _ => workloadPutResult_ok
    | workloadPutDeleted nodeId gwid => exact Task.checked_orReply fun _ => workloadPutDeleted_ok
    | _ => trivial
  | deleteGet id =>
    -- the escrow is told to cancel the reservation the read back found
    refine Task.checked_orReply fun r hr => ⟨?_, trivial⟩
    obtain ⟨r₀, h₀, hg⟩ := get_of_read (readIf_ok hr).1
    exact ⟨r₀, hg.id ▸ Store.get_eq_some h₀ ▸ h₀⟩
  | cancelEscrow id after => exact h.2
  | setDelete id after =>
    -- a scan interrupted by `setReservationDeleted` goes on with the page it had
    cases ok
    · trivial
    · cases after with
      | poll nodeId r rest acc lastId =>
        obtain ⟨hr, hrest, hacc⟩ := h
        exact Task.checked_orReply fun acc' hc =>
          ⟨hrest, (pollContinue_served hr hacc).1 acc' hc⟩
      | _ => trivial
  | pollLastId nodeId from_ acc => exact Task.checked_orReply fun _ _ => h
  | pollFind nodeId from_ acc lastId =>
    -- the cursor holds stored reservations
    refine Task.checked_orReply fun found hf => ⟨fun r hr => ?_, h⟩
    unfold TfExplorer.pollFind at hf
    split at hf
    · cases hf; exact stored_of_find hw.1 hr
    · cases hf
  | pollScan nodeId rest acc lastId =>
    -- a reservation of the cursor is cancelled, or its rows are served
    cases rest with
    | nil => trivial
    | cons r rest =>
      obtain ⟨hrest, hacc⟩ := h
      have hr : Stored w (pipeline r w.now) :=
        (hrest r (List.mem_cons_self _ _)).pipeline w.now
      have hrest : ∀ r' ∈ rest, Stored w r' := fun r' h => hrest r' (List.mem_cons_of_mem _ h)
      simp only [Task.step]
      split
      · obtain ⟨r₀, h₀, hg⟩ := hr
        exact ⟨⟨r₀, hg.id ▸ h₀⟩, ⟨r₀, h₀, hg⟩, hrest, hacc⟩
      · exact Task.checked_orReply fun acc' hc =>
          ⟨hrest, (pollContinue_served hr hacc).1 acc' hc⟩
  | resultPush rid nodeId result =>
    -- the pop, and then an `Error` result's cancel, are of the reservation pushed to
    cases ok
    · trivial
    · obtain ⟨r, hr, -⟩ := h
      exact ⟨r, hr⟩
  | resultPop rid nodeId result =>
    cases ok
    · trivial
    · show (afterPop rid result.state).Checked env w
      cases result.state
      · exact ⟨h, trivial⟩
      all_goals trivial
  | pushSignature id mode sig => cases ok <;> cases mode <;> trivial
  | _ =>
    first
    | trivial
    | (cases ok <;> trivial)
    | exact Task.checked_orReply fun _ _ => trivial

end Checked

/-- **Every handler in flight holds what it has checked**, in every reachable system. -/
theorem Reachable.checked {env : Env} {s : System} (hs : Reachable env s) :
    ∀ t ∈ s.tasks, t.Checked env s.world :=
  Reachable.forall_tasks_of (fun w => w.store.IdsDistinct ∧ w.store.RowsStored)
    (fun w t => t.Checked env w) (fun hs => ⟨hs.idsDistinct, hs.rowsStored⟩)
    (fun hk _ h => h.mono hk) (fun w ok _ hw h => (Task.checked_step ok hw h).mono (Op.keeps _ w))
    (fun _ _ => trivial) hs

/-! ## §4 Stored signatures and results -/

/-- Every signature and result of `r` came through the checks of the handler that pushed
    it, and `r` has no farmer signature. -/
structure Reservation.Authentic (env : Env) (r : Reservation) : Prop where
  provision : ∀ s ∈ r.signaturesProvision, s.Signs env r .provision
  delete : ∀ s ∈ r.signaturesDelete, s.Signs env r .delete
  farmer : r.signaturesFarmer = []
  results : ∀ res ∈ r.results, res.Recorded env r

section Authentic

variable {env : Env}

/-- A later version of an authentic document, whose new signatures and results passed the
    checks, is authentic. -/
theorem Reservation.Authentic.of_grows {r r' : Reservation} (h : r.Authentic env)
    (hg : r.Grows r')
    (hp : ∀ s ∈ r'.signaturesProvision, s ∈ r.signaturesProvision ∨ s.Signs env r .provision)
    (hd : ∀ s ∈ r'.signaturesDelete, s ∈ r.signaturesDelete ∨ s.Signs env r .delete)
    (hf : r'.signaturesFarmer = r.signaturesFarmer)
    (hres : ∀ x ∈ r'.results, x ∈ r.results ∨ x.Recorded env r) : r'.Authentic env where
  provision s hs := ((hp s hs).elim (h.provision s) fun h => h).grows hg
  delete s hs := ((hd s hs).elim (h.delete s) fun h => h).grows hg
  farmer := hf.trans h.farmer
  results x hx := ((hres x hx).elim (h.results x) fun h => h).grows hg

/-- A push adds at most the pushed signature. -/
theorem mem_appendSignature {l : List SigningSignature} {sig s : SigningSignature}
    (h : s ∈ appendSignature l sig) : s ∈ l ∨ s = sig := by
  unfold appendSignature at h
  split at h
  · exact .inl h
  · exact (List.mem_append.mp h).imp_right List.mem_singleton.mp

/-- An operation keeps a document authentic when the signature it pushes there passed the
    checks and so did the result it pushes there. -/
theorem Reservation.Authentic.onDoc {r : Reservation} (h : r.Authentic env) (o : Op) (id : Nat)
    (hsig : ∀ mode sig, o = .pushSignature id mode sig → sig.Signs env r mode)
    (hres : ∀ res, o = .resultPush id res → res.Recorded env r) :
    (o.onDoc id r).Authentic env := by
  cases o with
  | pushSignature id' mode sig =>
    simp only [Op.onDoc]
    split
    · subst id'
      have hs := hsig mode sig rfl
      have hnew : ∀ {l s}, s ∈ appendSignature l sig → s ∈ l ∨ s.Signs env r mode :=
        fun {_ s} hm => (mem_appendSignature hm).imp_right fun (he : s = sig) => he ▸ hs
      have hg := r.pushSignature_grows mode sig
      cases mode with
      | provision => exact h.of_grows hg (fun _ => hnew) (fun _ => .inl) rfl fun _ => .inl
      | delete => exact h.of_grows hg (fun _ => .inl) (fun _ => hnew) rfl fun _ => .inl
      | farmer => exact hs.elim
    · exact h
  | resultPush id' res =>
    simp only [Op.onDoc]
    split
    · subst id'
      refine h.of_grows ⟨rfl, rfl, fun _ => List.mem_append_left _⟩ (fun _ => .inl)
        (fun _ => .inl) rfl fun x hx => ?_
      exact (List.mem_append.mp hx).imp_right fun hx =>
        (List.mem_singleton.mp hx : x = res) ▸ hres res rfl
    · exact h
  | setNextAction id' a =>
    simp only [Op.onDoc]
    split
    · exact h.of_grows ⟨rfl, rfl, fun _ h => h⟩ (fun _ => .inl) (fun _ => .inl) rfl
        fun _ => .inl
    · exact h
  | _ => exact h

/-- A copy that `workloadPutDeleted` makes of a result of an authentic document is
    recorded. -/
theorem Result.MarksDeleted.recorded {r : Reservation} {res : Result} (hm : res.MarksDeleted r)
    (ha : r.Authentic env) : res.Recorded env r := by
  obtain ⟨hst, ⟨hn, d, hd, hid⟩ | ⟨x, hx, hid, hn⟩⟩ := hm
  · exact ⟨d, hd, hid, .inl hn, fun hne => absurd hst hne⟩
  · obtain ⟨d, hd, hxid, hxn, -⟩ := ha.results x hx
    exact ⟨d, hd, hid.symm.trans hxid, hn ▸ hxn, fun hne => absurd hst hne⟩

/-- Every stored reservation is authentic. -/
def World.Authentic (env : Env) (w : World) : Prop :=
  ∀ id r, w.store.get id = some r → r.Authentic env

variable {s s' : System} {e : Event}

/-- A signature an event pushes passed the checks for the stored reservation. -/
theorem EventOp.signs (hs : Reachable env s) {id : Nat} {mode : SignatureMode}
    {sig : SigningSignature} (ho : EventOp env s e (.pushSignature id mode sig)) :
    ∃ r, s.world.store.get id = some r ∧ sig.Signs env r mode := by
  cases ho with
  | step i ok t _ ht hop =>
    cases hop with
    | pushSignature => exact hs.checked _ (List.getElem?_mem ht)

/-- A result an event pushes is recorded for the stored reservation. -/
theorem EventOp.recorded (hs : Reachable env s) (ha : s.world.Authentic env) {rid : Nat}
    {res : Result} (ho : EventOp env s e (.resultPush rid res)) :
    ∃ r, s.world.store.get rid = some r ∧ res.Recorded env r := by
  cases ho with
  | step i ok t _ ht hop =>
    have hc := hs.checked _ (List.getElem?_mem ht)
    cases hop with
    | resultPush => exact hc
    | deletedPush =>
      obtain ⟨r, hr, hm⟩ := hc
      exact ⟨r, hr, hm.recorded (ha _ r hr)⟩

/-- **Every event keeps the stored reservations authentic.** -/
theorem World.Authentic.apply (hs : Reachable env s) (ha : s.world.Authentic env)
    (he : s.apply env e = some s') : s'.world.Authentic env := by
  intro id r' h'
  cases h : s.world.store.get id with
  | none =>
    obtain ⟨_, _, _, r, _, _, _, _, rfl⟩ := System.get_apply_of_none he h h'
    exact ⟨fun _ h => (nomatch h), fun _ h => (nomatch h), rfl, fun _ h => (nomatch h)⟩
  | some r =>
    obtain ⟨o, ho, ho'⟩ := System.get_apply he h
    cases h'.symm.trans ho'
    refine (ha id r h).onDoc o id ?_ ?_
    · rintro mode sig rfl
      obtain ⟨r₁, h₁, hs₁⟩ := EventOp.signs hs ho
      cases h.symm.trans h₁
      exact hs₁
    · rintro res rfl
      obtain ⟨r₁, h₁, hr₁⟩ := EventOp.recorded hs ha ho
      cases h.symm.trans h₁
      exact hr₁

end Authentic

/-- Every stored reservation is authentic in every reachable system. -/
theorem Reachable.authentic {env : Env} {s : System} (hs : Reachable env s) :
    s.world.Authentic env := by
  induction hs with
  | init now => intro id r h; cases h
  | step e hs he ih => exact World.Authentic.apply hs ih he

/-- **Every stored signature came through the signature handlers' checks**, in every
    reachable system: each provisioning or delete signature of a stored reservation is from
    a signer of that list's signing request, whose key the phonebook has, and its hex
    decoded signature verifies against a version of the reservation. No reservation has a
    farmer signature. -/
theorem stored_signatures_accepted {env : Env} {s : System} (hs : Reachable env s) :
    ∀ id r, s.world.store.get id = some r →
      (∀ sig ∈ r.signaturesProvision,
        sig.Accepted env r r.dataReservation.signingRequestProvision) ∧
      (∀ sig ∈ r.signaturesDelete, sig.Accepted env r r.dataReservation.signingRequestDelete) ∧
      r.signaturesFarmer = [] := fun id r hr =>
  let h := hs.authentic id r hr
  ⟨h.provision, h.delete, h.farmer⟩

/-- Reservation 1 after user 1's delete signature. -/
theorem stored_signatures_accepted_signed :
    let s := sampleRun canceledThenDeployedRun
    Reachable Env.accepting s ∧
      ∀ id r, s.world.store.get id = some r →
        (∀ sig ∈ r.signaturesProvision,
          sig.Accepted Env.accepting r r.dataReservation.signingRequestProvision) ∧
        (∀ sig ∈ r.signaturesDelete,
          sig.Accepted Env.accepting r r.dataReservation.signingRequestDelete) ∧
        r.signaturesFarmer = [] := by
  intro s
  have hs : Reachable Env.accepting s := reachable_sampleRun rfl
  exact ⟨hs, stored_signatures_accepted hs⟩

/-- The node a poll handler in flight polls for; `none` for every other handler. -/
def Task.pollNode : Task → Option String
  | .start (.workloads nodeId _) | .pollLastId nodeId _ _ | .pollFind nodeId _ _ _
  | .pollScan nodeId _ _ _ | .cancelEscrow _ (.poll nodeId _ _ _ _)
  | .setDelete _ (.poll nodeId _ _ _ _) => some nodeId
  | _ => none

/-- A handler that has replied with workloads served to node `nodeId`, or has not replied. -/
def Task.Replies (w : World) (nodeId : String) : Task → Prop
  | .done reply => reply.Served w nodeId
  | _ => True

theorem Task.replies_orReply {w : World} {nodeId : String} {α : Type} {x : Except Reply α}
    {k : α → Task} (herr : ∀ reply, x = .error reply → reply.Served w nodeId)
    (hk : ∀ a, x = .ok a → (k a).Replies w nodeId) : (Task.orReply x k).Replies w nodeId := by
  cases x with
  | error reply => exact herr reply rfl
  | ok a => exact hk a rfl

/-- **A step of a poll handler replies only with served workloads**, from what the handler
    has checked, in a world whose queue rows are stored. -/
theorem Task.replies_step {env : Env} {w : World} (ok : Bool) (hq : w.store.RowsStored)
    {t : Task} (h : t.Checked env w) {nodeId : String} (hn : t.pollNode = some nodeId) :
    (t.step env w ok).2.Replies w nodeId := by
  cases t with
  | start req =>
    cases req with
    | workloads n from_ =>
      -- an early reply holds queue rows of the node, or no workload at all
      cases hn
      refine Task.replies_orReply (fun reply hr => ?_) fun _ _ => trivial
      unfold workloads at hr
      dsimp only at hr
      split at hr <;> (try split at hr) <;> (try split at hr) <;> cases hr <;>
        first | trivial | exact served_queued hq nodeId
    | _ => cases hn
  -- a failed store call replies with no workload
  | pollLastId n from_ acc =>
    refine Task.replies_orReply (fun reply hr => ?_) fun _ _ => trivial
    unfold TfExplorer.pollLastId at hr
    split at hr <;> cases hr; trivial
  | pollFind n from_ acc lastId =>
    refine Task.replies_orReply (fun reply hr => ?_) fun _ _ => trivial
    unfold TfExplorer.pollFind at hr
    split at hr <;> cases hr; trivial
  | pollScan n rest acc lastId =>
    -- the end of the cursor replies with the page, and a full page with the rows served
    cases hn
    cases rest with
    | nil => exact h.2
    | cons r rest =>
      simp only [Task.step]
      split
      · trivial
      · exact Task.replies_orReply
          (pollContinue_served ((h.1 r (List.mem_cons_self _ _)).pipeline w.now) h.2).2
          fun _ _ => trivial
  | cancelEscrow id after => trivial
  | setDelete id after =>
    -- after cancelling a reservation, the scan replies as `pollContinue` does
    cases after with
    | poll n r rest acc lastId =>
      cases hn
      cases ok
      · trivial
      · exact Task.replies_orReply (pollContinue_served h.1 h.2.2).2 fun _ _ => trivial
    | _ => cases hn
  | _ => cases hn

/-- **Every workload a poll replies with is served to the node that polls**, over any
    interleaving: in a step of a reachable system where a poll handler of node `nodeId`
    replies with workloads, each of them is addressed to `nodeId` (to any node when
    `nodeId` is empty) and is the row of a workload of the stored reservation it names, on
    one of that workload's nodes, with the workload's type and content. -/
theorem poll_reply_served {env : Env} {s s' : System} (hs : Reachable env s) {i : Nat}
    {ok : Bool} (he : s.apply env (.step i ok) = some s') {t : Task} (ht : s.tasks[i]? = some t)
    {nodeId : String} (hn : t.pollNode = some nodeId) {ws : List Workload} {l : Option Nat}
    (hr : s'.tasks[i]? = some (.done (.workloads ws l))) :
    ∀ x ∈ ws, x.Served s'.world nodeId := by
  obtain ⟨hdone, hw⟩ := System.apply_step_done he ht hr
  have hrep := Task.replies_step ok hs.rowsStored (hs.checked t (List.getElem?_mem ht)) hn
  rw [hdone] at hrep
  rw [hw]
  exact fun x hx => (hrep x hx).mono (Op.keeps _ _)

/-- Reservation 1 in `Pay`, paid through the escrow, and node `n1` polling from 0: four steps
    of the poll handler. -/
def paidPollRun : List Event :=
  [.request (.create (sampleBody .pay)), .step 0 true, .escrowPaid 1,
    .request (.workloads "n1" (some 0)), .step 1 true, .step 1 true, .step 1 true, .step 1 true]

/-- The row of workload `1-0` of reservation 1 on node `n1`. -/
def paidRow : Workload := ⟨⟨1, 0⟩, "1", .container, "", 0, 7200, false, "n1"⟩

/-- The poll's last step replies with the row of workload `1-0` on `n1`. -/
theorem poll_reply_served_paid :
    let s := sampleRun paidPollRun
    let s' := sampleRun (paidPollRun ++ [.step 1 true])
    Reachable Env.accepting s ∧ s.apply Env.accepting (.step 1 true) = some s' ∧
      s.tasks[1]? = some (.pollScan "n1" [] [paidRow] 1) ∧
      Task.pollNode (.pollScan "n1" [] [paidRow] 1) = some "n1" ∧
      s'.tasks[1]? = some (.done (.workloads [paidRow] (some 1))) ∧
      ∀ x ∈ [paidRow], x.Served s'.world "n1" := by
  intro s s'
  have hs : Reachable Env.accepting s := reachable_sampleRun rfl
  have he : s.apply Env.accepting (.step 1 true) = some s' := rfl
  have ht : s.tasks[1]? = some (.pollScan "n1" [] [paidRow] 1) := rfl
  have hr : s'.tasks[1]? = some (.done (.workloads [paidRow] (some 1))) := rfl
  exact ⟨hs, he, ht, rfl, hr, poll_reply_served hs he ht rfl hr⟩

end TfExplorer
