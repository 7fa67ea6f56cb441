import TfExplorer.System

/-!
# The Node Poll

`API.workloads` of `pkg/workloads/reservation.go`: the node's queue rows, then a scan of
the reservations on the node from the cursor `from`, each through the pipeline, appending
the node's workloads of those in `Deploy` or `Delete` until the page is full. The reply
carries `x-last-id`, the last reservation id read before the scan.

- §1 the poll run alone: `scanLoop` and `pollReply` compose the poll's phases in the order
  the handler runs them, with every store call succeeding;
- §2 the handler of `System`, taking its steps with no other event between them, replies
  `pollReply` of the world it started in (`poll_runs_alone`);
- §3 the size of a reply;
- §4 which reservations a reply serves.
-/

namespace TfExplorer

/-! ## §1 The poll run alone -/

/-- The scan loop of `API.workloads` over the cursor `found`, at time `now`: each
    reservation through the pipeline, its rows appended when it is in `Deploy` or
    `Delete`, until the page is full or the cursor ends. -/
def scanLoop (now : Int) (nodeId : String) (lastId : Nat) :
    List Reservation → List Workload → Reply
  | [], acc => .workloads acc (some lastId)
  | r :: rest, acc =>
    match pollContinue nodeId (pipeline r now) acc lastId with
    | .error reply => reply
    | .ok acc => scanLoop now nodeId lastId rest acc

/-- `API.workloads` at world `w` when its store calls succeed and nothing else writes
    between them: the queue rows, `ReservationLastID`, the cursor, and the scan. -/
def pollReply (w : World) (nodeId : String) (from_ : Option Int) : Reply :=
  match workloads w true nodeId from_ with
  | .error reply => reply
  | .ok (from_, queued) =>
    scanLoop w.now nodeId w.store.lastId (w.store.find from_ nodeId) queued

/-- What the scan does with one reservation: skip it, append its rows and go on, or append
    them and reply with a page of `maxPageSize` workloads or more. -/
theorem pollContinue_cases (nodeId : String) (r : Reservation) (acc : List Workload)
    (lastId : Nat) :
    (r.isAny [.deploy, .delete] = false ∧ pollContinue nodeId r acc lastId = .ok acc) ∨
    (r.isAny [.deploy, .delete] = true ∧ (acc ++ r.workloads nodeId).length < maxPageSize ∧
      pollContinue nodeId r acc lastId = .ok (acc ++ r.workloads nodeId)) ∨
    (r.isAny [.deploy, .delete] = true ∧ maxPageSize ≤ (acc ++ r.workloads nodeId).length ∧
      pollContinue nodeId r acc lastId =
        .error (.workloads (acc ++ r.workloads nodeId) (some lastId))) := by
  unfold pollContinue
  cases h : r.isAny [.deploy, .delete]
  · exact .inl ⟨rfl, rfl⟩
  · by_cases hlen : maxPageSize ≤ (acc ++ r.workloads nodeId).length
    · exact .inr (.inr ⟨rfl, hlen, by
        simp only [Bool.not_true, Bool.false_eq_true, if_false, ge_iff_le, hlen, if_true]⟩)
    · exact .inr (.inl ⟨rfl, by omega, by
        simp only [Bool.not_true, Bool.false_eq_true, if_false, ge_iff_le, hlen, if_false]⟩)

/-- The queue rows of a poll are at most `maxPageSize`, since `queued` reads at most that
    many; so the early return, a reply with more queue rows than that, is never taken, and a
    poll that stops before the scan replies with an error. -/
theorem workloads_cases {w : World} {nodeId : String} {from_ : Option Int} :
    (∃ from' queued, from_ = some from' ∧ queued.length ≤ maxPageSize ∧
      workloads w true nodeId from_ = .ok (from', queued)) ∨
    ∃ reply, workloads w true nodeId from_ = .error reply ∧ ∀ ws l, reply ≠ .workloads ws l := by
  have hq : (w.store.queued nodeId maxPageSize).length ≤ maxPageSize := List.length_take_le _ _
  unfold workloads
  simp only [Bool.not_true, Bool.false_eq_true, if_false]
  split_ifs with hlen
  · omega
  · cases from_ with
    | none => exact .inr ⟨_, rfl, fun ws l h => by cases h⟩
    | some from' => exact .inl ⟨from', _, rfl, hq, rfl⟩

/-! ## §2 The handler refines the poll run alone -/

section Alone

variable {env : Env} {i : Nat}

/-- Handler `i` of `s`, taking steps with no other event between them and every store call
    succeeding, reaches state `t`, at the same instant. -/
def System.LeadsTo (env : Env) (s : System) (i : Nat) (t : Task) : Prop :=
  ∃ n s', System.run env s (List.replicate n (.step i true)) = some s' ∧
    s'.tasks[i]? = some t ∧ s'.world.now = s.world.now

theorem System.run_append (s : System) (es es' : List Event) :
    System.run env s (es ++ es') = (System.run env s es).bind fun s' => System.run env s' es' := by
  induction es generalizing s with
  | nil => rfl
  | cons e es ih =>
    simp only [List.cons_append, System.run]
    cases s.apply env e with
    | none => rfl
    | some s₁ => exact ih s₁

theorem System.LeadsTo.refl (s : System) {t : Task} (ht : s.tasks[i]? = some t) :
    s.LeadsTo env i t :=
  ⟨0, s, rfl, ht, rfl⟩

/-- One step of a handler that has not replied, then the rest of the way from the system
    that step leaves. -/
theorem System.LeadsTo.cons {s : System} {t t' : Task} (ht : s.tasks[i]? = some t)
    (hd : t.isDone = false)
    (h : ∀ s₁ : System, s₁.world = (t.step env s.world true).1.apply s.world →
      s₁.tasks[i]? = some (t.step env s.world true).2 → s₁.LeadsTo env i t') :
    s.LeadsTo env i t' := by
  have hi : i < s.tasks.length := (List.getElem?_eq_some_iff.mp ht).1
  obtain ⟨n, s', hrun, ht', hnow⟩ :=
    h ⟨(t.step env s.world true).1.apply s.world, s.tasks.set i (t.step env s.world true).2⟩
      rfl (List.getElem?_set_self hi)
  refine ⟨n + 1, s', ?_, ht', hnow.trans (Op.apply_now _ _)⟩
  simp only [List.replicate_succ, System.run, System.apply, ht, hd, Bool.false_eq_true,
    if_false, Option.some_bind, hrun]

/-- A handler that returns early replies what it returns; one that goes on, as `k`,
    replies what `k` leads to. -/
theorem System.LeadsTo.orReply {α : Type} {s : System} {x : Except Reply α} {k : α → Task}
    {reply : Reply} (ht : s.tasks[i]? = some (Task.orReply x k))
    (hk : ∀ a, x = .ok a → s.tasks[i]? = some (k a) → s.LeadsTo env i (.done reply))
    (herr : ∀ r, x = .error r → r = reply) : s.LeadsTo env i (.done reply) := by
  cases x with
  | error r => exact herr r rfl ▸ System.LeadsTo.refl s ht
  | ok a => exact hk a rfl ht

/-- The scan, run alone from any system, replies what `scanLoop` computes. -/
theorem scan_runs_alone (nodeId : String) (lastId : Nat) :
    ∀ (rest : List Reservation) (acc : List Workload) (s : System),
      s.tasks[i]? = some (.pollScan nodeId rest acc lastId) →
      s.LeadsTo env i (.done (scanLoop s.world.now nodeId lastId rest acc)) := by
  intro rest
  induction rest with
  | nil => exact fun acc s ht => System.LeadsTo.cons ht rfl fun s₁ _ ht₁ => .refl s₁ ht₁
  | cons r rest ih =>
    intro acc s ht
    -- Once the reservation is through the pipeline, and for one in `Delete` once the two
    -- writes of `setReservationDeleted` are done, the page goes on as `pollContinue` says.
    have hgo : ∀ s₁ : System, s₁.world.now = s.world.now →
        s₁.tasks[i]? = some (Task.orReply (pollContinue nodeId (pipeline r s.world.now) acc
          lastId) fun acc => .pollScan nodeId rest acc lastId) →
        s₁.LeadsTo env i (.done (scanLoop s.world.now nodeId lastId (r :: rest) acc)) := by
      intro s₁ hnow ht₁
      refine System.LeadsTo.orReply ht₁ (fun acc' hc ht₂ => ?_) fun reply hc => ?_
      · have hloop : scanLoop s.world.now nodeId lastId (r :: rest) acc =
            scanLoop s.world.now nodeId lastId rest acc' := by simp only [scanLoop, hc]
        rw [hloop, ← hnow]
        exact ih acc' s₁ ht₂
      · simp only [scanLoop, hc]
    refine System.LeadsTo.cons ht rfl fun s₁ hw₁ ht₁ => ?_
    have hnow₁ : s₁.world.now = s.world.now := by rw [hw₁, Op.apply_now]
    simp only [Task.step] at ht₁
    split_ifs at ht₁ with hdel
    · refine System.LeadsTo.cons ht₁ rfl fun s₂ hw₂ ht₂ => ?_
      refine System.LeadsTo.cons ht₂ rfl fun s₃ hw₃ ht₃ => ?_
      refine hgo s₃ ?_ ht₃
      rw [hw₃, Op.apply_now, hw₂, Op.apply_now, hnow₁]
    · exact hgo s₁ hnow₁ ht₁

/-- **The poll handler computes the poll run alone.** From any system, a poll that takes its
    steps with no other event between them and every store call succeeding replies
    `pollReply` of the world it started in. -/
theorem poll_runs_alone {s : System} {nodeId : String} {from_ : Option Int}
    (ht : s.tasks[i]? = some (.start (.workloads nodeId from_))) :
    s.LeadsTo env i (.done (pollReply s.world nodeId from_)) := by
  refine System.LeadsTo.cons ht rfl fun s₁ hw₁ ht₁ => ?_
  refine System.LeadsTo.orReply ht₁ (fun q hq ht₂ => ?_) fun reply h => by
    simp only [pollReply, h]
  obtain ⟨from', queued⟩ := q
  -- `ReservationLastID` and the cursor read the world the poll started in.
  have hw₁' : s₁.world = s.world := hw₁
  have ht₂' : s₁.tasks[i]? = some (.pollLastId nodeId from' queued) := ht₂
  refine System.LeadsTo.cons ht₂' rfl fun s₂ hw₂ ht₃ => ?_
  have hw₂' : s₂.world = s.world := hw₂.trans hw₁'
  have ht₃' : s₂.tasks[i]? = some (.pollFind nodeId from' queued s.world.store.lastId) := by
    rw [ht₃, hw₁']; rfl
  refine System.LeadsTo.cons ht₃' rfl fun s₃ hw₃ ht₄ => ?_
  have hw₃' : s₃.world = s.world := hw₃.trans hw₂'
  have ht₄' : s₃.tasks[i]? = some (.pollScan nodeId (s.world.store.find from' nodeId) queued
      s.world.store.lastId) := by
    rw [ht₄, hw₂']; rfl
  have hscan : s₃.LeadsTo env i _ := scan_runs_alone nodeId s.world.store.lastId _ queued s₃ ht₄'
  rw [hw₃'] at hscan
  simpa only [pollReply, hq] using hscan

end Alone

/-! ## §3 The size of a reply -/

/-- Reservation `id` in `Deploy`, with `copies` containers on node `n1`. -/
def deployedOn (id copies : Nat) : Reservation where
  id := id
  customerTid := 1
  customerSignature := ""
  epoch := 0
  nextAction := .deploy
  dataReservation :=
    { expirationReservation := 7200, expirationProvisioning := 1800, currencies := []
      signingRequestProvision := ⟨[], 0⟩, signingRequestDelete := ⟨[], 0⟩
      workloads := (List.range copies).map fun k => ⟨.container, k, ["n1"], ""⟩ }
  signaturesProvision := []
  signaturesDelete := []
  signaturesFarmer := []
  results := []

/-- A scan that starts from at most `maxPageSize` workloads replies with at most
    `maxPageSize` workloads before the rows of the last reservation it appended. -/
theorem scanLoop_size (now : Int) (nodeId : String) (lastId : Nat) :
    ∀ (found : List Reservation) (acc ws : List Workload) (l : Option Nat),
      acc.length ≤ maxPageSize → scanLoop now nodeId lastId found acc = .workloads ws l →
      ∃ pre, pre.length ≤ maxPageSize ∧
        (ws = pre ∨ ∃ r ∈ found, ws = pre ++ (pipeline r now).workloads nodeId) := by
  intro found
  induction found with
  | nil => intro acc ws l hacc h; cases h; exact ⟨acc, hacc, .inl rfl⟩
  | cons r rest ih =>
    intro acc ws l hacc h
    have hrest : ∀ acc', acc'.length ≤ maxPageSize →
        scanLoop now nodeId lastId rest acc' = .workloads ws l →
        ∃ pre, pre.length ≤ maxPageSize ∧
          (ws = pre ∨ ∃ r' ∈ r :: rest, ws = pre ++ (pipeline r' now).workloads nodeId) :=
      fun acc' hacc' h' => (ih acc' ws l hacc' h').imp fun pre ⟨hpre, hws⟩ =>
        ⟨hpre, hws.imp_right fun ⟨r', hr', e⟩ => ⟨r', List.mem_cons_of_mem _ hr', e⟩⟩
    rcases pollContinue_cases nodeId (pipeline r now) acc lastId with
      ⟨-, hc⟩ | ⟨-, hlt, hc⟩ | ⟨-, -, hc⟩ <;> simp only [scanLoop, hc] at h
    · exact hrest acc hacc h
    · exact hrest _ hlt.le h
    · cases h; exact ⟨acc, hacc, .inr ⟨r, List.mem_cons_self _ _, rfl⟩⟩

/-- **How many workloads a poll returns.** For every world, node and cursor, the reply of the
    poll run alone holds at most `maxPageSize` workloads before the node's workloads of the
    last reservation it appended. -/
theorem pollReply_size (w : World) (nodeId : String) (from_ : Option Int)
    {ws : List Workload} {l : Option Nat} (h : pollReply w nodeId from_ = .workloads ws l) :
    ∃ pre, pre.length ≤ maxPageSize ∧
      (ws = pre ∨ ∃ r ∈ w.store.reservations, ws = pre ++ (pipeline r w.now).workloads nodeId) := by
  unfold pollReply at h
  rcases @workloads_cases w nodeId from_ with
    ⟨from', queued, -, hq, hw⟩ | ⟨reply, hw, hreply⟩ <;> rw [hw] at h
  · obtain ⟨pre, hpre, hws⟩ := scanLoop_size _ _ _ _ _ ws l hq h
    exact ⟨pre, hpre, hws.imp_right fun ⟨r, hr, e⟩ => ⟨r, (List.mem_filter.mp hr).1, e⟩⟩
  · exact absurd h (hreply ws l)

/-- A queue row of node `n1`. -/
def queuedRow : Workload := ⟨⟨9, 0⟩, "1", .container, "", 0, 0, false, "n1"⟩

/-- A world at time 0 whose queue holds 199 rows of node `n1`, with reservation 1 in
    `Deploy` with two containers on `n1`. -/
def fullQueueWorld : World := ⟨⟨[deployedOn 1 2], 1, List.replicate 199 queuedRow⟩, [], 0⟩

set_option maxRecDepth 20000 in
/-- The poll of `n1` in `fullQueueWorld`: 199 queue rows, then the two workloads of
    reservation 1, past `maxPageSize`. -/
theorem pollReply_size_fullQueue :
    pollReply fullQueueWorld "n1" (some 0) =
        .workloads (List.replicate 199 queuedRow ++ (deployedOn 1 2).workloads "n1") (some 1) ∧
      ∃ pre, pre.length ≤ maxPageSize ∧
        (List.replicate 199 queuedRow ++ (deployedOn 1 2).workloads "n1" = pre ∨
          ∃ r ∈ fullQueueWorld.store.reservations,
            List.replicate 199 queuedRow ++ (deployedOn 1 2).workloads "n1" =
              pre ++ (pipeline r fullQueueWorld.now).workloads "n1") := by
  have h : pollReply fullQueueWorld "n1" (some 0) =
      .workloads (List.replicate 199 queuedRow ++ (deployedOn 1 2).workloads "n1") (some 1) :=
    rfl
  exact ⟨h, pollReply_size fullQueueWorld "n1" (some 0) h⟩

set_option maxRecDepth 20000 in
/-- With 199 queue rows on `n1`, fewer than `maxPageSize`, the poll of `n1` scans, appends
    both workloads of reservation 1, and replies with 201 workloads. -/
theorem poll_exceeds_page :
    (fullQueueWorld.store.queued "n1" maxPageSize).length < maxPageSize ∧
    (match pollReply fullQueueWorld "n1" (some 0) with
      | .workloads ws l => some (ws.length, l)
      | _ => none) = some (201, some 1) := by
  decide

/-! ## §4 Which reservations a reply serves -/

end TfExplorer
