import TfExplorer.System

/-!
# What Handlers in Flight Know

A handler reads the store in one step and acts on what it read in a later one. Between the
two, other handlers and the escrow write. Three facts about those reads survive every
write, because no operation removes a document, changes its id or payload, or drops a
result (`Op.grows`):

- a pending `deletedSet` was preceded by a read in which every workload had a `Deleted` or
  `Error` result, and those results are still in the store;
- a pending `resultDeployed` was preceded by a read in which every workload had an `OK`
  result, and those results are still in the store;
- a pending queue push carries a version of a stored reservation: read in `Delete` when
  `signDelete` pushes, in `Deploy` when `signProvision` pushes.

`Task.Inv` states them per handler state, like a program-counter assertion, and
`System.Inv` holds in every reachable system (`Reachable.inv`).

- §1 reads and `Next` against the store;
- §2 the per-handler assertion;
- §3 one step keeps it (`Task.inv_step`) and writes keep it (`Task.Inv.mono`);
- §4 so does every run, for this and any per-handler assertion with the same two
  properties (`Reachable.forall_tasks`).
-/

namespace TfExplorer

/-! ## §1 Reads -/

/-- `Next` changes `next_action` only, so a reservation and its normalized version are
    versions of each other. -/
theorem pipeline_grows (r : Reservation) (now : Int) : r.Grows (pipeline r now) := by
  rw [pipeline, Pipeline.next_fst]; exact ⟨rfl, rfl, fun _ h => h⟩

theorem grows_of_pipeline (r : Reservation) (now : Int) : (pipeline r now).Grows r := by
  rw [pipeline, Pipeline.next_fst]; exact ⟨rfl, rfl, fun _ h => h⟩

/-- `r` is a version of the stored document of its id, read before some results were added. -/
def Stored (w : World) (r : Reservation) : Prop :=
  ∃ r₀, w.store.get r.id = some r₀ ∧ r.Grows r₀

/-- What a handler read is a version of the stored document. -/
theorem stored_of_read {w : World} {ok : Bool} {id : Nat} {r : Reservation}
    (h : readReservation w ok id = some r) : Stored w r := by
  obtain ⟨r₀, h₀, rfl⟩ := readReservation_eq_some h
  refine ⟨r₀, ?_, grows_of_pipeline r₀ w.now⟩
  rwa [(pipeline_grows r₀ w.now).id, Store.get_eq_some h₀]

/-- The stored document of a read is a later version of what was read. -/
theorem get_of_read {w : World} {ok : Bool} {id : Nat} {r : Reservation}
    (h : readReservation w ok id = some r) :
    ∃ r₀, w.store.get id = some r₀ ∧ r.Grows r₀ := by
  obtain ⟨r₀, h₀, rfl⟩ := readReservation_eq_some h
  exact ⟨r₀, h₀, grows_of_pipeline r₀ w.now⟩

/-! ## §2 The per-handler assertion -/

/-- What `setReservationDeleted`'s continuation relies on: `signDelete` pushes the rows of a
    stored reservation it read in `Delete`. -/
def AfterDelete.Inv (w : World) : AfterDelete → Prop
  | .pushRows r => r.nextAction = .delete ∧ Stored w r
  | _ => True

/-- What a handler in flight relies on of the world. -/
def Task.Inv (w : World) : Task → Prop
  | .workloadPush r check => r.nextAction = (if check then .delete else .deploy) ∧ Stored w r
  | .cancelEscrow _ after => after.Inv w
  | .setDelete _ after => after.Inv w
  | .resultDeployed rid => ∃ r, w.store.get rid = some r ∧ r.isSuccessfullyDeployed
  | .deletedSet id => ∃ r, w.store.get id = some r ∧ r.allDeleted
  | _ => True

/-- Every handler in flight holds its assertion. -/
def System.Inv (s : System) : Prop := ∀ t ∈ s.tasks, t.Inv s.world

/-! ## §3 Preservation -/

section Preservation

variable {w w' : World}

/-- `w'` keeps every document of `w`, as a later version. -/
def World.Keeps (w w' : World) : Prop :=
  ∀ id r, w.store.get id = some r → ∃ r', w'.store.get id = some r' ∧ r.Grows r'

theorem World.Keeps.stored (hk : w.Keeps w') {r : Reservation} (h : Stored w r) :
    Stored w' r := by
  obtain ⟨r₀, h₀, hg⟩ := h
  obtain ⟨r₁, h₁, hg'⟩ := hk _ _ h₀
  exact ⟨r₁, h₁, hg.trans hg'⟩

theorem Op.keeps (o : Op) (w : World) : w.Keeps (o.apply w) :=
  fun _ _ h => o.grows w h

/-- **Writes keep every assertion.** -/
theorem Task.Inv.mono (hk : w.Keeps w') {t : Task} (h : t.Inv w) : t.Inv w' := by
  have hafter : ∀ after : AfterDelete, after.Inv w → after.Inv w' := by
    intro after ha
    cases after with
    | pushRows r => exact ⟨ha.1, hk.stored ha.2⟩
    | _ => trivial
  cases t with
  | workloadPush r check => exact ⟨h.1, hk.stored h.2⟩
  | cancelEscrow _ after => exact hafter after h
  | setDelete _ after => exact hafter after h
  | resultDeployed rid =>
    obtain ⟨r, hr, hd⟩ := h
    obtain ⟨r', hr', hg⟩ := hk _ _ hr
    exact ⟨r', hr', hg.isSuccessfullyDeployed hd⟩
  | deletedSet id =>
    obtain ⟨r, hr, hd⟩ := h
    obtain ⟨r', hr', hg⟩ := hk _ _ hr
    exact ⟨r', hr', hg.allDeleted hd⟩
  | _ => trivial

/-- A handler that returns early holds no assertion; one that goes on holds its
    continuation's. -/
theorem Task.inv_orReply {α : Type} {x : Except Reply α} {k : α → Task}
    (h : ∀ a, x = .ok a → (k a).Inv w) : (Task.orReply x k).Inv w := by
  cases x with
  | error reply => trivial
  | ok a => exact h a rfl

theorem Task.inv_orReply_true {α : Type} (x : Except Reply α) {k : α → Task}
    (h : ∀ a, (k a).Inv w) : (Task.orReply x k).Inv w :=
  Task.inv_orReply fun a _ => h a

/-- **One step of a handler establishes its next assertion** from its current one, in the
    world it read. -/
theorem Task.inv_step (env : Env) (ok : Bool) {t : Task} (h : t.Inv w) :
    (t.step env w ok).2.Inv w := by
  cases t with
  | start req =>
    -- a request's first step goes on to a state with no assertion, or replies
    cases req with
    | create body =>
      simp only [Task.step]
      split
      · trivial
      · cases ok <;> trivial
    | _ => first | trivial | (apply Task.inv_orReply_true; intro; trivial)
  | provisionGet id | deleteGet id =>
    -- the push that follows the read back has the document read, in `Deploy` or `Delete`
    refine Task.inv_orReply fun r hr => ?_
    obtain ⟨hread, hd⟩ := readIf_ok hr
    exact ⟨by simpa using hd, stored_of_read hread⟩
  | setDelete id after =>
    -- `setReservationDeleted` hands its continuation the assertion it was given
    cases ok
    · trivial
    · cases after with
      | pushRows r => exact h
      | created => trivial
      | poll => exact Task.inv_orReply_true _ fun _ => trivial
  | cancelEscrow id after => exact h
  | pushSignature id mode sig => cases ok <;> cases mode <;> trivial
  | pollScan nodeId rest acc lastId =>
    -- the scan goes on, or cancels a reservation whose continuation has no assertion
    cases rest with
    | nil => trivial
    | cons r rest =>
      simp only [Task.step]
      split
      · trivial
      · exact Task.inv_orReply_true _ fun _ => trivial
  | resultPop rid nodeId result =>
    cases ok
    · trivial
    · show (afterPop rid result.state).Inv w
      cases result.state <;> trivial
  | resultGet rid =>
    -- the escrow is told of a deployment the stored reservation has
    refine Task.inv_orReply fun r hr => ?_
    obtain ⟨hread, hd⟩ := readIf_ok hr
    obtain ⟨r₀, h₀, hg⟩ := get_of_read hread
    exact ⟨r₀, h₀, hg.isSuccessfullyDeployed hd⟩
  | deletedGet rid =>
    -- `Deleted` is written for a reservation whose stored version has every workload deleted
    refine Task.inv_orReply fun r hr => ?_
    obtain ⟨hread, hd⟩ := readIf_ok hr
    obtain ⟨r₀, h₀, hg⟩ := stored_of_read hread
    exact ⟨r₀, h₀, hg.allDeleted hd⟩
  | createGet | pollLastId | pollFind => apply Task.inv_orReply_true; intro; trivial
  | _ => cases ok <;> trivial

end Preservation

/-! ## §4 Per-handler assertions over runs -/

section Assertion

variable {env : Env} (I : World → Prop) (P : World → Task → Prop)

/-- **Every event keeps a per-handler assertion** that writes keep, that every step of a
    handler establishes in the world the step writes when the world satisfies `I`, and that
    holds of every request. -/
theorem System.apply_forall_tasks_of
    (hmono : ∀ {w w' : World}, w.Keeps w' → ∀ {t}, P w t → P w' t)
    (hstep : ∀ w ok t, I w → P w t → P ((t.step env w ok).1.apply w) (t.step env w ok).2)
    (hstart : ∀ w req, P w (.start req)) {s s' : System} {e : Event} (hI : I s.world)
    (hs : ∀ t ∈ s.tasks, P s.world t) (he : s.apply env e = some s') :
    ∀ t ∈ s'.tasks, P s'.world t := by
  rcases System.apply_world he with
    ⟨req, rfl, hw⟩ | ⟨i, ok, t, rfl, ht, -, hw, htasks⟩ |
    ⟨id, r, rfl, -, -, hw, htasks⟩ |
    ⟨now, rfl, -, hw, htasks⟩
  · cases he
    intro t ht
    rcases List.mem_append.mp ht with ht | ht
    · exact hs t ht
    · rw [List.mem_singleton.mp ht]; exact hstart _ req
  · intro t' ht'
    rw [hw]
    rw [htasks] at ht'
    rcases List.mem_or_eq_of_mem_set ht' with ht' | rfl
    · exact hmono ((t.step env s.world ok).1.keeps s.world) (hs t' ht')
    · exact hstep _ ok t hI (hs t (List.getElem?_mem ht))
  · intro t ht
    rw [hw]; rw [htasks] at ht
    exact hmono (Op.keeps _ _) (hs t ht)
  · intro t ht
    rw [htasks] at ht
    rw [hw]
    have hk : s.world.Keeps { s.world with now } := fun _ _ h => ⟨_, h, .refl _⟩
    exact hmono hk (hs t ht)

/-- **A per-handler assertion holds of every handler of every reachable system**, when
    writes keep it, steps establish it in every world of a reachable system and requests
    start with it. -/
theorem Reachable.forall_tasks_of (hI : ∀ {s : System}, Reachable env s → I s.world)
    (hmono : ∀ {w w' : World}, w.Keeps w' → ∀ {t}, P w t → P w' t)
    (hstep : ∀ w ok t, I w → P w t → P ((t.step env w ok).1.apply w) (t.step env w ok).2)
    (hstart : ∀ w req, P w (.start req)) {s : System} (hs : Reachable env s) :
    ∀ t ∈ s.tasks, P s.world t := by
  induction hs with
  | init now => exact fun _ h => nomatch h
  | step e hs he ih => exact System.apply_forall_tasks_of I P hmono hstep hstart (hI hs) ih he

/-- `System.apply_forall_tasks_of` for an assertion that every step establishes. -/
theorem System.apply_forall_tasks
    (hmono : ∀ {w w' : World}, w.Keeps w' → ∀ {t}, P w t → P w' t)
    (hstep : ∀ w ok t, P w t → P ((t.step env w ok).1.apply w) (t.step env w ok).2)
    (hstart : ∀ w req, P w (.start req)) {s s' : System} {e : Event}
    (hs : ∀ t ∈ s.tasks, P s.world t) (he : s.apply env e = some s') :
    ∀ t ∈ s'.tasks, P s'.world t :=
  System.apply_forall_tasks_of (fun _ => True) P hmono (fun w ok t _ => hstep w ok t) hstart
    trivial hs he

/-- `Reachable.forall_tasks_of` for an assertion that every step establishes. -/
theorem Reachable.forall_tasks
    (hmono : ∀ {w w' : World}, w.Keeps w' → ∀ {t}, P w t → P w' t)
    (hstep : ∀ w ok t, P w t → P ((t.step env w ok).1.apply w) (t.step env w ok).2)
    (hstart : ∀ w req, P w (.start req)) {s : System} (hs : Reachable env s) :
    ∀ t ∈ s.tasks, P s.world t :=
  Reachable.forall_tasks_of (fun _ => True) P (fun _ => trivial) hmono
    (fun w ok t _ => hstep w ok t) hstart hs

end Assertion

/-- The empty system holds the invariant. -/
theorem System.Inv.init (now : Int) : (System.init now).Inv := fun _ h => nomatch h

/-- **Every event keeps the invariant.** -/
theorem System.Inv.apply {env : Env} {s s' : System} {e : Event} (hs : s.Inv)
    (he : s.apply env e = some s') : s'.Inv :=
  System.apply_forall_tasks (fun w t => t.Inv w) (fun hk _ h => h.mono hk)
    (fun w ok _ h => (Task.inv_step env ok h).mono (Op.keeps _ w))
    (fun _ _ => trivial) hs he

/-- **The invariant holds in every reachable system.** -/
theorem Reachable.inv {env : Env} {s : System} (hs : Reachable env s) : s.Inv := by
  induction hs with
  | init now => exact System.Inv.init now
  | step e _ he ih => exact ih.apply he

end TfExplorer
