import TfExplorer.Lifecycle

/-!
# What a Failed `create` Leaves Behind

`API.create` runs in three atomic steps (`Task.step`): every check and
`ReservationCreate`, then the read back of the stored reservation, then escrow
`RegisterReservation`. A reply from its first step writes nothing and calls no escrow. A
reply from a later step comes after `ReservationCreate`, and the document it stored stays
in the store whatever the reply: nothing removes a document.

- §1 what a `create` in flight has stored (`Task.CreateInv`), in every reachable system;
- §2 the replies of `create`, step by step.
-/

namespace TfExplorer

/-! ## §1 What a `create` in flight has stored -/

/-- A `create` handler that has not replied. -/
def Task.isCreate : Task → Bool
  | .start (.create _) | .createGet _ _ | .createRegister _ _ => true
  | _ => false

/-- What a `create` handler past `ReservationCreate` has stored: the document it reads back,
    and once read, a version of that document. -/
def Task.CreateInv (w : World) : Task → Prop
  | .createGet id _ => ∃ r, w.store.get id = some r
  | .createRegister r _ => Stored w r
  | _ => True

theorem Task.CreateInv.mono {w w' : World} (hk : w.Keeps w') {t : Task} (h : t.CreateInv w) :
    t.CreateInv w' := by
  cases t with
  | createGet id _ =>
    obtain ⟨r, hr⟩ := h
    obtain ⟨r', hr', -⟩ := hk _ _ hr
    exact ⟨r', hr'⟩
  | createRegister r _ => exact hk.stored h
  | _ => trivial

theorem Task.createInv_orReply {w : World} {α : Type} (x : Except Reply α) {k : α → Task}
    (h : ∀ a, x = .ok a → (k a).CreateInv w) : (Task.orReply x k).CreateInv w := by
  cases x with
  | error reply => trivial
  | ok a => exact h a rfl

/-- `ReservationCreate` stores a document under the next id. -/
theorem Store.get_reservationCreate_next (s : Store) (r : Reservation) :
    ∃ r', (s.reservationCreate r).get (s.lastId + 1) = some r' := by
  rw [Store.get_reservationCreate, if_pos rfl]
  cases s.get (s.lastId + 1) <;> exact ⟨_, rfl⟩

/-- **One step of a handler establishes its `create` assertion** in the world it writes:
    `ReservationCreate` stores the document the read back looks for, and the read back
    yields a stored document. -/
theorem Task.createInv_step (env : Env) (w : World) (ok : Bool) (t : Task) :
    (t.step env w ok).2.CreateInv ((t.step env w ok).1.apply w) := by
  cases t with
  | start req =>
    cases req with
    | create body =>
      -- the insert stores a document under the id the read back then looks up
      simp only [Task.step]
      split
      · trivial
      · cases ok
        · trivial
        · exact Store.get_reservationCreate_next w.store _
    | _ => first | trivial | exact Task.createInv_orReply _ fun _ _ => trivial
  | createGet id cs =>
    -- the registration that follows has the document the read back found
    refine Task.createInv_orReply _ fun r hr => ⟨r, ?_, .refl r⟩
    show w.store.get r.id = some r
    cases ok
    · cases hr
    · simp only [TfExplorer.createGet, if_true] at hr
      split at hr
      · cases hr
      · rename_i h
        cases hr
        rwa [Store.get_eq_some h]
  -- every other handler goes on to a state other than `createGet` and `createRegister`
  | setDelete id after =>
    cases ok
    · trivial
    · cases after with
      | poll => exact Task.createInv_orReply _ fun _ _ => trivial
      | _ => trivial
  | pushSignature id mode sig => cases ok <;> cases mode <;> trivial
  | pollScan nodeId rest acc lastId =>
    cases rest with
    | nil => trivial
    | cons r rest =>
      simp only [Task.step]
      split
      · trivial
      · exact Task.createInv_orReply _ fun _ _ => trivial
  | resultPop rid nodeId result =>
    cases ok
    · trivial
    · show (afterPop rid result.state).CreateInv _
      cases result.state <;> trivial
  | _ =>
    first
    | trivial
    | (cases ok <;> trivial)
    | exact Task.createInv_orReply _ fun _ _ => trivial

/-- **In every reachable system, every `create` in flight has stored its document.** -/
theorem Reachable.createInv {env : Env} {s : System} (hs : Reachable env s) :
    ∀ t ∈ s.tasks, t.CreateInv s.world :=
  Reachable.forall_tasks (fun w t => t.CreateInv w) (fun hk _ h => h.mono hk)
    (fun w ok t _ => Task.createInv_step env w ok t) (fun _ _ => trivial) hs

/-! ## §2 The replies of `create` -/

/-- A handler step that replies leaves the handler done with that reply, in the world its
    operation writes. -/
theorem System.apply_step_done {env : Env} {s s' : System} {i : Nat} {ok : Bool} {t : Task}
    (he : s.apply env (.step i ok) = some s') (ht : s.tasks[i]? = some t) {reply : Reply}
    (hr : s'.tasks[i]? = some (.done reply)) :
    (t.step env s.world ok).2 = .done reply ∧ s'.world = (t.step env s.world ok).1.apply s.world := by
  rcases System.apply_world he with
    ⟨_, he', -⟩ | ⟨i', ok', t', he', ht', -, hw, htasks⟩ | ⟨_, _, he', -⟩ | ⟨_, he', -⟩ <;>
    cases he'
  cases ht.symm.trans ht'
  have hi : i < s.tasks.length := (List.getElem?_eq_some_iff.mp ht).1
  rw [htasks, List.getElem?_set_self hi] at hr
  exact ⟨Option.some.inj hr, hw⟩

/-- **When `create` replies.** In every reachable system, a step of a `create` handler that
    replies is one of three. Its first step (a check failed, or `ReservationCreate` did)
    writes nothing and calls no escrow. The read back (whose only reply is an error) writes
    nothing, with the document `ReservationCreate` stored still in the store. Escrow
    `RegisterReservation`, whatever it answers, leaves the store as it is, with the
    document read back in it, and logs the call. -/
theorem create_reply_cases {env : Env} {s s' : System} (hs : Reachable env s) {i : Nat}
    {ok : Bool} (he : s.apply env (.step i ok) = some s') {t : Task}
    (ht : s.tasks[i]? = some t) (hc : t.isCreate = true) {reply : Reply}
    (hr : s'.tasks[i]? = some (.done reply)) :
    (∃ body, t = .start (.create body) ∧ s'.world = s.world) ∨
    (∃ id cs, t = .createGet id cs ∧ s'.world = s.world ∧ ∃ r, s.world.store.get id = some r) ∨
    (∃ r cs, t = .createRegister r cs ∧ Stored s.world r ∧ s'.world.store = s.world.store ∧
      s'.world.escrow = s.world.escrow ++ [.registerReservation r.id cs]) := by
  obtain ⟨hdone, hw⟩ := System.apply_step_done he ht hr
  have hinv := hs.createInv t (List.getElem?_mem ht)
  rw [hw]
  cases t with
  | start req =>
    cases req with
    | create body =>
      refine .inl ⟨body, rfl, ?_⟩
      simp only [Task.step] at hdone ⊢
      split at hdone
      · rfl
      · cases ok
        · rfl
        · cases hdone
    | _ => cases hc
  | createGet id cs => exact .inr (.inl ⟨id, cs, rfl, rfl, hinv⟩)
  | createRegister r cs => exact .inr (.inr ⟨r, cs, rfl, hinv, rfl, rfl⟩)
  | _ => cases hc

/-- The read back of `create` fails at its store call in a sample run. -/
theorem create_reply_cases_get :
    let s := sampleRun [.request (.create (sampleBody .sign)), .step 0 true]
    let s' := sampleRun [.request (.create (sampleBody .sign)), .step 0 true, .step 0 false]
    Reachable Env.accepting s ∧ s.apply Env.accepting (.step 0 false) = some s' ∧
    s.tasks[0]? = some (.createGet 1 []) ∧ (Task.createGet 1 []).isCreate = true ∧
    s'.tasks[0]? = some (.done .storeFailed) ∧
    ((∃ body, Task.createGet 1 [] = .start (.create body) ∧ s'.world = s.world) ∨
    (∃ id cs, Task.createGet 1 [] = .createGet id cs ∧ s'.world = s.world ∧
      ∃ r, s.world.store.get id = some r) ∨
    (∃ r cs, Task.createGet 1 [] = .createRegister r cs ∧ Stored s.world r ∧
      s'.world.store = s.world.store ∧
      s'.world.escrow = s.world.escrow ++ [.registerReservation r.id cs])) := by
  intro s s'
  have hs : Reachable Env.accepting s := reachable_sampleRun rfl
  have he : s.apply Env.accepting (.step 0 false) = some s' := rfl
  have ht : s.tasks[0]? = some (.createGet 1 []) := rfl
  have hr : s'.tasks[0]? = some (.done .storeFailed) := rfl
  exact ⟨hs, he, ht, rfl, hr, create_reply_cases hs he ht rfl hr⟩

/-- `create` replies with an error after `ReservationCreate` stored reservation 1: its read
    back fails, and the document stays. -/
theorem create_fails_after_store :
    let s := sampleRun [.request (.create (sampleBody .sign)), .step 0 true, .step 0 false]
    s.tasks[0]? = some (.done .storeFailed) ∧ (s.world.store.get 1).isSome = true :=
  ⟨rfl, rfl⟩

end TfExplorer
