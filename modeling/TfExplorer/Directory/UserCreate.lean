import Mathlib.Data.List.Nodup
import TfExplorer.Directory.UserUpdate

/-!
# `UserCreate`

`client/directory.go`, `UserCreate`: check the name and the public key, look the name up,
draw an id from `models.MustID`, and `InsertOne` the new user. The lookup, the id and the
insert are three store calls, and any number of calls interleave them.

- §1 the request, its checks, and its three store calls;
- §2 the calls in flight and their runs;
- §3 ids: in every run from a store whose ids are distinct and not above the counter,
  `MustID` hands out an id that no stored user and no other call holds
  (`Reachable.user_ids_fresh`), so the `_id` index never refuses a create, and the "user
  exists" error names a stored user the call conflicts with (`userExists_conflict`);
- §4 names: the lookup keeps names distinct when no call looks up while another is between
  its lookup and its insert (`SerialReachable.names_nodup`), and two interleaved calls store
  one name twice when no index forbids it;
- §5 every user a call stores has a name and a key `KeyFromHex` accepts
  (`Reachable.users_checked`).

The unique indexes of the collection other than `_id` are set up outside `src`; they are a
parameter (`index`). `MustID` panics when its counter update fails; the call then ends
without a reply (`mustIdPanic`).
-/

namespace TfExplorer.Directory

/-! ## §1 The handler -/

/-- A `UserCreate` call. -/
structure UserCreateRequest where
  name : String
  email : String
  pubkey : String
  deriving DecidableEq, Repr

/-- How a `UserCreate` call ends without a user: the error it returns, or the panic of
    `MustID`. -/
inductive UserCreateError where
  | invalid (msg : String)
  | userExists
  | store
  | mustIdPanic
  deriving DecidableEq, Repr

/-- `UserFilter.WithName(name)`: no filter at all for the empty name. -/
def nameMatches (name : String) (u : User) : Bool := name == "" || u.name == name

/-- The checks of `UserCreate` and its lookup of the name, given whether the store call
    succeeds: the error returned, or nothing when no user has the name. -/
def userCreateRead (env : KeyEnv) (users : List User) (ok : Bool) (req : UserCreateRequest) :
    Except UserCreateError Unit :=
  if req.name.length = 0 then .error (.invalid "invalid name, can't be empty")
  else
    match env.keyFromHex req.pubkey with
    | .error e => .error (.invalid ("invalid public key " ++ req.pubkey ++ ": " ++ e))
    | .ok () =>
      if ok then
        match users.find? (nameMatches req.name) with
        | some _ => .error .userExists
        | none => .ok ()
      else .error .store

/-- A lookup that lets the call go on: the name is not empty, `KeyFromHex` accepts the key,
    and no stored user has the name. -/
theorem userCreateRead_ok {env : KeyEnv} {users : List User} {ok : Bool}
    {req : UserCreateRequest} (h : userCreateRead env users ok req = .ok ()) :
    req.name ≠ "" ∧ env.keyFromHex req.pubkey = .ok () ∧ ∀ u ∈ users, u.name ≠ req.name := by
  unfold userCreateRead at h
  split at h
  · cases h
  rename_i hname
  have hne : req.name ≠ "" := fun he => hname (he ▸ rfl)
  split at h
  · cases h
  rename_i hkey
  split at h
  · split at h
    · cases h
    · rename_i hfind
      refine ⟨hne, hkey, fun u hu hun => ?_⟩
      have := List.find?_eq_none.mp hfind u hu
      simp [nameMatches, hne, hun] at this
  · cases h

/-- The lookup answers that the user exists only for a stored user with the name. -/
theorem userCreateRead_userExists {env : KeyEnv} {users : List User} {ok : Bool}
    {req : UserCreateRequest} (h : userCreateRead env users ok req = .error .userExists) :
    ∃ u ∈ users, u.name = req.name := by
  unfold userCreateRead at h
  split at h
  · cases h
  rename_i hname
  split at h
  · cases h
  split at h
  · split at h
    · rename_i u hfind
      have hne : req.name ≠ "" := fun he => hname (he ▸ rfl)
      have hm := List.find?_some hfind
      simp only [nameMatches, Bool.or_eq_true, beq_iff_eq, hne, false_or] at hm
      exact ⟨u, List.mem_of_find?_eq_some hfind, hm⟩
    · cases h
  · cases h

/-- The user collection and the counter `MustID` draws the collection's ids from. -/
structure UserDb where
  users : List User
  lastId : Nat
  deriving DecidableEq, Repr

/-- Modelled from the spec: `models.MustID`, which is not in `src`, takes the next id from
    the collection's "auto-increment counter persisted atomically" (§4.1), one of the
    "counters for monotonic IDs (one per collection needing them)" (§6): the counter goes up
    by one, and its new value is the id. -/
def UserDb.mustId (db : UserDb) : UserDb × Nat :=
  ({ db with lastId := db.lastId + 1 }, db.lastId + 1)

@[simp] theorem UserDb.mustId_eq (db : UserDb) :
    db.mustId = ({ db with lastId := db.lastId + 1 }, db.lastId + 1) := rfl

/-- The user `UserCreate` inserts, with the id `MustID` gave it. -/
def UserCreateRequest.user (req : UserCreateRequest) (id : Nat) : User :=
  ⟨id, req.name, req.email, "", "", req.pubkey⟩

/-- `InsertOne` into a collection whose unique indexes are `_id` and `index`: a write error
    with code 11000 (`none`) when a stored user has the id or conflicts under `index`. -/
def insertUser (index : User → User → Bool) (users : List User) (user : User) :
    Option (List User) :=
  if users.any (fun u => u.id == user.id || index user u) then none else some (users ++ [user])

theorem insertUser_eq_some {index : User → User → Bool} {users users' : List User} {user : User}
    (h : insertUser index users user = some users') :
    users' = users ++ [user] ∧ ∀ u ∈ users, u.id ≠ user.id ∧ index user u = false := by
  unfold insertUser at h
  split at h
  · cases h
  · rename_i hany
    cases h
    refine ⟨rfl, fun u hu => ?_⟩
    simpa using List.any_eq_false.mp (Bool.eq_false_iff.mpr hany) u hu

theorem insertUser_eq_none {index : User → User → Bool} {users : List User} {user : User}
    (h : insertUser index users user = none) :
    ∃ u ∈ users, u.id = user.id ∨ index user u = true := by
  unfold insertUser at h
  split at h
  · rename_i hany
    simpa using hany
  · cases h

/-- Where a `UserCreate` call is. -/
inductive CreateTask where
  | start (req : UserCreateRequest)
  | mustId (req : UserCreateRequest)
  | insert (user : User)
  | done (result : Except UserCreateError User)

section Create

variable (env : KeyEnv) (index : User → User → Bool)

/-- One atomic step of a `UserCreate` call on `db`; `ok` is whether its store call
    succeeds. -/
def CreateTask.step (db : UserDb) (ok : Bool) : CreateTask → UserDb × CreateTask
  | .start req =>
    (db, match userCreateRead env db.users ok req with
      | .ok () => .mustId req
      | .error e => .done (.error e))
  | .mustId req =>
    if ok then (db.mustId.1, .insert (req.user db.mustId.2))
    else (db, .done (.error .mustIdPanic))
  | .insert user =>
    if ok then
      match insertUser index db.users user with
      | some users => ({ db with users }, .done (.ok user))
      | none => (db, .done (.error .userExists))
    else (db, .done (.error .store))
  | .done result => (db, .done result)

/-! ## §2 Runs -/

/-- The store and the `UserCreate` calls in flight. -/
structure CreateSys where
  db : UserDb
  tasks : List CreateTask

/-- The system after an event, when the event can happen. -/
def CreateSys.apply (s : CreateSys) : Event UserCreateRequest → Option CreateSys
  | .request req => some ⟨s.db, s.tasks ++ [.start req]⟩
  | .step i ok =>
    s.tasks[i]?.map fun t =>
      ⟨(t.step env index s.db ok).1, s.tasks.set i (t.step env index s.db ok).2⟩

/-- A run: the events in order. -/
def CreateSys.run : CreateSys → List (Event UserCreateRequest) → Option CreateSys
  | s, [] => some s
  | s, e :: es => (s.apply env index e).bind fun s' => CreateSys.run s' es

/-- The systems some run from store `db₀` with no call in flight reaches. -/
inductive CreateSys.Reachable (db₀ : UserDb) : CreateSys → Prop where
  | init : CreateSys.Reachable db₀ ⟨db₀, []⟩
  | step {s s' : CreateSys} (e : Event UserCreateRequest) : CreateSys.Reachable db₀ s →
      s.apply env index e = some s' → CreateSys.Reachable db₀ s'

/-- A step of call `i` that can happen is the step of the call there. -/
theorem CreateSys.apply_step_inv {s s' : CreateSys} {i : Nat} {ok : Bool}
    (he : s.apply env index (.step i ok) = some s') :
    ∃ t, s.tasks[i]? = some t ∧
      s' = ⟨(t.step env index s.db ok).1, s.tasks.set i (t.step env index s.db ok).2⟩ := by
  obtain ⟨t, ht, rfl⟩ := Option.map_eq_some'.mp he
  exact ⟨t, ht, rfl⟩

/-- A run that goes through from a reachable system reaches its system. -/
theorem CreateSys.reachable_run {db₀ : UserDb} {s₁ s : CreateSys}
    (h₁ : CreateSys.Reachable env index db₀ s₁) {es : List (Event UserCreateRequest)}
    (hrun : CreateSys.run env index s₁ es = some s) : CreateSys.Reachable env index db₀ s := by
  induction es generalizing s₁ with
  | nil => cases hrun; exact h₁
  | cons e es ih =>
    obtain ⟨s₂, h₂, hrun⟩ := Option.bind_eq_some.mp hrun
    exact ih (.step e h₁ h₂) hrun

/-! ## §3 Ids -/

/-- The id a call holds: the one `MustID` gave it, until its insert. -/
def CreateTask.heldId : CreateTask → Option Nat
  | .insert user => some user.id
  | _ => none

@[simp] theorem CreateTask.heldId_insert (user : User) :
    (CreateTask.insert user).heldId = some user.id := rfl

@[simp] theorem CreateTask.heldId_done (result : Except UserCreateError User) :
    (CreateTask.done result).heldId = none := rfl

/-- **What one step does to the ids**: it writes no user and holds no id after it; or it
    draws the next id from the counter, holding none before; or it stores the user whose id
    it held, under the collection's indexes. -/
theorem CreateTask.step_ids (db : UserDb) (ok : Bool) (t : CreateTask) :
    ((t.step env index db ok).1 = db ∧ (t.step env index db ok).2.heldId = none) ∨
    (t.heldId = none ∧ (t.step env index db ok).1 = { db with lastId := db.lastId + 1 } ∧
      (t.step env index db ok).2.heldId = some (db.lastId + 1)) ∨
    (∃ user, t.heldId = some user.id ∧
      insertUser index db.users user = some (db.users ++ [user]) ∧
      (t.step env index db ok).1 = { db with users := db.users ++ [user] } ∧
      (t.step env index db ok).2.heldId = none) := by
  cases t with
  | start req =>
    refine .inl ⟨rfl, ?_⟩
    simp only [CreateTask.step]
    split <;> rfl
  | mustId req =>
    cases ok
    · exact .inl ⟨rfl, rfl⟩
    · exact .inr (.inl ⟨rfl, rfl, rfl⟩)
  | insert user =>
    cases ok
    · exact .inl ⟨rfl, rfl⟩
    · simp only [CreateTask.step, if_true]
      cases hins : insertUser index db.users user with
      | none => exact .inl ⟨rfl, rfl⟩
      | some users =>
        obtain ⟨rfl, -⟩ := insertUser_eq_some hins
        exact .inr (.inr ⟨user, rfl, hins, rfl, rfl⟩)
  | done result => exact .inl ⟨rfl, rfl⟩

/-- How many stored users and calls in flight hold id `n`. -/
def CreateSys.holders (s : CreateSys) (n : Nat) : Nat :=
  s.db.users.countP (·.id == n) + s.tasks.countP (·.heldId == some n)

/-- Every id is held at most once, and none above the counter. -/
def CreateSys.IdsFresh (s : CreateSys) : Prop :=
  ∀ n, s.holders n ≤ 1 ∧ (s.db.lastId < n → s.holders n = 0)

/-- **Every event keeps ids fresh.** -/
theorem CreateSys.IdsFresh.apply {s s' : CreateSys} {e : Event UserCreateRequest}
    (h : s.IdsFresh) (he : s.apply env index e = some s') : s'.IdsFresh := by
  cases e with
  | request req =>
    cases he
    intro n
    simpa [CreateSys.holders, List.countP_append, CreateTask.heldId] using h n
  | step i ok =>
    obtain ⟨t, ht, rfl⟩ := CreateSys.apply_step_inv env index he
    obtain ⟨hi, hget⟩ := List.getElem?_eq_some_iff.mp ht
    intro n
    have hle := List.boole_getElem_le_countP (·.heldId == some n) s.tasks i hi
    obtain ⟨h1, h2⟩ := h n
    simp only [CreateSys.holders, List.countP_set _ _ _ _ hi, hget] at h1 h2 hle ⊢
    generalize s.tasks.countP (·.heldId == some n) = T at h1 h2 hle ⊢
    rcases CreateTask.step_ids env index s.db ok t with
      ⟨hdb, ht'⟩ | ⟨ht0, hdb, ht'⟩ | ⟨user, ht0, -, hdb, ht'⟩
    · -- nothing written: `t` drops the id it held, or held none
      simp only [hdb, ht', beq_iff_eq, reduceCtorEq, if_false, Nat.add_zero] at hle ⊢
      split_ifs at hle ⊢ <;> omega
    · -- `MustID`: `t` holds the next id, which nothing held
      simp only [hdb, ht0, ht', beq_iff_eq, reduceCtorEq, if_false, Option.some.injEq,
        Nat.sub_zero] at hle h2 ⊢
      split_ifs at hle ⊢ with hn <;> omega
    · -- the insert: the id moves from `t` to the stored user
      simp only [hdb, ht0, ht', beq_iff_eq, reduceCtorEq, if_false, Option.some.injEq,
        Nat.add_zero, List.countP_append, List.countP_singleton] at hle ⊢
      split_ifs at hle ⊢ <;> omega

/-- A store whose ids are distinct and not above its counter starts with fresh ids. -/
theorem idsFresh_init {db₀ : UserDb} (hnodup : (db₀.users.map (·.id)).Nodup)
    (hle : ∀ u ∈ db₀.users, u.id ≤ db₀.lastId) : CreateSys.IdsFresh ⟨db₀, []⟩ := by
  intro n
  have hcount : db₀.users.countP (·.id == n) = (db₀.users.map (·.id)).count n := by
    rw [List.count, List.countP_map]; rfl
  refine ⟨?_, fun hn => ?_⟩
  · simpa [CreateSys.holders, hcount] using List.nodup_iff_count_le_one.mp hnodup n
  · simp only [CreateSys.holders, List.countP_nil, Nat.add_zero, List.countP_eq_zero,
      beq_iff_eq] at hn ⊢
    intro u hu hun
    have := hle u hu
    omega

/-- Every reachable system has fresh ids. -/
theorem CreateSys.Reachable.idsFresh {db₀ : UserDb} (hnodup : (db₀.users.map (·.id)).Nodup)
    (hle : ∀ u ∈ db₀.users, u.id ≤ db₀.lastId) {s : CreateSys}
    (hs : CreateSys.Reachable env index db₀ s) : s.IdsFresh := by
  induction hs with
  | init => exact idsFresh_init hnodup hle
  | step e _ he ih => exact ih.apply env index he

/-- With fresh ids, a call about to insert holds an id no stored user has. -/
theorem CreateSys.IdsFresh.not_stored {s : CreateSys} (h : s.IdsFresh) {user : User}
    (ht : CreateTask.insert user ∈ s.tasks) : ∀ u ∈ s.db.users, u.id ≠ user.id := by
  intro u hu hid
  have hstored : 0 < s.db.users.countP (·.id == user.id) :=
    List.countP_pos_iff.mpr ⟨u, hu, by simp [hid]⟩
  have hheld : 0 < s.tasks.countP (·.heldId == some user.id) :=
    List.countP_pos_iff.mpr ⟨_, ht, by simp [CreateTask.heldId]⟩
  have := (h user.id).1
  simp only [CreateSys.holders] at this
  omega

/-- With fresh ids, two calls about to insert hold different ids. -/
theorem CreateSys.IdsFresh.distinct {s : CreateSys} (h : s.IdsFresh) {j k : Nat} (hjk : j ≠ k)
    {u v : User} (hj : s.tasks[j]? = some (.insert u)) (hk : s.tasks[k]? = some (.insert v)) :
    u.id ≠ v.id := by
  intro huv
  obtain ⟨hjl, hj⟩ := List.getElem?_eq_some_iff.mp hj
  -- clearing call `j` still leaves call `k` holding the id
  have hclear := List.countP_set (·.heldId == some v.id) s.tasks j (.done (.error .store)) hjl
  have hk' : (s.tasks.set j (.done (.error .store)))[k]? = some (.insert v) := by
    rw [List.getElem?_set_ne hjk, hk]
  have hleft : 0 < (s.tasks.set j (.done (.error .store))).countP (·.heldId == some v.id) :=
    List.countP_pos_iff.mpr ⟨_, List.getElem?_mem hk', by simp [CreateTask.heldId]⟩
  have hle := (h v.id).1
  simp only [hj, CreateTask.heldId_insert, CreateTask.heldId_done, huv, beq_self_eq_true,
    if_true, reduceCtorEq, beq_iff_eq, if_false, Nat.add_zero] at hclear
  simp only [CreateSys.holders] at hle
  omega

/-- **`MustID` hands out fresh ids.** In every run from a store whose ids are distinct and
    not above the counter, over any interleaving of `UserCreate` calls, the stored ids stay
    distinct, the id a call is about to insert is held by no stored user and by no other
    call: the `_id` index never refuses a create. -/
theorem CreateSys.Reachable.user_ids_fresh {db₀ : UserDb}
    (hnodup : (db₀.users.map (·.id)).Nodup) (hle : ∀ u ∈ db₀.users, u.id ≤ db₀.lastId)
    {s : CreateSys} (hs : CreateSys.Reachable env index db₀ s) :
    (s.db.users.map (·.id)).Nodup ∧
      (∀ user, CreateTask.insert user ∈ s.tasks → ∀ u ∈ s.db.users, u.id ≠ user.id) ∧
      ∀ (j k : Nat) (u v : User), j ≠ k → s.tasks[j]? = some (.insert u) →
        s.tasks[k]? = some (.insert v) → u.id ≠ v.id := by
  have h := hs.idsFresh env index hnodup hle
  refine ⟨List.nodup_iff_count_le_one.mpr fun n => ?_, fun user ht => h.not_stored ht,
    fun j k u v hjk hj hk => h.distinct hjk hj hk⟩
  have := (h n).1
  simp only [CreateSys.holders, List.count, List.countP_map] at this ⊢
  exact le_trans (Nat.le_add_right _ _) this

/-- Alice holds id 1; bob's call has looked his name up and drawn id 2. -/
def bobRequest : UserCreateRequest := ⟨"bob", "bob@x", "k2"⟩

/-- No index but `_id`. -/
def noIndex : User → User → Bool := fun _ _ => false

/-- Bob's call about to insert, after alice. -/
theorem user_ids_fresh_bob :
    let db₀ : UserDb := ⟨[alice], 1⟩
    let s : CreateSys := ⟨⟨[alice], 2⟩, [.insert (bobRequest.user 2)]⟩
    (db₀.users.map (·.id)).Nodup ∧ (∀ u ∈ db₀.users, u.id ≤ db₀.lastId) ∧
    CreateSys.Reachable namedKeys noIndex db₀ s ∧
    ((s.db.users.map (·.id)).Nodup ∧
      (∀ user, CreateTask.insert user ∈ s.tasks → ∀ u ∈ s.db.users, u.id ≠ user.id) ∧
      ∀ (j k : Nat) (u v : User), j ≠ k → s.tasks[j]? = some (.insert u) →
        s.tasks[k]? = some (.insert v) → u.id ≠ v.id) := by
  intro db₀ s
  have h₀ : (db₀.users.map (·.id)).Nodup := by decide
  have hle : ∀ u ∈ db₀.users, u.id ≤ db₀.lastId := by decide
  have hs : CreateSys.Reachable namedKeys noIndex db₀ s :=
    CreateSys.reachable_run namedKeys noIndex .init (show CreateSys.run namedKeys noIndex
      ⟨db₀, []⟩ [.request bobRequest, .step 0 true, .step 0 true] = some s from rfl)
  exact ⟨h₀, hle, hs, CreateSys.Reachable.user_ids_fresh namedKeys noIndex h₀ hle hs⟩

/-- A call that has replied. -/
def CreateTask.replied : CreateTask → Bool
  | .done _ => true
  | _ => false

/-- **"User exists" names a real conflict.** In every run from a store whose ids are
    distinct and not above the counter, a step at which a `UserCreate` call replies that the
    user exists is its lookup, which found a stored user with the call's name, or its
    insert, refused for a stored user by an index other than `_id`. -/
theorem userExists_conflict {db₀ : UserDb} (hnodup : (db₀.users.map (·.id)).Nodup)
    (hle : ∀ u ∈ db₀.users, u.id ≤ db₀.lastId) {s s' : CreateSys}
    (hs : CreateSys.Reachable env index db₀ s) {i : Nat} {ok : Bool}
    (he : s.apply env index (.step i ok) = some s') {t : CreateTask}
    (ht : s.tasks[i]? = some t) (hp : t.replied = false)
    (hr : s'.tasks[i]? = some (.done (.error .userExists))) :
    ∃ u ∈ s.db.users, (∃ req, t = .start req ∧ u.name = req.name) ∨
      (∃ user, t = .insert user ∧ index user u = true) := by
  have hi := (List.getElem?_eq_some_iff.mp ht).1
  obtain ⟨t', ht', rfl⟩ := CreateSys.apply_step_inv env index he
  cases ht.symm.trans ht'
  simp only [List.getElem?_set_self hi, Option.some.injEq] at hr
  cases t with
  | start req =>
    simp only [CreateTask.step] at hr
    split at hr
    · cases hr
    · rename_i herr
      cases hr
      obtain ⟨u, hu, hname⟩ := userCreateRead_userExists herr
      exact ⟨u, hu, .inl ⟨req, rfl, hname⟩⟩
  | mustId req => cases ok <;> simp [CreateTask.step] at hr
  | insert user =>
    cases ok
    · simp [CreateTask.step] at hr
    · simp only [CreateTask.step, if_true] at hr
      split at hr
      · cases hr
      · rename_i hins
        obtain ⟨u, hu, hconf⟩ := insertUser_eq_none hins
        have hfresh := (hs.idsFresh env index hnodup hle).not_stored (List.getElem?_mem ht)
        exact ⟨u, hu, .inr ⟨user, rfl, hconf.resolve_left (hfresh u hu)⟩⟩
  | done result => cases hp

/-- A second call for the name alice has. -/
def aliceAgain : UserCreateRequest := ⟨"alice", "alice@y", "k3"⟩

/-- The lookup of a second call for alice. -/
theorem userExists_conflict_alice :
    let db₀ : UserDb := ⟨[alice], 1⟩
    let s : CreateSys := ⟨db₀, [.start aliceAgain]⟩
    let s' : CreateSys := ⟨db₀, [.done (.error .userExists)]⟩
    (db₀.users.map (·.id)).Nodup ∧ (∀ u ∈ db₀.users, u.id ≤ db₀.lastId) ∧
    CreateSys.Reachable namedKeys noIndex db₀ s ∧
    s.apply namedKeys noIndex (.step 0 true) = some s' ∧
    s.tasks[0]? = some (.start aliceAgain) ∧ (CreateTask.start aliceAgain).replied = false ∧
    s'.tasks[0]? = some (.done (.error .userExists)) ∧
    ∃ u ∈ s.db.users, (∃ req, CreateTask.start aliceAgain = .start req ∧ u.name = req.name) ∨
      (∃ user, CreateTask.start aliceAgain = .insert user ∧ noIndex user u = true) := by
  intro db₀ s s'
  have h₀ : (db₀.users.map (·.id)).Nodup := by decide
  have hle : ∀ u ∈ db₀.users, u.id ≤ db₀.lastId := by decide
  have hs : CreateSys.Reachable namedKeys noIndex db₀ s :=
    CreateSys.reachable_run namedKeys noIndex .init
      (show CreateSys.run namedKeys noIndex ⟨db₀, []⟩ [.request aliceAgain] = some s from rfl)
  have he : s.apply namedKeys noIndex (.step 0 true) = some s' := rfl
  exact ⟨h₀, hle, hs, he, rfl, rfl, rfl,
    userExists_conflict namedKeys noIndex h₀ hle hs he rfl rfl rfl⟩

/-! ## §4 Names -/

/-- The name a call holds between its lookup and its insert. -/
def CreateTask.pendingName : CreateTask → Option String
  | .mustId req => some req.name
  | .insert user => some user.name
  | _ => none

/-- **What one step does to the names**: it writes no user, and a name it holds after the
    step it held before or no stored user has; or it inserts the user whose name it held,
    which the collection's indexes let through. -/
theorem CreateTask.step_names (db : UserDb) (ok : Bool) (t : CreateTask) :
    ((t.step env index db ok).1.users = db.users ∧
      ∀ n, (t.step env index db ok).2.pendingName = some n →
        t.pendingName = some n ∨ ∀ u ∈ db.users, u.name ≠ n) ∨
    (∃ user, t.pendingName = some user.name ∧
      insertUser index db.users user = some (db.users ++ [user]) ∧
      (t.step env index db ok).1.users = db.users ++ [user] ∧
      (t.step env index db ok).2.pendingName = none) := by
  cases t with
  | start req =>
    refine .inl ⟨rfl, fun n hn => .inr ?_⟩
    simp only [CreateTask.step] at hn
    split at hn
    · rename_i hread
      cases hn
      exact (userCreateRead_ok hread).2.2
    · cases hn
  | mustId req =>
    refine .inl ⟨by cases ok <;> rfl, fun n hn => .inl ?_⟩
    cases ok
    · cases hn
    · exact hn
  | insert user =>
    cases ok
    · exact .inl ⟨rfl, fun n hn => by cases hn⟩
    · simp only [CreateTask.step, if_true]
      cases hins : insertUser index db.users user with
      | none => exact .inl ⟨rfl, fun n hn => by cases hn⟩
      | some users =>
        obtain ⟨rfl, -⟩ := insertUser_eq_some hins
        exact .inr ⟨user, rfl, hins, rfl, rfl⟩
  | done result => exact .inl ⟨rfl, fun n hn => by cases hn⟩

/-- Appending a user whose name no stored user has keeps the names distinct. -/
theorem nodup_names_append {users : List User} {user : User}
    (h : (users.map (·.name)).Nodup) (hnew : ∀ u ∈ users, u.name ≠ user.name) :
    ((users ++ [user]).map (·.name)).Nodup := by
  rw [List.map_append, List.nodup_append]
  refine ⟨h, List.nodup_singleton _, ?_⟩
  simpa [List.disjoint_singleton] using hnew

/-- Whether an event finds no call but the stepping one between its lookup and its
    insert. -/
def CreateSys.serial (s : CreateSys) : Event UserCreateRequest → Bool
  | .request _ => true
  | .step i _ => (List.range s.tasks.length).all fun j =>
    j == i || (s.tasks[j]?.bind CreateTask.pendingName).isNone

theorem CreateSys.serial_step {s : CreateSys} {i : Nat} {ok : Bool}
    (h : s.serial (.step i ok) = true) {j : Nat} (hj : j ≠ i) {t : CreateTask}
    (ht : s.tasks[j]? = some t) : t.pendingName = none := by
  have := List.all_eq_true.mp h j (List.mem_range.mpr (List.getElem?_eq_some_iff.mp ht).1)
  simpa [hj, ht] using this

/-- The systems reached by runs in which no call looks its name up, draws an id or inserts
    while another is between its lookup and its insert: the calls run one after the other,
    while requests arrive at any time. -/
inductive CreateSys.SerialReachable (db₀ : UserDb) : CreateSys → Prop where
  | init : CreateSys.SerialReachable db₀ ⟨db₀, []⟩
  | step {s s' : CreateSys} (e : Event UserCreateRequest) : CreateSys.SerialReachable db₀ s →
      s.serial e = true → s.apply env index e = some s' → CreateSys.SerialReachable db₀ s'

/-- A run whose every event is serial, or `none`. -/
def CreateSys.serialRun : CreateSys → List (Event UserCreateRequest) → Option CreateSys
  | s, [] => some s
  | s, e :: es =>
    if s.serial e then (s.apply env index e).bind fun s' => CreateSys.serialRun s' es else none

/-- What a serial run keeps: distinct names, and no stored user with the name of a call
    between its lookup and its insert. -/
def CreateSys.NamesFresh (s : CreateSys) : Prop :=
  (s.db.users.map (·.name)).Nodup ∧
    ∀ t ∈ s.tasks, ∀ n, t.pendingName = some n → ∀ u ∈ s.db.users, u.name ≠ n

/-- **Every serial event keeps names fresh.** -/
theorem CreateSys.NamesFresh.apply {s s' : CreateSys} {e : Event UserCreateRequest}
    (h : s.NamesFresh) (hser : s.serial e = true) (he : s.apply env index e = some s') :
    s'.NamesFresh := by
  cases e with
  | request req =>
    cases he
    refine ⟨h.1, fun t ht => ?_⟩
    rcases List.mem_append.mp ht with ht | ht
    · exact h.2 t ht
    · rw [List.mem_singleton.mp ht]; intro n hn; cases hn
  | step i ok =>
    obtain ⟨t, ht, rfl⟩ := CreateSys.apply_step_inv env index he
    have hpend := h.2 t (List.getElem?_mem ht)
    -- a call in flight after the step is the stepping one, or another one, left as it was
    have hcases : ∀ t'' ∈ s.tasks.set i (t.step env index s.db ok).2,
        t'' = (t.step env index s.db ok).2 ∨ ∃ k, k ≠ i ∧ s.tasks[k]? = some t'' := by
      intro t'' hmem
      obtain ⟨k, hk⟩ := List.mem_iff_getElem?.mp hmem
      rw [List.getElem?_set] at hk
      split_ifs at hk with hik
      · exact .inl (Option.some.inj hk).symm
      · exact .inr ⟨k, Ne.symm hik, hk⟩
    rcases CreateTask.step_names env index s.db ok t with
      ⟨hdb, hnames⟩ | ⟨user, hname, -, hdb, hnone⟩
    · refine ⟨by rw [hdb]; exact h.1, fun t'' hmem n hn => ?_⟩
      rw [hdb]
      rcases hcases t'' hmem with rfl | ⟨k, -, hk⟩
      · exact (hnames n hn).elim (hpend n) id
      · exact h.2 t'' (List.getElem?_mem hk) n hn
    · refine ⟨by rw [hdb]; exact nodup_names_append h.1 (hpend _ hname),
        fun t'' hmem n hn => ?_⟩
      rcases hcases t'' hmem with rfl | ⟨k, hki, hk⟩
      · rw [hnone] at hn; cases hn
      · rw [CreateSys.serial_step hser hki hk] at hn; cases hn

/-- Two calls for bob that both look the name up before either inserts. -/
def bobTwice : List (Event UserCreateRequest) :=
  [.request bobRequest, .request bobRequest, .step 0 true, .step 1 true, .step 0 true,
    .step 1 true, .step 0 true, .step 1 true]

/-- **Interleaved calls store one name twice.** With no index on the name, both calls for bob
    find no bob at their lookup, and both insert; the run is not serial. -/
theorem names_repeat_interleaved :
    (CreateSys.run namedKeys noIndex ⟨⟨[alice], 1⟩, []⟩ bobTwice).map
      (fun s => s.db.users.map (·.name)) = some ["alice", "bob", "bob"] ∧
    (CreateSys.serialRun namedKeys noIndex ⟨⟨[alice], 1⟩, []⟩ bobTwice).isNone = true := by
  decide

/-! ## §5 What a create stores -/

/-- What the checks of `UserCreate` establish of a user: a name, and a public key that
    `KeyFromHex` accepts. -/
def User.Checked (env : KeyEnv) (u : User) : Prop :=
  u.name ≠ "" ∧ env.keyFromHex u.pubkey = .ok ()

/-- What a call past its checks carries: the checked name and key. -/
def CreateTask.Checked (env : KeyEnv) : CreateTask → Prop
  | .mustId req => req.name ≠ "" ∧ env.keyFromHex req.pubkey = .ok ()
  | .insert user => user.Checked env
  | _ => True

/-- **What one step does to what is checked**: a call goes on checked, and a user it stores
    is checked. -/
theorem CreateTask.checked_step (db : UserDb) (ok : Bool) {t : CreateTask}
    (ht : t.Checked env) :
    (t.step env index db ok).2.Checked env ∧
      ∀ u ∈ (t.step env index db ok).1.users, u ∈ db.users ∨ u.Checked env := by
  cases t with
  | start req =>
    refine ⟨?_, fun u hu => .inl hu⟩
    simp only [CreateTask.step]
    split
    · exact ⟨(userCreateRead_ok ‹_›).1, (userCreateRead_ok ‹_›).2.1⟩
    · trivial
  | mustId req =>
    cases ok
    · exact ⟨trivial, fun u hu => .inl hu⟩
    · exact ⟨ht, fun u hu => .inl hu⟩
  | insert user =>
    cases ok
    · exact ⟨trivial, fun u hu => .inl hu⟩
    · simp only [CreateTask.step, if_true]
      cases hins : insertUser index db.users user with
      | none => exact ⟨trivial, fun u hu => .inl hu⟩
      | some users =>
        obtain ⟨rfl, -⟩ := insertUser_eq_some hins
        refine ⟨trivial, fun u hu => ?_⟩
        rcases List.mem_append.mp hu with hu | hu
        · exact .inl hu
        · exact .inr (List.mem_singleton.mp hu ▸ ht)
  | done result => exact ⟨trivial, fun u hu => .inl hu⟩

/-- What every run keeps: a stored user was in the store at the start or is checked, and
    every call past its checks carries them. -/
def CreateSys.Checked (db₀ : UserDb) (s : CreateSys) : Prop :=
  (∀ u ∈ s.db.users, u ∈ db₀.users ∨ u.Checked env) ∧ ∀ t ∈ s.tasks, t.Checked env

/-- **Every event keeps users checked.** -/
theorem CreateSys.Checked.apply {db₀ : UserDb} {s s' : CreateSys}
    {e : Event UserCreateRequest} (h : s.Checked env db₀) (he : s.apply env index e = some s') :
    s'.Checked env db₀ := by
  cases e with
  | request req =>
    cases he
    refine ⟨h.1, fun t ht => ?_⟩
    rcases List.mem_append.mp ht with ht | ht
    · exact h.2 t ht
    · rw [List.mem_singleton.mp ht]; trivial
  | step i ok =>
    obtain ⟨t, ht, rfl⟩ := CreateSys.apply_step_inv env index he
    obtain ⟨ht', hstored⟩ :=
      CreateTask.checked_step env index s.db ok (h.2 t (List.getElem?_mem ht))
    refine ⟨fun u hu => (hstored u hu).elim (h.1 u) .inr, fun t'' hmem => ?_⟩
    rcases List.mem_or_eq_of_mem_set hmem with hmem | rfl
    · exact h.2 t'' hmem
    · exact ht'

/-- **`UserCreate` stores only checked users.** In every run, over any interleaving of
    calls, every stored user was in the store at the start, or has a name and a public key
    that `KeyFromHex` accepts. -/
theorem CreateSys.Reachable.users_checked {db₀ : UserDb} {s : CreateSys}
    (hs : CreateSys.Reachable env index db₀ s) :
    ∀ u ∈ s.db.users, u ∈ db₀.users ∨ u.Checked env := by
  suffices s.Checked env db₀ from this.1
  induction hs with
  | init => exact ⟨fun u hu => .inl hu, fun t ht => by cases ht⟩
  | step e _ he ih => exact ih.apply env index he

/-- Bob, stored after alice. -/
theorem users_checked_bob :
    let s : CreateSys := ⟨⟨[alice, bobRequest.user 2], 2⟩, [.done (.ok (bobRequest.user 2))]⟩
    CreateSys.Reachable namedKeys noIndex ⟨[alice], 1⟩ s ∧
      ∀ u ∈ s.db.users, u ∈ [alice] ∨ u.Checked namedKeys := by
  intro s
  have hs : CreateSys.Reachable namedKeys noIndex ⟨[alice], 1⟩ s :=
    CreateSys.reachable_run namedKeys noIndex .init (show CreateSys.run namedKeys noIndex
      ⟨⟨[alice], 1⟩, []⟩ [.request bobRequest, .step 0 true, .step 0 true, .step 0 true] =
        some s from rfl)
  exact ⟨hs, CreateSys.Reachable.users_checked namedKeys noIndex hs⟩

end Create

end TfExplorer.Directory
