import Mathlib.Data.List.Basic

/-!
# Read-Then-Write Handlers

Some directory handlers read a document, decide, and write the document back in a second
store call, with no transaction around the two. Any number of them interleave their steps.
This module is that transition system, for any store and any handler; `UserUpdate` and
`SetPublicConfig` instantiate it.

- §1 a handler: its read step, with its checks, and its write step;
- §2 events, runs, and the runs in which no write lands on a store that changed since its
  read (`SerialReachable`);
- §3 what a step writes: a value that a read of a reachable store produced (`store_step`),
  and in a serial run, the value a read of the current store produces
  (`SerialReachable.inv`).
-/

namespace TfExplorer.Directory

/-! ## §1 Handlers -/

/-- A handler that reads the store in one atomic step and writes in a later one. -/
structure ReadWrite (σ ρ α ε : Type) where
  /-- The read and the checks after it, given whether the store read succeeds: the value
      to write, or the error returned. -/
  read : σ → Bool → ρ → Except ε α
  /-- The write. -/
  write : σ → ρ → α → σ
  /-- The error a failed write returns. -/
  writeError : ε

/-- `UpdateOne(filter, update)` on a collection: the first document the filter matches is
    updated. -/
def updateFirst {δ : Type} (p : δ → Bool) (f : δ → δ) : List δ → List δ
  | [] => []
  | d :: ds => if p d then f d :: ds else d :: updateFirst p f ds

/-- After an update of the first match of `p`, the first match of a filter `q` that selects
    none of `p`'s documents is as it was. -/
theorem find?_updateFirst_of_disjoint {δ : Type} {p q : δ → Bool} (f : δ → δ)
    (hf : ∀ d, q (f d) = q d) (hpq : ∀ d, p d = true → q d = false) (ds : List δ) :
    (updateFirst p f ds).find? q = ds.find? q := by
  induction ds with
  | nil => rfl
  | cons x xs ih =>
    cases hx : p x
    · simp only [updateFirst, hx, Bool.false_eq_true, if_false, List.find?_cons, ih]
    · simp only [updateFirst, hx, if_true, List.find?_cons, hf, hpq x hx]

/-- After an update of the first match of `p`, the first match of `p` is the updated one. -/
theorem find?_updateFirst_self {δ : Type} {p : δ → Bool} {f : δ → δ}
    (hf : ∀ d, p (f d) = p d) {ds : List δ} {d : δ} (h : ds.find? p = some d) :
    (updateFirst p f ds).find? p = some (f d) := by
  induction ds with
  | nil => cases h
  | cons x xs ih =>
    cases hx : p x
    · rw [List.find?_cons, hx] at h
      simp only [updateFirst, hx, Bool.false_eq_true, if_false, List.find?_cons, ih h]
    · rw [List.find?_cons, hx] at h
      cases h
      simp only [updateFirst, hx, if_true, List.find?_cons, hf]

/-- Where a handler is. -/
inductive Phase (ρ α ε : Type) where
  | start (req : ρ)
  | write (req : ρ) (a : α)
  | done (result : Except ε Unit)

section Steps

variable {σ ρ α ε : Type} (h : ReadWrite σ ρ α ε)

/-- One atomic step of a handler on store `s`; `ok` is whether its store call succeeds. -/
def Phase.step (s : σ) (ok : Bool) : Phase ρ α ε → σ × Phase ρ α ε
  | .start req =>
    (s, match h.read s ok req with
      | .ok a => .write req a
      | .error e => .done (.error e))
  | .write req a =>
    if ok then (h.write s req a, .done (.ok ())) else (s, .done (.error h.writeError))
  | .done result => (s, .done result)

/-! ## §2 Runs -/

/-- The store and the handlers in flight. -/
structure Sys (σ ρ α ε : Type) where
  store : σ
  tasks : List (Phase ρ α ε)

/-- A request arrives, or handler `i` takes a step. -/
inductive Event (ρ : Type) where
  | request (req : ρ)
  | step (i : Nat) (ok : Bool)

/-- The system after an event, when the event can happen. -/
def Sys.apply (s : Sys σ ρ α ε) : Event ρ → Option (Sys σ ρ α ε)
  | .request req => some ⟨s.store, s.tasks ++ [.start req]⟩
  | .step i ok =>
    s.tasks[i]?.map fun p => ⟨(p.step h s.store ok).1, s.tasks.set i (p.step h s.store ok).2⟩

/-- A run: the events in order. -/
def Sys.run : Sys σ ρ α ε → List (Event ρ) → Option (Sys σ ρ α ε)
  | s, [] => some s
  | s, e :: es => (s.apply h e).bind fun s' => Sys.run s' es

/-- The systems some run from store `s₀` with no handler in flight reaches. -/
inductive Reachable (s₀ : σ) : Sys σ ρ α ε → Prop where
  | init : Reachable s₀ ⟨s₀, []⟩
  | step {s s' : Sys σ ρ α ε} (e : Event ρ) : Reachable s₀ s → s.apply h e = some s' →
      Reachable s₀ s'

/-- The system after the events `es` from store `s₀`, or the start when they cannot
    happen. -/
def Sys.runFrom (s₀ : σ) (es : List (Event ρ)) : Sys σ ρ α ε :=
  (Sys.run h ⟨s₀, []⟩ es).getD ⟨s₀, []⟩

/-- A write whose read is still what the store gives: reading now yields the same value. -/
def Sys.Fresh (s : Sys σ ρ α ε) : Event ρ → Prop
  | .step i true => ∀ req a, s.tasks[i]? = some (.write req a) → h.read s.store true req = .ok a
  | _ => True

/-- The systems reached by runs in which every write is fresh: what the handlers would reach
    one after the other, each read followed by its write. -/
inductive SerialReachable (s₀ : σ) : Sys σ ρ α ε → Prop where
  | init : SerialReachable s₀ ⟨s₀, []⟩
  | step {s s' : Sys σ ρ α ε} (e : Event ρ) : SerialReachable s₀ s → s.Fresh h e →
      s.apply h e = some s' → SerialReachable s₀ s'

/-! ## §3 What a step writes -/

/-- A pending write carries a value that a read of a store satisfying `R` produced. -/
def Phase.ReadFrom (R : σ → Prop) : Phase ρ α ε → Prop
  | .write req a => ∃ s ok, R s ∧ h.read s ok req = .ok a
  | _ => True

theorem Phase.readFrom_step {R : σ → Prop} {s : σ} (hR : R s) (ok : Bool) (p : Phase ρ α ε) :
    (p.step h s ok).2.ReadFrom h R := by
  cases p with
  | start req =>
    simp only [Phase.step]
    split
    · exact ⟨s, ok, hR, ‹_›⟩
    · trivial
  | write req a => cases ok <;> trivial
  | done result => trivial

/-- Every pending write carries a value that a read of a reachable store produced. -/
theorem Reachable.readFrom {s₀ : σ} {s : Sys σ ρ α ε} (hs : Reachable h s₀ s) :
    ∀ p ∈ s.tasks, p.ReadFrom h fun s₁ => ∃ t, Reachable h s₀ t ∧ t.store = s₁ := by
  induction hs with
  | init => intro p hp; cases hp
  | @step s _ e hs he ih =>
    cases e with
    | request req =>
      cases he
      intro p hp
      rcases List.mem_append.mp hp with hp | hp
      · exact ih p hp
      · rw [List.mem_singleton.mp hp]; trivial
    | step i ok =>
      obtain ⟨p₀, -, rfl⟩ := Option.map_eq_some'.mp he
      intro p hp
      rcases List.mem_or_eq_of_mem_set hp with hp | rfl
      · exact ih p hp
      · exact Phase.readFrom_step h ⟨s, hs, rfl⟩ _ _

/-- **What a step writes**: nothing, or, at the write step of a handler, the value that the
    handler's read of the store of a reachable system produced. -/
theorem store_step {s₀ : σ} {s s' : Sys σ ρ α ε} {e : Event ρ} (hs : Reachable h s₀ s)
    (he : s.apply h e = some s') :
    s'.store = s.store ∨
      ∃ i req a, e = .step i true ∧ s.tasks[i]? = some (.write req a) ∧
        s'.store = h.write s.store req a ∧
        ∃ t ok, Reachable h s₀ t ∧ h.read t.store ok req = .ok a := by
  cases e with
  | request req => cases he; exact .inl rfl
  | step i ok =>
    obtain ⟨p, hp, rfl⟩ := Option.map_eq_some'.mp he
    cases p with
    | write req a =>
      cases ok
      · exact .inl rfl
      · obtain ⟨_, ok, ⟨t, ht, rfl⟩, hread⟩ := hs.readFrom h _ (List.getElem?_mem hp)
        exact .inr ⟨i, req, a, rfl, hp, rfl, t, ok, ht, hread⟩
    | start req => exact .inl rfl
    | done result => exact .inl rfl

/-- Serial runs are runs. -/
theorem SerialReachable.reachable {s₀ : σ} {s : Sys σ ρ α ε}
    (hs : SerialReachable h s₀ s) : Reachable h s₀ s := by
  induction hs with
  | init => exact .init
  | step e _ _ he ih => exact .step e ih he

/-- **Serial runs keep what every handler keeps**: a property of the store that each write
    of a value read from the current store preserves holds after every serial run. -/
theorem SerialReachable.inv {s₀ : σ} (I : σ → Prop) (h₀ : I s₀)
    (hkeep : ∀ s req a, I s → h.read s true req = .ok a → I (h.write s req a))
    {s : Sys σ ρ α ε} (hs : SerialReachable h s₀ s) : I s.store := by
  induction hs with
  | init => exact h₀
  | @step s s' e hs hfresh he ih =>
    rcases store_step h hs.reachable he with hst | ⟨i, req, a, rfl, hp, hst, -⟩
    · rw [hst]; exact ih
    · rw [hst]; exact hkeep _ _ _ ih (hfresh req a hp)

end Steps

end TfExplorer.Directory
