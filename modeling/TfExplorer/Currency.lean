import TfExplorer.Types

/-!
# Currency Admission

The `FreeTFT` filter of `API.create` (`pkg/workloads/reservation.go`, lines 164–174):

    currencies := make([]string, len(reservation.DataReservation.Currencies))
    copy(currencies, reservation.DataReservation.Currencies)
    if freeNodes < paidNodes {
        for i, c := range currencies {
            if c == freeTFT {
                currencies = append(currencies[:i], currencies[i+1:]...)
            }
        }
    }

The `range` clause evaluates the slice once: the loop visits the indices `0 … n-1` of the
original slice and reads each element from the backing array, which the in-place `append`
shifts left. The model keeps that array and the current length of `currencies`. A slice
expression out of bounds is a runtime panic, modelled as `Except.error`.

The loop removes a single `FreeTFT` (`allowedCurrencies_of_count_le_one`), but not two: the
element after a removed one is shifted under the index just visited and skipped, and the
stale tail of the array can make `currencies[i+1:]` go out of bounds.
-/

namespace TfExplorer

/-- `freeTFT`: the currency code that only free-to-use nodes accept. -/
def freeTFT : String := "FreeTFT"

/-- `append(currencies[:i], currencies[i+1:]...)` on the backing array when `currencies` has
    length `len`: the elements `i+1 … len-1` move one place left and the array keeps its size. -/
def shiftLeft (arr : List String) (len i : Nat) : List String :=
  arr.take i ++ (arr.take len).drop (i + 1) ++ arr.drop (len - 1)

/-- One iteration of the filter loop, at index `i`, on the backing array and the length of
    `currencies`. -/
def filterStep (st : List String × Nat) (i : Nat) : Except String (List String × Nat) :=
  if st.1[i]? = some freeTFT then
    if i + 1 ≤ st.2 then .ok (shiftLeft st.1 st.2 i, st.2 - 1)
    else .error "slice bounds out of range"
  else .ok st

/-- The currency list that `create` passes to escrow `RegisterReservation`. -/
def allowedCurrencies (freeNodes paidNodes : Nat) (cs : List String) :
    Except String (List String) :=
  if freeNodes < paidNodes then
    ((List.range cs.length).foldlM filterStep (cs, cs.length)).map fun st => st.1.take st.2
  else .ok cs

/-- When every node is free to use, the declared currencies pass unchanged. -/
theorem allowedCurrencies_of_le {freeNodes paidNodes : Nat} (cs : List String)
    (h : paidNodes ≤ freeNodes) : allowedCurrencies freeNodes paidNodes cs = .ok cs := by
  simp [allowedCurrencies, Nat.not_lt.mpr h]

/-- Iterations at indices that do not hold `FreeTFT` leave the loop state alone. -/
theorem foldlM_filterStep_of_ne (st : List String × Nat) (idxs : List Nat)
    (h : ∀ j ∈ idxs, st.1[j]? ≠ some freeTFT) : idxs.foldlM filterStep st = .ok st := by
  induction idxs with
  | nil => rfl
  | cons j js ih =>
    rw [List.foldlM_cons, filterStep, if_neg (h j (List.mem_cons_self _ _))]
    exact ih fun k hk => h k (List.mem_cons_of_mem _ hk)

theorem foldlM_filterStep_append_of_ne (st : List String × Nat) (l₁ l₂ : List Nat)
    (h : ∀ j ∈ l₁, st.1[j]? ≠ some freeTFT) :
    (l₁ ++ l₂).foldlM filterStep st = l₂.foldlM filterStep st := by
  rw [List.foldlM_append, foldlM_filterStep_of_ne st l₁ h]; rfl

theorem foldlM_filterStep_cons_of_ok {st st' : List String × Nat} {i : Nat} (l : List Nat)
    (h : filterStep st i = .ok st') : (i :: l).foldlM filterStep st = l.foldlM filterStep st' := by
  rw [List.foldlM_cons, h]; rfl

/-- Removing the `FreeTFT` that follows `xs`: the suffix moves left over it, and the array
    keeps a stale copy of its last element. -/
theorem shiftLeft_append (xs ys : List String) (a : String) :
    shiftLeft (xs ++ a :: ys) (xs.length + 1 + ys.length) xs.length =
      xs ++ (ys ++ (a :: ys).drop ys.length) := by
  have h1 : (xs ++ a :: ys).take (xs.length + 1 + ys.length) = xs ++ a :: ys :=
    List.take_of_length_le (by simp; omega)
  have h2 : (xs ++ a :: ys).drop (xs.length + 1) = ys := by rw [List.drop_append 1]; rfl
  have h3 : (xs ++ a :: ys).drop (xs.length + 1 + ys.length - 1) = (a :: ys).drop ys.length := by
    rw [show xs.length + 1 + ys.length - 1 = xs.length + ys.length by omega, List.drop_append]
  rw [shiftLeft, List.take_left, h1, h2, h3, List.append_assoc]

theorem filter_ne_freeTFT_of_not_mem {cs : List String} (h : freeTFT ∉ cs) :
    cs.filter (· != freeTFT) = cs :=
  List.filter_eq_self.mpr fun a ha => bne_iff_ne.mpr fun (he : a = freeTFT) => h (he ▸ ha)

/-- The loop's indices around position `n`. -/
theorem range_around (n m : Nat) :
    List.range (n + 1 + m) = List.range n ++ n :: List.range' (n + 1) m := by
  have happ := List.range'_append_1 0 n (m + 1)
  rw [Nat.zero_add] at happ
  rw [List.range_eq_range', List.range_eq_range', ← List.range'_succ, happ]
  congr 1; omega

/-- The iteration at a `FreeTFT` removes it. -/
theorem filterStep_at_freeTFT (xs ys : List String) :
    filterStep (xs ++ freeTFT :: ys, xs.length + 1 + ys.length) xs.length =
      .ok (shiftLeft (xs ++ freeTFT :: ys) (xs.length + 1 + ys.length) xs.length,
        xs.length + ys.length) := by
  have hget : (xs ++ freeTFT :: ys)[xs.length]? = some freeTFT := by
    rw [List.getElem?_append_right (Nat.le_refl _), Nat.sub_self, List.getElem?_cons_zero]
  rw [filterStep, if_pos hget, if_pos (by omega)]
  congr 3; omega

/-- After a lone `FreeTFT` is removed, the indices the loop has still to visit hold none. -/
theorem shiftLeft_ne_freeTFT {xs ys : List String} (hxs : freeTFT ∉ xs) (hys : freeTFT ∉ ys)
    {j : Nat} (hj : j ∈ List.range' (xs.length + 1) ys.length) :
    (shiftLeft (xs ++ freeTFT :: ys) (xs.length + 1 + ys.length) xs.length)[j]? ≠
      some freeTFT := by
  intro hget
  have hne : ys ≠ [] := by rintro rfl; simp at hj
  have hsub : (freeTFT :: ys).drop ys.length ⊆ ys := by
    obtain ⟨y, ys', rfl⟩ := List.exists_cons_of_ne_nil hne
    simpa using List.drop_subset ys'.length (y :: ys')
  rw [shiftLeft_append] at hget
  rcases List.mem_append.mp (List.getElem?_mem hget) with h | h
  · exact hxs h
  · exact (List.mem_append.mp h).elim hys (fun h => hys (hsub h))

/-- **A single `FreeTFT` is removed**: when the declared list holds it at most once and some
    node is not free to use, the loop returns the list without it. -/
theorem allowedCurrencies_of_count_le_one {freeNodes paidNodes : Nat} (cs : List String)
    (h : freeNodes < paidNodes) (hc : cs.count freeTFT ≤ 1) :
    allowedCurrencies freeNodes paidNodes cs = .ok (cs.filter (· != freeTFT)) := by
  rw [allowedCurrencies, if_pos h]
  by_cases hm : freeTFT ∈ cs
  case neg =>
    have hne : ∀ j ∈ List.range cs.length, cs[j]? ≠ some freeTFT :=
      fun j _ hj => hm (List.getElem?_mem hj)
    rw [foldlM_filterStep_of_ne _ _ hne, filter_ne_freeTFT_of_not_mem hm]
    exact congrArg Except.ok (List.take_length cs)
  case pos =>
    obtain ⟨xs, ys, rfl⟩ := List.append_of_mem hm
    have hcount : xs.count freeTFT = 0 ∧ ys.count freeTFT = 0 := by
      simp only [List.count_append, List.count_cons_self] at hc; omega
    have hxs : freeTFT ∉ xs := List.count_eq_zero.mp hcount.1
    have hys : freeTFT ∉ ys := List.count_eq_zero.mp hcount.2
    have hlen : (xs ++ freeTFT :: ys).length = xs.length + 1 + ys.length := by simp; omega
    have hfirst : ∀ j ∈ List.range xs.length, (xs ++ freeTFT :: ys)[j]? ≠ some freeTFT := by
      intro j hj hget
      rw [List.getElem?_append_left (List.mem_range.mp hj)] at hget
      exact hxs (List.getElem?_mem hget)
    rw [hlen, range_around, foldlM_filterStep_append_of_ne _ _ _ hfirst,
      foldlM_filterStep_cons_of_ok _ (filterStep_at_freeTFT xs ys),
      foldlM_filterStep_of_ne _ _ fun j hj => shiftLeft_ne_freeTFT hxs hys hj]
    show Except.ok (List.take _ (shiftLeft _ _ _)) = _
    rw [shiftLeft_append, List.take_append, List.take_left]
    simp [filter_ne_freeTFT_of_not_mem hxs, filter_ne_freeTFT_of_not_mem hys]

/-- Two `FreeTFT` break the loop: the second is shifted under the index just visited and
    stays, and when the stale tail repeats it, `currencies[i+1:]` panics. -/
theorem allowedCurrencies_second_freeTFT :
    allowedCurrencies 0 1 ["FreeTFT", "FreeTFT", "TFT"] = .ok ["FreeTFT", "TFT"] ∧
      allowedCurrencies 0 1 ["FreeTFT", "FreeTFT"] = .error "slice bounds out of range" :=
  ⟨rfl, rfl⟩

end TfExplorer
