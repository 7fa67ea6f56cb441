import TfExplorer.Types

/-!
# Reservation Pipeline

`pkg/workloads/types/pipeline.go`: the pure function that computes the next lifecycle state
of a reservation from the clock, its signature quorums and its results.

- §1 the two quorum checks. They share the counting loop (`signatureCount`) and differ in
  what a zero `quorum_min` means: reached for provisioning, never reached for deletion.
- §2 the stage loop and `Next`.
- §3 spec lemmas: `Next` changes only `next_action`, leaves `Delete` and `Deleted` alone,
  and moves `next_action` only to `Delete`, or forward along `Create → Sign → Pay`.
- §4 `Next` case by case: the reservation it returns and its `changed` flag, against the
  list of cases of the specification (§4.2), with the provisioning deadline compared as
  the code compares it, strictly.
- §5 `Next` twice: a later `Next` of a persisted result is `Next` of the original, and a
  second `Next` at the same instant reports no change.
-/

namespace TfExplorer

open Reservation

/-! ## §1 Quorum checks -/

/-- The `in` closure of the source: `i` occurs in `l`. -/
def tidIn (i : Int) (l : List Int) : Bool := l.contains i

/-- The counting loop of both quorum checks: the signatures whose `tid` is a signer,
    counted with repetition. -/
def signatureCount (request : SigningRequest) (signatures : List SigningSignature) : Int :=
  (signatures.countP fun s => tidIn s.tid request.signers : Nat)

namespace Pipeline

/-- `Pipeline.checkProvisionSignatures`: a zero quorum is always reached. -/
def checkProvisionSignatures (r : Reservation) : Bool :=
  let request := r.dataReservation.signingRequestProvision
  if request.quorumMin = 0 then true
  else decide (request.quorumMin ≤ signatureCount request r.signaturesProvision)

/-- `Pipeline.checkDeleteSignatures`: a zero quorum is never reached. -/
def checkDeleteSignatures (r : Reservation) : Bool :=
  let request := r.dataReservation.signingRequestDelete
  if request.quorumMin = 0 then false
  else decide (request.quorumMin ≤ signatureCount request r.signaturesDelete)

theorem signatureCount_nonneg (request : SigningRequest) (signatures : List SigningSignature) :
    0 ≤ signatureCount request signatures := by
  unfold signatureCount; omega

/-- The provisioning quorum holds iff `quorum_min ≤ 0` or enough signatures, counted with
    repetition, come from signers. -/
theorem checkProvisionSignatures_iff (r : Reservation) :
    checkProvisionSignatures r = true ↔
      r.dataReservation.signingRequestProvision.quorumMin ≤ 0 ∨
      r.dataReservation.signingRequestProvision.quorumMin ≤
        signatureCount r.dataReservation.signingRequestProvision r.signaturesProvision := by
  have := signatureCount_nonneg r.dataReservation.signingRequestProvision r.signaturesProvision
  dsimp only [checkProvisionSignatures]
  split <;> simp only [decide_eq_true_eq, true_iff] <;> omega

/-- The delete quorum holds iff `quorum_min ≠ 0` and enough signatures, counted with
    repetition, come from signers: unlike provisioning, a zero quorum never deletes. -/
theorem checkDeleteSignatures_iff (r : Reservation) :
    checkDeleteSignatures r = true ↔
      r.dataReservation.signingRequestDelete.quorumMin ≠ 0 ∧
      r.dataReservation.signingRequestDelete.quorumMin ≤
        signatureCount r.dataReservation.signingRequestDelete r.signaturesDelete := by
  dsimp only [checkDeleteSignatures]
  split <;> simp_all

/-! ## §2 `Next` -/

/-- One pass of the stage switch of `Next`. -/
def stage (quorum : Bool) : NextAction → NextAction
  | .create => .sign
  | .sign => if quorum then .pay else .sign
  | a => a

/-- The stage loop of `Next`: run the switch until a pass changes nothing, recording whether
    one did. `fuel` bounds the passes; three reach the fixpoint (`stage_stages_three`). -/
def stages (quorum : Bool) : Nat → NextAction → Bool → NextAction × Bool
  | 0, current, modified => (current, modified)
  | fuel + 1, current, modified =>
    if current = stage quorum current then (current, modified)
    else stages quorum fuel (stage quorum current) true

/-- `Pipeline.Next`: the reservation with its next lifecycle state at time `now`, and whether
    that state changed. -/
def next (r : Reservation) (now : Int) : Reservation × Bool :=
  if r.nextAction = .delete ∨ r.nextAction = .deleted then (r, false)
  else if r.expired now || checkDeleteSignatures r then ({ r with nextAction := .delete }, true)
  else if decide (r.dataReservation.expirationProvisioning < now) && !r.isSuccessfullyDeployed then
    ({ r with nextAction := .delete }, true)
  else
    let (a, modified) := stages (checkProvisionSignatures r) 3 r.nextAction false
    ({ r with nextAction := a }, modified)

/-! ## §3 Spec lemmas -/

/-- Three passes of the stage loop amount to two applications of the switch. -/
theorem stages_three (q : Bool) (a : NextAction) (m : Bool) :
    stages q 3 a m = (stage q (stage q a), m || decide (stage q a ≠ a)) := by
  cases a <;> cases q <;> cases m <;> rfl

/-- The loop has reached its fixpoint after three passes: a fourth would change nothing. -/
theorem stage_stages_three (q : Bool) (a : NextAction) (m : Bool) :
    stage q (stages q 3 a m).1 = (stages q 3 a m).1 := by
  cases a <;> cases q <;> rfl

/-- `Next` changes nothing but `next_action`. -/
theorem next_fst (r : Reservation) (now : Int) :
    (next r now).1 = { r with nextAction := (next r now).1.nextAction } := by
  unfold next
  split_ifs <;> rfl

/-- `Next` leaves a reservation in `Delete` or `Deleted` as it is. -/
theorem next_of_terminal {r : Reservation} (now : Int)
    (h : r.nextAction = .delete ∨ r.nextAction = .deleted) : next r now = (r, false) := by
  simp [next, h]

/-- What `Next` can do to `next_action`: keep it, set `Delete`, or move it forward from
    `Create` to `Sign`, or from `Create` or `Sign` to `Pay`. -/
theorem next_nextAction_cases (r : Reservation) (now : Int) :
    (next r now).1.nextAction = r.nextAction ∨ (next r now).1.nextAction = .delete ∨
      (r.nextAction = .create ∧ (next r now).1.nextAction = .sign) ∨
      ((r.nextAction = .create ∨ r.nextAction = .sign) ∧ (next r now).1.nextAction = .pay) := by
  unfold next
  split_ifs
  · exact .inl rfl
  · exact .inr (.inl rfl)
  · exact .inr (.inl rfl)
  · simp only [stages_three]
    cases r.nextAction <;> cases checkProvisionSignatures r <;> decide

/-- `Next` never produces `Deploy`: only the escrow moves a reservation there. -/
theorem next_eq_deploy {r : Reservation} {now : Int}
    (h : (next r now).1.nextAction = .deploy) : r.nextAction = .deploy := by
  rcases next_nextAction_cases r now with h' | h' | ⟨-, h'⟩ | ⟨-, h'⟩
  · rwa [h'] at h
  all_goals rw [h'] at h; cases h

/-- `Next` yields `Pay` only from `Create`, `Sign` or `Pay`. -/
theorem next_eq_pay {r : Reservation} {now : Int} (h : (next r now).1.nextAction = .pay) :
    r.nextAction = .create ∨ r.nextAction = .sign ∨ r.nextAction = .pay := by
  rcases next_nextAction_cases r now with h' | h' | ⟨-, h'⟩ | ⟨h'', -⟩
  · rw [h'] at h; exact .inr (.inr h)
  · rw [h'] at h; cases h
  · rw [h'] at h; cases h
  · rcases h'' with h'' | h'' <;> simp [h'']

/-- With no provisioning signature, the quorum holds exactly when `quorum_min ≤ 0`. -/
theorem checkProvisionSignatures_of_nil {r : Reservation} (h : r.signaturesProvision = []) :
    checkProvisionSignatures r =
      decide (r.dataReservation.signingRequestProvision.quorumMin ≤ 0) := by
  have : signatureCount r.dataReservation.signingRequestProvision [] = 0 := rfl
  rw [Bool.eq_iff_iff, checkProvisionSignatures_iff, h, this, decide_eq_true_iff, or_self]

/-- When `Next` does not delete, it is two passes of the stage switch. -/
theorem next_nextAction_of_ne_delete {r : Reservation} {now : Int}
    (h : (next r now).1.nextAction ≠ .delete) :
    (next r now).1.nextAction =
      stage (checkProvisionSignatures r) (stage (checkProvisionSignatures r) r.nextAction) := by
  unfold next at h ⊢
  split_ifs at h ⊢ with h₁
  · rcases h₁ with h₁ | h₁ <;> simp_all [stage]
  · exact absurd rfl h
  · exact absurd rfl h
  · simp only [stages_three]

/-- `Next`'s `next_action`: unchanged in `Delete` or `Deleted`, `Delete` on expiry, a delete
    quorum or an expired provisioning, and otherwise two passes of the stage switch. -/
theorem next_nextAction (r : Reservation) (now : Int) :
    (next r now).1.nextAction =
      if r.nextAction = .delete ∨ r.nextAction = .deleted then r.nextAction
      else if (r.expired now || checkDeleteSignatures r) ||
          (decide (r.dataReservation.expirationProvisioning < now) && !r.isSuccessfullyDeployed)
        then .delete
      else
        stage (checkProvisionSignatures r) (stage (checkProvisionSignatures r) r.nextAction) := by
  unfold next
  split_ifs <;> simp_all [stages_three]

/-- `Next` deletes `r` at `now` for one reason only: its provisioning expired before it was
    successfully deployed. -/
def deletesForProvisioning (r : Reservation) (now : Int) : Prop :=
  ¬(r.nextAction = .delete ∨ r.nextAction = .deleted) ∧
    (r.expired now || checkDeleteSignatures r) = false ∧
    r.dataReservation.expirationProvisioning < now ∧ r.isSuccessfullyDeployed = false

/-- A stronger quorum moves two passes of the switch no lower. -/
theorem stage_stage_rank_mono {q q' : Bool} (h : q = true → q' = true) (a : NextAction) :
    (stage q (stage q a)).rank ≤ (stage q' (stage q' a)).rank := by
  revert h; cases q <;> cases q' <;> cases a <;> decide

end Pipeline

/-- **`Next` never moves `next_action` back** in the lifecycle order. -/
theorem Pipeline.next_rank_le (r : Reservation) (now : Int) :
    r.nextAction.rank ≤ (Pipeline.next r now).1.nextAction.rank := by
  rcases Pipeline.next_nextAction_cases r now with h | h | ⟨h₀, h⟩ | ⟨h₀, h⟩
  · rw [h]
  · rw [h]; exact r.nextAction.rank_le_four
  · rw [h, h₀]; decide
  · rw [h]; rcases h₀ with h₀ | h₀ <;> rw [h₀] <;> decide

/-- **`Next` is monotone** in the clock and the signatures: a reservation whose quorums
    still hold is normalized no lower, later, unless `Next` deleted the earlier one for an
    expired provisioning only and the later one is successfully deployed. -/
theorem Pipeline.next_rank_mono {r r' : Reservation} {now now' : Int} (hnow : now ≤ now')
    (hna : r'.nextAction = r.nextAction) (hdata : r'.dataReservation = r.dataReservation)
    (hprov : Pipeline.checkProvisionSignatures r = true →
      Pipeline.checkProvisionSignatures r' = true)
    (hdel : Pipeline.checkDeleteSignatures r = true → Pipeline.checkDeleteSignatures r' = true) :
    (Pipeline.next r now).1.nextAction.rank ≤ (Pipeline.next r' now').1.nextAction.rank ∨
      (Pipeline.deletesForProvisioning r now ∧ r'.isSuccessfullyDeployed = true) := by
  have hexp : r.expired now = true → r'.expired now' = true := by
    simp only [Reservation.expired, decide_eq_true_eq, hdata]; omega
  have hprovExp : r.dataReservation.expirationProvisioning < now →
      r'.dataReservation.expirationProvisioning < now' := by
    rw [hdata]; omega
  rw [Pipeline.next_nextAction, Pipeline.next_nextAction, hna]
  split_ifs with hterm hc hc' hc'
  · exact .inl le_rfl
  · exact .inl le_rfl
  · simp only [Bool.or_eq_true, Bool.and_eq_true, decide_eq_true_eq, Bool.not_eq_true',
      not_or, not_and, Bool.not_eq_false] at hc hc'
    obtain ⟨⟨hexp', hdel'⟩, hdeployed⟩ := hc'
    have hlive : r.expired now = false ∧ Pipeline.checkDeleteSignatures r = false :=
      ⟨Bool.eq_false_iff.mpr fun h => by simp [hexp h] at hexp',
        Bool.eq_false_iff.mpr fun h => by simp [hdel h] at hdel'⟩
    rcases hc with (hc | hc) | ⟨hp, hs⟩
    · simp [hlive.1] at hc
    · simp [hlive.2] at hc
    · exact .inr ⟨⟨hterm, by simp [hlive.1, hlive.2], hp, hs⟩, hdeployed (hprovExp hp)⟩
  · exact .inl (NextAction.rank_le_four _)
  · exact .inl (Pipeline.stage_stage_rank_mono hprov _)

/-! ## §4 `Next` case by case -/

namespace Pipeline

/-- `changed` is whether `next_action` changed. -/
theorem next_snd (r : Reservation) (now : Int) :
    (next r now).2 = decide ((next r now).1.nextAction ≠ r.nextAction) := by
  unfold next
  split_ifs with hterm
  · simp
  all_goals have hne : NextAction.delete ≠ r.nextAction := fun h => hterm (.inl h.symm)
  · simp [hne]
  · simp [hne]
  · simp only [stages_three, Bool.false_or]
    cases r.nextAction <;> cases checkProvisionSignatures r <;> rfl

/-- The `next_action` that `Next` computes, case by case as the specification lists them
    (§4.2), with the provisioning deadline passed strictly, as the code compares it. -/
def nextActionSpec (r : Reservation) (now : Int) : NextAction :=
  if r.nextAction = .delete ∨ r.nextAction = .deleted then r.nextAction
  else if r.dataReservation.expirationReservation ≤ now ∨ checkDeleteSignatures r = true then
    .delete
  else if r.dataReservation.expirationProvisioning < now ∧
      ∃ w ∈ r.workloads "", r.hasResult w.workloadId (· == .ok) = false then .delete
  else
    match r.nextAction with
    | .create | .sign => if checkProvisionSignatures r then .pay else .sign
    | a => a

/-- **`Next`, case by case.** For every reservation and every instant, `Next` returns the
    reservation with only `next_action` changed, to the one the specification lists, and
    reports a change exactly when `next_action` differs. -/
theorem next_eq_spec (r : Reservation) (now : Int) :
    next r now = ({ r with nextAction := nextActionSpec r now },
      decide (nextActionSpec r now ≠ r.nextAction)) := by
  have hprovisioning :
      (decide (r.dataReservation.expirationProvisioning < now) && !r.isSuccessfullyDeployed) = true ↔
        r.dataReservation.expirationProvisioning < now ∧
          ∃ w ∈ r.workloads "", r.hasResult w.workloadId (· == .ok) = false := by
    simp [isSuccessfullyDeployed]
  have hna : (next r now).1.nextAction = nextActionSpec r now := by
    rw [next_nextAction, nextActionSpec]
    simp only [Bool.or_eq_true, expired, decide_eq_true_eq, hprovisioning, ite_or]
    cases r.nextAction <;> cases checkProvisionSignatures r <;> rfl
  rw [Prod.ext_iff, next_snd, hna, next_fst, hna]
  exact ⟨rfl, rfl⟩

/-- A reservation in `Sign` that no one has signed, with a provisioning deadline at 1800
    and no result for its one workload. -/
def unsignedAtDeadline : Reservation where
  id := 1
  customerTid := 1
  customerSignature := ""
  epoch := 0
  nextAction := .sign
  dataReservation :=
    { expirationReservation := 7200, expirationProvisioning := 1800, currencies := []
      signingRequestProvision := ⟨[1], 1⟩, signingRequestDelete := ⟨[], 0⟩
      workloads := [⟨.container, 0, ["n1"], ""⟩] }
  signaturesProvision := []
  signaturesDelete := []
  signaturesFarmer := []
  results := []

/-- At the provisioning deadline itself, with a workload that has no `OK` result and no
    other reason to delete, `Next` leaves the reservation in `Sign`: the deadline counts as
    passed only after it. -/
theorem next_at_provisioning_deadline :
    unsignedAtDeadline.dataReservation.expirationProvisioning ≤ 1800 ∧
      unsignedAtDeadline.isSuccessfullyDeployed = false ∧
      unsignedAtDeadline.expired 1800 = false ∧
      checkDeleteSignatures unsignedAtDeadline = false ∧
      (next unsignedAtDeadline 1800).1.nextAction = .sign := by
  decide

end Pipeline

/-! ## §5 `Next` twice -/

/-- Whether a reservation is successfully deployed does not depend on its `next_action`. -/
@[simp] theorem Reservation.isSuccessfullyDeployed_setNextAction (r : Reservation) (a : NextAction) :
    ({ r with nextAction := a } : Reservation).isSuccessfullyDeployed =
      r.isSuccessfullyDeployed := by
  simp only [isSuccessfullyDeployed, workloads, List.all_flatMap]
  congr 1; funext d
  generalize d.nodeIds.filter _ = ns
  induction ns with
  | nil => rfl
  | cons n ns ih => simp only [List.map_cons, List.all_cons, ih]; rfl

/-- Nor does its expiry, or either quorum. -/
@[simp] theorem Reservation.expired_setNextAction (r : Reservation) (a : NextAction) (t : Int) :
    ({ r with nextAction := a } : Reservation).expired t = r.expired t := rfl

namespace Pipeline

@[simp] theorem checkProvisionSignatures_setNextAction (r : Reservation) (a : NextAction) :
    checkProvisionSignatures { r with nextAction := a } = checkProvisionSignatures r := rfl

@[simp] theorem checkDeleteSignatures_setNextAction (r : Reservation) (a : NextAction) :
    checkDeleteSignatures { r with nextAction := a } = checkDeleteSignatures r := rfl

/-- Two passes of the switch never reach `Delete` or `Deleted`. -/
theorem stage_stage_ne_terminal (q : Bool) {a : NextAction}
    (h : ¬(a = .delete ∨ a = .deleted)) :
    ¬(stage q (stage q a) = .delete ∨ stage q (stage q a) = .deleted) := by
  cases a <;> cases q <;> simp_all [stage]

/-- Two passes of the switch are a fixpoint of two more. -/
theorem stage_stage_idem (q : Bool) (a : NextAction) :
    stage q (stage q (stage q (stage q a))) = stage q (stage q a) := by
  cases a <;> cases q <;> rfl

/-- `Next` at a later instant of `Next`'s result computes the `next_action` that `Next`
    computes at that instant: an expiry once passed stays passed, and the switch is at its
    fixpoint. -/
theorem next_next_nextAction (r : Reservation) {t₁ t₂ : Int} (h : t₁ ≤ t₂) :
    (next (next r t₁).1 t₂).1.nextAction = (next r t₂).1.nextAction := by
  rw [next_fst r t₁, next_nextAction _ t₂, next_nextAction r t₂, next_nextAction r t₁]
  simp only [Reservation.isSuccessfullyDeployed_setNextAction, Reservation.expired_setNextAction,
    checkProvisionSignatures_setNextAction, checkDeleteSignatures_setNextAction]
  have hmono : (r.expired t₁ || checkDeleteSignatures r ||
      decide (r.dataReservation.expirationProvisioning < t₁) && !r.isSuccessfullyDeployed) =
        true →
      (r.expired t₂ || checkDeleteSignatures r ||
      decide (r.dataReservation.expirationProvisioning < t₂) && !r.isSuccessfullyDeployed) =
        true := by
    simp only [expired, Bool.or_eq_true, Bool.and_eq_true, decide_eq_true_eq]
    rintro ((he | hd) | ⟨hp, hs⟩)
    · exact .inl (.inl (by omega))
    · exact .inl (.inr hd)
    · exact .inr ⟨by omega, hs⟩
  by_cases hterm : r.nextAction = .delete ∨ r.nextAction = .deleted
  · simp only [hterm, if_true]
  · by_cases hc : (r.expired t₁ || checkDeleteSignatures r ||
        decide (r.dataReservation.expirationProvisioning < t₁) && !r.isSuccessfullyDeployed) =
          true
    · simp [hterm, hc, hmono hc]
    · rw [if_neg hterm, if_neg hc, if_neg (stage_stage_ne_terminal _ hterm), if_neg hterm,
        stage_stage_idem]

/-- **`Next` is idempotent.** For every reservation and instants `t₁ ≤ t₂`, `Next` at `t₂`
    of `Next`'s result at `t₁` is `Next` at `t₂`, and a second `Next` at one instant
    reports no change. -/
theorem next_idempotent (r : Reservation) {t₁ t₂ : Int} (h : t₁ ≤ t₂) :
    (next (next r t₁).1 t₂).1 = (next r t₂).1 ∧ (next (next r t₁).1 t₁).2 = false := by
  constructor
  · rw [next_fst (next r t₁).1 t₂, next_next_nextAction r h, next_fst r t₁, next_fst r t₂]
  · rw [next_snd, next_next_nextAction r (Int.le_refl t₁)]
    exact decide_eq_false (not_not.mpr rfl)

/-- Persisting `Next` at 0 and reading at 1800. -/
theorem next_idempotent_unsigned :
    (0 : Int) ≤ 1800 ∧
      (next (next unsignedAtDeadline 0).1 1800).1 = (next unsignedAtDeadline 1800).1 ∧
      (next (next unsignedAtDeadline 0).1 0).2 = false :=
  ⟨by decide, next_idempotent unsignedAtDeadline (by decide)⟩

end Pipeline

end TfExplorer
