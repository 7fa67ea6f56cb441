import TfExplorer.Queue

/-!
# Quorums and Distinct Signers

`checkProvisionSignatures` and `checkDeleteSignatures` count the signatures whose `tid` is a
signer, with repetition. §4.2 of the specification counts distinct signers. The two agree
on every reservation the explorer stores, because `PushSignature` skips a `tid` that has
already signed and `create` starts the lists empty.

- §1 the distinct count, and that it equals the code's count when no `tid` repeats;
- §2 no stored signature list repeats a `tid`, over every run;
- §3 the quorum checks on stored reservations.
-/

namespace TfExplorer

/-! ## §1 Counting signers -/

/-- The quorum count as §4.2 of the specification words it: the distinct `tid`s among the
    signatures that belong to the signers. -/
def distinctSignerCount (request : SigningRequest) (signatures : List SigningSignature) : Int :=
  ((signatures.map (·.tid)).dedup.countP fun tid => tidIn tid request.signers : Nat)

/-- Without a repeated `tid`, the code's count is the count of distinct signers. -/
theorem signatureCount_eq_distinct (request : SigningRequest) {signatures : List SigningSignature}
    (h : (signatures.map (·.tid)).Nodup) :
    signatureCount request signatures = distinctSignerCount request signatures := by
  rw [distinctSignerCount, h.dedup, List.countP_map]; rfl

/-! ## §2 No repeated signer -/

/-- No `tid` occurs twice in the provisioning or the delete signatures. -/
def Reservation.SignersDistinct (r : Reservation) : Prop :=
  (r.signaturesProvision.map (·.tid)).Nodup ∧ (r.signaturesDelete.map (·.tid)).Nodup

/-- `PushSignature` adds a signature only for a new `tid`. -/
theorem appendSignature_nodup {l : List SigningSignature} (h : (l.map (·.tid)).Nodup)
    (sig : SigningSignature) : ((appendSignature l sig).map (·.tid)).Nodup := by
  unfold appendSignature
  split
  · exact h
  · rw [List.map_append, List.nodup_append]
    refine ⟨h, List.nodup_singleton _, List.disjoint_singleton.mpr fun hmem => ?_⟩
    obtain ⟨x, hx, hxt⟩ := List.mem_map.mp hmem
    exact ‹¬(l.any fun x => x.tid == sig.tid) = true›
      (List.any_eq_true.mpr ⟨x, hx, by simp [hxt]⟩)

/-- Every operation keeps the signers of a document distinct. -/
theorem Reservation.SignersDistinct.onDoc {r : Reservation} (h : r.SignersDistinct)
    (o : Op) (id : Nat) : (o.onDoc id r).SignersDistinct := by
  cases o with
  | pushSignature id' mode sig =>
    simp only [Op.onDoc]
    split
    · cases mode
      · exact ⟨appendSignature_nodup h.1 sig, h.2⟩
      · exact ⟨h.1, appendSignature_nodup h.2 sig⟩
      · exact h
    · exact h
  | resultPush id' result => simp only [Op.onDoc]; split <;> exact h
  | setNextAction id' a => simp only [Op.onDoc]; split <;> exact h
  | _ => exact h

/-- Every stored reservation has distinct signers. -/
def System.SignersDistinct (s : System) : Prop :=
  ∀ id r, s.world.store.get id = some r → r.SignersDistinct

/-- Every event keeps the stored signers distinct. -/
theorem System.SignersDistinct.apply {env : Env} {s s' : System} {e : Event}
    (hs : s.SignersDistinct) (he : s.apply env e = some s') : s'.SignersDistinct := by
  intro id r' h'
  cases h : s.world.store.get id with
  | none =>
    obtain ⟨_, _, _, r, _, _, _, _, rfl⟩ := System.get_apply_of_none he h h'
    exact ⟨List.nodup_nil, List.nodup_nil⟩
  | some r =>
    obtain ⟨o, -, ho⟩ := System.get_apply he h
    cases h'.symm.trans ho
    exact (hs id r h).onDoc o id

/-- **No stored signature list repeats a signer**, in every reachable system. -/
theorem Reachable.signersDistinct {env : Env} {s : System} (hs : Reachable env s) :
    s.SignersDistinct := by
  induction hs with
  | init now => intro id r h; cases h
  | step e _ he ih => exact ih.apply he

/-! ## §3 Quorums -/

/-- **The quorum checks count signers.** For every reservation, the provisioning quorum
    holds iff `quorum_min ≤ 0` or the signatures whose `tid` is a signer, counted with
    repetition, reach `quorum_min`; the delete quorum iff `quorum_min ≠ 0` and they reach it.
    On every reservation stored in a reachable system, these counts are of distinct
    signers. -/
theorem quorum_counts_signers :
    (∀ r : Reservation,
      (Pipeline.checkProvisionSignatures r = true ↔
        r.dataReservation.signingRequestProvision.quorumMin ≤ 0 ∨
        r.dataReservation.signingRequestProvision.quorumMin ≤
          signatureCount r.dataReservation.signingRequestProvision r.signaturesProvision) ∧
      (Pipeline.checkDeleteSignatures r = true ↔
        r.dataReservation.signingRequestDelete.quorumMin ≠ 0 ∧
        r.dataReservation.signingRequestDelete.quorumMin ≤
          signatureCount r.dataReservation.signingRequestDelete r.signaturesDelete)) ∧
    (∀ (env : Env) (s : System), Reachable env s → ∀ id r, s.world.store.get id = some r →
      (Pipeline.checkProvisionSignatures r = true ↔
        r.dataReservation.signingRequestProvision.quorumMin ≤ 0 ∨
        r.dataReservation.signingRequestProvision.quorumMin ≤
          distinctSignerCount r.dataReservation.signingRequestProvision r.signaturesProvision) ∧
      (Pipeline.checkDeleteSignatures r = true ↔
        r.dataReservation.signingRequestDelete.quorumMin ≠ 0 ∧
        r.dataReservation.signingRequestDelete.quorumMin ≤
          distinctSignerCount r.dataReservation.signingRequestDelete r.signaturesDelete)) := by
  refine ⟨fun r => ⟨Pipeline.checkProvisionSignatures_iff r,
    Pipeline.checkDeleteSignatures_iff r⟩, fun env s hs id r h => ?_⟩
  obtain ⟨hp, hd⟩ := hs.signersDistinct id r h
  rw [Pipeline.checkProvisionSignatures_iff, Pipeline.checkDeleteSignatures_iff,
    signatureCount_eq_distinct _ hp, signatureCount_eq_distinct _ hd]
  exact ⟨Iff.rfl, Iff.rfl⟩

/-- `sampleBody` in `Sign` whose provisioning needs the signatures of two of users 1 and 2. -/
def twoSignerBody : Reservation :=
  { sampleBody .sign with
    dataReservation :=
      { (sampleBody .sign).dataReservation with signingRequestProvision := ⟨[1, 2], 2⟩ } }

/-- Reservation 1 is created from `twoSignerBody`; user 1 then signs its provisioning twice,
    both calls passing their checks before either pushes. -/
def signTwiceRun : List Event :=
  [.request (.create twoSignerBody), .step 0 true,
    .request (.signProvision 1 ⟨1, "", 0⟩), .request (.signProvision 1 ⟨1, "", 0⟩),
    .step 1 true, .step 2 true, .step 1 true, .step 2 true]

/-- The quorum checks of reservation 1 once user 1 has signed it twice: both pushes went
    through, and the stored list holds that signer once. -/
theorem quorum_counts_signers_created :
    let s := sampleRun signTwiceRun
    let r := (s.world.store.get 1).getD twoSignerBody
    Reachable Env.accepting s ∧ s.world.store.get 1 = some r ∧
      s.tasks.drop 1 = [.provisionGet 1, .provisionGet 1] ∧
      r.signaturesProvision.map (·.tid) = [1] ∧
      (Pipeline.checkProvisionSignatures r = true ↔
        r.dataReservation.signingRequestProvision.quorumMin ≤ 0 ∨
        r.dataReservation.signingRequestProvision.quorumMin ≤
          distinctSignerCount r.dataReservation.signingRequestProvision r.signaturesProvision) ∧
      (Pipeline.checkDeleteSignatures r = true ↔
        r.dataReservation.signingRequestDelete.quorumMin ≠ 0 ∧
        r.dataReservation.signingRequestDelete.quorumMin ≤
          distinctSignerCount r.dataReservation.signingRequestDelete r.signaturesDelete) := by
  intro s r
  have hs : Reachable Env.accepting s := reachable_sampleRun rfl
  have h : s.world.store.get 1 = some r := rfl
  exact ⟨hs, h, rfl, rfl, quorum_counts_signers.2 Env.accepting s hs 1 r h⟩

/-- A reservation that user 1 signed twice for provisioning, with a quorum of two: the
    check holds with one distinct signer. -/
def signedTwice : Reservation :=
  { sampleBody .sign with
    dataReservation :=
      { (sampleBody .sign).dataReservation with signingRequestProvision := ⟨[1], 2⟩ }
    signaturesProvision := [⟨1, "", 0⟩, ⟨1, "", 0⟩] }

/-- The provisioning check holds for `signedTwice`, whose quorum of two has one distinct
    signer. -/
theorem quorum_of_one_signer_twice :
    Pipeline.checkProvisionSignatures signedTwice = true ∧
      distinctSignerCount signedTwice.dataReservation.signingRequestProvision
        signedTwice.signaturesProvision = 1 ∧
      signedTwice.dataReservation.signingRequestProvision.quorumMin = 2 := by
  decide

end TfExplorer
