import TfExplorer.Api.Task

/-!
# Signature Endpoints: `signProvision`, `signDelete`

`API.signProvision` and `API.signDelete` of `pkg/workloads/reservation.go`. Both read the
reservation, check the signer, push the signature, and read the reservation again. They
differ in two places: `signProvision` requires the reservation to be in `Sign`, and after
its push it queues the workloads when the reservation reads `Deploy`; `signDelete` has no
state check, and after its push it calls `setReservationDeleted` and queues the workloads
when the reservation reads `Delete`, on every such call and not only on the transition.

Each phase returns the reply the handler returns early with, or what it goes on with.
-/

namespace TfExplorer

/-- The checks both handlers make once the reservation is read: the signer is requested,
    known to the phonebook, and its signature verifies. -/
def signatureAccepted (env : Env) (r : Reservation) (request : SigningRequest)
    (signature : SigningSignature) (sig : List UInt8) : Except Reply Unit :=
  if !tidIn signature.tid request.signers then
    .error (.error .unauthorized
      ("signature not required for '" ++ toString signature.tid ++ "'"))
  else
    match env.userPubkey signature.tid with
    | none => .error (.error .notFound "customer id not found")
    | some pubkey =>
      if env.signatureVerify r pubkey sig then .ok ()
      else .error (.error .unauthorized "failed to verify signature")

/-- `API.signProvision` up to its push: the signature to push. -/
def signProvision (env : Env) (w : World) (ok : Bool) (id : Nat)
    (signature : SigningSignature) : Except Reply SigningSignature := do
  let some sig := hexDecode signature.signature
    | throw (.error .badRequest "invalid signature expecting hex encoded string")
  let some r := readReservation w ok id
    | throw (.error .notFound storeError)
  if r.nextAction ≠ .sign then
    throw (.error .unauthorized "reservation not expecting signatures")
  signatureAccepted env r r.dataReservation.signingRequestProvision signature sig
  return { signature with epoch := w.now }

/-- `API.signDelete` up to its push: the signature to push. -/
def signDelete (env : Env) (w : World) (ok : Bool) (id : Nat)
    (signature : SigningSignature) : Except Reply SigningSignature := do
  let some sig := hexDecode signature.signature
    | throw (.error .badRequest "invalid signature expecting hex encoded string")
  let some r := readReservation w ok id
    | throw (.error .notFound storeError)
  signatureAccepted env r r.dataReservation.signingRequestDelete signature sig
  return { signature with epoch := w.now }

/-- `signProvision` after its push: the reservation read again, when it reads `Deploy`. -/
def provisionGet (w : World) (ok : Bool) (id : Nat) : Except Reply Reservation :=
  readIf w ok id (·.nextAction == .deploy) .storeFailed (.status .created)

/-- `signDelete` after its push: the reservation read again, when it reads `Delete`. -/
def deleteGet (w : World) (ok : Bool) (id : Nat) : Except Reply Reservation :=
  readIf w ok id (·.nextAction == .delete) .storeFailed (.status .created)

end TfExplorer
