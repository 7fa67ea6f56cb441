import TfExplorer.Directory.Handler

/-!
# `UserUpdate`

`client/directory.go`, `UserUpdate`: read the user, check that the update is signed with
the stored public key, apply the update's non-empty fields to the document read, and
`$set` the whole document back. The read and the write are two store calls with nothing
between them.

- §1 users, their encoding, and the store calls `UserUpdate` makes;
- §2 the handler, as a `ReadWrite`;
- §3 what a write stores: the document the call's read of a reachable store produced,
  signed under the key that read saw, which need not be the key stored when the write lands;
- §4 two overlapping updates, one of which rotates the key: the other writes the old key
  back, under a signature the rotated key does not verify.
-/

namespace TfExplorer.Directory

/-! ## §1 Users -/

/-- `User`: the fields of a phonebook user that `UserUpdate` reads, signs and writes. -/
structure User where
  id : Nat
  name : String
  email : String
  host : String
  description : String
  pubkey : String
  deriving DecidableEq, Repr

/-- The zero `User` that `UserFilter.Get` returns with an error. -/
def User.zero : User := ⟨0, "", "", "", "", ""⟩

/-- `User.Encode`: the bytes an update is signed over, in the field order of the source. -/
def User.encode (u : User) : String :=
  toString u.id ++ u.name ++ u.email ++ u.host ++ u.description ++ u.pubkey

/-- `UserFilter.WithID(id)`: no filter at all for id 0. -/
def userMatches (id : Nat) (u : User) : Bool := id == 0 || u.id == id

/-- `UserFilter.Get`: the first user the filter matches. -/
def findUser (users : List User) (id : Nat) : Option User := users.find? (userMatches id)

/-- `UpdateOne(filter, $set current)`: the first user the filter matches takes every field of
    `current`. -/
def setUser (id : Nat) (current : User) : List User → List User :=
  updateFirst (userMatches id) fun _ => current

/-- The collaborators: `crypto.KeyFromHex` and `crypto.Verify` of the key a hex string
    encodes. -/
structure KeyEnv where
  keyFromHex : String → Except String Unit
  verify : String → String → String → Bool

/-! ## §2 The handler -/

/-- A `UserUpdate` call: the user id, the signature, and the update. -/
structure UserUpdateRequest where
  id : Nat
  signature : String
  update : User
  deriving DecidableEq, Repr

/-- The errors `UserUpdate` returns. -/
inductive UserUpdateError where
  | userNotFound
  | key (e : String)
  | badUserUpdate (msg : String)
  | store
  deriving DecidableEq, Repr

/-- The update's non-empty fields applied to `current`; the public key has been checked. -/
def applyUpdate (current update : User) : User :=
  { current with
    pubkey := if update.pubkey.length ≠ 0 then update.pubkey else current.pubkey
    email := if update.email.length ≠ 0 then update.email else current.email
    description := if update.description.length ≠ 0 then update.description
      else current.description
    host := if update.host.length ≠ 0 then update.host else current.host }

/-- The checks after the read, on the document `current` read: its key is a key, the
    update is signed with it, a new key is a key, and the name does not change. -/
def userUpdateCheck (env : KeyEnv) (current : User) (req : UserUpdateRequest) :
    Except UserUpdateError User :=
  let update := { req.update with id := req.id }
  match env.keyFromHex current.pubkey with
  | .error e => .error (.key e)
  | .ok () =>
    if !env.verify current.pubkey update.encode req.signature then
      .error (.badUserUpdate "payload verification failed")
    else if update.pubkey.length ≠ 0 ∧ (env.keyFromHex update.pubkey).toBool = false then
      .error (.badUserUpdate "invalid public key")
    else if update.name.length ≠ 0 ∧ current.name ≠ update.name then
      .error (.badUserUpdate "can not update name")
    else .ok (applyUpdate current update)

/-- `UserUpdate` up to its write: the read, where an error other than "no documents" leaves
    the zero user, then the checks. -/
def userUpdateRead (env : KeyEnv) (users : List User) (ok : Bool) (req : UserUpdateRequest) :
    Except UserUpdateError User :=
  if ok then
    match findUser users req.id with
    | none => .error .userNotFound
    | some current => userUpdateCheck env current req
  else userUpdateCheck env User.zero req

/-- `UserUpdate` as a read-then-write handler. -/
def userUpdate (env : KeyEnv) :
    ReadWrite (List User) UserUpdateRequest User UserUpdateError where
  read := userUpdateRead env
  write users req current := setUser req.id current users
  writeError := .store

/-! ## §3 What a write stores -/

/-- Keys that are non-empty strings, and signatures that name the key they were made with. -/
def namedKeys : KeyEnv where
  keyFromHex k := if k.isEmpty then .error "invalid key" else .ok ()
  verify key _ signature := signature == key

/-- User 1, with key `k1`. -/
def alice : User := ⟨1, "alice", "alice@x", "", "", "k1"⟩

/-- Alice rotates her key to `k2`, signing with `k1`. -/
def rotateKey : UserUpdateRequest := ⟨1, "k1", ⟨0, "", "", "", "", "k2"⟩⟩

/-- Alice changes her email, signing with `k1`. -/
def changeEmail : UserUpdateRequest := ⟨1, "k1", ⟨0, "", "alice@y", "", "", ""⟩⟩

/-- The two reads, then the two writes. -/
def overlappingUpdates : List (Event UserUpdateRequest) :=
  [.request rotateKey, .request changeEmail, .step 0 true, .step 1 true, .step 0 true]

/-- A handler that has returned without an error. -/
def Phase.succeeded {ρ α ε : Type} : Phase ρ α ε → Bool
  | .done (.ok ()) => true
  | _ => false

/-- The users and which calls succeeded, after the events `es` from alice alone. -/
def userOutcome (es : List (Event UserUpdateRequest)) : Option (List User × List Bool) :=
  (Sys.run (userUpdate namedKeys) ⟨[alice], []⟩ es).map fun s =>
    (s.store, s.tasks.map Phase.succeeded)

/-- **The rotated key comes back.** When both updates read before either writes, the
    rotation's write stores `k2`, and the email change's write then sets `k1` back: the stored
    key changes from `k2` to `k1` under a signature that `k2`, the key stored immediately
    before, does not verify. Both calls succeed. Neither serial order gives that outcome:
    with the rotation first, the email change fails; with it last, `k2` stays. -/
theorem rotated_key_written_back :
    userOutcome overlappingUpdates =
        some ([⟨1, "alice", "alice@x", "", "", "k2"⟩], [true, false]) ∧
      userOutcome (overlappingUpdates ++ [.step 1 true]) =
        some ([⟨1, "alice", "alice@y", "", "", "k1"⟩], [true, true]) ∧
      namedKeys.verify "k2" { changeEmail.update with id := changeEmail.id }.encode
        changeEmail.signature = false ∧
      userOutcome [.request rotateKey, .step 0 true, .step 0 true, .request changeEmail,
          .step 1 true, .step 1 true] =
        some ([⟨1, "alice", "alice@x", "", "", "k2"⟩], [true, false]) ∧
      userOutcome [.request changeEmail, .step 0 true, .step 0 true, .request rotateKey,
          .step 1 true, .step 1 true] =
        some ([⟨1, "alice", "alice@y", "", "", "k2"⟩], [true, true]) := by
  decide

end TfExplorer.Directory
