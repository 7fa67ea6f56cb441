import Mathlib.Logic.Function.Basic

/-!
# User Identity Seed Files

`UserIdentity.Save`, `Load` and `FromMnemonic` of `userid.go`: a user's key pair and
threebot id, saved as a versioned JSON file holding the key's mnemonic.

The libraries the file calls are parameters (`Libraries`): the key pair's seed and
`identity.FromSeed`, bip39's `NewMnemonic` and `EntropyFromMnemonic`, and JSON on the two
exported fields of `UserIdentity`. What the round trip needs of them is stated once, as
`Libraries.Lawful`. `versioned.WriteFile` and `ReadFile` run over a file system of versioned
files that keeps, for each file, whether the process may open it for writing: a file that
`WriteFile` created with mode `0400` it may not, and opening such a file fails.

- §1 the file system and `versioned`;
- §2 `Save`, `Load` and `FromMnemonic`;
- §3 the round trip when the write succeeds (`load_save`), and what `Load` reads after a
  `Save` whose write failed, which `Save` does not report (`save_ok`, `save_of_readOnly`).
-/

namespace TfExplorer

/-! ## §1 Versioned files -/

/-- `versioned.Version`: a semantic version. -/
structure Version where
  major : Nat
  minor : Nat
  patch : Nat
  deriving DecidableEq, Repr

/-- `seedVersion1`: the binary seed. -/
def seedVersion1 : Version := ⟨1, 0, 0⟩

/-- `seedVersion11`: JSON with the mnemonic and the threebot id. -/
def seedVersion11 : Version := ⟨1, 1, 0⟩

/-- `seedVersionLatest`. -/
def seedVersionLatest : Version := seedVersion11

/-- A versioned file: its version, its data, and whether the process may open it for
    writing. -/
structure VersionedFile (Buf : Type) where
  version : Version
  data : Buf
  writable : Bool

/-- The files, by path. -/
abbrev Fs (Buf : Type) := String → Option (VersionedFile Buf)

variable {Key Buf : Type}

/-- `versioned.WriteFile(path, version, data, perm)`: open `path` for writing, creating it
    with mode `perm` if it does not exist, and write the version and the data. Opening an
    existing file the process may not write fails; a new file is writable when `perm` has the
    owner's write bit. -/
def writeFile (fs : Fs Buf) (path : String) (version : Version) (data : Buf) (perm : Nat) :
    Except String (Fs Buf) :=
  match fs path with
  | some f =>
    if f.writable then .ok (Function.update fs path (some ⟨version, data, true⟩))
    else .error ("open " ++ path ++ ": permission denied")
  | none => .ok (Function.update fs path (some ⟨version, data, perm.testBit 7⟩))

/-- `versioned.ReadFile(path)`: the version and the data of the file. -/
def readFile (fs : Fs Buf) (path : String) : Except String (Version × Buf) :=
  match fs path with
  | some f => .ok (f.version, f.data)
  | none => .error ("open " ++ path ++ ": no such file or directory")

/-- A write that opens the file leaves it with the version and the data written. -/
theorem readFile_writeFile {fs fs' : Fs Buf} {path : String} {version : Version} {data : Buf}
    {perm : Nat} (h : writeFile fs path version data perm = .ok fs') :
    readFile fs' path = .ok (version, data) := by
  unfold writeFile at h
  split at h
  · split at h
    · cases h; simp [readFile]
    · cases h
  · cases h; simp [readFile]

/-- The write opens the file exactly when there is none at the path or the process may
    write the one there. -/
theorem writeFile_isOk (fs : Fs Buf) (path : String) (version : Version) (data : Buf)
    (perm : Nat) :
    (∃ fs', writeFile fs path version data perm = .ok fs') ↔
      ∀ f, fs path = some f → f.writable = true := by
  unfold writeFile
  split
  · rename_i f hf
    split
    · exact ⟨fun _ f' hf' => (by cases hf.symm.trans hf'; assumption), fun _ => ⟨_, rfl⟩⟩
    · rename_i hw
      exact ⟨fun ⟨_, h⟩ => (nomatch h), fun h => absurd (h f hf) hw⟩
  · rename_i hf
    exact ⟨fun _ f' hf' => (nomatch hf.symm.trans hf'), fun _ => ⟨_, rfl⟩⟩

/-! ## §2 `UserIdentity` -/

/-- The libraries `userid.go` calls, over key pairs `Key` and JSON documents `Buf`. -/
structure Libraries (Key Buf : Type) where
  /-- `KeyPair.PrivateKey.Seed()`. -/
  seed : Key → List UInt8
  /-- `identity.FromSeed`. -/
  fromSeed : List UInt8 → Except String Key
  /-- `bip39.NewMnemonic`. -/
  newMnemonic : List UInt8 → Except String String
  /-- `bip39.EntropyFromMnemonic`. -/
  entropyFromMnemonic : String → Except String (List UInt8)
  /-- `json.Marshal` of a `UserIdentity`: its exported fields `mnemonic` and `threebotid`;
      neither can fail to encode. -/
  marshal : String → UInt64 → Buf
  /-- `json.Unmarshal` into a `UserIdentity` whose exported fields are the given ones. -/
  unmarshal : Buf → String × UInt64 → Except String (String × UInt64)

/-- What the seed file round trip relies on of the libraries. -/
structure Libraries.Lawful (L : Libraries Key Buf) : Prop where
  /-- A key pair is determined by its seed. -/
  fromSeed_seed : ∀ k, L.fromSeed (L.seed k) = .ok k
  /-- A mnemonic gives back the entropy it encodes. -/
  entropy_newMnemonic : ∀ e m, L.newMnemonic e = .ok m → L.entropyFromMnemonic m = .ok e
  /-- Unmarshalling a marshalled identity sets both fields. -/
  unmarshal_marshal : ∀ m id cur, L.unmarshal (L.marshal m id) cur = .ok (m, id)

/-- `UserIdentity`: the mnemonic of the private key, the threebot id, and the key pair. -/
structure UserIdentity (Key : Type) where
  mnemonic : String
  threebotId : UInt64
  key : Key

variable (L : Libraries Key Buf)

/-- `UserIdentity.FromMnemonic(mnemonic)`: the error it returns and the identity after it.
    `u.key, err = identity.FromSeed(seed)` sets the key to the zero key pair, `default`, when
    `FromSeed` fails. -/
def UserIdentity.fromMnemonic [Inhabited Key] (u : UserIdentity Key) (mnemonic : String) :
    Except String Unit × UserIdentity Key :=
  match L.entropyFromMnemonic mnemonic with
  | .error e => (.error e, u)
  | .ok seed =>
    match L.fromSeed seed with
    | .error e => (.error e, { u with key := default })
    | .ok k => (.ok (), { u with key := k })

/-- `UserIdentity.Load(path)`: the error it returns and the identity after it. An
    unmarshalling error is taken to leave the identity as it was. -/
def UserIdentity.load [Inhabited Key] (fs : Fs Buf) (path : String) (u : UserIdentity Key) :
    Except String Unit × UserIdentity Key :=
  match readFile fs path with
  | .error e => (.error e, u)
  | .ok (version, buf) =>
    if version = seedVersion1 then
      (.error "seed file too old, please update it using \x27tfuser id convert\x27 command", u)
    else if version ≠ seedVersionLatest then (.error "unsupported seed version", u)
    else
      match L.unmarshal buf (u.mnemonic, u.threebotId) with
      | .error e => (.error e, u)
      | .ok (m, id) => UserIdentity.fromMnemonic L { u with mnemonic := m, threebotId := id } m

/-- `UserIdentity.Save(path)`: the error it returns, the identity after it, and the files.
    `u.Mnemonic, err = bip39.NewMnemonic(...)` sets the mnemonic to `""` when `NewMnemonic`
    fails. What `versioned.WriteFile` returns is dropped. -/
def UserIdentity.save (fs : Fs Buf) (path : String) (u : UserIdentity Key) :
    Except String Unit × UserIdentity Key × Fs Buf :=
  match L.newMnemonic (L.seed u.key) with
  | .error e => (.error e, { u with mnemonic := "" }, fs)
  | .ok m =>
    let u := { u with mnemonic := m }
    let buf := L.marshal u.mnemonic u.threebotId
    let fs := match writeFile fs path seedVersion11 buf 0o400 with
      | .ok fs' => fs'
      | .error _ => fs
    (.ok (), u, fs)

/-! ## §3 The round trip -/

/-- `Save` returns `nil` exactly when `NewMnemonic` succeeds, whatever the write does. -/
theorem UserIdentity.save_ok (fs : Fs Buf) (path : String) (u : UserIdentity Key) :
    (u.save L fs path).1 = .ok () ↔ ∃ m, L.newMnemonic (L.seed u.key) = .ok m := by
  unfold save
  split <;> simp_all

/-- A `Save` over a file the process may not write leaves the files as they were. -/
theorem UserIdentity.save_of_readOnly {fs : Fs Buf} {path : String} {f : VersionedFile Buf}
    (hf : fs path = some f) (hw : f.writable = false) (u : UserIdentity Key) :
    (u.save L fs path).2.2 = fs := by
  unfold save
  split
  · rfl
  · simp only [writeFile, hf, hw, Bool.false_eq_true, if_false]

/-- After a `Save` whose write succeeds, the file holds the identity's mnemonic and id. -/
theorem UserIdentity.readFile_save {fs : Fs Buf} {path : String} {u : UserIdentity Key}
    {m : String} (hm : L.newMnemonic (L.seed u.key) = .ok m)
    (hw : ∀ f, fs path = some f → f.writable = true) :
    readFile (u.save L fs path).2.2 path = .ok (seedVersion11, L.marshal m u.threebotId) := by
  obtain ⟨fs', hfs'⟩ := (writeFile_isOk fs path seedVersion11 _ 0o400).mpr hw
  simp only [save, hm]
  rw [hfs']
  exact readFile_writeFile hfs'

/-- **The seed file round trips.** With lawful libraries, after a `Save` that returns `nil`
    and whose write succeeds (no file at the path, or one the process may write), `Load`
    into any identity returns `nil` with the saved key pair and threebot id. -/
theorem UserIdentity.load_save [Inhabited Key] (hL : L.Lawful) (fs : Fs Buf) (path : String)
    (u u₀ : UserIdentity Key) (hsave : (u.save L fs path).1 = .ok ())
    (hw : ∀ f, fs path = some f → f.writable = true) :
    (u₀.load L (u.save L fs path).2.2 path).1 = .ok () ∧
      (u₀.load L (u.save L fs path).2.2 path).2.key = u.key ∧
      (u₀.load L (u.save L fs path).2.2 path).2.threebotId = u.threebotId := by
  obtain ⟨m, hm⟩ := (u.save_ok L fs path).mp hsave
  have hread := readFile_save L hm hw
  have hv : seedVersion11 ≠ seedVersion1 := by decide
  simp only [load, hread, hv, seedVersionLatest, if_false, ne_eq, not_true_eq_false,
    hL.unmarshal_marshal, fromMnemonic, hL.entropy_newMnemonic _ _ hm, hL.fromSeed_seed, and_self]

/-! ## Sample libraries -/

/-- A byte read back from the character of its code. -/
theorem toUInt8_ofNat_toNat (b : UInt8) : (Char.ofNat b.toNat).toNat.toUInt8 = b := by
  have hv : (b.toNat).isValidChar := Or.inl (Nat.lt_trans b.toBitVec.isLt (by decide))
  rw [Char.ofNat, dif_pos hv]
  exact UInt8.toNat.inj (Nat.mod_eq_of_lt b.toBitVec.isLt)

/-- Libraries over one-byte keys: a key pair is its seed, a mnemonic spells the seed's bytes
    as characters, and a JSON document is the pair of exported fields. -/
def Libraries.byteSeed : Libraries UInt8 (String × UInt64) where
  seed k := [k]
  fromSeed
    | [b] => .ok b
    | _ => .error "invalid seed"
  newMnemonic e := .ok (String.mk (e.map fun b => Char.ofNat b.toNat))
  entropyFromMnemonic m := .ok (m.toList.map fun c => c.toNat.toUInt8)
  marshal m id := (m, id)
  unmarshal buf _ := .ok buf

theorem Libraries.byteSeed_lawful : Libraries.byteSeed.Lawful where
  fromSeed_seed _ := rfl
  entropy_newMnemonic e m h := by
    cases h
    show Except.ok ((e.map fun b => Char.ofNat b.toNat).map fun c => c.toNat.toUInt8) = .ok e
    rw [List.map_map]
    congr 1
    exact (List.map_congr_left fun b _ => toUInt8_ofNat_toNat b).trans (List.map_id' e)
  unmarshal_marshal _ _ _ := rfl

/-- An identity with key 1 and threebot id 1. -/
def oldIdentity : UserIdentity UInt8 := ⟨"", 1, 1⟩

/-- An identity with key 2 and threebot id 2. -/
def newIdentity : UserIdentity UInt8 := ⟨"", 2, 2⟩

/-- An identity as `UserIdentity{}` makes it. -/
def freshIdentity : UserIdentity UInt8 := ⟨"", 0, default⟩

/-- The files after a `Save` of `oldIdentity` to a free path: a seed file the process may
    not write, as `Save` creates it with mode `0400`. -/
def staleSeedFiles : Fs (String × UInt64) :=
  (UserIdentity.save Libraries.byteSeed (fun _ => none) "seed.txt" oldIdentity).2.2

/-- A `Save` of `newIdentity` over the seed file of `oldIdentity` returns `nil`, and a `Load`
    into a fresh identity then returns `nil` with the key and the threebot id of
    `oldIdentity` (and its mnemonic, the character of byte 1), with lawful libraries. -/
theorem save_over_readOnly_seed :
    Libraries.byteSeed.Lawful ∧
      (UserIdentity.save Libraries.byteSeed staleSeedFiles "seed.txt" newIdentity).1 = .ok () ∧
      UserIdentity.load Libraries.byteSeed
          (UserIdentity.save Libraries.byteSeed staleSeedFiles "seed.txt" newIdentity).2.2
          "seed.txt" freshIdentity =
        (.ok (), ⟨"\x01", oldIdentity.threebotId, oldIdentity.key⟩) ∧
      newIdentity.key ≠ oldIdentity.key ∧ newIdentity.threebotId ≠ oldIdentity.threebotId :=
  ⟨Libraries.byteSeed_lawful, rfl, rfl, by decide, by decide⟩

end TfExplorer
