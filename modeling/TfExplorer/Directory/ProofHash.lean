import Mathlib.Data.String.Basic

/-!
# Node Hardware Proofs: `hashProof`

`hashProof` and `NodeAPI.StoreProof` of the directory's node API (`src/unnamed/part_002`).
`StoreProof` pushes a proof of a node's hardware carrying two hashes, each `hashProof` of a
map.

`hashProof` is documented to return "the hex encoded md5 hash of the json encoded version of
p", the same for the same content whatever the map's iteration order. It computes:

1. `kvs := make([]kv, len(p))`, that is `len(p)` zero `kv`s, then appends one `kv` per entry
   in the order `range p` visits them: `2 * len(p)` elements;
2. `sort.Slice` by key;
3. `json.Marshal(kvs)`: the fields `k` and `v` of `kv` are unexported, so `encoding/json`
   writes every element as `{}`; nothing it encodes can fail, so the error return is never
   taken;
4. `md5.New().Sum(b)`: `Sum` appends to `b` the digest of what the hash was written, which is
   nothing; `b` itself is never hashed;
5. `%x`: two lower-case hex digits per byte.

So the hash depends on the number of entries alone (`hashProof_eq_iff`), and every node
pushes the same two hashes (`storeProof_hashes`).
-/

namespace TfExplorer.Directory

variable {α : Type}

/-! ## §1 `hashProof` -/

/-- The element of `hashProof`'s slice, `kv`; the zero `interface{}` is `nil`. -/
structure Kv (α : Type) where
  k : String
  v : Option α

/-- The zero `kv` that `make` fills the slice with. -/
def Kv.zero : Kv α := ⟨"", none⟩

/-- `encoding/json` on a `kv`: an object of its exported fields. `k` and `v` start with a
    lower-case letter, so there are none, and every `kv` is `{}`. -/
def Kv.marshal (_ : Kv α) : List UInt8 := [0x7B, 0x7D]

/-- The elements of a JSON array after its first, each after a `,`. -/
def jsonRest {β : Type} (enc : β → List UInt8) : List β → List UInt8
  | [] => []
  | x :: xs => 0x2C :: enc x ++ jsonRest enc xs

/-- `encoding/json` on a non-nil slice: `[`, the elements separated by `,`, then `]`. -/
def jsonArray {β : Type} (enc : β → List UInt8) : List β → List UInt8
  | [] => [0x5B, 0x5D]
  | x :: xs => 0x5B :: enc x ++ jsonRest enc xs ++ [0x5D]

/-- The MD5 digest of no input, `d41d8cd98f00b204e9800998ecf8427e`. -/
def md5Empty : List UInt8 :=
  [0xd4, 0x1d, 0x8c, 0xd9, 0x8f, 0x00, 0xb2, 0x04, 0xe9, 0x80, 0x09, 0x98, 0xec, 0xf8, 0x42, 0x7e]

/-- `md5.New().Sum(b)`: `b`, then the digest of what the new hash was written, nothing. -/
def md5NewSum (b : List UInt8) : List UInt8 := b ++ md5Empty

/-- `fmt.Sprintf("%x", bs)`: two lower-case hex digits per byte. -/
def hexEncode (bs : List UInt8) : String :=
  String.mk (bs.flatMap fun b => [Nat.digitChar (b.toNat / 16), Nat.digitChar (b.toNat % 16)])

/-- The slice `hashProof` sorts: `len(p)` zero `kv`s, then one `kv` per entry of `p`. -/
def proofKvs (p : List (String × α)) : List (Kv α) :=
  List.replicate p.length Kv.zero ++ p.map fun (k, v) => ⟨k, some v⟩

/-- `hashProof`, for the entries of `p` in the order `range p` visits them. Go's
    `sort.Slice` is not stable and leaves equal keys in an order of its own; the model sorts
    by merge sort, and nothing below depends on the order. -/
def hashProof (p : List (String × α)) : String :=
  let kvs := (proofKvs p).mergeSort fun a b => decide (a.k < b.k)
  hexEncode (md5NewSum (jsonArray Kv.marshal kvs))

/-! ## §2 What the hash depends on -/

@[simp] theorem length_proofKvs (p : List (String × α)) : (proofKvs p).length = 2 * p.length := by
  simp only [proofKvs, List.length_append, List.length_replicate, List.length_map]
  omega

@[simp] theorem length_hexEncode (bs : List UInt8) : (hexEncode bs).length = 2 * bs.length := by
  induction bs with
  | nil => rfl
  | cons b bs ih =>
    simp only [hexEncode, String.length, List.flatMap_cons, List.length_append,
      List.length_cons, List.length_nil] at ih ⊢
    omega

/-- The tail of an array of `kv`s is `,{}` per element. -/
theorem jsonRest_marshal : ∀ {xs ys : List (Kv α)}, xs.length = ys.length →
    jsonRest Kv.marshal xs = jsonRest Kv.marshal ys
  | [], [], _ => rfl
  | _ :: xs, _ :: ys, h => by
    simp only [jsonRest, Kv.marshal, jsonRest_marshal (Nat.succ.inj h)]

theorem length_jsonRest_marshal (xs : List (Kv α)) :
    (jsonRest Kv.marshal xs).length = 3 * xs.length := by
  induction xs with
  | nil => rfl
  | cons x xs ih =>
    simp only [jsonRest, Kv.marshal, List.length_append, List.length_cons, List.length_nil, ih]
    omega

/-- **An array of `kv`s is determined by its length**, as every element is `{}`. -/
theorem jsonArray_marshal_eq : ∀ {xs ys : List (Kv α)}, xs.length = ys.length →
    jsonArray Kv.marshal xs = jsonArray Kv.marshal ys
  | [], [], _ => rfl
  | _ :: _, _ :: _, h => by simp only [jsonArray, Kv.marshal, jsonRest_marshal (Nat.succ.inj h)]

/-- ... and determines it: `[]` has 2 bytes, an array of `n + 1` elements `3 * n + 4`. -/
theorem length_of_jsonArray_marshal {xs ys : List (Kv α)}
    (h : (jsonArray Kv.marshal xs).length = (jsonArray Kv.marshal ys).length) :
    xs.length = ys.length := by
  cases xs <;> cases ys <;>
    simp only [jsonArray, Kv.marshal, List.length_append, List.length_cons, List.length_nil,
      length_jsonRest_marshal] at h ⊢ <;> omega

/-- The sort changes nothing: the hash is that of the slice as `make` and `append` built it. -/
theorem hashProof_eq_unsorted (p : List (String × α)) :
    hashProof p = hexEncode (md5NewSum (jsonArray Kv.marshal (proofKvs p))) := by
  simp only [hashProof]
  rw [jsonArray_marshal_eq (List.length_mergeSort _)]

example : hexEncode (md5NewSum (jsonArray Kv.marshal (proofKvs [("a", (1 : Nat))]))) =
    "5b7b7d2c7b7d5dd41d8cd98f00b204e9800998ecf8427e" := by
  decide

/-- **`hashProof` sees only the number of entries.** For all maps `p` and `q`, in any
    iteration order, the hashes are equal exactly when the maps have as many entries. -/
theorem hashProof_eq_iff (p q : List (String × α)) :
    hashProof p = hashProof q ↔ p.length = q.length := by
  rw [hashProof_eq_unsorted, hashProof_eq_unsorted]
  constructor
  · intro h
    have hlen := congrArg String.length h
    simp only [length_hexEncode, md5NewSum, List.length_append] at hlen
    have hj := length_of_jsonArray_marshal
      (Nat.add_right_cancel (Nat.eq_of_mul_eq_mul_left (by decide) hlen))
    rw [length_proofKvs, length_proofKvs] at hj
    omega
  · intro h
    have hj : (proofKvs p).length = (proofKvs q).length := by rw [length_proofKvs, length_proofKvs, h]
    rw [jsonArray_marshal_eq hj]

/-- Two one-entry maps with different keys and values hash the same. -/
theorem hashProof_ignores_content : hashProof [("a", (1 : Nat))] = hashProof [("b", 2)] :=
  (hashProof_eq_iff _ _).mpr rfl

/-! ## §3 `StoreProof` -/

/-- `dmi.DMI`, the fields `StoreProof` reads. -/
structure Dmi (α : Type) where
  sections : α
  tooling : α

/-- `capacity.Disks`, the fields `StoreProof` reads. -/
structure Disks (α : Type) where
  aggregator : α
  environment : α
  devices : α
  tool : α

/-- `generated.Proof`, the fields `StoreProof` sets. -/
structure Proof (α : Type) where
  created : Int
  hypervisor : List String
  hardware : List (String × α)
  hardwareHash : String
  disks : List (String × α)
  diskHash : String

/-- `NodeAPI.StoreProof` up to `NodePushProof`: the proof it pushes for the node. Its error
    returns after each `hashProof` are never taken. -/
def storeProof (now : Int) (dmi : Dmi α) (disks : Disks α) (hypervisor : List String) :
    Proof α :=
  let hardware := [("sections", dmi.sections), ("tooling", dmi.tooling)]
  let diskMap := [("aggregator", disks.aggregator), ("environment", disks.environment),
    ("devices", disks.devices), ("tool", disks.tool)]
  { created := now, hypervisor, hardware, hardwareHash := hashProof hardware,
    disks := diskMap, diskHash := hashProof diskMap }

/-- **Every node pushes the same two hashes**, whatever its hardware, disks and time. -/
theorem storeProof_hashes (now now' : Int) (dmi dmi' : Dmi α) (disks disks' : Disks α)
    (hypervisor hypervisor' : List String) :
    (storeProof now dmi disks hypervisor).hardwareHash =
        (storeProof now' dmi' disks' hypervisor').hardwareHash ∧
      (storeProof now dmi disks hypervisor).diskHash =
        (storeProof now' dmi' disks' hypervisor').diskHash :=
  ⟨(hashProof_eq_iff _ _).mpr rfl, (hashProof_eq_iff _ _).mpr rfl⟩

end TfExplorer.Directory
