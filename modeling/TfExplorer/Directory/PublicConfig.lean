import Mathlib.Data.List.Chain
import TfExplorer.Directory.Handler

/-!
# `SetPublicConfig`

`NodeAPI.SetPublicConfig`: read the node, number the new configuration one above the
version read (1 when the node had none), and write it. The read and the write are two
store calls with nothing between them. The version is a Go `int64`, so one above
`math.MaxInt64` is `math.MinInt64`.

- §1 nodes and the store calls `SetPublicConfig` makes, with a log of the versions written;
- §2 `int64` addition, and the handler as a `ReadWrite`;
- §3 every write stores the version its call read plus one in `int64`; in a serial run,
  until a write to a node wraps, every write stores a version above the node's and above
  every version written before;
- §4 two overlapping calls, and a node at `math.MaxInt64`.
-/

namespace TfExplorer.Directory

/-! ## §1 Nodes -/

/-- `generated.PublicIface`: a public configuration; `fields` stands for its addresses and
    gateways, which `SetPublicConfig` stores as given. `version` is a Go `int64`. -/
structure PublicIface where
  fields : String
  version : Int
  deriving DecidableEq, Repr

/-- A node of the directory, with the field `SetPublicConfig` reads and writes. -/
structure Node where
  nodeId : String
  publicConfig : Option PublicIface
  deriving DecidableEq, Repr

/-- The node collection, and the log of the versions written to each node, in order. The
    log is not part of the store: it records what the writes stored. -/
structure NodeStore where
  nodes : List Node
  written : List (String × Int)
  deriving DecidableEq, Repr

/-- `NodeFilter.WithNodeID(nodeID)`. -/
def nodeMatches (nodeId : String) (n : Node) : Bool := n.nodeId == nodeId

/-- `NodeAPI.Get`: the node with id `nodeId`. -/
def getNode (nodes : List Node) (nodeId : String) : Option Node := nodes.find? (nodeMatches nodeId)

/-- Modelled from the spec: `directory.NodeSetPublicConfig`, which is not in the source tree,
    as the single-document overwrite of the node's `public_config` that its name says. -/
def setNodePublicConfig (store : NodeStore) (nodeId : String) (cfg : PublicIface) : NodeStore where
  nodes := updateFirst (nodeMatches nodeId) (fun n => { n with publicConfig := some cfg })
    store.nodes
  written := store.written ++ [(nodeId, cfg.version)]

/-- The version of a node's configuration, 0 when it has none. -/
def versionOf (store : NodeStore) (nodeId : String) : Int :=
  match getNode store.nodes nodeId with
  | some node => (node.publicConfig.map (·.version)).getD 0
  | none => 0

/-- The versions written to node `nodeId`, in order. -/
def versionsWritten (store : NodeStore) (nodeId : String) : List Int :=
  (store.written.filter (·.1 == nodeId)).map (·.2)

/-! ## §2 The handler -/

/-- A `SetPublicConfig` call. -/
structure SetPublicConfigRequest where
  nodeId : String
  cfg : PublicIface
  deriving DecidableEq, Repr

/-- The errors `SetPublicConfig` returns. -/
inductive ConfigError where
  | nodeNotFound
  | store
  deriving DecidableEq, Repr

/-- `math.MinInt64`. -/
def int64Min : Int := -9223372036854775808

/-- `math.MaxInt64`. -/
def int64Max : Int := 9223372036854775807

/-- Go's `int64` arithmetic: `x` reduced to 64-bit two's complement. -/
def wrapInt64 (x : Int) : Int :=
  (x + 9223372036854775808) % 18446744073709551616 - 9223372036854775808

/-- Adding one to an `int64` wraps only at `math.MaxInt64`. -/
theorem wrapInt64_succ {v : Int} (hlo : int64Min ≤ v) (hhi : v ≤ int64Max) :
    wrapInt64 (v + 1) = if v = int64Max then int64Min else v + 1 := by
  unfold wrapInt64 int64Min int64Max at *
  split_ifs <;> omega

/-- The version `SetPublicConfig` gives the new configuration: `Version + 1` in `int64`. -/
def nextVersion : Option PublicIface → Int
  | none => 1
  | some cfg => wrapInt64 (cfg.version + 1)

/-- `SetPublicConfig` up to its write: the configuration to write. -/
def setPublicConfigRead (store : NodeStore) (ok : Bool) (req : SetPublicConfigRequest) :
    Except ConfigError PublicIface :=
  if ok then
    match getNode store.nodes req.nodeId with
    | none => .error .nodeNotFound
    | some node => .ok { req.cfg with version := nextVersion node.publicConfig }
  else .error .store

/-- `SetPublicConfig` as a read-then-write handler. -/
def setPublicConfig : ReadWrite NodeStore SetPublicConfigRequest PublicIface ConfigError where
  read := setPublicConfigRead
  write store req cfg := setNodePublicConfig store req.nodeId cfg
  writeError := .store

/-! ## §3 Versions -/

/-- A read that passes found the node, and numbers the configuration one above the node's
    version, in `int64`. -/
theorem setPublicConfigRead_ok {store : NodeStore} {ok : Bool} {req : SetPublicConfigRequest}
    {cfg : PublicIface} (h : setPublicConfigRead store ok req = .ok cfg) :
    (getNode store.nodes req.nodeId).isSome ∧
      cfg = { req.cfg with version := wrapInt64 (versionOf store req.nodeId + 1) } := by
  unfold setPublicConfigRead at h
  split at h
  · split at h
    · cases h
    · rename_i node hnode
      cases h
      refine ⟨by rw [hnode]; rfl, ?_⟩
      cases hc : node.publicConfig <;> simp [versionOf, hnode, hc, nextVersion, wrapInt64]
  · cases h

/-- A write makes its configuration the node's, and logs its version. -/
theorem setNodePublicConfig_self {store : NodeStore} {nodeId : String} {cfg : PublicIface}
    (h : (getNode store.nodes nodeId).isSome) :
    versionOf (setNodePublicConfig store nodeId cfg) nodeId = cfg.version ∧
      versionsWritten (setNodePublicConfig store nodeId cfg) nodeId =
        versionsWritten store nodeId ++ [cfg.version] := by
  obtain ⟨node, hnode⟩ := Option.isSome_iff_exists.mp h
  have hfind := @find?_updateFirst_self _ (nodeMatches nodeId)
    (fun n => { n with publicConfig := some cfg }) (fun _ => rfl) _ _ hnode
  simp only [versionOf, getNode, setNodePublicConfig] at hfind ⊢
  rw [hfind]
  simp [versionsWritten]

/-- A write to one node leaves the others alone. -/
theorem setNodePublicConfig_other {store : NodeStore} {nodeId other : String}
    {cfg : PublicIface} (h : other ≠ nodeId) :
    versionOf (setNodePublicConfig store nodeId cfg) other = versionOf store other ∧
      versionsWritten (setNodePublicConfig store nodeId cfg) other =
        versionsWritten store other := by
  have hfind : (updateFirst (nodeMatches nodeId)
      (fun n => { n with publicConfig := some cfg }) store.nodes).find? (nodeMatches other) =
      store.nodes.find? (nodeMatches other) :=
    @find?_updateFirst_of_disjoint _ (nodeMatches nodeId) (nodeMatches other)
      (fun n => { n with publicConfig := some cfg }) (fun _ => rfl)
      (fun n hn => by
        simp only [nodeMatches, beq_iff_eq, beq_eq_false_iff_ne] at hn ⊢
        rw [hn]; exact Ne.symm h) _
  constructor
  · simp only [versionOf, getNode, setNodePublicConfig, hfind]
  · simp [versionsWritten, setNodePublicConfig, Ne.symm h]

/-- What serial runs keep: every node's version is an `int64`, and as long as no write to a
    node has wrapped (stored `math.MinInt64`), the versions written to it increase and none
    is above its version. -/
def VersionsIncrease (store : NodeStore) : Prop :=
  ∀ nodeId, (int64Min ≤ versionOf store nodeId ∧ versionOf store nodeId ≤ int64Max) ∧
    (int64Min ∉ versionsWritten store nodeId →
      (versionsWritten store nodeId).Chain' (· < ·) ∧
        ∀ v ∈ versionsWritten store nodeId, v ≤ versionOf store nodeId)

/-- What a write stores, when it read a store whose versions increase: the node's version
    plus one in `int64`; and unless that wraps, or an earlier write did, a version above the
    node's and above every version written to it. -/
theorem version_of_read {store : NodeStore} {req : SetPublicConfigRequest} {cfg : PublicIface}
    (hinv : VersionsIncrease store) (hread : setPublicConfigRead store true req = .ok cfg) :
    cfg.version = (if versionOf store req.nodeId = int64Max then int64Min
        else versionOf store req.nodeId + 1) ∧
      (cfg.version ≠ int64Min → int64Min ∉ versionsWritten store req.nodeId →
        versionOf store req.nodeId < cfg.version ∧
          ∀ v ∈ versionsWritten store req.nodeId, v < cfg.version) := by
  obtain ⟨⟨hlo, hhi⟩, hinc⟩ := hinv req.nodeId
  have hnew : cfg.version = if versionOf store req.nodeId = int64Max then int64Min
      else versionOf store req.nodeId + 1 := by
    rw [(setPublicConfigRead_ok hread).2]; exact wrapInt64_succ hlo hhi
  refine ⟨hnew, fun hne hnot => ?_⟩
  have hlt : versionOf store req.nodeId < cfg.version := by split_ifs at hnew <;> omega
  exact ⟨hlt, fun v hv => Int.lt_of_le_of_lt ((hinc hnot).2 v hv) hlt⟩

theorem versionsIncrease_write {store : NodeStore} {req : SetPublicConfigRequest}
    {cfg : PublicIface} (hinv : VersionsIncrease store)
    (hread : setPublicConfigRead store true req = .ok cfg) :
    VersionsIncrease (setNodePublicConfig store req.nodeId cfg) := by
  obtain ⟨hnew, hgt⟩ := version_of_read hinv hread
  intro nodeId
  by_cases hn : nodeId = req.nodeId
  · subst hn
    obtain ⟨⟨hlo, hhi⟩, hinc⟩ := hinv req.nodeId
    obtain ⟨hv, hw⟩ := @setNodePublicConfig_self _ req.nodeId cfg (setPublicConfigRead_ok hread).1
    rw [hv, hw]
    refine ⟨by unfold int64Min int64Max at *; split_ifs at hnew <;> omega, fun hmin => ?_⟩
    -- no write has wrapped, this one included: the new version is above every earlier one
    have hnot : int64Min ∉ versionsWritten store req.nodeId :=
      fun h => hmin (List.mem_append_left _ h)
    have hlt := (hgt (fun h => hmin (List.mem_append_right _ (h ▸ List.mem_singleton_self _)))
      hnot).2
    refine ⟨(hinc hnot).1.append (List.chain'_singleton _) fun x hx y hy => ?_, fun v hv => ?_⟩
    · simp only [List.head?_cons, Option.mem_def, Option.some.injEq] at hy
      subst hy
      exact hlt x (List.mem_of_mem_getLast? hx)
    · rcases List.mem_append.mp hv with hv | hv
      · exact Int.le_of_lt (hlt v hv)
      · exact (List.mem_singleton.mp hv) ▸ Int.le_refl _
  · obtain ⟨hv, hw⟩ := @setNodePublicConfig_other store req.nodeId nodeId cfg hn
    rw [hv, hw]
    exact hinv nodeId

/-- From a store with no version written yet and `int64` versions, every serial run keeps
    the versions increasing until they wrap. -/
theorem SerialReachable.versionsIncrease {store₀ : NodeStore} (h₀ : store₀.written = [])
    (hrange : ∀ nodeId, int64Min ≤ versionOf store₀ nodeId ∧ versionOf store₀ nodeId ≤ int64Max)
    {s : Sys NodeStore SetPublicConfigRequest PublicIface ConfigError}
    (hs : SerialReachable setPublicConfig store₀ s) : VersionsIncrease s.store :=
  SerialReachable.inv setPublicConfig VersionsIncrease
    (fun nodeId => ⟨hrange nodeId, fun _ => by simp [versionsWritten, h₀]⟩)
    (fun _ _ _ hI hread => versionsIncrease_write hI hread) hs

/-- **Versions in a serial run.** From a store with no version written yet whose versions
    are `int64`s, in a run where every write comes while its read is still what the store
    gives, each write stores the node's version plus one in `int64`, which is
    `math.MinInt64` for a node at `math.MaxInt64`. As long as no write to the node has
    wrapped, this one included, the versions written to it strictly increase, and the write
    stores a version above the node's version and above every version written to it
    before. -/
theorem serial_versions_increase {store₀ : NodeStore} (h₀ : store₀.written = [])
    (hrange : ∀ nodeId, int64Min ≤ versionOf store₀ nodeId ∧ versionOf store₀ nodeId ≤ int64Max)
    {s s' : Sys NodeStore SetPublicConfigRequest PublicIface ConfigError}
    {e : Event SetPublicConfigRequest} (hs : SerialReachable setPublicConfig store₀ s)
    (hfresh : s.Fresh setPublicConfig e) (he : s.apply setPublicConfig e = some s') :
    VersionsIncrease s'.store ∧
      ∀ i req cfg, e = .step i true → s.tasks[i]? = some (.write req cfg) →
        cfg.version = (if versionOf s.store req.nodeId = int64Max then int64Min
          else versionOf s.store req.nodeId + 1) ∧
        (int64Min ∉ versionsWritten s'.store req.nodeId →
          versionOf s.store req.nodeId < cfg.version ∧
          ∀ v ∈ versionsWritten s.store req.nodeId, v < cfg.version) := by
  have hs' := SerialReachable.step e hs hfresh he
  refine ⟨hs'.versionsIncrease h₀ hrange, ?_⟩
  rintro i req cfg rfl hp
  have hread : setPublicConfigRead s.store true req = .ok cfg := hfresh req cfg hp
  obtain ⟨hnew, hgt⟩ := version_of_read (hs.versionsIncrease h₀ hrange) hread
  -- the write's store is the write of `cfg`, whose version the log now ends with
  have hst : s'.store = setNodePublicConfig s.store req.nodeId cfg := by
    obtain ⟨p, hp', rfl⟩ := Option.map_eq_some'.mp he
    cases hp.symm.trans hp'
    rfl
  refine ⟨hnew, fun hmin => ?_⟩
  rw [hst, (@setNodePublicConfig_self _ req.nodeId cfg (setPublicConfigRead_ok hread).1).2] at hmin
  exact hgt (fun h => hmin (List.mem_append_right _ (h ▸ List.mem_singleton_self _)))
    fun h => hmin (List.mem_append_left _ h)

/-! ## §4 Two overlapping calls -/

/-- Node `n1`, with no public configuration yet. -/
def freshNode : NodeStore := ⟨[⟨"n1", none⟩], []⟩

/-- A call setting configuration `fields` on `n1`. -/
def setFields (fields : String) : SetPublicConfigRequest := ⟨"n1", ⟨fields, 0⟩⟩

/-- No node of `freshNode` has a version. -/
theorem versionOf_freshNode (nodeId : String) : versionOf freshNode nodeId = 0 := by
  unfold versionOf getNode freshNode
  cases h : nodeMatches nodeId ⟨"n1", none⟩ <;> simp [List.find?, h]

/-- A first call run to its end, then a second call handled up to its write. -/
def secondCallRead : List (Event SetPublicConfigRequest) :=
  [.request (setFields "a"), .step 0 true, .step 0 true, .request (setFields "b"), .step 1 true]

/-- The write of the second of two calls run one after the other: it stores version 2, above
    the version 1 of the first. -/
theorem serial_versions_increase_second :
    let s := Sys.runFrom setPublicConfig freshNode secondCallRead
    let s' := Sys.runFrom setPublicConfig freshNode (secondCallRead ++ [.step 1 true])
    freshNode.written = [] ∧
      (∀ nodeId, int64Min ≤ versionOf freshNode nodeId ∧ versionOf freshNode nodeId ≤ int64Max) ∧
      SerialReachable setPublicConfig freshNode s ∧ s.Fresh setPublicConfig (.step 1 true) ∧
      s.apply setPublicConfig (.step 1 true) = some s' ∧
      VersionsIncrease s'.store ∧
      ∀ i req cfg, (Event.step 1 true : Event SetPublicConfigRequest) = .step i true →
        s.tasks[i]? = some (.write req cfg) →
        cfg.version = (if versionOf s.store req.nodeId = int64Max then int64Min
          else versionOf s.store req.nodeId + 1) ∧
        (int64Min ∉ versionsWritten s'.store req.nodeId →
          versionOf s.store req.nodeId < cfg.version ∧
          ∀ v ∈ versionsWritten s.store req.nodeId, v < cfg.version) := by
  intro s s'
  have hrange : ∀ nodeId, int64Min ≤ versionOf freshNode nodeId ∧
      versionOf freshNode nodeId ≤ int64Max := fun nodeId => by
    rw [versionOf_freshNode]; decide
  -- the two reads find a call at its start; the first write finds its read still current
  have hs : SerialReachable setPublicConfig freshNode s :=
    .step (.step 1 true) (.step (.request (setFields "b"))
      (.step (.step 0 true) (.step (.step 0 true) (.step (.request (setFields "a")) .init trivial rfl)
        (fun _ _ h => nomatch h) rfl) (fun _ _ h => by cases h; rfl) rfl) trivial rfl)
      (fun _ _ h => nomatch h) rfl
  have hfresh : s.Fresh setPublicConfig (.step 1 true) := fun _ _ h => by cases h; rfl
  have he : s.apply setPublicConfig (.step 1 true) = some s' := rfl
  exact ⟨rfl, hrange, hs, hfresh, he, serial_versions_increase rfl hrange hs hfresh he⟩

/-- The versions written and which calls succeeded, after the events `es` from `n1`. -/
def configOutcome (es : List (Event SetPublicConfigRequest)) :
    Option (List (String × Int) × List Bool) :=
  (Sys.run setPublicConfig ⟨freshNode, []⟩ es).map fun s =>
    (s.store.written, s.tasks.map fun
      | .done (.ok ()) => true
      | _ => false)

/-- Node `n1` at version `math.MaxInt64`. -/
def maxNode : NodeStore := ⟨[⟨"n1", some ⟨"a", int64Max⟩⟩], []⟩

/-- **Two calls store the same version, and a version wraps.** When both calls read before
    either writes, both succeed and both store version 1. A call alone on a node at
    `math.MaxInt64` stores `math.MinInt64`, below the version the node had. -/
theorem overlapping_calls_same_version :
    configOutcome [.request (setFields "a"), .request (setFields "b"), .step 0 true,
        .step 1 true, .step 0 true, .step 1 true] =
      some ([("n1", 1), ("n1", 1)], [true, true]) ∧
    (Sys.run setPublicConfig ⟨maxNode, []⟩
        [.request (setFields "b"), .step 0 true, .step 0 true]).map (·.store.written) =
      some [("n1", int64Min)] ∧ int64Min < int64Max := by
  decide

end TfExplorer.Directory
