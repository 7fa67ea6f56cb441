import Mathlib.Data.List.Basic

/-!
# The Migration Tool

The `main` package of `src/unnamed/part_000`: it loads the JSON files that the old store
exported into four collections of the explorer's database. `foreach` lists a directory,
skips directories and files whose extension is not `.json`, and calls a callback on each
file; the first file that does not open, or on which the callback returns an error, stops
the loop. Each migrator's callback decodes its file into a document and inserts it; a
failed insert is logged and skipped, so only a file that does not decode stops a migration
(`migrateNodes` also stops at a node that does not validate). `main` runs the four
migrators in the iteration order of a Go map, which is unspecified, logging their errors.

- §1 `filepath.Ext`, the listing, and `foreach`;
- §2 the callbacks, the migrators, and `main`'s loop over them (`migrateAll`);
- §3 what a migration inserts: the documents of the `.json` files before the first one that
  fails, in listing order, whatever the inserts do (`foreach_loadDoc`, `foreach_loadNode`).

The JSON decoders, `Node.Validate` and `InsertOne` are not in `src`; they are parameters
(`Codecs`). `filepath.Join` is modelled without the cleaning of the joined path.
-/

namespace TfExplorer.Migrate

/-! ## §1 Listing a directory -/

/-- The loop of `filepath.Ext` over the characters of a path from its end: `acc` holds the
    characters already passed, in path order. It stops at a separator with no extension,
    and at a `.` with the extension from there. -/
def extLoop : List Char → List Char → String
  | [], _ => ""
  | c :: cs, acc =>
    if c = '/' then "" else if c = '.' then String.mk ('.' :: acc) else extLoop cs (c :: acc)

/-- `filepath.Ext`: the suffix of `path` from its last `.`, or `""` when a separator comes
    after every `.`. -/
def ext (path : String) : String := extLoop path.toList.reverse []

example : ext "farm.1.json" = ".json" ∧ ext "a.json/b" = "" ∧ ext "json" = "" := by decide

/-- `filepath.Join` of a directory and a name, without `Clean`. -/
def join (root name : String) : String := root ++ "/" ++ name

/-- An entry of the listing `ioutil.ReadDir` returns, with what `os.Open` of it gives: the
    file's contents, or the error. -/
structure DirEntry where
  name : String
  isDir : Bool
  contents : Except String String

section Foreach

variable {σ : Type} (root : String) (f : String → String → σ → σ × Option String)

/-- The loop of `foreach` from state `s` (the callback's effects): it skips directories and
    entries whose extension is not `.json`, and stops at the first file that does not open
    or on which `f` returns an error, with that error. -/
def foreachLoop : List DirEntry → σ → σ × Option String
  | [], s => (s, none)
  | e :: es, s =>
    if e.isDir then foreachLoop es s
    else if ext e.name ≠ ".json" then foreachLoop es s
    else
      match e.contents with
      | .error err => (s, some err)
      | .ok data =>
        match f (join root e.name) data s with
        | (s', some err) => (s', some err)
        | (s', none) => foreachLoop es s'

/-- `foreach`: `ReadDir` of `root`, whose error is returned, then the loop. -/
def foreach (readDir : String → Except String (List DirEntry)) (s : σ) : σ × Option String :=
  match readDir root with
  | .error err => (s, some err)
  | .ok files => foreachLoop root f files s

end Foreach

/-- The entries `foreach` opens: the files with extension `.json`, in listing order. -/
def jsonFiles (es : List DirEntry) : List DirEntry :=
  es.filter fun e => !e.isDir && ext e.name == ".json"

/-! ## §2 The migrators -/

section Load

variable {α : Type} (insertOne : List α → α → Except String (List α))

/-- `InsertOne` as the migrators call it: a failed insert is logged and changes nothing. -/
def insertOrSkip (col : List α) (doc : α) : List α :=
  match insertOne col doc with
  | .error _ => col
  | .ok col' => col'

/-- The callback of `migrateFarms`, `migrateUsers` and `migrateReservations` on the file at
    path `p`: decode the document, returning the error wrapped with the path, and insert
    it, logging a failed insert. -/
def loadDoc (decode : String → Except String α) (p data : String) (col : List α) :
    List α × Option String :=
  match decode data with
  | .error err => (col, some ("failed to load file '" ++ p ++ "': " ++ err))
  | .ok doc =>
    match insertOne col doc with
    | .error _ => (col, none)
    | .ok col' => (col', none)

/-- The callback of `migrateNodes`: as `loadDoc`, with `Node.Validate` between the decode and
    the insert, whose error is wrapped with the path too. -/
def loadNode (decode : String → Except String α) (validate : α → Except String Unit)
    (p data : String) (col : List α) : List α × Option String :=
  match decode data with
  | .error err => (col, some ("failed to load file '" ++ p ++ "': " ++ err))
  | .ok node =>
    match validate node with
    | .error err => (col, some ("file '" ++ p ++ "': " ++ err))
    | .ok () =>
      match insertOne col node with
      | .error _ => (col, none)
      | .ok col' => (col', none)

/-- A callback that parses the file at path `p` and inserts what it parsed, logging a failed
    insert: the shape of every migrator's callback. -/
def loadWith (parse : String → String → Except String α) (p data : String) (col : List α) :
    List α × Option String :=
  match parse p data with
  | .error err => (col, some err)
  | .ok doc => (insertOrSkip insertOne col doc, none)

/-- The decode of `loadDoc`, with its error wrapped with the path. -/
def decodeAt (decode : String → Except String α) (p data : String) : Except String α :=
  (decode data).mapError fun err => "failed to load file '" ++ p ++ "': " ++ err

/-- The decode and validation of `loadNode`, with their errors wrapped with the path. -/
def decodeNodeAt (decode : String → Except String α) (validate : α → Except String Unit)
    (p data : String) : Except String α := do
  let node ← decodeAt decode p data
  (validate node).mapError fun err => "file '" ++ p ++ "': " ++ err
  return node

theorem loadDoc_eq (decode : String → Except String α) :
    loadDoc insertOne decode = loadWith insertOne (decodeAt decode) := by
  funext p data col
  unfold loadDoc loadWith decodeAt insertOrSkip
  cases decode data with
  | error err => rfl
  | ok doc =>
    dsimp only [Except.mapError]
    cases insertOne col doc <;> rfl

theorem loadNode_eq (decode : String → Except String α) (validate : α → Except String Unit) :
    loadNode insertOne decode validate = loadWith insertOne (decodeNodeAt decode validate) := by
  funext p data col
  unfold loadNode loadWith decodeNodeAt decodeAt insertOrSkip
  cases decode data with
  | error err => rfl
  | ok node =>
    dsimp only [Except.mapError, bind, Except.bind, pure, Except.pure]
    rcases validate node with err | ⟨⟩
    · rfl
    · dsimp only
      cases insertOne col node <;> rfl

end Load

/-- What the migrators call that `src` does not hold: the JSON decoder of each document
    type, `Node.Validate`, and `InsertOne` of each collection, which may refuse a
    document. -/
structure Codecs (F N U R : Type) where
  decodeFarm : String → Except String F
  decodeNode : String → Except String N
  decodeUser : String → Except String U
  decodeReservation : String → Except String R
  validateNode : N → Except String Unit
  insertFarm : List F → F → Except String (List F)
  insertNode : List N → N → Except String (List N)
  insertUser : List U → U → Except String (List U)
  insertReservation : List R → R → Except String (List R)

/-- The four collections the migration fills. -/
structure Db (F N U R : Type) where
  farms : List F
  nodes : List N
  users : List U
  reservations : List R
  deriving DecidableEq

section Migrators

variable {F N U R : Type} (c : Codecs F N U R) (readDir : String → Except String (List DirEntry))

/-- `migrateFarms`: `foreach` over `root` into the farm collection. -/
def migrateFarms (root : String) (db : Db F N U R) : Db F N U R × Option String :=
  let r := foreach root (loadDoc c.insertFarm c.decodeFarm) readDir db.farms
  ({ db with farms := r.1 }, r.2)

/-- `migrateNodes`: `foreach` over `root` into the node collection, validating each node. -/
def migrateNodes (root : String) (db : Db F N U R) : Db F N U R × Option String :=
  let r := foreach root (loadNode c.insertNode c.decodeNode c.validateNode) readDir db.nodes
  ({ db with nodes := r.1 }, r.2)

/-- `migrateUsers`: `foreach` over `root` into the user collection. -/
def migrateUsers (root : String) (db : Db F N U R) : Db F N U R × Option String :=
  let r := foreach root (loadDoc c.insertUser c.decodeUser) readDir db.users
  ({ db with users := r.1 }, r.2)

/-- `migrateReservations`: `foreach` over `root` into the reservation collection. -/
def migrateReservations (root : String) (db : Db F N U R) : Db F N U R × Option String :=
  let r := foreach root (loadDoc c.insertReservation c.decodeReservation) readDir
    db.reservations
  ({ db with reservations := r.1 }, r.2)

/-- The keys of `main`'s `types` map. -/
inductive Kind where
  | farm | node | user | reservation
  deriving DecidableEq, Repr

/-- The directory of each kind under the export root. -/
def Kind.path : Kind → String
  | .farm => "tfgrid_directory/tfgrid.directory.farm.1/yaml"
  | .node => "tfgrid_directory/tfgrid.directory.node.2/yaml"
  | .user => "phonebook/tfgrid.phonebook.user.1/yaml"
  | .reservation => "tfgrid_workloads/tfgrid.workloads.reservation.1/yaml"

/-- The migrator of each kind. -/
def Kind.migrator : Kind → String → Db F N U R → Db F N U R × Option String
  | .farm => migrateFarms c readDir
  | .node => migrateNodes c readDir
  | .user => migrateUsers c readDir
  | .reservation => migrateReservations c readDir

/-- The loop of `main` over `types` in iteration order `order`: each migrator runs on its
    directory under `root`; its error is logged. -/
def migrateAll (root : String) (order : List Kind) (db : Db F N U R) : Db F N U R :=
  order.foldl (fun db k => (k.migrator c readDir (join root k.path) db).1) db

end Migrators

/-- Codecs for the examples: a document is a number, node `0` does not validate, and a
    collection refuses a number it holds. -/
def sampleCodecs : Codecs Nat Nat Nat Nat :=
  let decode : String → Except String Nat := fun s =>
    if s.toList.all Char.isDigit then .ok (s.toList.foldl (fun n c => 10 * n + (c.toNat - 48)) 0)
    else .error "invalid character"
  let insert : List Nat → Nat → Except String (List Nat) := fun col n =>
    if n ∈ col then .error "duplicate key" else .ok (col ++ [n])
  ⟨decode, decode, decode, decode, fun n => if n = 0 then .error "missing node id" else .ok (),
    insert, insert, insert, insert⟩

/-- A listing for the examples, the same in every directory. -/
def sampleDir (_ : String) : Except String (List DirEntry) :=
  .ok [⟨"a.json", false, .ok "3"⟩, ⟨"old", true, .ok ""⟩, ⟨"b.yaml", false, .ok "x"⟩,
    ⟨"c.json", false, .ok "3"⟩, ⟨"d.json", false, .ok "0"⟩, ⟨"e.json", false, .ok "5"⟩]

/-! ## §3 What a migration inserts -/

/-- The values of a list of results before its first error, and that error. -/
def okPrefix {ε α : Type} : List (Except ε α) → List α × Option ε
  | [] => ([], none)
  | .error e :: _ => ([], some e)
  | .ok a :: rest => (a :: (okPrefix rest).1, (okPrefix rest).2)

section Loop

variable {α : Type} (insertOne : List α → α → Except String (List α))
  (parse : String → String → Except String α) (root : String)

/-- What a file gives a callback of shape `loadWith`: its document, or the error of its
    open or of its parse. -/
def parseFile (e : DirEntry) : Except String α :=
  e.contents.bind (parse (join root e.name))

/-- **The loop inserts what it parses, in order, up to the first failure.** For every
    listing, `foreach`'s loop with a `loadWith` callback leaves the collection with the
    documents of the `.json` files before the first that does not open or parse inserted
    in listing order, failed inserts skipped, and returns that file's error. -/
theorem foreachLoop_loadWith (es : List DirEntry) (col : List α) :
    foreachLoop root (loadWith insertOne parse) es col =
      (((okPrefix ((jsonFiles es).map (parseFile parse root))).1.foldl
          (insertOrSkip insertOne) col),
        (okPrefix ((jsonFiles es).map (parseFile parse root))).2) := by
  induction es generalizing col with
  | nil => rfl
  | cons e es ih =>
    by_cases hj : e.isDir = false ∧ ext e.name = ".json"
    · obtain ⟨hd, hx⟩ := hj
      have hfiles : jsonFiles (e :: es) = e :: jsonFiles es := by
        simp [jsonFiles, hd, hx]
      rw [hfiles, List.map_cons]
      simp only [foreachLoop, hd, hx, Bool.false_eq_true, if_false, ne_eq, not_true_eq_false]
      unfold parseFile
      cases e.contents with
      | error err => rfl
      | ok data =>
        simp only [Except.bind, loadWith]
        cases parse (join root e.name) data with
        | error err => rfl
        | ok doc => exact ih _
    · have hfiles : jsonFiles (e :: es) = jsonFiles es := by
        simp only [jsonFiles, List.filter_cons, Bool.and_eq_true, Bool.not_eq_true',
          beq_iff_eq, hj, if_false]
      rw [hfiles, ← ih]
      cases hd : e.isDir
      · have hx : ext e.name ≠ ".json" := fun hx => hj ⟨hd, hx⟩
        simp only [foreachLoop, hd, Bool.false_eq_true, if_false, hx, ne_eq, not_false_eq_true,
          if_true]
      · simp only [foreachLoop, hd, if_true]

end Loop

section Migrations

variable {α : Type} (insertOne : List α → α → Except String (List α))
  (decode : String → Except String α) (readDir : String → Except String (List DirEntry))
  (root : String) (col : List α)

/-- **What `migrateFarms`, `migrateUsers` and `migrateReservations` insert.** For every
    listing of `root`, the collection gets the decoded documents of the `.json` files
    before the first one that does not open or decode, in listing order, each `InsertOne`
    that fails skipped; the migration returns the error of that file, with the decode error
    wrapped with its path, or the error of `ReadDir`. -/
theorem foreach_loadDoc :
    foreach root (loadDoc insertOne decode) readDir col =
      match readDir root with
      | .error err => (col, some err)
      | .ok es =>
        let docs := okPrefix ((jsonFiles es).map fun e =>
          e.contents.bind (decodeAt decode (join root e.name)))
        (docs.1.foldl (insertOrSkip insertOne) col, docs.2) := by
  unfold foreach
  cases readDir root with
  | error err => rfl
  | ok es => rw [loadDoc_eq]; exact foreachLoop_loadWith insertOne _ root es col

example : migrateFarms sampleCodecs sampleDir "dump" ⟨[], [], [], []⟩ =
    (⟨[3, 0, 5], [], [], []⟩, none) := by
  decide

/-- **`migrateNodes` stops at the first invalid node too.** For every listing of `root`, the
    node collection gets the decoded nodes of the `.json` files before the first one that
    does not open, decode or validate, in listing order, each `InsertOne` that fails
    skipped; the migration returns that file's error. -/
theorem foreach_loadNode (validate : α → Except String Unit) :
    foreach root (loadNode insertOne decode validate) readDir col =
      match readDir root with
      | .error err => (col, some err)
      | .ok es =>
        let nodes := okPrefix ((jsonFiles es).map fun e =>
          e.contents.bind (decodeNodeAt decode validate (join root e.name)))
        (nodes.1.foldl (insertOrSkip insertOne) col, nodes.2) := by
  unfold foreach
  cases readDir root with
  | error err => rfl
  | ok es => rw [loadNode_eq]; exact foreachLoop_loadWith insertOne _ root es col

example : migrateNodes sampleCodecs sampleDir "dump" ⟨[], [], [], []⟩ =
    (⟨[], [3], [], []⟩, some "file 'dump/d.json': missing node id") := by
  decide

end Migrations

end TfExplorer.Migrate
