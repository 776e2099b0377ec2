import Mathlib.Data.List.Nodup
import SafeClientGateway.Cache.Basic
import SafeClientGateway.Cache.Codec

/-!
# `TargetedMessagingDatasource`: the cache in front of targeted Safes and submissions

`getTargetedSafe` and `getSubmission` read through `CachedQueryResolver.get`: an answer found in
the cache is returned as it is, and on a miss the query's rows are returned and cached.
`createTargetedSafes` and `createSubmission` write their rows and then delete the cache key of
the outreach, under which every answer the write changes is cached.

`Coherent` says that every cached answer is what its query returns on the database as it is,
and that the rows of `targeted_safes` keep their keys. Every admissible request keeps it
(`Coherent.step`), so every run of them does (`Coherent.run`):

* `run_servesFresh`: after any run of admissible requests from an empty cache, each read
  returns what its query returns on the database at that point;
* `createTargetedSafes_returns_inserted`: `createTargetedSafes` returns the rows it inserted,
  one per address, in the order the database chooses.
-/

namespace SafeClientGateway.TargetedMessaging

open Js

/-! ## The tables -/

/-- A row of `targeted_safes`, with the columns the datasource reads. The `TargetedSafe` that
`targetedSafeDbMapper.map` builds from it (not under src/) carries the same three. -/
structure TargetedSafe where
  id : Nat
  outreachId : Nat
  address : JsString
  deriving DecidableEq, Repr

/-- A row of `submissions`; `completionDate` is the `new Date()` of its insert. -/
structure SubmissionRow where
  id : Nat
  targetedSafeId : Nat
  signerAddress : JsString
  completionDate : Nat
  deriving DecidableEq, Repr

/-- The two tables, and the last value each `id` sequence gave out. -/
structure Database where
  targetedSafes : List TargetedSafe
  submissions : List SubmissionRow
  targetedSafesId : Nat
  submissionsId : Nat
  deriving DecidableEq, Repr

/-- `SELECT * FROM targeted_safes WHERE outreach_id = … AND address = …`. -/
def Database.targetedSafesOf (db : Database) (outreachId : Nat) (safeAddress : JsString) :
    List TargetedSafe :=
  db.targetedSafes.filter fun t => decide (t.outreachId = outreachId ∧ t.address = safeAddress)

/-- `SELECT * FROM submissions WHERE targeted_safe_id = … AND signer_address = …`. -/
def Database.submissionsOf (db : Database) (targetedSafeId : Nat) (signerAddress : JsString) :
    List SubmissionRow :=
  db.submissions.filter fun r =>
    decide (r.targetedSafeId = targetedSafeId ∧ r.signerAddress = signerAddress)

/-- `INSERT INTO targeted_safes` of one row per address, in one statement: all rows or none,
each with the next value of the `id` sequence. The table is taken to be unique on
`(outreach_id, address)`: its migration is not under src/, and `getTargetedSafe` reads the first
row of its query as the targeted Safe. `refused` is whether another constraint, such as the
outreach's foreign key, refuses the rows. The `id`s it returns, and the database after it. -/
def Database.insertTargetedSafes (refused : Bool) (outreachId : Nat) (addresses : List JsString)
    (db : Database) : Option (List Nat × Database) :=
  let rows := (addresses.enumFrom (db.targetedSafesId + 1)).map fun p =>
    (⟨p.1, outreachId, p.2⟩ : TargetedSafe)
  if refused = false ∧ addresses.Nodup ∧ ∀ a ∈ addresses, db.targetedSafesOf outreachId a = [] then
    some (rows.map (·.id), { db with
      targetedSafes := db.targetedSafes ++ rows
      targetedSafesId := db.targetedSafesId + addresses.length })
  else none

/-- `INSERT INTO submissions` of one row, with the next value of the `id` sequence; `refused` is
whether a constraint of the table (its migration is not under src/) refuses it. -/
def Database.insertSubmission (refused : Bool) (targetedSafeId : Nat) (signerAddress : JsString)
    (completionDate : Nat) (db : Database) : Option (SubmissionRow × Database) :=
  if refused then none
  else
    let row : SubmissionRow := ⟨db.submissionsId + 1, targetedSafeId, signerAddress, completionDate⟩
    some (row, { db with
      submissions := db.submissions ++ [row]
      submissionsId := db.submissionsId + 1 })

/-- The keys of `targeted_safes` as the datasource relies on them: an `id` names one row, and so
does an outreach with an address; no `id` is past the sequence. -/
structure Database.WellFormed (db : Database) : Prop where
  ids_nodup : (db.targetedSafes.map (·.id)).Nodup
  keys_nodup : (db.targetedSafes.map fun t => (t.outreachId, t.address)).Nodup
  id_le : ∀ t ∈ db.targetedSafes, t.id ≤ db.targetedSafesId

namespace Database

variable {db db' : Database}

theorem WellFormed.eq_of_id (h : db.WellFormed) {t t' : TargetedSafe} (ht : t ∈ db.targetedSafes)
    (ht' : t' ∈ db.targetedSafes) (hid : t.id = t'.id) : t = t' :=
  List.inj_on_of_nodup_map h.ids_nodup ht ht' hid

theorem WellFormed.eq_of_key (h : db.WellFormed) {t t' : TargetedSafe}
    (ht : t ∈ db.targetedSafes) (ht' : t' ∈ db.targetedSafes) (ho : t.outreachId = t'.outreachId)
    (ha : t.address = t'.address) : t = t' :=
  List.inj_on_of_nodup_map h.keys_nodup ht ht' (by rw [ho, ha])

/-- Rows appended that a query does not select leave its answer as it was. -/
theorem filter_append_of_unselected {Row : Type} {p : Row → Bool} (old : List Row)
    {rows : List Row} (h : ∀ r ∈ rows, p r = false) : (old ++ rows).filter p = old.filter p := by
  have hnil : rows.filter p = [] := List.filter_eq_nil_iff.2 fun r hr hp => by simp [h r hr] at hp
  rw [List.filter_append, hnil, List.append_nil]

/-- The rows an insert appends take the `id`s the sequence gives out, in order. -/
theorem map_id_insertedRows (n o : Nat) (addresses : List JsString) :
    ((addresses.enumFrom n).map fun p => (⟨p.1, o, p.2⟩ : TargetedSafe)).map (·.id) =
      List.range' n addresses.length := by
  rw [List.map_map]
  exact List.enumFrom_map_fst _ _

/-- The rows an insert appends have the keys of their outreach and addresses. -/
theorem map_key_insertedRows (n o : Nat) (addresses : List JsString) :
    ((addresses.enumFrom n).map fun p => (⟨p.1, o, p.2⟩ : TargetedSafe)).map
      (fun t => (t.outreachId, t.address)) = addresses.map (Prod.mk o) := by
  conv_rhs => rw [← List.enumFrom_map_snd n addresses]
  rw [List.map_map, List.map_map]
  rfl

/-- What an accepted `INSERT INTO targeted_safes` does: it appends one row per address, in
order, of its outreach and with `id`s past the sequence, returns their `id`s, leaves
`submissions` alone, and keeps the keys. -/
theorem insertTargetedSafes_eq_some {refused : Bool} {o : Nat} {addresses : List JsString}
    {ids : List Nat} (h : db.insertTargetedSafes refused o addresses = some (ids, db'))
    (hwf : db.WellFormed) :
    db'.WellFormed ∧ db'.submissions = db.submissions ∧
      ∃ rows, ids = rows.map (·.id) ∧ rows.map (·.address) = addresses ∧
        db'.targetedSafes = db.targetedSafes ++ rows ∧
        ∀ t ∈ rows, t.outreachId = o ∧ db.targetedSafesId < t.id := by
  unfold insertTargetedSafes at h
  split_ifs at h with hc
  obtain ⟨-, hnd, hfree⟩ := hc
  obtain ⟨rfl, rfl⟩ := Prod.mk.inj (Option.some_inj.1 h)
  set rows := (addresses.enumFrom (db.targetedSafesId + 1)).map fun p =>
    (⟨p.1, o, p.2⟩ : TargetedSafe)
  have hids : rows.map (·.id) = List.range' (db.targetedSafesId + 1) addresses.length :=
    map_id_insertedRows _ _ _
  have hkeys : rows.map (fun t => (t.outreachId, t.address)) = addresses.map (Prod.mk o) :=
    map_key_insertedRows _ _ _
  have hnew : ∀ t ∈ rows, db.targetedSafesId < t.id ∧
      t.id ≤ db.targetedSafesId + addresses.length := fun t ht => by
    have := List.mem_range'_1.1 (hids ▸ List.mem_map_of_mem (fun x : TargetedSafe => x.id) ht)
    omega
  refine ⟨⟨?_, ?_, ?_⟩, rfl, rows, rfl, ?_, rfl, fun t ht => ⟨?_, (hnew t ht).1⟩⟩
  · rw [List.map_append, List.nodup_append, hids]
    refine ⟨hwf.ids_nodup, List.nodup_range' _ _, fun x hold hnew' => ?_⟩
    obtain ⟨t, ht, rfl⟩ := List.mem_map.1 hold
    have := List.mem_range'_1.1 hnew'
    have := hwf.id_le t ht
    omega
  · rw [List.map_append, List.nodup_append, hkeys]
    refine ⟨hwf.keys_nodup, hnd.map (Prod.mk.inj_left o), fun x hold hnew' => ?_⟩
    obtain ⟨t, ht, rfl⟩ := List.mem_map.1 hold
    obtain ⟨a, ha, he⟩ := List.mem_map.1 hnew'
    obtain ⟨rfl, rfl⟩ := Prod.mk.inj he
    have : t ∈ db.targetedSafesOf t.outreachId t.address := List.mem_filter.2 ⟨ht, by simp⟩
    exact absurd (hfree _ ha) (List.ne_nil_of_mem this)
  · intro t ht
    rcases List.mem_append.1 ht with ht | ht
    · exact (hwf.id_le t ht).trans (Nat.le_add_right _ _)
    · exact (hnew t ht).2
  · rw [List.map_map]
    exact List.enumFrom_map_snd _ _
  · obtain ⟨p, -, rfl⟩ := List.mem_map.1 ht
    rfl

/-- What an accepted `INSERT INTO submissions` does: it appends one row of its targeted Safe,
and leaves `targeted_safes` alone. -/
theorem insertSubmission_eq_some {refused : Bool} {id : Nat} {s : JsString} {date : Nat}
    {row : SubmissionRow} (h : db.insertSubmission refused id s date = some (row, db')) :
    db'.targetedSafes = db.targetedSafes ∧ db'.targetedSafesId = db.targetedSafesId ∧
      db'.submissions = db.submissions ++ [row] ∧ row.targetedSafeId = id := by
  unfold insertSubmission at h
  split_ifs at h
  obtain ⟨rfl, rfl⟩ := Prod.mk.inj (Option.some_inj.1 h)
  exact ⟨rfl, rfl, rfl, rfl⟩

theorem WellFormed.of_targetedSafes_eq (h : db.WellFormed)
    (hts : db'.targetedSafes = db.targetedSafes) (hid : db'.targetedSafesId = db.targetedSafesId) :
    db'.WellFormed := by
  obtain ⟨h₁, h₂, h₃⟩ := h
  exact ⟨hts ▸ h₁, hts ▸ h₂, hts ▸ hid ▸ h₃⟩

end Database

/-! ## The datasource -/

/-- The database and the cache the datasource works on. -/
structure State where
  db : Database
  cache : Cache

/-- What the datasource rejects with: `UnprocessableEntityException` with its message, the two
not-found errors, or a collaborator's rejection, passed on. -/
inductive TargetedMessagingError
  | unprocessableEntity (message : JsString)
  | targetedSafeNotFound
  | submissionNotFound
  | thrown (e : JsError)
  deriving DecidableEq, Repr

/-- The argument of `createTargetedSafes`. -/
structure CreateTargetedSafesDto where
  outreachId : Nat
  addresses : List JsString

/-- The functions of `CacheRouter` (not under src/) the datasource calls. -/
structure CacheRouter where
  getTargetedSafeCacheKey : Nat → JsString
  getTargetedSafeCacheDir : Nat → JsString → CacheDir
  getSubmissionCacheKey : Nat → JsString
  getSubmissionCacheDir : Nat → JsString → JsString → CacheDir

/-- The layout the datasource's deletions rely on: each answer is cached under the key of its
outreach, which the writes delete, and two reads share an entry only if they are the same
read. -/
structure CacheRouter.Layout (router : CacheRouter) : Prop where
  targetedSafeDir_key : ∀ o a,
    (router.getTargetedSafeCacheDir o a).key = router.getTargetedSafeCacheKey o
  submissionDir_key : ∀ o a s,
    (router.getSubmissionCacheDir o a s).key = router.getSubmissionCacheKey o
  targetedSafeDir_injective : ∀ {o a o' a'},
    router.getTargetedSafeCacheDir o a = router.getTargetedSafeCacheDir o' a' → o = o' ∧ a = a'
  submissionDir_injective : ∀ {o a s o' a' s'},
    router.getSubmissionCacheDir o a s = router.getSubmissionCacheDir o' a' s' →
      o = o' ∧ a = a' ∧ s = s'
  targetedSafeDir_ne_submissionDir : ∀ o a o' a' s,
    router.getTargetedSafeCacheDir o a ≠ router.getSubmissionCacheDir o' a' s

/-- The order in which the database returns the rows a `SELECT` without `ORDER BY` selects: any
order of them. -/
structure RowOrder (Row : Type) where
  arrange : List Row → List Row
  perm : ∀ rows, (arrange rows).Perm rows

/-- The rows in the order they are stored. -/
def RowOrder.asStored (Row : Type) : RowOrder Row := ⟨id, List.Perm.refl⟩

/-- `const [row] = rows; if (!row) throw notFound`: the first row, or `notFound`. -/
def firstRow {Row : Type} (notFound : TargetedMessagingError) :
    List Row → Except TargetedMessagingError Row
  | [] => .error notFound
  | row :: _ => .ok row

/-- `CachedQueryResolver.get` (not under src/) on a query that succeeds: the parsed rows found
under `cacheDir`, or else the query's rows, which it caches. -/
def cachedQueryResolverGet {Row : Type} (codec : Codec Row) (cacheDir : CacheDir)
    (query : List Row) (cache : Cache) : List Row × Cache :=
  match cache cacheDir with
  | some cached => (codec.parse cached, cache)
  | none => (query, cache.set cacheDir (codec.stringify query))

theorem cachedQueryResolverGet_of_some {Row : Type} {codec : Codec Row} {cacheDir : CacheDir}
    {query : List Row} {cache : Cache} {v : JsString} (h : cache cacheDir = some v) :
    cachedQueryResolverGet codec cacheDir query cache = (codec.parse v, cache) := by
  rw [cachedQueryResolverGet, h]

theorem cachedQueryResolverGet_of_none {Row : Type} {codec : Codec Row} {cacheDir : CacheDir}
    {query : List Row} {cache : Cache} (h : cache cacheDir = none) :
    cachedQueryResolverGet codec cacheDir query cache =
      (query, cache.set cacheDir (codec.stringify query)) := by
  rw [cachedQueryResolverGet, h]

/-- After a read, an entry is one the cache had, or the text of the query's rows under the
read's own directory. -/
theorem cachedQueryResolverGet_snd {Row : Type} {codec : Codec Row} {cacheDir d : CacheDir}
    {query : List Row} {cache : Cache} {v : JsString}
    (h : (cachedQueryResolverGet codec cacheDir query cache).2 d = some v) :
    cache d = some v ∨ d = cacheDir ∧ v = codec.stringify query := by
  cases hc : cache cacheDir with
  | some _ => exact .inl (by rwa [cachedQueryResolverGet_of_some hc] at h)
  | none =>
    rw [cachedQueryResolverGet_of_none hc] at h
    dsimp only at h
    rw [Cache.set_apply] at h
    split_ifs at h with hd
    · exact .inr ⟨hd, (Option.some_inj.1 h).symm⟩
    · exact .inl h

section Datasource

variable (router : CacheRouter) (safesJson : Codec TargetedSafe)
  (submissionsJson : Codec SubmissionRow)

/-- `createTargetedSafes`: the rows inserted and selected back by their `id`s in one
transaction, in the order the database returns them (the `SELECT` has no `ORDER BY`), then the
deletion of the outreach's key. `insertRefused` and `deleteRejects` say how the `INSERT` and
`deleteByKey` settle, and `order` how the database orders the rows it selects. -/
def createTargetedSafes (insertRefused : Bool) (deleteRejects : Option JsError)
    (order : RowOrder TargetedSafe) (dto : CreateTargetedSafesDto) (st : State) :
    Except TargetedMessagingError (List TargetedSafe) × State :=
  match st.db.insertTargetedSafes insertRefused dto.outreachId dto.addresses with
  | none => (.error (.unprocessableEntity (js "Error adding targeted Safes")), st)
  | some (inserted, db) =>
    let targetedSafes := order.arrange (db.targetedSafes.filter fun t => decide (t.id ∈ inserted))
    match deleteRejects with
    | some e => (.error (.thrown e), ⟨db, st.cache⟩)
    | none =>
      (.ok targetedSafes,
        ⟨db, st.cache.deleteByKey (router.getTargetedSafeCacheKey dto.outreachId)⟩)

/-- `getTargetedSafe`. -/
def getTargetedSafe (outreachId : Nat) (safeAddress : JsString) (st : State) :
    Except TargetedMessagingError TargetedSafe × State :=
  let read := cachedQueryResolverGet safesJson (router.getTargetedSafeCacheDir outreachId safeAddress)
    (st.db.targetedSafesOf outreachId safeAddress) st.cache
  (firstRow .targetedSafeNotFound read.1, ⟨st.db, read.2⟩)

/-- `createSubmission`: the row, completed at `now`, then the deletion of the outreach's key.
`insertRefused` and `deleteRejects` say how the `INSERT` and `deleteByKey` settle. -/
def createSubmission (insertRefused : Bool) (deleteRejects : Option JsError)
    (targetedSafe : TargetedSafe) (signerAddress : JsString) (now : Nat) (st : State) :
    Except TargetedMessagingError SubmissionRow × State :=
  match st.db.insertSubmission insertRefused targetedSafe.id signerAddress now with
  | none => (.error (.unprocessableEntity (js "Error creating submission")), st)
  | some (submission, db) =>
    match deleteRejects with
    | some e => (.error (.thrown e), ⟨db, st.cache⟩)
    | none =>
      (.ok submission,
        ⟨db, st.cache.deleteByKey (router.getSubmissionCacheKey targetedSafe.outreachId)⟩)

/-- `getSubmission`. -/
def getSubmission (targetedSafe : TargetedSafe) (signerAddress : JsString) (st : State) :
    Except TargetedMessagingError SubmissionRow × State :=
  let read := cachedQueryResolverGet submissionsJson
    (router.getSubmissionCacheDir targetedSafe.outreachId targetedSafe.address signerAddress)
    (st.db.submissionsOf targetedSafe.id signerAddress) st.cache
  (firstRow .submissionNotFound read.1, ⟨st.db, read.2⟩)

end Datasource

/-! ## Runs of requests -/

/-- A request to the datasource, with how its collaborators settle, or the end of a key's time
to live in the cache. -/
inductive Request
  | createTargetedSafes (insertRefused : Bool) (deleteRejects : Option JsError)
      (order : RowOrder TargetedSafe) (dto : CreateTargetedSafesDto)
  | getTargetedSafe (outreachId : Nat) (safeAddress : JsString)
  | createSubmission (insertRefused : Bool) (deleteRejects : Option JsError)
      (targetedSafe : TargetedSafe) (signerAddress : JsString) (now : Nat)
  | getSubmission (targetedSafe : TargetedSafe) (signerAddress : JsString)
  | expire (key : JsString)

section Run

variable (router : CacheRouter) (safesJson : Codec TargetedSafe)
  (submissionsJson : Codec SubmissionRow)

/-- The state after a request. -/
def Request.step (st : State) : Request → State
  | .createTargetedSafes r d order dto =>
    (TargetedMessaging.createTargetedSafes router r d order dto st).2
  | .getTargetedSafe o a => (TargetedMessaging.getTargetedSafe router safesJson o a st).2
  | .createSubmission r d t s now =>
    (TargetedMessaging.createSubmission router r d t s now st).2
  | .getSubmission t s => (TargetedMessaging.getSubmission router submissionsJson t s st).2
  | .expire key => ⟨st.db, st.cache.deleteByKey key⟩

/-- The state after requests made one after the other. -/
def run (st : State) (requests : List Request) : State :=
  requests.foldl (fun st r => r.step router safesJson submissionsJson st) st

/-- A request as the service makes it: the targeted Safe it passes is a row of the database (the
one `getTargetedSafe` returned), and the cache deletes the key a write asks it to. -/
def Request.Admissible (db : Database) : Request → Prop
  | .createTargetedSafes _ deleteRejects _ _ => deleteRejects = none
  | .createSubmission _ deleteRejects targetedSafe _ _ =>
    deleteRejects = none ∧ targetedSafe ∈ db.targetedSafes
  | .getSubmission targetedSafe _ => targetedSafe ∈ db.targetedSafes
  | .getTargetedSafe .. | .expire _ => True

instance Request.decidableAdmissible (db : Database) : (r : Request) → Decidable (r.Admissible db)
  | .createTargetedSafes _ d _ _ => inferInstanceAs (Decidable (d = none))
  | .createSubmission _ d t _ _ => inferInstanceAs (Decidable (d = none ∧ t ∈ db.targetedSafes))
  | .getSubmission t _ => inferInstanceAs (Decidable (t ∈ db.targetedSafes))
  | .getTargetedSafe .. | .expire _ => isTrue trivial

/-- Every request of the run is admissible in the state it is made in. -/
def AdmissibleRun : State → List Request → Prop
  | _, [] => True
  | st, r :: rs => r.Admissible st.db ∧ AdmissibleRun (r.step router safesJson submissionsJson st) rs

/-- **Every read returns what its query returns now**: a targeted Safe's, and a submission of
any targeted Safe of the database. -/
def ServesFresh (st : State) : Prop :=
  (∀ outreachId safeAddress, (getTargetedSafe router safesJson outreachId safeAddress st).1 =
    firstRow .targetedSafeNotFound (st.db.targetedSafesOf outreachId safeAddress)) ∧
  ∀ t ∈ st.db.targetedSafes, ∀ signerAddress,
    (getSubmission router submissionsJson t signerAddress st).1 =
      firstRow .submissionNotFound (st.db.submissionsOf t.id signerAddress)

end Run

/-! ## The cache agrees with the database -/

section Coherence

variable {router : CacheRouter} {safesJson : Codec TargetedSafe}
  {submissionsJson : Codec SubmissionRow}

variable (router safesJson submissionsJson) in
/-- Every cached answer is what its query returns on the database: a targeted Safe's answer is
its rows, and a submission's is that of the one targeted Safe of its outreach and address. -/
structure Coherent (st : State) extends st.db.WellFormed : Prop where
  targetedSafes : ∀ o a v, st.cache (router.getTargetedSafeCacheDir o a) = some v →
    safesJson.parse v = st.db.targetedSafesOf o a
  submissions : ∀ o a s v, st.cache (router.getSubmissionCacheDir o a s) = some v →
    ∃ t ∈ st.db.targetedSafes, t.outreachId = o ∧ t.address = a ∧
      submissionsJson.parse v = st.db.submissionsOf t.id s

/-- An empty cache agrees with any database whose keys hold. -/
theorem Coherent.init {db : Database} (h : db.WellFormed) :
    Coherent router safesJson submissionsJson ⟨db, Cache.empty⟩ :=
  ⟨h, fun _ _ _ hv => (nomatch hv), fun _ _ _ _ hv => (nomatch hv)⟩

/-- Removing entries keeps the cache in agreement. -/
theorem Coherent.of_removed {st : State} {cache : Cache}
    (h : Coherent router safesJson submissionsJson st)
    (hc : ∀ d v, cache d = some v → st.cache d = some v) :
    Coherent router safesJson submissionsJson ⟨st.db, cache⟩ :=
  ⟨h.toWellFormed, fun o a v hv => h.targetedSafes o a v (hc _ _ hv),
    fun o a s v hv => h.submissions o a s v (hc _ _ hv)⟩

variable (hlay : router.Layout)
include hlay

theorem Coherent.getTargetedSafe {st : State} (h : Coherent router safesJson submissionsJson st)
    (o : Nat) (a : JsString) :
    Coherent router safesJson submissionsJson (getTargetedSafe router safesJson o a st).2 where
  toWellFormed := h.toWellFormed
  targetedSafes o' a' v hv := by
    rcases cachedQueryResolverGet_snd hv with hv | ⟨hd, rfl⟩
    · exact h.targetedSafes o' a' v hv
    · obtain ⟨rfl, rfl⟩ := hlay.targetedSafeDir_injective hd
      exact safesJson.parse_stringify _
  submissions o' a' s v hv := by
    rcases cachedQueryResolverGet_snd hv with hv | ⟨hd, -⟩
    · exact h.submissions o' a' s v hv
    · exact absurd hd.symm (hlay.targetedSafeDir_ne_submissionDir _ _ _ _ _)

theorem Coherent.getSubmission {st : State} (h : Coherent router safesJson submissionsJson st)
    {t : TargetedSafe} (ht : t ∈ st.db.targetedSafes) (s : JsString) :
    Coherent router safesJson submissionsJson (getSubmission router submissionsJson t s st).2 where
  toWellFormed := h.toWellFormed
  targetedSafes o a v hv := by
    rcases cachedQueryResolverGet_snd hv with hv | ⟨hd, -⟩
    · exact h.targetedSafes o a v hv
    · exact absurd hd (hlay.targetedSafeDir_ne_submissionDir _ _ _ _ _)
  submissions o a s' v hv := by
    rcases cachedQueryResolverGet_snd hv with hv | ⟨hd, rfl⟩
    · exact h.submissions o a s' v hv
    · obtain ⟨rfl, rfl, rfl⟩ := hlay.submissionDir_injective hd
      exact ⟨t, ht, rfl, rfl, submissionsJson.parse_stringify _⟩

theorem Coherent.createTargetedSafes {st : State} (h : Coherent router safesJson submissionsJson st)
    (refused : Bool) (order : RowOrder TargetedSafe) (dto : CreateTargetedSafesDto) :
    Coherent router safesJson submissionsJson
      (createTargetedSafes router refused none order dto st).2 := by
  unfold TargetedMessaging.createTargetedSafes
  split
  · exact h
  · rename_i ids db' hi
    dsimp only
    obtain ⟨hwf, hsub, rows, -, -, hts, hrows⟩ :=
      Database.insertTargetedSafes_eq_some hi h.toWellFormed
    refine ⟨hwf, fun o a v hv => ?_, fun o a s v hv => ?_⟩ <;> dsimp only at hv ⊢
    · rw [Cache.deleteByKey_apply, hlay.targetedSafeDir_key] at hv
      split_ifs at hv with hk
      rw [h.targetedSafes o a v hv, Database.targetedSafesOf, Database.targetedSafesOf, hts,
        Database.filter_append_of_unselected _ fun t ht => decide_eq_false fun hp =>
          hk (by rw [← hp.1, (hrows t ht).1])]
    · obtain ⟨t, ht, ho, ha, hp⟩ := h.submissions o a s v (Cache.eq_of_deleteByKey hv)
      refine ⟨t, hts ▸ List.mem_append_left _ ht, ho, ha, ?_⟩
      rw [hp, Database.submissionsOf, Database.submissionsOf, hsub]

theorem Coherent.createSubmission {st : State} (h : Coherent router safesJson submissionsJson st)
    (refused : Bool) {t : TargetedSafe} (ht : t ∈ st.db.targetedSafes) (s : JsString) (now : Nat) :
    Coherent router safesJson submissionsJson
      (createSubmission router refused none t s now st).2 := by
  unfold TargetedMessaging.createSubmission
  split
  · exact h
  · rename_i row db' hi
    dsimp only
    obtain ⟨hts, hid, hsub, hrow⟩ := Database.insertSubmission_eq_some hi
    refine ⟨h.toWellFormed.of_targetedSafes_eq hts hid, fun o a v hv => ?_,
      fun o a s' v hv => ?_⟩ <;> dsimp only at hv ⊢
    · rw [h.targetedSafes o a v (Cache.eq_of_deleteByKey hv), Database.targetedSafesOf,
        Database.targetedSafesOf, hts]
    · rw [Cache.deleteByKey_apply, hlay.submissionDir_key] at hv
      split_ifs at hv with hk
      obtain ⟨t', ht', ho, ha, hp⟩ := h.submissions o a s' v hv
      have hne : row.targetedSafeId ≠ t'.id := fun he => hk <| by
        rw [← ho, h.toWellFormed.eq_of_id ht' ht (hrow ▸ he).symm]
      refine ⟨t', hts ▸ ht', ho, ha, ?_⟩
      rw [hp, Database.submissionsOf, Database.submissionsOf, hsub,
        Database.filter_append_of_unselected _ fun r hr => decide_eq_false fun hq =>
          hne (by rw [← List.mem_singleton.1 hr]; exact hq.1)]

/-- **One step keeps the cache in agreement**: every admissible request does. -/
theorem Coherent.step {st : State} (h : Coherent router safesJson submissionsJson st)
    {r : Request} (hr : r.Admissible st.db) :
    Coherent router safesJson submissionsJson (r.step router safesJson submissionsJson st) := by
  cases r with
  | createTargetedSafes refused d order dto =>
    cases (hr : d = none)
    exact h.createTargetedSafes hlay refused order dto
  | getTargetedSafe o a => exact h.getTargetedSafe hlay o a
  | createSubmission refused d t s now =>
    obtain ⟨rfl, ht⟩ := hr
    exact h.createSubmission hlay refused ht s now
  | getSubmission t s => exact h.getSubmission hlay hr s
  | expire key => exact h.of_removed fun _ _ => Cache.eq_of_deleteByKey

/-- **Every run keeps the cache in agreement**. -/
theorem Coherent.run : ∀ {st : State} (requests : List Request),
    Coherent router safesJson submissionsJson st →
      AdmissibleRun router safesJson submissionsJson st requests →
      Coherent router safesJson submissionsJson (run router safesJson submissionsJson st requests)
  | _, [], h, _ => h
  | _, _ :: requests, h, ⟨hr, hrs⟩ => Coherent.run requests (h.step hlay hr) hrs

omit hlay in
/-- A cache in agreement serves every read fresh. -/
theorem Coherent.servesFresh {st : State} (h : Coherent router safesJson submissionsJson st) :
    ServesFresh router safesJson submissionsJson st := by
  refine ⟨fun o a => ?_, fun t ht s => ?_⟩
  · cases hc : st.cache (router.getTargetedSafeCacheDir o a) with
    | none => simp only [TargetedMessaging.getTargetedSafe, cachedQueryResolverGet_of_none hc]
    | some v =>
      simp only [TargetedMessaging.getTargetedSafe, cachedQueryResolverGet_of_some hc,
        h.targetedSafes o a v hc]
  · cases hc : st.cache (router.getSubmissionCacheDir t.outreachId t.address s) with
    | none => simp only [TargetedMessaging.getSubmission, cachedQueryResolverGet_of_none hc]
    | some v =>
      obtain ⟨t', ht', ho, ha, hp⟩ := h.submissions _ _ s v hc
      obtain rfl := h.toWellFormed.eq_of_key ht' ht ho ha
      simp only [TargetedMessaging.getSubmission, cachedQueryResolverGet_of_some hc, hp]

end Coherence

/-! ## A router and codecs to run the datasource on -/

/-- A targeted Safe's text: its `id`, its outreach, its address. -/
def encodeTargetedSafe (t : TargetedSafe) : JsString :=
  Codec.encodeCount t.id ++ Codec.encodeCount t.outreachId ++ Codec.encodeString t.address

/-- The targeted Safe at the front of a text, and the rest of it. -/
def decodeTargetedSafe (text : JsString) : Option (TargetedSafe × JsString) :=
  (Codec.decodeCount text).bind fun id => (Codec.decodeCount id.2).bind fun o =>
    (Codec.decodeString o.2).map fun a => (⟨id.1, o.1, a.1⟩, a.2)

theorem decodeTargetedSafe_encodeTargetedSafe (t : TargetedSafe) (rest : JsString) :
    decodeTargetedSafe (encodeTargetedSafe t ++ rest) = some (t, rest) := by
  simp only [decodeTargetedSafe, encodeTargetedSafe, List.append_assoc,
    Codec.decodeCount_encodeCount, Option.some_bind, Codec.decodeString_encodeString,
    Option.map_some']

/-- A submission's text: its `id`, its targeted Safe, its signer, its completion date. -/
def encodeSubmissionRow (r : SubmissionRow) : JsString :=
  Codec.encodeCount r.id ++ Codec.encodeCount r.targetedSafeId ++
    Codec.encodeString r.signerAddress ++ Codec.encodeCount r.completionDate

/-- The submission at the front of a text, and the rest of it. -/
def decodeSubmissionRow (text : JsString) : Option (SubmissionRow × JsString) :=
  (Codec.decodeCount text).bind fun id => (Codec.decodeCount id.2).bind fun t =>
    (Codec.decodeString t.2).bind fun s => (Codec.decodeCount s.2).map fun d =>
      (⟨id.1, t.1, s.1, d.1⟩, d.2)

theorem decodeSubmissionRow_encodeSubmissionRow (r : SubmissionRow) (rest : JsString) :
    decodeSubmissionRow (encodeSubmissionRow r ++ rest) = some (r, rest) := by
  simp only [decodeSubmissionRow, encodeSubmissionRow, List.append_assoc,
    Codec.decodeCount_encodeCount, Option.some_bind, Codec.decodeString_encodeString,
    Option.map_some']

/-- Rows of `targeted_safes` in the cache. -/
def targetedSafesJson : Codec TargetedSafe := Codec.ofRows decodeTargetedSafe_encodeTargetedSafe

/-- Rows of `submissions` in the cache. -/
def submissionRowsJson : Codec SubmissionRow :=
  Codec.ofRows decodeSubmissionRow_encodeSubmissionRow

/-- A router that writes an outreach as a count after a letter for the kind of answer (`t` for
targeted Safes, `s` for submissions), and a submission's field as the Safe's address after its
length, then the signer's. -/
def countingRouter : CacheRouter where
  getTargetedSafeCacheKey o := 0x74 :: Codec.encodeCount o
  getTargetedSafeCacheDir o a := ⟨0x74 :: Codec.encodeCount o, a⟩
  getSubmissionCacheKey o := 0x73 :: Codec.encodeCount o
  getSubmissionCacheDir o a s := ⟨0x73 :: Codec.encodeCount o, Codec.encodeString a ++ s⟩

theorem countingRouter_layout : countingRouter.Layout where
  targetedSafeDir_key _ _ := rfl
  submissionDir_key _ _ _ := rfl
  targetedSafeDir_injective h :=
    have ⟨hk, ha⟩ := CacheDir.mk.inj h
    ⟨Codec.encodeCount_inj (List.cons.inj hk).2, ha⟩
  submissionDir_injective h :=
    have ⟨hk, hf⟩ := CacheDir.mk.inj h
    ⟨Codec.encodeCount_inj (List.cons.inj hk).2, Codec.encodeString_append_inj hf⟩
  targetedSafeDir_ne_submissionDir _ _ _ _ _ h :=
    absurd (List.cons.inj (CacheDir.mk.inj h).1).1 (by decide)

/-- The empty tables. -/
def Database.empty : Database := ⟨[], [], 0, 0⟩

theorem Database.wellFormed_empty : Database.empty.WellFormed :=
  ⟨List.nodup_nil, List.nodup_nil, fun _ h => (nomatch h)⟩

/-- The Safe `0x5afe`, the first one targeted, by the first outreach. -/
def targetedSafe₁ : TargetedSafe := ⟨1, 1, js "0x5afe"⟩

/-- A signer of that Safe. -/
def signer₁ : JsString := js "0x519e"

/-- The Safe is looked up before it is targeted, targeted, looked up again; the signer's
submission is looked up before it is made, made, and looked up again. -/
def targetingRequests : List Request :=
  [.getTargetedSafe 1 targetedSafe₁.address,
    .createTargetedSafes false none (.asStored _) ⟨1, [targetedSafe₁.address]⟩,
    .getTargetedSafe 1 targetedSafe₁.address,
    .getSubmission targetedSafe₁ signer₁,
    .createSubmission false none targetedSafe₁ signer₁ 1700000000000,
    .getSubmission targetedSafe₁ signer₁]

/-! ## What `createTargetedSafes` returns -/

/-- **`createTargetedSafes` returns the Safes it added**: when it resolves, the targeted Safes it
selects back by the `id`s its insert returned are the rows the insert appended, in whatever order
the database returns them: one per address given, of the outreach, each with an `id` past every
row there was before. The sequence makes the `id`s fresh, so no earlier row is selected with
them. -/
theorem createTargetedSafes_returns_inserted (router : CacheRouter) {st : State}
    (hwf : st.db.WellFormed) {refused : Bool} {deleteRejects : Option JsError}
    {order : RowOrder TargetedSafe} {dto : CreateTargetedSafesDto} {safes : List TargetedSafe}
    (h : (createTargetedSafes router refused deleteRejects order dto st).1 = .ok safes) :
    ∃ rows, safes.Perm rows ∧ rows.map (·.address) = dto.addresses ∧
      (∀ t ∈ rows, t.outreachId = dto.outreachId ∧ st.db.targetedSafesId < t.id) ∧
      (createTargetedSafes router refused deleteRejects order dto st).2.db.targetedSafes =
        st.db.targetedSafes ++ rows := by
  unfold createTargetedSafes at h ⊢
  cases hi : st.db.insertTargetedSafes refused dto.outreachId dto.addresses with
  | none =>
    simp only [hi] at h
    cases h
  | some p =>
    obtain ⟨ids, db'⟩ := p
    obtain ⟨-, -, rows, rfl, haddr, hts, hrows⟩ := Database.insertTargetedSafes_eq_some hi hwf
    have hold : st.db.targetedSafes.filter (fun t => decide (t.id ∈ rows.map (·.id))) = [] :=
      List.filter_eq_nil_iff.2 fun t ht hsel => by
        obtain ⟨t', ht', he⟩ := List.mem_map.1 (of_decide_eq_true hsel)
        have := (hrows t' ht').2
        have := hwf.id_le t ht
        omega
    have hnew : rows.filter (fun t => decide (t.id ∈ rows.map (·.id))) = rows :=
      List.filter_eq_self.2 fun t ht => decide_eq_true (List.mem_map_of_mem _ ht)
    cases deleteRejects with
    | some e =>
      simp only [hi] at h
      cases h
    | none =>
      simp only [hi, hts, List.filter_append, hold, hnew, List.nil_append, Except.ok.injEq] at h ⊢
      exact ⟨rows, h ▸ order.perm rows, haddr, hrows, rfl⟩

/-- Targeting one Safe for the first outreach returns it. -/
theorem createTargetedSafes_returns_targetedSafe₁ :
    Database.empty.WellFormed ∧
      (createTargetedSafes countingRouter false none (.asStored _) ⟨1, [targetedSafe₁.address]⟩
        ⟨Database.empty, Cache.empty⟩).1 = .ok [targetedSafe₁] ∧
      ∃ rows, [targetedSafe₁].Perm rows ∧ rows.map (·.address) = [targetedSafe₁.address] ∧
        (∀ t ∈ rows, t.outreachId = 1 ∧ Database.empty.targetedSafesId < t.id) ∧
        (createTargetedSafes countingRouter false none (.asStored _) ⟨1, [targetedSafe₁.address]⟩
          ⟨Database.empty, Cache.empty⟩).2.db.targetedSafes = Database.empty.targetedSafes ++ rows :=
  have h : (createTargetedSafes countingRouter false none (.asStored _) ⟨1, [targetedSafe₁.address]⟩
      ⟨Database.empty, Cache.empty⟩).1 = .ok [targetedSafe₁] := rfl
  ⟨Database.wellFormed_empty, h, createTargetedSafes_returns_inserted countingRouter
    Database.wellFormed_empty h⟩

/-! ## Fresh reads -/

/-- **The cache never serves a stale answer**: after any run of admissible requests from an
empty cache, over a database whose keys hold, every read returns what its query returns on the
database at that point. -/
theorem run_servesFresh {router : CacheRouter} {safesJson : Codec TargetedSafe}
    {submissionsJson : Codec SubmissionRow} (hlay : router.Layout) {db : Database}
    (hdb : db.WellFormed) (requests : List Request)
    (hadm : AdmissibleRun router safesJson submissionsJson ⟨db, Cache.empty⟩ requests) :
    ServesFresh router safesJson submissionsJson
      (run router safesJson submissionsJson ⟨db, Cache.empty⟩ requests) :=
  ((Coherent.init hdb).run hlay requests hadm).servesFresh

/-- The reads after targeting a Safe and submitting for it, each made once before, are
fresh. -/
theorem run_servesFresh_targeting :
    countingRouter.Layout ∧ Database.empty.WellFormed ∧
      AdmissibleRun countingRouter targetedSafesJson submissionRowsJson
        ⟨Database.empty, Cache.empty⟩ targetingRequests ∧
      ServesFresh countingRouter targetedSafesJson submissionRowsJson
        (run countingRouter targetedSafesJson submissionRowsJson ⟨Database.empty, Cache.empty⟩
          targetingRequests) :=
  have hadm : AdmissibleRun countingRouter targetedSafesJson submissionRowsJson
      ⟨Database.empty, Cache.empty⟩ targetingRequests :=
    ⟨trivial, rfl, trivial, by decide, ⟨rfl, by decide⟩, by decide, trivial⟩
  ⟨countingRouter_layout, Database.wellFormed_empty, hadm,
    run_servesFresh countingRouter_layout Database.wellFormed_empty _ hadm⟩

end SafeClientGateway.TargetedMessaging
