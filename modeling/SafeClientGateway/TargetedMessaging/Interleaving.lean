import SafeClientGateway.TargetedMessaging.Datasource

/-!
# Concurrent reads and writes of submissions

The service serves requests concurrently, and `getSubmission` and `createSubmission` each wait
on their collaborators more than once, so their steps interleave. A read looks in the cache,
on a miss runs its query, and then caches the rows (the three `await`s of
`CachedQueryResolver.get`); a write inserts its row, then deletes the outreach's key.

Interleaved, the deletion can fall between a read's query and its caching, and the read then
caches an answer from before the write, which later reads return (`lateCaching`).

The staleness goes one way only. Rows are only ever appended, so a query's answer only grows,
and `System.Sound` says that every cached answer, and every answer a read holds or returns, is a
prefix of its query's answer now. One step of one call keeps it (`Call.step_sound`), so every
schedule does:

* `run_returnsStored`: from a state the sequential datasource keeps coherent, with reads that
  start at their beginning and are of targeted Safes of the database (as the service passes
  them), in every interleaving and whatever the collaborators do, a read returns only
  submissions that are in the database, and the cache only ever hides rows.
-/

namespace SafeClientGateway.TargetedMessaging

open Js

/-- Where a `getSubmission` call is: before the cache, after a miss, holding the query's rows,
or done. -/
inductive ReadPc
  | start
  | missed
  | queried (rows : List SubmissionRow)
  | done (result : Except TargetedMessagingError SubmissionRow)

/-- Where a `createSubmission` call is: before the insert, after it, or done. -/
inductive WritePc
  | start
  | inserted (row : SubmissionRow)
  | done (result : Except TargetedMessagingError SubmissionRow)

/-- A call in progress, with its arguments and how its collaborators settle. -/
inductive Call
  | getSubmission (targetedSafe : TargetedSafe) (signerAddress : JsString) (pc : ReadPc)
  | createSubmission (insertRefused : Bool) (deleteRejects : Option JsError)
      (targetedSafe : TargetedSafe) (signerAddress : JsString) (now : Nat) (pc : WritePc)

/-- The calls in progress, and the database and cache they share. -/
structure System where
  calls : List Call
  state : State

section Steps

variable (router : CacheRouter) (submissionsJson : Codec SubmissionRow)

/-- One step of a call, up to its next `await`. -/
def Call.step (st : State) : Call → Call × State
  | .getSubmission t s .start =>
    match st.cache (router.getSubmissionCacheDir t.outreachId t.address s) with
    | some cached =>
      (.getSubmission t s (.done (firstRow .submissionNotFound (submissionsJson.parse cached))), st)
    | none => (.getSubmission t s .missed, st)
  | .getSubmission t s .missed => (.getSubmission t s (.queried (st.db.submissionsOf t.id s)), st)
  | .getSubmission t s (.queried rows) =>
    (.getSubmission t s (.done (firstRow .submissionNotFound rows)),
      ⟨st.db, st.cache.set (router.getSubmissionCacheDir t.outreachId t.address s)
        (submissionsJson.stringify rows)⟩)
  | .getSubmission t s (.done r) => (.getSubmission t s (.done r), st)
  | .createSubmission r d t s now .start =>
    match st.db.insertSubmission r t.id s now with
    | none =>
      (.createSubmission r d t s now
        (.done (.error (.unprocessableEntity (js "Error creating submission")))), st)
    | some (row, db) => (.createSubmission r d t s now (.inserted row), ⟨db, st.cache⟩)
  | .createSubmission r d t s now (.inserted row) =>
    match d with
    | some e => (.createSubmission r d t s now (.done (.error (.thrown e))), st)
    | none =>
      (.createSubmission r d t s now (.done (.ok row)),
        ⟨st.db, st.cache.deleteByKey (router.getSubmissionCacheKey t.outreachId)⟩)
  | .createSubmission r d t s now (.done res) => (.createSubmission r d t s now (.done res), st)

/-- The call `i` takes a step; an index past the calls changes nothing. -/
def System.step (sys : System) (i : Nat) : System :=
  match sys.calls[i]? with
  | none => sys
  | some c =>
    let next := c.step router submissionsJson sys.state
    ⟨sys.calls.set i next.1, next.2⟩

/-- The system after the calls take steps in the order of `schedule`. -/
def System.run (sys : System) (schedule : List Nat) : System :=
  schedule.foldl (System.step router submissionsJson) sys

end Steps

/-! ## What a read can return -/

/-- The database only grows: `targeted_safes` is left alone, and rows are appended to
`submissions`. -/
def Database.Extends (db db' : Database) : Prop :=
  db'.targetedSafes = db.targetedSafes ∧ db'.targetedSafesId = db.targetedSafesId ∧
    ∃ rows, db'.submissions = db.submissions ++ rows

theorem Database.Extends.refl (db : Database) : db.Extends db :=
  ⟨rfl, rfl, [], (List.append_nil _).symm⟩

/-- As the database grows, every query's answer grows at its end. -/
theorem Database.Extends.submissionsOf {db db' : Database} (h : db.Extends db') (id : Nat)
    (s : JsString) : db.submissionsOf id s <+: db'.submissionsOf id s := by
  obtain ⟨-, -, rows, hr⟩ := h
  rw [Database.submissionsOf, Database.submissionsOf, hr, List.filter_append]
  exact List.prefix_append _ _

/-- What a read holds or has returned is in `answer`, its query's answer now: the rows it
queried are a prefix of it, and a submission it returned is one of them. -/
def ReadPc.Sound (answer : List SubmissionRow) : ReadPc → Prop
  | .queried rows => rows <+: answer
  | .done (.ok r) => r ∈ answer
  | _ => True

theorem ReadPc.Sound.mono {answer answer' : List SubmissionRow} (h : answer <+: answer') :
    ∀ {pc : ReadPc}, pc.Sound answer → pc.Sound answer'
  | .queried _, hp => List.IsPrefix.trans hp h
  | .done (.ok _), hp => h.mem hp
  | .start, _ | .missed, _ | .done (.error _), _ => trivial

/-- A read that returns the first of rows it may return has returned a row of the answer. -/
theorem ReadPc.sound_done_firstRow {answer rows : List SubmissionRow} (h : rows <+: answer) :
    (ReadPc.done (firstRow .submissionNotFound rows)).Sound answer := by
  cases rows with
  | nil => trivial
  | cons r _ => exact h.mem (List.mem_cons_self _ _)

/-- A read is of a targeted Safe of the database, and what it holds or has returned is in its
query's answer; a write may be at any point. -/
def Call.Sound (db : Database) : Call → Prop
  | .getSubmission t s pc => t ∈ db.targetedSafes ∧ pc.Sound (db.submissionsOf t.id s)
  | .createSubmission .. => True

theorem Call.Sound.mono {db db' : Database} (h : db.Extends db') :
    ∀ {c : Call}, c.Sound db → c.Sound db'
  | .getSubmission t s _, ⟨ht, hp⟩ => ⟨h.1 ▸ ht, hp.mono (h.submissionsOf t.id s)⟩
  | .createSubmission .., _ => trivial

section Sound

variable {router : CacheRouter} {submissionsJson : Codec SubmissionRow}

variable (router submissionsJson) in
/-- Every cached answer is a prefix of its query's answer now, for the one targeted Safe of its
outreach and address. -/
def CachedPrefixes (st : State) : Prop :=
  ∀ o a s v, st.cache (router.getSubmissionCacheDir o a s) = some v →
    ∃ t ∈ st.db.targetedSafes, t.outreachId = o ∧ t.address = a ∧
      submissionsJson.parse v <+: st.db.submissionsOf t.id s

theorem CachedPrefixes.of_extends {st : State} {db : Database}
    (h : CachedPrefixes router submissionsJson st) (he : st.db.Extends db) :
    CachedPrefixes router submissionsJson ⟨db, st.cache⟩ := fun o a s v hv =>
  have ⟨t, ht, ho, ha, hp⟩ := h o a s v hv
  ⟨t, he.1 ▸ ht, ho, ha, hp.trans (he.submissionsOf t.id s)⟩

theorem CachedPrefixes.of_removed {st : State} {cache : Cache}
    (h : CachedPrefixes router submissionsJson st)
    (hc : ∀ d v, cache d = some v → st.cache d = some v) :
    CachedPrefixes router submissionsJson ⟨st.db, cache⟩ := fun o a s v hv =>
  h o a s v (hc _ _ hv)

variable (router submissionsJson) in
/-- The invariant of interleaved calls: the keys of `targeted_safes` hold, every cached answer
is a prefix of its query's answer, and so is what every read holds or has returned. -/
structure System.Sound (sys : System) : Prop where
  wellFormed : sys.state.db.WellFormed
  cached : CachedPrefixes router submissionsJson sys.state
  calls : ∀ c ∈ sys.calls, c.Sound sys.state.db

variable (hlay : router.Layout)
include hlay

/-- **One step of one call keeps the invariant**: the database grows, the cache keeps only
prefixes, and the call stays sound, whatever its collaborators do. -/
theorem Call.step_sound {st : State} (hwf : st.db.WellFormed)
    (hcache : CachedPrefixes router submissionsJson st) {c : Call} (hc : c.Sound st.db) :
    st.db.Extends (c.step router submissionsJson st).2.db ∧
      CachedPrefixes router submissionsJson (c.step router submissionsJson st).2 ∧
      (c.step router submissionsJson st).1.Sound (c.step router submissionsJson st).2.db := by
  rcases c with ⟨t, s, _ | _ | rows | r⟩ | ⟨refused, d, t, s, now, _ | row | r⟩
  case getSubmission.start =>
    cases hv : st.cache (router.getSubmissionCacheDir t.outreachId t.address s) with
    | none =>
      simp only [Call.step, hv]
      exact ⟨.refl _, hcache, hc.1, trivial⟩
    | some v =>
      simp only [Call.step, hv]
      obtain ⟨t', ht', ho, ha, hp⟩ := hcache _ _ _ v hv
      obtain rfl := hwf.eq_of_key ht' hc.1 ho ha
      exact ⟨.refl _, hcache, hc.1, ReadPc.sound_done_firstRow hp⟩
  case getSubmission.missed => exact ⟨.refl _, hcache, hc.1, List.prefix_refl _⟩
  case getSubmission.queried =>
    refine ⟨.refl _, fun o a s' v hv => ?_, hc.1, ReadPc.sound_done_firstRow hc.2⟩
    simp only [Call.step, Cache.set_apply] at hv
    split_ifs at hv with hd
    · obtain ⟨rfl, rfl, rfl⟩ := hlay.submissionDir_injective hd
      obtain rfl := Option.some_inj.1 hv
      exact ⟨t, hc.1, rfl, rfl, by rw [submissionsJson.parse_stringify]; exact hc.2⟩
    · exact hcache o a s' v hv
  case getSubmission.done => exact ⟨.refl _, hcache, hc⟩
  case createSubmission.start =>
    simp only [Call.step]
    cases hi : st.db.insertSubmission refused t.id s now with
    | none => exact ⟨.refl _, hcache, trivial⟩
    | some p =>
      obtain ⟨hts, hid, hsub, -⟩ := Database.insertSubmission_eq_some hi
      have he : st.db.Extends p.2 := ⟨hts, hid, [p.1], hsub⟩
      exact ⟨he, hcache.of_extends he, trivial⟩
  case createSubmission.inserted =>
    simp only [Call.step]
    cases d with
    | some e => exact ⟨.refl _, hcache, trivial⟩
    | none => exact ⟨.refl _, hcache.of_removed fun _ _ => Cache.eq_of_deleteByKey, trivial⟩
  case createSubmission.done => exact ⟨.refl _, hcache, trivial⟩

/-- One step of the system keeps the invariant: the call that steps by `Call.step_sound`, the
others because their answers only grow. -/
theorem System.Sound.step {sys : System} (h : sys.Sound router submissionsJson) (i : Nat) :
    (sys.step router submissionsJson i).Sound router submissionsJson := by
  unfold System.step
  cases hc : sys.calls[i]? with
  | none => exact h
  | some c =>
    obtain ⟨he, hcache, hc'⟩ :=
      Call.step_sound hlay h.wellFormed h.cached (h.calls c (List.getElem?_mem hc))
    dsimp only
    refine ⟨h.wellFormed.of_targetedSafes_eq he.1 he.2.1, hcache, fun c' hm => ?_⟩
    rcases List.mem_or_eq_of_mem_set hm with hm | rfl
    · exact (h.calls c' hm).mono he
    · exact hc'

/-- **Every schedule keeps the invariant**. -/
theorem System.Sound.run : ∀ {sys : System} (schedule : List Nat),
    sys.Sound router submissionsJson →
      (sys.run router submissionsJson schedule).Sound router submissionsJson
  | _, [], h => h
  | _, i :: schedule, h => System.Sound.run schedule (h.step hlay i)

end Sound

/-! ## No phantom submissions -/

section Stored

variable (router : CacheRouter) (submissionsJson : Codec SubmissionRow)

/-- **Reads return only stored submissions**: every read that has returned a submission
returned a row of the database, and every answer cached for a targeted Safe is a prefix of its
query's answer now: the cache may hide rows, never add one. -/
def ReturnsStored (sys : System) : Prop :=
  (∀ t s r, Call.getSubmission t s (.done (.ok r)) ∈ sys.calls →
    r ∈ sys.state.db.submissionsOf t.id s) ∧
  ∀ t ∈ sys.state.db.targetedSafes, ∀ s v,
    sys.state.cache (router.getSubmissionCacheDir t.outreachId t.address s) = some v →
      submissionsJson.parse v <+: sys.state.db.submissionsOf t.id s

variable {router submissionsJson}

theorem System.Sound.returnsStored {sys : System} (h : sys.Sound router submissionsJson) :
    ReturnsStored router submissionsJson sys := by
  refine ⟨fun t s r hm => (h.calls _ hm).2, fun t ht s v hv => ?_⟩
  obtain ⟨t', ht', ho, ha, hp⟩ := h.cached _ _ _ v hv
  obtain rfl := h.wellFormed.eq_of_key ht' ht ho ha
  exact hp

/-- Calls at their start, over a state the sequential datasource keeps coherent, start the
invariant. -/
theorem System.Sound.init {safesJson : Codec TargetedSafe} {st : State}
    (hst : Coherent router safesJson submissionsJson st) {calls : List Call}
    (hcalls : ∀ t s pc, Call.getSubmission t s pc ∈ calls → pc = .start ∧ t ∈ st.db.targetedSafes) :
    System.Sound router submissionsJson ⟨calls, st⟩ := by
  refine ⟨hst.toWellFormed, fun o a s v hv => ?_, fun c hc => ?_⟩
  · obtain ⟨t, ht, ho, ha, hp⟩ := hst.submissions o a s v hv
    exact ⟨t, ht, ho, ha, hp ▸ List.prefix_refl _⟩
  · cases c with
    | getSubmission t s pc =>
      obtain ⟨rfl, ht⟩ := hcalls t s pc hc
      exact ⟨ht, trivial⟩
    | createSubmission => trivial

/-- **Interleaved reads never return a submission that is not stored**: from any state the
sequential datasource keeps coherent, with reads of targeted Safes of the database and writes
in any number, whatever their collaborators do and in every order of their steps, a read
returns only rows of the database, and the cache only hides rows. -/
theorem run_returnsStored {safesJson : Codec TargetedSafe} (hlay : router.Layout) {st : State}
    (hst : Coherent router safesJson submissionsJson st) {calls : List Call}
    (hcalls : ∀ t s pc, Call.getSubmission t s pc ∈ calls → pc = .start ∧ t ∈ st.db.targetedSafes)
    (schedule : List Nat) :
    ReturnsStored router submissionsJson (System.run router submissionsJson ⟨calls, st⟩ schedule) :=
  ((System.Sound.init hst hcalls).run hlay schedule).returnsStored

end Stored

/-- A read and a write of one signer's submission for one Safe, both at their start; the write's
collaborators accept it. -/
def racingCalls (t : TargetedSafe) (s : JsString) (now : Nat) : List Call :=
  [.getSubmission t s .start, .createSubmission false none t s now .start]

/-- The read misses and queries, the write inserts and deletes the key, and the read caches its
rows: the answer it caches is from before the write. -/
def lateCaching : List Nat := [0, 0, 1, 1, 0]

/-- The one targeted Safe, before any submission, with an empty cache. -/
def beforeSubmission : State := ⟨⟨[targetedSafe₁], [], 1, 0⟩, Cache.empty⟩

/-- Even the race that leaves the cache stale returns only stored submissions. -/
theorem run_returnsStored_lateCaching :
    countingRouter.Layout ∧
      Coherent countingRouter targetedSafesJson submissionRowsJson beforeSubmission ∧
      (∀ t s pc, Call.getSubmission t s pc ∈ racingCalls targetedSafe₁ signer₁ 1700000000000 →
        pc = .start ∧ t ∈ beforeSubmission.db.targetedSafes) ∧
      ReturnsStored countingRouter submissionRowsJson
        (System.run countingRouter submissionRowsJson
          ⟨racingCalls targetedSafe₁ signer₁ 1700000000000, beforeSubmission⟩ lateCaching) :=
  have hst : Coherent countingRouter targetedSafesJson submissionRowsJson beforeSubmission :=
    Coherent.init ⟨by decide, by decide, by decide⟩
  have hcalls : ∀ t s pc, Call.getSubmission t s pc ∈ racingCalls targetedSafe₁ signer₁ 1700000000000 →
      pc = .start ∧ t ∈ beforeSubmission.db.targetedSafes := fun t s pc hm => by
    simp only [racingCalls, List.mem_cons, Call.getSubmission.injEq, List.mem_singleton,
      reduceCtorEq, or_false, List.not_mem_nil] at hm
    obtain ⟨rfl, -, rfl⟩ := hm
    exact ⟨rfl, List.mem_singleton_self _⟩
  ⟨countingRouter_layout, hst, hcalls, run_returnsStored countingRouter_layout hst hcalls _⟩

end SafeClientGateway.TargetedMessaging
