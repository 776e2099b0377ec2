import SafeClientGateway.Auth.Repository
import Mathlib.Data.List.Nodup

/-!
# Concurrent `verify` and `generateNonce` calls

Requests are served concurrently over one cache. A `verify` call touches the cache at three
points, each an atomic command of the cache: the expiry check (no access), the `get` of the
nonce inside `Promise.all`, and the `deleteByKey` of its `finally` block. A `generateNonce`
call touches it once, with its `set`; an entry may also expire at any time. An interleaving is
any order of these steps (`System.run`).

* `replay_issues_two_tokens`: two requests carrying one nonce whose `get`s both run before
  either `deleteByKey` are both issued a token;
* `issued_token_nonce_stored`: in every interleaving, a token is issued only for a nonce a
  `generateNonce` call stored (`Provenance`, kept by every step);
* `consumed_nonce_not_reaccepted`: once a `verify` that read its nonce has deleted it, no
  request with that nonce that has not yet read the cache is issued a token, in any
  continuation (`NonceInvariant`, for distinct nonces).
-/

namespace SafeClientGateway.Auth

open Js

/-- Where a `verify` call is. -/
inductive VerifyPc
  /-- before the expiry check -/
  | start
  /-- `verifyMessage` and `get` issued; the `get` has not read the cache yet -/
  | reading
  /-- the `try` block settled with `result`; `deleteByKey` issued -/
  | deleting (result : Bool)
  /-- `isValid` settled with `valid` -/
  | done (valid : Except JsError Bool)

/-- A call in flight. -/
inductive Thread
  /-- `verify(args)`, its collaborators settling as `env` says -/
  | verify (env : VerifyEnv) (args : VerifyAuthMessageDto) (pc : VerifyPc)
  /-- `generateNonce()`, `authApi.generateNonce()` having returned `nonce`; `stored` once its
  `set` has run -/
  | generateNonce (nonce : JsString) (setRejects : Option JsError) (stored : Bool)

/-- The shared cache and the calls in flight. -/
structure System where
  cache : Cache
  threads : List Thread

/-- A step of an interleaving: a step of one call, or the expiry of a cache key. -/
inductive Event
  | step (thread : Nat)
  | expire (key : JsString)
  deriving DecidableEq, Repr

section Interleaving

variable (authNonceCacheDir : JsString → CacheDir)

/-- One step of a call on the cache. A settled call does not step. -/
def Thread.step : Thread → Cache → Thread × Cache
  | .verify env args .start, cache =>
    (.verify env args (if isExpired args.message env.checkedAt then .deleting false else .reading),
      cache)
  | .verify env args .reading, cache =>
    (.verify env args
      (.deleting (readResult authNonceCacheDir env.verifyMessage env.getRejects args.message cache)),
      cache)
  | .verify env args (.deleting result), cache =>
    let (valid, cache') := finallyDelete authNonceCacheDir env.deleteRejects args.message result cache
    (.verify env args (.done valid), cache')
  | .verify env args (.done valid), cache => (.verify env args (.done valid), cache)
  | .generateNonce nonce setRejects false, cache =>
    (.generateNonce nonce setRejects true, (Auth.generateNonce authNonceCacheDir nonce setRejects cache).2)
  | .generateNonce nonce setRejects true, cache => (.generateNonce nonce setRejects true, cache)

/-- One step of an interleaving. -/
def System.step (s : System) : Event → System
  | .step i =>
    match s.threads[i]? with
    | some t =>
      let (t', cache') := t.step authNonceCacheDir s.cache
      ⟨cache', s.threads.set i t'⟩
    | none => s
  | .expire key => ⟨s.cache.deleteByKey key, s.threads⟩

/-- An interleaving. -/
def System.run (s : System) (events : List Event) : System :=
  events.foldl (System.step authNonceCacheDir) s

@[simp] theorem System.run_nil (s : System) : s.run authNonceCacheDir [] = s := rfl

@[simp] theorem System.run_cons (s : System) (e : Event) (events : List Event) :
    s.run authNonceCacheDir (e :: events) = (s.step authNonceCacheDir e).run authNonceCacheDir events :=
  rfl

/-- The answer a call gives, once settled: for a `verify`, what `respond` makes of `isValid`. -/
def Thread.response : Thread → Option (Except VerifyError AccessToken)
  | .verify env args (.done valid) => some (respond env args valid).1
  | _ => none

/-- A `verify` call carrying `nonce` that returned an access token. -/
def Thread.issuedTokenFor (nonce : JsString) : Thread → Bool
  | t@(.verify _ args _) =>
    args.message.nonce = nonce && match t.response with
      | some (.ok _) => true
      | _ => false
  | .generateNonce .. => false

/-- The nonce a `generateNonce` call was given. -/
def Thread.generated : Thread → Option JsString
  | .generateNonce nonce _ _ => some nonce
  | .verify .. => none

/-- The nonces the `generateNonce` calls were given. -/
def generatedNonces (threads : List Thread) : List JsString := threads.filterMap Thread.generated

/-- A call that has not taken a step. -/
def Thread.fresh : Thread → Bool
  | .verify _ _ .start => true
  | .generateNonce _ _ false => true
  | _ => false

/-! ## A call alone is the sequential `isValid` -/

/-! ## What one step does -/

theorem System.step_of_get {s : System} {k : Nat} {t : Thread} (h : s.threads[k]? = some t) :
    s.step authNonceCacheDir (.step k) =
      ⟨(t.step authNonceCacheDir s.cache).2,
        s.threads.set k (t.step authNonceCacheDir s.cache).1⟩ := by
  simp [System.step, h]

/-- The call at an index after one step: unchanged, or the one step of that call. -/
theorem System.get_step (s : System) (e : Event) (i : Nat) :
    (s.step authNonceCacheDir e).threads[i]? = s.threads[i]? ∨
      ∃ t, s.threads[i]? = some t ∧
        (s.step authNonceCacheDir e).threads[i]? = some (t.step authNonceCacheDir s.cache).1 ∧
        (s.step authNonceCacheDir e).cache = (t.step authNonceCacheDir s.cache).2 := by
  cases e with
  | expire key => exact .inl rfl
  | step k =>
    cases h : s.threads[k]? with
    | none => simp [System.step, h]
    | some t =>
      rw [System.step_of_get authNonceCacheDir h]
      by_cases hk : k = i
      · subst hk
        exact .inr ⟨t, h, by simp [(List.getElem?_eq_some_iff.1 h).1], rfl⟩
      · exact .inl (List.getElem?_set_ne hk)

/-- What one step of a call does to the cache: nothing, a `deleteByKey`, or the `set` of a
`generateNonce` call, which the call records. -/
theorem Thread.step_cache (t : Thread) (cache : Cache) :
    (t.step authNonceCacheDir cache).2 = cache ∨
      (∃ key, (t.step authNonceCacheDir cache).2 = cache.deleteByKey key) ∨
      ∃ n, t = .generateNonce n none false ∧
        (t.step authNonceCacheDir cache).2 = cache.set (authNonceCacheDir n) n ∧
        (t.step authNonceCacheDir cache).1 = .generateNonce n none true := by
  rcases t with ⟨env, args, _ | _ | result | valid⟩ | ⟨n, _ | r, _ | _⟩
  case verify.deleting =>
    simp only [Thread.step, finallyDelete]
    split
    · exact .inl rfl
    · exact .inr (.inl ⟨_, rfl⟩)
  case generateNonce.none.false => exact .inr (.inr ⟨n, rfl, rfl, rfl⟩)
  all_goals exact .inl rfl

/-- A step changes the cache in one of two ways: it only removes entries, or it is the `set`
of a `generateNonce` call. -/
theorem System.cache_step (s : System) (e : Event) :
    (∀ d v, (s.step authNonceCacheDir e).cache d = some v → s.cache d = some v) ∨
    ∃ (i : Nat) (n : JsString),
      s.threads[i]? = some (Thread.generateNonce n none false) ∧
      (s.step authNonceCacheDir e).cache = s.cache.set (authNonceCacheDir n) n ∧
      (s.step authNonceCacheDir e).threads[i]? = some (Thread.generateNonce n none true) := by
  cases e with
  | expire key => exact .inl fun d v => Cache.eq_of_deleteByKey
  | step k =>
    cases h : s.threads[k]? with
    | none => exact .inl fun d v hd => by simpa [System.step, h] using hd
    | some t =>
      rw [System.step_of_get authNonceCacheDir h]
      rcases Thread.step_cache authNonceCacheDir t s.cache with hc | ⟨key, hc⟩ | ⟨n, rfl, hc, ht⟩
      · exact .inl fun d v hd => hc ▸ hd
      · exact .inl fun d v hd => Cache.eq_of_deleteByKey (hc ▸ hd)
      · exact .inr ⟨k, n, h, hc, by simp [ht, (List.getElem?_eq_some_iff.1 h).1]⟩

theorem Thread.generated_step (t : Thread) (cache : Cache) :
    (t.step authNonceCacheDir cache).1.generated = t.generated := by
  rcases t with ⟨env, args, _ | _ | _ | _⟩ | ⟨n, _, _ | _⟩ <;> rfl

/-- A call that steps into `deleting true` was reading, and read its nonce. -/
theorem Thread.step_eq_deleting_true {t : Thread} {cache : Cache} {env : VerifyEnv}
    {args : VerifyAuthMessageDto}
    (h : (t.step authNonceCacheDir cache).1 = .verify env args (.deleting true)) :
    t = .verify env args .reading ∧
      cache (authNonceCacheDir args.message.nonce) = some args.message.nonce := by
  rcases t with ⟨env', args', _ | _ | result | valid⟩ | ⟨n, r, _ | _⟩
  · simp only [Thread.step] at h
    split_ifs at h <;> simp at h
  · simp only [Thread.step, Thread.verify.injEq, VerifyPc.deleting.injEq] at h
    obtain ⟨rfl, rfl, hr⟩ := h
    exact ⟨rfl, ((readResult_eq_true authNonceCacheDir).1 hr).2.2⟩
  all_goals simp [Thread.step] at h

/-- A call that steps into `done (.ok true)` was there already, or was deleting its nonce after
reading it, and the `deleteByKey` resolved. -/
theorem Thread.step_eq_done_ok_true {t : Thread} {cache cache' : Cache} {env : VerifyEnv}
    {args : VerifyAuthMessageDto}
    (h : t.step authNonceCacheDir cache = (.verify env args (.done (.ok true)), cache')) :
    t = .verify env args (.done (.ok true)) ∨
      t = .verify env args (.deleting true) ∧
        cache' = cache.deleteByKey (authNonceCacheDir args.message.nonce).key := by
  rcases t with ⟨env', args', _ | _ | result | valid⟩ | ⟨n, r, _ | _⟩
  · simp only [Thread.step] at h
    split_ifs at h <;> simp at h
  · simp [Thread.step] at h
  · simp only [Thread.step, finallyDelete] at h
    split at h <;> simp only [Prod.mk.injEq, Thread.verify.injEq, VerifyPc.done.injEq] at h
    · cases h.1.2.2
    · obtain ⟨⟨rfl, rfl, hr⟩, rfl⟩ := h
      cases hr
      exact .inr ⟨rfl, rfl⟩
  · simp only [Thread.step, Prod.mk.injEq, Thread.verify.injEq, VerifyPc.done.injEq] at h
    obtain ⟨⟨rfl, rfl, rfl⟩, -⟩ := h
    exact .inl rfl
  all_goals simp [Thread.step] at h

/-- A `verify` call at `pc` will not resolve `isValid` to `true`. -/
def NotAccepting (pc : VerifyPc) : Prop :=
  pc = .start ∨ pc = .reading ∨ pc = .deleting false ∨ ∃ v, pc = .done v ∧ v ≠ .ok true

/-- While its nonce is not in the cache, a call that will not accept steps to one that will
not either. -/
theorem Thread.step_notAccepting {env : VerifyEnv} {args : VerifyAuthMessageDto} {pc : VerifyPc}
    (hpc : NotAccepting pc) {cache : Cache}
    (hc : cache (authNonceCacheDir args.message.nonce) ≠ some args.message.nonce) :
    ∃ pc', ((Thread.verify env args pc).step authNonceCacheDir cache).1 = .verify env args pc' ∧
      NotAccepting pc' := by
  rcases hpc with rfl | rfl | rfl | ⟨v, rfl, hv⟩
  · refine ⟨_, rfl, ?_⟩
    split_ifs
    · exact .inr (.inr (.inl rfl))
    · exact .inr (.inl rfl)
  · refine ⟨_, rfl, .inr (.inr (.inl ?_))⟩
    congr 1
    by_contra hr
    exact hc ((readResult_eq_true authNonceCacheDir).1 (by simpa using hr)).2.2
  · refine ⟨_, rfl, .inr (.inr (.inr ⟨_, rfl, ?_⟩))⟩
    rcases hd : env.deleteRejects with _ | e <;> simp [finallyDelete, hd]
  · exact ⟨_, rfl, .inr (.inr (.inr ⟨v, rfl, hv⟩))⟩

/-- While its nonce is not in the cache, a `verify` call that will not accept stays so over
one step of the system. -/
theorem System.get_step_notAccepting {s : System} {j : Nat} {env : VerifyEnv}
    {args : VerifyAuthMessageDto} {pc : VerifyPc}
    (h : s.threads[j]? = some (.verify env args pc)) (hpc : NotAccepting pc)
    (hc : s.cache (authNonceCacheDir args.message.nonce) ≠ some args.message.nonce) (e : Event) :
    ∃ pc', (s.step authNonceCacheDir e).threads[j]? = some (.verify env args pc') ∧
      NotAccepting pc' := by
  rcases System.get_step authNonceCacheDir s e j with h' | ⟨t, ht, h', -⟩
  · exact ⟨pc, h' ▸ h, hpc⟩
  · rw [h, Option.some_inj] at ht
    subst ht
    obtain ⟨pc', hpc', hna⟩ := Thread.step_notAccepting authNonceCacheDir hpc hc
    exact ⟨pc', h'.trans (congrArg some hpc'), hna⟩

/-! ## A consumed nonce is not accepted again -/

/-- A `generateNonce` call given `nonce` has stored it: its `set` resolved. -/
def Stored (threads : List Thread) (nonce : JsString) : Prop :=
  ∃ i : Nat, threads[i]? = some (Thread.generateNonce nonce none true)

/-- The `generateNonce` calls were given pairwise distinct nonces. -/
def DistinctNonces (threads : List Thread) : Prop :=
  ∀ (i j : Nat) (n : JsString), threads[i]?.bind Thread.generated = some n →
    threads[j]?.bind Thread.generated = some n → i = j

/-- Where the nonces come from: a nonce is in the cache under its own entry only once its
`generateNonce` call has stored it, and so is the nonce of a `verify` that read it or that
resolved `isValid` to `true`. -/
structure Provenance (s : System) : Prop where
  cached : ∀ n : JsString, s.cache (authNonceCacheDir n) = some n → Stored s.threads n
  read : ∀ (i : Nat) (env : VerifyEnv) (args : VerifyAuthMessageDto),
    s.threads[i]? = some (.verify env args (.deleting true)) →
    Stored s.threads args.message.nonce
  accepted : ∀ (i : Nat) (env : VerifyEnv) (args : VerifyAuthMessageDto),
    s.threads[i]? = some (.verify env args (.done (.ok true))) →
    Stored s.threads args.message.nonce

/-- What every interleaving over distinct nonces keeps besides: a `verify` that read its nonce
and deleted it has it gone from the cache. -/
structure NonceInvariant (s : System) extends Provenance authNonceCacheDir s : Prop where
  consumed : ∀ (i : Nat) (env : VerifyEnv) (args : VerifyAuthMessageDto),
    s.threads[i]? = some (.verify env args (.done (.ok true))) →
    s.cache (authNonceCacheDir args.message.nonce) ≠ some args.message.nonce

theorem System.generated_get_step (s : System) (e : Event) (i : Nat) :
    (s.step authNonceCacheDir e).threads[i]?.bind Thread.generated =
      s.threads[i]?.bind Thread.generated := by
  rcases System.get_step authNonceCacheDir s e i with h | ⟨t, ht, h, -⟩
  · rw [h]
  · rw [h, ht]
    exact Thread.generated_step authNonceCacheDir t s.cache

theorem DistinctNonces.step {s : System} (hd : DistinctNonces s.threads) (e : Event) :
    DistinctNonces (s.step authNonceCacheDir e).threads := by
  intro i j n hi hj
  rw [System.generated_get_step] at hi hj
  exact hd i j n hi hj

theorem DistinctNonces.not_stored {threads : List Thread} (hd : DistinctNonces threads) {i : Nat}
    {n : JsString} {r : Option JsError} (hi : threads[i]? = some (.generateNonce n r false)) :
    ¬ Stored threads n := by
  rintro ⟨j, hj⟩
  obtain rfl := hd i j n (by simp [hi, Thread.generated]) (by simp [hj, Thread.generated])
  rw [hi] at hj
  cases hj

/-- A call that no longer steps stays where it is. -/
theorem System.get_step_of_settled {s : System} {i : Nat} {t : Thread}
    (ht : ∀ cache, (t.step authNonceCacheDir cache).1 = t) (h : s.threads[i]? = some t)
    (e : Event) : (s.step authNonceCacheDir e).threads[i]? = some t := by
  rcases System.get_step authNonceCacheDir s e i with h' | ⟨t', ht', h', -⟩
  · rw [h', h]
  · rw [h, Option.some_inj] at ht'
    rw [h', ← ht', ht]

theorem Stored.step {s : System} {n : JsString} (h : Stored s.threads n) (e : Event) :
    Stored (s.step authNonceCacheDir e).threads n :=
  let ⟨i, hi⟩ := h
  ⟨i, System.get_step_of_settled authNonceCacheDir (fun _ => rfl) hi e⟩

/-- A stored nonce absent from its entry stays absent: only its own `set` could write it. -/
theorem System.cache_ne_step {s : System} (hd : DistinctNonces s.threads) {n : JsString}
    (hs : Stored s.threads n) (hc : s.cache (authNonceCacheDir n) ≠ some n) (e : Event) :
    (s.step authNonceCacheDir e).cache (authNonceCacheDir n) ≠ some n := by
  rcases System.cache_step authNonceCacheDir s e with hrem | ⟨i, n', hi, he, -⟩
  · exact fun h => hc (hrem _ _ h)
  · rw [he, Cache.set_apply]
    split_ifs
    · rintro ⟨⟩
      exact hd.not_stored hi hs
    · exact hc

/-- **One step keeps the provenance of nonces.** -/
theorem Provenance.step {s : System} (hinv : Provenance authNonceCacheDir s) (e : Event) :
    Provenance authNonceCacheDir (s.step authNonceCacheDir e) where
  cached n hn := by
    rcases System.cache_step authNonceCacheDir s e with hrem | ⟨i, n', -, he, hi'⟩
    · exact (hinv.cached n (hrem _ _ hn)).step authNonceCacheDir e
    · rw [he, Cache.set_apply] at hn
      split_ifs at hn
      · cases hn
        exact ⟨i, hi'⟩
      · exact (hinv.cached n hn).step authNonceCacheDir e
  read i env args hi := by
    rcases System.get_step authNonceCacheDir s e i with h' | ⟨t, -, h', -⟩
    · exact (hinv.read i env args (h' ▸ hi)).step authNonceCacheDir e
    · rw [h', Option.some_inj] at hi
      exact (hinv.cached _ (Thread.step_eq_deleting_true authNonceCacheDir hi).2).step
        authNonceCacheDir e
  accepted i env args hi := by
    rcases System.get_step authNonceCacheDir s e i with h' | ⟨t, ht, h', hc⟩
    · exact (hinv.accepted i env args (h' ▸ hi)).step authNonceCacheDir e
    · rw [h', Option.some_inj] at hi
      rcases Thread.step_eq_done_ok_true authNonceCacheDir (Prod.ext hi hc.symm) with
        rfl | ⟨rfl, -⟩
      · exact (hinv.accepted i env args ht).step authNonceCacheDir e
      · exact (hinv.read i env args ht).step authNonceCacheDir e

/-- **One step keeps the invariant.** -/
theorem NonceInvariant.step {s : System} (hinv : NonceInvariant authNonceCacheDir s)
    (hd : DistinctNonces s.threads) (e : Event) :
    NonceInvariant authNonceCacheDir (s.step authNonceCacheDir e) where
  toProvenance := hinv.toProvenance.step authNonceCacheDir e
  consumed i env args hi := by
    rcases System.get_step authNonceCacheDir s e i with h' | ⟨t, ht, h', hc⟩
    · exact System.cache_ne_step authNonceCacheDir hd (hinv.accepted i env args (h' ▸ hi))
        (hinv.consumed i env args (h' ▸ hi)) e
    · rw [h', Option.some_inj] at hi
      rcases Thread.step_eq_done_ok_true authNonceCacheDir (Prod.ext hi hc.symm) with
        rfl | ⟨rfl, hc'⟩
      · exact System.cache_ne_step authNonceCacheDir hd (hinv.accepted i env args ht)
          (hinv.consumed i env args ht) e
      · simp [hc']

/-- A property kept by every step holds after every interleaving. -/
theorem System.run_induction (P : System → Prop)
    (hstep : ∀ s e, P s → P (s.step authNonceCacheDir e)) (events : List Event) {s : System}
    (h : P s) : P (s.run authNonceCacheDir events) := by
  induction events generalizing s with
  | nil => exact h
  | cons e events ih => exact ih (hstep s e h)

theorem NonceInvariant.init {threads : List Thread} (hfresh : threads.all Thread.fresh = true) :
    NonceInvariant authNonceCacheDir ⟨Cache.empty, threads⟩ := by
  have fresh : ∀ {i : Nat} {t : Thread}, threads[i]? = some t → t.fresh = true := fun h =>
    List.all_eq_true.1 hfresh _ (List.getElem?_mem h)
  exact ⟨⟨fun _ h => (nomatch h), fun _ _ _ h => (nomatch fresh h),
    fun _ _ _ h => (nomatch fresh h)⟩, fun _ _ _ h => (nomatch fresh h)⟩

theorem mem_generatedNonces {ts : List Thread} {j : Nat} {n : JsString}
    (h : ts[j]?.bind Thread.generated = some n) : n ∈ generatedNonces ts := by
  obtain ⟨t, ht, hg⟩ := Option.bind_eq_some.1 h
  exact List.mem_filterMap.2 ⟨t, List.getElem?_mem ht, hg⟩

theorem distinctNonces_of_nodup : ∀ {threads : List Thread},
    (generatedNonces threads).Nodup → DistinctNonces threads
  | [], _, _, _, _, h, _ => by simp at h
  | t :: ts, hd, i, j, n, hi, hj => by
    have hd' : (t.generated.toList ++ generatedNonces ts).Nodup := by
      cases hg : t.generated <;> simpa [generatedNonces, List.filterMap_cons, hg] using hd
    have tail := distinctNonces_of_nodup (List.Nodup.of_append_right hd')
    have head : ∀ k, t.generated = some n → ts[k]?.bind Thread.generated ≠ some n := fun k hg hk =>
      List.disjoint_of_nodup_append hd' (by simp [hg]) (mem_generatedNonces hk)
    rcases i with _ | i <;> rcases j with _ | j <;>
      simp only [List.getElem?_cons_zero, List.getElem?_cons_succ, Option.some_bind] at hi hj
    · rfl
    · exact absurd hj (head j hi)
    · exact absurd hi (head i hj)
    · exact congrArg (· + 1) (tail i j n hi hj)

/-- A call issued a token for `nonce` is a `verify` of a message with that nonce whose `isValid`
resolved to `true`. -/
theorem Thread.eq_of_issuedTokenFor {t : Thread} {nonce : JsString}
    (h : t.issuedTokenFor nonce = true) :
    ∃ env args, t = .verify env args (.done (.ok true)) ∧ args.message.nonce = nonce := by
  rcases t with ⟨env, args, _ | _ | _ | valid⟩ | ⟨_, _, _⟩ <;>
    simp [Thread.issuedTokenFor, Thread.response] at h
  obtain ⟨hn, hok⟩ := h
  cases hr : (respond env args valid).1 with
  | error => simp [hr] at hok
  | ok token => exact ⟨env, args, by rw [(respond_eq_ok hr).1], hn⟩

theorem issuedTokenFor_of_notAccepting {env : VerifyEnv} {args : VerifyAuthMessageDto}
    {pc : VerifyPc} (hpc : NotAccepting pc) (nonce : JsString) :
    (Thread.verify env args pc).issuedTokenFor nonce = false := by
  rcases hpc with rfl | rfl | rfl | ⟨v, rfl, hv⟩ <;>
    simp_all [Thread.issuedTokenFor, Thread.response, respond]

/-- What every interleaving from an empty cache over distinct nonces keeps: the nonce
invariant, and the nonces still distinct. -/
structure DistinctRun (s : System) : Prop where
  invariant : NonceInvariant authNonceCacheDir s
  distinct : DistinctNonces s.threads

theorem DistinctRun.step {s : System} (h : DistinctRun authNonceCacheDir s) (e : Event) :
    DistinctRun authNonceCacheDir (s.step authNonceCacheDir e) :=
  ⟨h.invariant.step authNonceCacheDir h.distinct e, h.distinct.step authNonceCacheDir e⟩

/-- Two `verify` calls in such a run: call `i` has accepted, and so deleted its nonce, and call
`j` will not accept. -/
structure Watched (i j : Nat) (envA envB : VerifyEnv) (argsA argsB : VerifyAuthMessageDto)
    (s : System) : Prop where
  run : DistinctRun authNonceCacheDir s
  accepted : s.threads[i]? = some (.verify envA argsA (.done (.ok true)))
  notAccepting : ∃ pc, s.threads[j]? = some (.verify envB argsB pc) ∧ NotAccepting pc

/-- While call `i`'s nonce stays deleted, a call `j` with the same nonce that will not accept
stays so over one step. -/
theorem Watched.step {i j : Nat} {envA envB : VerifyEnv} {argsA argsB : VerifyAuthMessageDto}
    (hn : argsB.message.nonce = argsA.message.nonce) {s : System}
    (h : Watched authNonceCacheDir i j envA envB argsA argsB s) (e : Event) :
    Watched authNonceCacheDir i j envA envB argsA argsB (s.step authNonceCacheDir e) where
  run := h.run.step authNonceCacheDir e
  accepted := System.get_step_of_settled authNonceCacheDir (fun _ => rfl) h.accepted e
  notAccepting :=
    let ⟨_, hB, hpc⟩ := h.notAccepting
    System.get_step_notAccepting authNonceCacheDir hB hpc
      (hn ▸ h.run.invariant.consumed i envA argsA h.accepted) e

/-- **A consumed nonce is not accepted again**: in any interleaving of calls over an empty
cache whose `generateNonce` calls were given distinct nonces, once a `verify` has read its nonce
and deleted it, a `verify` with the same nonce that has not yet read the cache is not issued a
token, however the interleaving goes on. -/
theorem consumed_nonce_not_reaccepted {threads : List Thread}
    (hfresh : threads.all Thread.fresh = true) (hd : (generatedNonces threads).Nodup)
    (events₁ events₂ : List Event) {i j : Nat} {envA envB : VerifyEnv}
    {argsA argsB : VerifyAuthMessageDto} {pc : VerifyPc}
    (hA : ((System.mk Cache.empty threads).run authNonceCacheDir events₁).threads[i]? =
      some (.verify envA argsA (.done (.ok true))))
    (hB : ((System.mk Cache.empty threads).run authNonceCacheDir events₁).threads[j]? =
      some (.verify envB argsB pc))
    (hpc : pc = .start ∨ pc = .reading) (hn : argsB.message.nonce = argsA.message.nonce) :
    ((((System.mk Cache.empty threads).run authNonceCacheDir events₁).run authNonceCacheDir
      events₂).threads[j]?).map (Thread.issuedTokenFor argsB.message.nonce) = some false := by
  have hrun := System.run_induction authNonceCacheDir (DistinctRun authNonceCacheDir)
    (fun _ e h => h.step authNonceCacheDir e) events₁
    ⟨NonceInvariant.init authNonceCacheDir hfresh, distinctNonces_of_nodup hd⟩
  have hna : NotAccepting pc := by rcases hpc with rfl | rfl; exacts [.inl rfl, .inr (.inl rfl)]
  obtain ⟨-, -, pc', hB', hna'⟩ := System.run_induction authNonceCacheDir
    (Watched authNonceCacheDir i j envA envB argsA argsB)
    (fun _ e h => h.step authNonceCacheDir hn e) events₂ ⟨hrun, hA, pc, hB, hna⟩
  rw [hB']
  exact congrArg some (issuedTokenFor_of_notAccepting hna' _)

/-- **A token is issued only for a nonce that was generated and stored**: in any interleaving
of calls over an empty cache, a `verify` call that returned an access token carried a nonce
that a `generateNonce` call was given and stored in the cache. -/
theorem issued_token_nonce_stored {threads : List Thread}
    (hfresh : threads.all Thread.fresh = true) (events : List Event) {i : Nat} {t : Thread}
    {nonce : JsString}
    (ht : ((System.mk Cache.empty threads).run authNonceCacheDir events).threads[i]? = some t)
    (hissued : t.issuedTokenFor nonce = true) :
    Stored ((System.mk Cache.empty threads).run authNonceCacheDir events).threads nonce := by
  obtain ⟨env, args, rfl, rfl⟩ := Thread.eq_of_issuedTokenFor hissued
  have hinv := System.run_induction authNonceCacheDir (Provenance authNonceCacheDir)
    (fun _ e h => h.step authNonceCacheDir e) events (NonceInvariant.init authNonceCacheDir hfresh).1
  exact hinv.accepted i env args ht

end Interleaving

/-! ## Two tokens for one nonce -/

/-- One `generateNonce` call, and two `verify` calls carrying the same signed message. -/
def replayThreads : List Thread :=
  [.generateNonce (js "n0nce") none false, .verify acceptingEnv signedMessage .start,
    .verify acceptingEnv signedMessage .start]

/-- **Both requests are issued a token**: the nonce is stored, both `verify` calls pass their
expiry check and `get` the nonce, and only then do they delete it. -/
theorem replay_issues_two_tokens :
    (generatedNonces replayThreads).Nodup ∧
    ((System.mk Cache.empty replayThreads).run nonceAsKey
        [.step 0, .step 1, .step 2, .step 1, .step 2, .step 1, .step 2]).threads.countP
      (Thread.issuedTokenFor (js "n0nce")) = 2 := by
  decide

/-- Run one after the other, the second `verify` is refused: the first has consumed the nonce. -/
theorem replay_refused_in_sequence :
    (((System.mk Cache.empty replayThreads).run nonceAsKey [.step 0, .step 1, .step 1, .step 1]).run
      nonceAsKey [.step 2, .step 2, .step 2]).threads[2]?.map
        (Thread.issuedTokenFor signedMessage.message.nonce) = some false :=
  @consumed_nonce_not_reaccepted nonceAsKey replayThreads (by decide) (by decide) _ _ 1 2
    acceptingEnv acceptingEnv signedMessage signedMessage .start rfl rfl (.inl rfl) rfl

/-- Both tokens of the replay were issued for the nonce the `generateNonce` call stored. -/
theorem replay_token_nonce_stored :
    Stored ((System.mk Cache.empty replayThreads).run nonceAsKey
      [.step 0, .step 1, .step 2, .step 1, .step 2, .step 1, .step 2]).threads (js "n0nce") :=
  issued_token_nonce_stored nonceAsKey (t := .verify acceptingEnv signedMessage (.done (.ok true)))
    (by decide) _ (i := 1) rfl (by decide)

end SafeClientGateway.Auth
