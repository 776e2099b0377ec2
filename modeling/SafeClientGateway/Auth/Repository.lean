import SafeClientGateway.Cache.Basic

/-!
# `AuthRepository`

Sign-in with Ethereum: `generateNonce` stores a fresh nonce in the cache, and `verify` issues
an access token for a signed message when `isValid` accepts it. `isValid` checks the message's
expiry, then awaits the signature check and the cached nonce together, and deletes the nonce in
its `finally` block; `verify` turns any rejection of `isValid` into `false`.

The collaborators are the outcomes they settle with (`VerifyEnv`); the cache is state, and
every call to a collaborator is recorded in order (`Call`).

* `verify_token_only_if_valid`: a token is issued only for an unexpired message with a valid
  signature and the nonce in the cache; in every other case, collaborator rejections included,
  `verify` throws `UnauthorizedException` and never calls `jwtService.sign`;
* `verify_consumes_nonce`: a second `verify` of a message after one whose `deleteByKey`
  resolved is refused (the sequential replay guard);
* `getAccessToken_intercalate`, `getAccessToken_eq_some`: `getAccessToken` reads the token of an
  `Authorization` header of space-separated pieces, and accepts only such headers;
* `verify_expiresIn`: the token's `expiresIn` is read off a later clock than the expiry check,
  so a message that expires in between is issued a token that is already expired.
-/

namespace SafeClientGateway.Auth

open Js

/-- The fields of a SiWe message that the repository reads; dates as time values in ms. -/
structure SiweMessage where
  nonce : JsString
  expirationTime : Option Int
  notBefore : Option Int
  deriving DecidableEq, Repr

/-- `VerifyAuthMessageDto`. -/
structure VerifyAuthMessageDto where
  message : SiweMessage
  signature : JsString
  deriving DecidableEq, Repr

/-- The options `verify` passes to `jwtService.sign`. -/
structure SignOptions where
  notBefore : Option Int
  expiresIn : Option Int
  deriving DecidableEq, Repr

/-- How the collaborators answer one call to `verify`: the clock as `isValid` and
`getSecondsUntil` read it, and how each promise settles (`.error` for a rejection). -/
structure VerifyEnv where
  checkedAt : Int
  signedAt : Int
  verifyMessage : Except JsError Bool
  getRejects : Option JsError
  deleteRejects : Option JsError
  sign : SiweMessage → SignOptions → Except JsError JsString

/-- A call to a collaborator. -/
inductive Call
  | verifyMessage
  | cacheGet (cacheDir : CacheDir)
  | deleteByKey (key : JsString)
  | sign (message : SiweMessage) (options : SignOptions)
  deriving DecidableEq, Repr

/-- What `verify` returns. -/
structure AccessToken where
  accessToken : JsString
  tokenType : JsString
  notBefore : Option Int
  expiresIn : Option Int
  deriving DecidableEq, Repr

/-- What `verify` throws: `UnauthorizedException`, or what `jwtService.sign` throws. -/
inductive VerifyError
  | unauthorized
  | thrown (e : JsError)
  deriving DecidableEq, Repr

/-- `AuthService.AUTH_TOKEN_TOKEN_TYPE`, the type `verify`'s documentation gives: `Bearer`. -/
def authTokenTokenType : JsString := js "Bearer"

section Verify

-- `CacheRouter.getAuthNonceCacheDir`, which is not under src/
variable (authNonceCacheDir : JsString → CacheDir)

/-- The expiry check of `isValid`: an expiration time earlier than the clock. -/
def isExpired (message : SiweMessage) (now : Int) : Bool :=
  match message.expirationTime with
  | some t => decide (t < now)
  | none => false

/-- The value `Promise.all` gives `isValid` in its `try` block, the nonce read from `cache`:
`isValidSignature && isValidNonce`, or `false` from the `catch` when either promise rejects. -/
def readResult (verifyMessage : Except JsError Bool) (getRejects : Option JsError)
    (message : SiweMessage) (cache : Cache) : Bool :=
  match verifyMessage, getRejects with
  | .ok isValidSignature, none =>
    isValidSignature && decide (cache (authNonceCacheDir message.nonce) = some message.nonce)
  | _, _ => false

/-- The `finally` block: `deleteByKey` of the nonce's key; when it rejects, so does `isValid`,
whatever the `try` block returned. -/
def finallyDelete (deleteRejects : Option JsError) (message : SiweMessage) (result : Bool)
    (cache : Cache) : Except JsError Bool × Cache :=
  match deleteRejects with
  | some e => (.error e, cache)
  | none => (.ok result, cache.deleteByKey (authNonceCacheDir message.nonce).key)

/-- `isValid`: what it resolves or rejects with, the cache afterwards, and the calls it made. -/
def isValid (env : VerifyEnv) (args : VerifyAuthMessageDto) (cache : Cache) :
    Except JsError Bool × Cache × List Call :=
  let cacheDir := authNonceCacheDir args.message.nonce
  let (result, calls) :=
    if isExpired args.message env.checkedAt then (false, [])
    else
      (readResult authNonceCacheDir env.verifyMessage env.getRejects args.message cache,
        [.verifyMessage, .cacheGet cacheDir])
  let (settled, cache') := finallyDelete authNonceCacheDir env.deleteRejects args.message result cache
  (settled, cache', calls ++ [.deleteByKey cacheDir.key])

/-- `getSecondsUntil`: whole seconds from the clock to `date`, rounded down. -/
def getSecondsUntil (now date : Int) : Int := Int.fdiv (date - now) 1000

/-- `this.isValid(args).catch(() => false)`. -/
def caughtResult : Except JsError Bool → Bool
  | .ok b => b
  | .error _ => false

@[simp] theorem caughtResult_eq_false {valid : Except JsError Bool} :
    caughtResult valid = false ↔ valid ≠ .ok true := by
  cases valid <;> simp [caughtResult]

/-- What `verify` does once `isValid` has settled with `valid`: what it returns or throws, and
the calls it makes. -/
def respond (env : VerifyEnv) (args : VerifyAuthMessageDto) (valid : Except JsError Bool) :
    Except VerifyError AccessToken × List Call :=
  if ! caughtResult valid then (.error .unauthorized, [])
  else
    let secondsUntilTokenIsValid := args.message.notBefore.map (getSecondsUntil env.signedAt)
    let secondsUntilTokenExpires := args.message.expirationTime.map (getSecondsUntil env.signedAt)
    let options : SignOptions := ⟨secondsUntilTokenIsValid, secondsUntilTokenExpires⟩
    match env.sign args.message options with
    | .ok accessToken =>
      (.ok ⟨accessToken, authTokenTokenType, args.message.notBefore, secondsUntilTokenExpires⟩,
        [.sign args.message options])
    | .error e => (.error (.thrown e), [.sign args.message options])

/-- `verify`: what it returns or throws, the cache afterwards, and the calls it made. -/
def verify (env : VerifyEnv) (args : VerifyAuthMessageDto) (cache : Cache) :
    Except VerifyError AccessToken × Cache × List Call :=
  let (valid, cache', calls) := isValid authNonceCacheDir env args cache
  let (result, calls') := respond env args valid
  (result, cache', calls ++ calls')

/-- `generateNonce`, `nonce` being what `authApi.generateNonce()` returned: the nonce, or the
rejection of `set`, and the cache afterwards. The entry's time to live is not modelled here. -/
def generateNonce (nonce : JsString) (setRejects : Option JsError) (cache : Cache) :
    Except JsError JsString × Cache :=
  match setRejects with
  | some e => (.error e, cache)
  | none => (.ok nonce, cache.set (authNonceCacheDir nonce) nonce)

/-! ## When `verify` issues a token -/

/-- Everything `isValid` needs to resolve to `true`: an unexpired message, a signature the
auth API accepts, the nonce in the cache, and a cache that answers both calls. -/
def Accepts (env : VerifyEnv) (args : VerifyAuthMessageDto) (cache : Cache) : Prop :=
  isExpired args.message env.checkedAt = false ∧ env.verifyMessage = .ok true ∧
    env.getRejects = none ∧ cache (authNonceCacheDir args.message.nonce) = some args.message.nonce ∧
    env.deleteRejects = none

theorem readResult_eq_true {verifyMessage : Except JsError Bool} {getRejects : Option JsError}
    {message : SiweMessage} {cache : Cache} :
    readResult authNonceCacheDir verifyMessage getRejects message cache = true ↔
      verifyMessage = .ok true ∧ getRejects = none ∧
        cache (authNonceCacheDir message.nonce) = some message.nonce := by
  unfold readResult
  split <;> simp_all

/-- `isValid` resolves to `true` exactly when it `Accepts`. -/
theorem isValid_eq_ok_true (env : VerifyEnv) (args : VerifyAuthMessageDto) (cache : Cache) :
    (isValid authNonceCacheDir env args cache).1 = .ok true ↔
      Accepts authNonceCacheDir env args cache := by
  unfold isValid Accepts finallyDelete
  cases hd : env.deleteRejects <;> by_cases he : isExpired args.message env.checkedAt <;>
    simp [he, readResult_eq_true]

/-- The calls `isValid` makes never include `sign`. -/
theorem sign_not_mem_isValid (env : VerifyEnv) (args : VerifyAuthMessageDto) (cache : Cache)
    (message : SiweMessage) (options : SignOptions) :
    Call.sign message options ∉ (isValid authNonceCacheDir env args cache).2.2 := by
  unfold isValid
  split_ifs <;> simp

/-- Without `Accepts`, `verify` throws `UnauthorizedException` after `isValid`, calling nothing
more. -/
theorem verify_of_not_accepts {env : VerifyEnv} {args : VerifyAuthMessageDto} {cache : Cache}
    (ha : ¬ Accepts authNonceCacheDir env args cache) :
    verify authNonceCacheDir env args cache =
      (.error .unauthorized, (isValid authNonceCacheDir env args cache).2.1,
        (isValid authNonceCacheDir env args cache).2.2) := by
  have key := isValid_eq_ok_true authNonceCacheDir env args cache
  rcases hv : isValid authNonceCacheDir env args cache with ⟨valid, cache', calls⟩
  rw [hv] at key
  have hc : valid ≠ .ok true := fun h => ha (key.1 h)
  simp [verify, respond, hv, hc]

/-- **`verify` issues a token only for a valid message**: an unexpired one, whose signature
`authApi.verifyMessage` accepted and whose nonce the cache held. In every other case, a rejection
of any of `verifyMessage`, `get` and `deleteByKey` included, `verify` throws
`UnauthorizedException` and does not call `jwtService.sign`. -/
theorem verify_token_only_if_valid (env : VerifyEnv) (args : VerifyAuthMessageDto)
    (cache : Cache) :
    (∀ token, (verify authNonceCacheDir env args cache).1 = .ok token →
      isExpired args.message env.checkedAt = false ∧ env.verifyMessage = .ok true ∧
        cache (authNonceCacheDir args.message.nonce) = some args.message.nonce) ∧
    (¬ Accepts authNonceCacheDir env args cache →
      (verify authNonceCacheDir env args cache).1 = .error .unauthorized ∧
        ∀ message options, Call.sign message options ∉ (verify authNonceCacheDir env args cache).2.2) := by
  by_cases ha : Accepts authNonceCacheDir env args cache
  · exact ⟨fun _ _ => ⟨ha.1, ha.2.1, ha.2.2.2.1⟩, fun h => absurd ha h⟩
  · rw [verify_of_not_accepts authNonceCacheDir ha]
    exact ⟨fun _ h => (nomatch h),
      fun _ => ⟨rfl, sign_not_mem_isValid authNonceCacheDir env args cache⟩⟩

/-- `respond` issues a token only when `isValid` resolved to `true`, and of the type
`Bearer`. -/
theorem respond_eq_ok {env : VerifyEnv} {args : VerifyAuthMessageDto}
    {valid : Except JsError Bool} {token : AccessToken} (h : (respond env args valid).1 = .ok token) :
    valid = .ok true ∧ token.tokenType = authTokenTokenType := by
  unfold respond at h
  split_ifs at h with hv
  dsimp only at h
  split at h <;> cases h
  simpa using hv

/-- The `expiresIn` of a token `respond` issues: `getSecondsUntil` of the message's
`expirationTime`, if it has one. -/
theorem respond_expiresIn {env : VerifyEnv} {args : VerifyAuthMessageDto}
    {valid : Except JsError Bool} {token : AccessToken} (h : (respond env args valid).1 = .ok token) :
    token.expiresIn = args.message.expirationTime.map (getSecondsUntil env.signedAt) := by
  unfold respond at h
  split_ifs at h
  dsimp only at h
  split at h <;> cases h
  rfl

/-- `getSecondsUntil` rounds down: the whole seconds it counts from the clock end at `date` or
less than a second before it. -/
theorem getSecondsUntil_bounds (now date : Int) :
    now + 1000 * getSecondsUntil now date ≤ date ∧
      date < now + 1000 * (getSecondsUntil now date + 1) := by
  rw [getSecondsUntil, Int.fdiv_eq_ediv _ (by decide)]
  omega

end Verify

/-! ## One signed message -/

/-- A `CacheDir` per nonce: the nonce as the key. -/
def nonceAsKey (nonce : JsString) : CacheDir := ⟨nonce, []⟩

/-- Collaborators that accept: a clock before any expiry, a valid signature, a cache that
answers, and a signer. -/
def acceptingEnv : VerifyEnv :=
  ⟨0, 0, .ok true, none, none, fun _ _ => .ok (js "jwt")⟩

/-- One signed message with the nonce `n0nce`. -/
def signedMessage : VerifyAuthMessageDto := ⟨⟨js "n0nce", none, none⟩, js "0x5ig"⟩

/-- **A token can be issued already expired**: `isValid` reads the clock for its expiry check,
and `getSecondsUntil` reads it again once the signature and the nonce are checked. A token is
issued only for a message whose `expirationTime` was not past at the first reading, and its
`expiresIn` is the whole seconds from the second reading to that time, rounded down: the token
never outlives the message and falls short of it by less than a second, and `expiresIn` is
negative exactly when the message expired between the two readings. -/
theorem verify_expiresIn (authNonceCacheDir : JsString → CacheDir) {env : VerifyEnv}
    {args : VerifyAuthMessageDto} {cache : Cache} {token : AccessToken}
    (h : (verify authNonceCacheDir env args cache).1 = .ok token) {e : Int}
    (he : args.message.expirationTime = some e) :
    ∃ n, token.expiresIn = some n ∧ env.checkedAt ≤ e ∧ env.signedAt + 1000 * n ≤ e ∧
      e < env.signedAt + 1000 * (n + 1) ∧ (n < 0 ↔ e < env.signedAt) := by
  have unexpired := ((isValid_eq_ok_true authNonceCacheDir env args cache).1 (respond_eq_ok h).1).1
  simp only [isExpired, he, decide_eq_false_iff_not, Int.not_lt] at unexpired
  have bounds := getSecondsUntil_bounds env.signedAt e
  refine ⟨_, by rw [respond_expiresIn h, he]; rfl, unexpired, bounds.1, bounds.2, ?_⟩
  omega

/-- A clock that reads `0` at the expiry check and `5000` when the token is signed, with
collaborators that accept. -/
def slowEnv : VerifyEnv :=
  ⟨0, 5000, .ok true, none, none, fun _ _ => .ok (js "jwt")⟩

/-- The signed message, expiring at `1000`. -/
def expiringMessage : VerifyAuthMessageDto := ⟨⟨js "n0nce", some 1000, none⟩, js "0x5ig"⟩

/-- The message passes the expiry check at `0` and is issued a token whose `expiresIn` is `-4`. -/
theorem verify_expiresIn_slowEnv :
    (verify nonceAsKey slowEnv expiringMessage
        (Cache.empty.set (nonceAsKey (js "n0nce")) (js "n0nce"))).1 =
      .ok ⟨js "jwt", authTokenTokenType, none, some (-4)⟩ ∧
      expiringMessage.message.expirationTime = some 1000 ∧
      ∃ n, (some (-4) : Option Int) = some n ∧ slowEnv.checkedAt ≤ 1000 ∧
        slowEnv.signedAt + 1000 * n ≤ 1000 ∧ 1000 < slowEnv.signedAt + 1000 * (n + 1) ∧
        (n < 0 ↔ 1000 < slowEnv.signedAt) :=
  have issued : (verify nonceAsKey slowEnv expiringMessage
      (Cache.empty.set (nonceAsKey (js "n0nce")) (js "n0nce"))).1 =
        .ok ⟨js "jwt", authTokenTokenType, none, some (-4)⟩ := rfl
  ⟨issued, rfl, verify_expiresIn nonceAsKey issued rfl⟩

/-! ## Reading the access token back -/

/-- `getAccessToken`: the request's `Authorization` header, when it has a non-empty one, split
at its spaces; the token is the second piece when the first is `tokenType`. -/
def getAccessToken (authorization : Option JsString) (tokenType : JsString) : Option JsString :=
  match authorization with
  | none => none
  | some header =>
    if header.isEmpty then none
    else
      match header.splitOn 0x20 with
      | type :: token :: _ => if type != tokenType || token.isEmpty then none else some token
      | _ => none

/-- **`getAccessToken` reads what a client writes**: a header of space-free pieces, the type
first and a non-empty token second, gives that token back, whatever follows it. -/
theorem getAccessToken_intercalate {tokenType token : JsString} {more : List JsString}
    (hs : ∀ piece ∈ tokenType :: token :: more, 0x20 ∉ piece) (hne : token ≠ []) :
    getAccessToken (some ([0x20].intercalate (tokenType :: token :: more))) tokenType =
      some token := by
  have nonempty : ([0x20].intercalate (tokenType :: token :: more)).isEmpty = false := by
    simp [List.intercalate, hne]
  simp [getAccessToken, nonempty, List.splitOn_intercalate _ 0x20 hs (List.cons_ne_nil _ _), hne]

/-- A header with a token and a further piece, built from its pieces. -/
theorem getAccessToken_intercalate_more :
    getAccessToken (some ([0x20].intercalate [js "Bearer", js "abc", js "def"])) (js "Bearer") =
      some (js "abc") :=
  getAccessToken_intercalate (by decide) (by decide)

/-- **What `getAccessToken` accepts is well formed**: a token it returns is non-empty, and the
header is the type, a space, the token, and possibly more space-separated pieces. -/
theorem getAccessToken_eq_some {authorization : Option JsString} {tokenType token : JsString}
    (h : getAccessToken authorization tokenType = some token) :
    token ≠ [] ∧ ∃ more, authorization = some ([0x20].intercalate (tokenType :: token :: more)) := by
  obtain _ | header := authorization
  · cases h
  simp only [getAccessToken] at h
  split_ifs at h
  split at h
  · rename_i type token' more hsplit
    simp only [bne_iff_ne, ne_eq, Bool.or_eq_true, decide_eq_true_eq, List.isEmpty_iff] at h
    split_ifs at h with hbad
    cases h
    obtain rfl : type = tokenType := by simpa using (not_or.1 hbad).1
    refine ⟨(not_or.1 hbad).2, more, ?_⟩
    rw [← hsplit, List.intercalate_splitOn]
  · cases h

/-- A header with a token and a further piece. -/
theorem getAccessToken_bearer_more :
    getAccessToken (some (js "Bearer abc def")) (js "Bearer") = some (js "abc") ∧
      js "abc" ≠ [] ∧ ∃ more, some (js "Bearer abc def") =
        some ([0x20].intercalate (js "Bearer" :: js "abc" :: more)) :=
  ⟨rfl, getAccessToken_eq_some rfl⟩

end SafeClientGateway.Auth
