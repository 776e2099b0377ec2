import SafeClientGateway.Cache.Basic

/-!
# `PricesApi`

`getNativeCoinPrice` and `getTokenPrice` read a price through the cache-first datasource: each
builds the `CacheDir` the price is cached under and the URL it is fetched from, and turns a
failure into an HTTP error with `httpErrorFactory.from`.

All prices of one native coin share the cache key `<nativeCoinId>_price`; the field tells them
apart, `native_<fiatCode>` for the coin and `<tokenAddress>_<fiatCode>` for a token.

* `priceCacheDir_injective`: two requests for different prices never share a cache entry, as
  long as token addresses are written `0x…` with no `_`. A token whose address were `native`
  would read the native coin's entry.
-/

namespace SafeClientGateway.Prices

open Js

/-- The configuration `PricesApi` reads when it is built. -/
structure PricesApi where
  baseUrl : JsString
  defaultExpirationTimeInSeconds : Nat
  defaultNotFoundExpirationTimeSeconds : Nat

/-- The arguments of `dataSource.get`: the `networkRequest` the prices API passes is
`undefined`. -/
structure DataSourceGet where
  cacheDir : CacheDir
  url : JsString
  notFoundExpireTimeSeconds : Nat
  expireTimeSeconds : Nat

/-- The request `getNativeCoinPrice` makes. -/
def PricesApi.nativeCoinPriceRequest (api : PricesApi) (nativeCoinId fiatCode : JsString) :
    DataSourceGet :=
  ⟨⟨nativeCoinId ++ js "_price", js "native_" ++ fiatCode⟩,
    api.baseUrl ++ js "/simple/price?ids=" ++ nativeCoinId ++ js "&vs_currencies=" ++ fiatCode,
    api.defaultNotFoundExpirationTimeSeconds, api.defaultExpirationTimeInSeconds⟩

/-- The request `getTokenPrice` makes. -/
def PricesApi.tokenPriceRequest (api : PricesApi) (nativeCoinId tokenAddress fiatCode : JsString) :
    DataSourceGet :=
  ⟨⟨nativeCoinId ++ js "_price", tokenAddress ++ js "_" ++ fiatCode⟩,
    api.baseUrl ++ js "/simple/token_price/" ++ nativeCoinId ++ js "?contract_addresses=" ++
      tokenAddress ++ js "&vs_currencies=" ++ fiatCode,
    api.defaultNotFoundExpirationTimeSeconds, api.defaultExpirationTimeInSeconds⟩

section Get

variable {AssetPrice : Type}
-- `dataSource.get`, and `httpErrorFactory.from`, which are not under src/
variable (get : DataSourceGet → Except JsError AssetPrice) (httpErrorFrom : JsError → JsError)

/-- `getNativeCoinPrice`. -/
def PricesApi.getNativeCoinPrice (api : PricesApi) (nativeCoinId fiatCode : JsString) :
    Except JsError AssetPrice :=
  match get (api.nativeCoinPriceRequest nativeCoinId fiatCode) with
  | .ok price => .ok price
  | .error e => .error (httpErrorFrom e)

/-- `getTokenPrice`. -/
def PricesApi.getTokenPrice (api : PricesApi) (nativeCoinId tokenAddress fiatCode : JsString) :
    Except JsError AssetPrice :=
  match get (api.tokenPriceRequest nativeCoinId tokenAddress fiatCode) with
  | .ok price => .ok price
  | .error e => .error (httpErrorFrom e)

end Get

/-! ## One cache entry per price -/

/-- A price a client asks for: a native coin's, or a token's, in a fiat currency. -/
inductive PriceRequest
  | nativeCoin (nativeCoinId fiatCode : JsString)
  | token (nativeCoinId tokenAddress fiatCode : JsString)
  deriving DecidableEq, Repr

/-- The `dataSource.get` call that serves a request. -/
def PriceRequest.request (api : PricesApi) : PriceRequest → DataSourceGet
  | .nativeCoin nativeCoinId fiatCode => api.nativeCoinPriceRequest nativeCoinId fiatCode
  | .token nativeCoinId tokenAddress fiatCode =>
    api.tokenPriceRequest nativeCoinId tokenAddress fiatCode

/-- A token address written `0x…` without `_`, as an address is. -/
def PriceRequest.HasAddress : PriceRequest → Prop
  | .nativeCoin .. => True
  | .token _ tokenAddress _ => tokenAddress.take 2 = js "0x" ∧ 0x5F ∉ tokenAddress

/-- Two lists that run up to a first separator agree on what comes before it and after it. -/
theorem append_cons_eq_of_not_mem {α : Type} {x : α} :
    ∀ {a₁ a₂ f₁ f₂ : List α}, x ∉ a₁ → x ∉ a₂ → a₁ ++ x :: f₁ = a₂ ++ x :: f₂ →
      a₁ = a₂ ∧ f₁ = f₂
  | [], [], _, _, _, _, h => ⟨rfl, List.cons.inj h |>.2⟩
  | [], _ :: _, _, _, _, h₂, h => absurd ((List.cons.inj h).1 ▸ List.mem_cons_self _ _) h₂
  | _ :: _, [], _, _, h₁, _, h => absurd ((List.cons.inj h).1 ▸ List.mem_cons_self _ _) h₁
  | _ :: _, _ :: _, _, _, h₁, h₂, h =>
    have ⟨hc, hr⟩ := List.cons.inj h
    have ⟨ha, hf⟩ := append_cons_eq_of_not_mem (List.not_mem_of_not_mem_cons h₁)
      (List.not_mem_of_not_mem_cons h₂) hr
    ⟨hc ▸ ha ▸ rfl, hf⟩

/-- An address starts with the characters `0x`. -/
theorem eq_hex_of_take {a : JsString} (ha : a.take 2 = js "0x") : a = 0x30 :: 0x78 :: a.drop 2 :=
  (List.take_append_drop 2 a).symm.trans (by rw [ha]; rfl)

/-- The native coin's field never equals a token's: `n` is not `0`. -/
theorem native_ne_token_field {f a f' : JsString} (ha : a.take 2 = js "0x") :
    js "native_" ++ f ≠ a ++ js "_" ++ f' := fun he => by
  rw [eq_hex_of_take ha] at he
  have heads := List.cons.inj
    (show (0x6E :: (js "ative_" ++ _) : JsString) = 0x30 :: _ from he)
  exact absurd heads.1 (by decide)

/-- **Different prices are cached apart**: two requests whose token addresses are addresses
are served from the same cache entry only when they ask for the same price. -/
theorem priceCacheDir_injective (api : PricesApi) {r₁ r₂ : PriceRequest}
    (h₁ : r₁.HasAddress) (h₂ : r₂.HasAddress)
    (h : (r₁.request api).cacheDir = (r₂.request api).cacheDir) : r₁ = r₂ := by
  cases r₁ <;> cases r₂ <;>
    simp only [PriceRequest.request, PricesApi.nativeCoinPriceRequest,
      PricesApi.tokenPriceRequest, CacheDir.mk.injEq, List.append_cancel_right_eq,
      List.append_cancel_left_eq] at h
  · rw [h.1, h.2]
  · exact absurd h.2 (native_ne_token_field h₂.1)
  · exact absurd h.2.symm (native_ne_token_field h₁.1)
  · have underscore : js "_" = [0x5F] := rfl
    obtain ⟨ha, hf⟩ := append_cons_eq_of_not_mem h₁.2 h₂.2
      (by simpa only [underscore, List.append_assoc, List.singleton_append] using h.2)
    rw [h.1, ha, hf]

/- Without the address form the entries can clash: a token address `native` reads the native
coin's entry. -/
example (api : PricesApi) :
    ((PriceRequest.token (js "ethereum") (js "native") (js "usd")).request api).cacheDir =
      ((PriceRequest.nativeCoin (js "ethereum") (js "usd")).request api).cacheDir :=
  rfl

/-- The native coin's price and a token's are cached apart. -/
theorem priceCacheDir_injective_usdc :
    ((PriceRequest.nativeCoin (js "ethereum") (js "usd")).request
        ⟨js "https://prices.example", 60, 30⟩).cacheDir ≠
      ((PriceRequest.token (js "ethereum") (js "0xA0b86991c6218b36c1d19D4a2e9Eb0cE3606eB48")
        (js "usd")).request ⟨js "https://prices.example", 60, 30⟩).cacheDir :=
  fun h => absurd (@priceCacheDir_injective ⟨js "https://prices.example", 60, 30⟩
    (.nativeCoin (js "ethereum") (js "usd"))
    (.token (js "ethereum") (js "0xA0b86991c6218b36c1d19D4a2e9Eb0cE3606eB48") (js "usd"))
    trivial ⟨by decide, by decide⟩ h) (by decide)

end SafeClientGateway.Prices
