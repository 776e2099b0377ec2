import SafeClientGateway.Js.Basic

/-!
# `PortfolioMapper`

`mapChainPortfolio` picks out of a portfolio the positions on one chain: it finds the chain's key
in `PortfolioMapper.ChainKeys`, and for every protocol with an entry under that key maps its
positions. A regular position maps to its assets tagged `General`. A complex position maps each
of its nested positions to the concatenation of its five asset lists, each asset tagged with
its list's type.

`mapComplexPosition` hands `this.mapComplexPositionProtocolPosition` to `Array.prototype.map`
unbound, so the method runs with `this` undefined, and its `this.mapPositionAsset` throws a
`TypeError` at the first asset of a nested position. `mapRegularPosition` calls
`this.mapPositionAsset` from an arrow function, where `this` is the mapper.

Every method takes its receiver `this`; the calls pass what JavaScript binds.

* `mapChainPortfolio_eq`: what `mapChainPortfolio` does on every chain id and portfolio;
* `mapChainPortfolio_throws`: on a supported chain, a nested position with any asset makes it
  throw;
* `mapChainPortfolio_of_no_nested_assets`: otherwise it returns the page it builds when every
  method runs with `this` bound (`boundItemPage`).
-/

namespace SafeClientGateway.Portfolio

open Js

/-! ## The domain portfolio -/

/-- An asset of the domain portfolio, with the fields the mapper reads; the mapper carries them
over unchanged. -/
structure DomainPortfolioAsset where
  contract : JsString
  decimal : JsString
  imgSmall : JsString
  name : JsString
  symbol : JsString
  balance : JsString
  price : JsString
  value : JsString
  deriving DecidableEq, Repr

/-- A regular position: a list of assets. -/
structure DomainRegularPosition where
  name : JsString
  assets : List DomainPortfolioAsset
  totalValue : JsString
  deriving DecidableEq, Repr

/-- A nested position of a complex position, `DomainComplexPosition['protocolPositions'][number]`:
its assets, and four optional lists of assets. -/
structure DomainProtocolPosition where
  name : JsString
  value : JsString
  healthRate : JsString
  assets : List DomainPortfolioAsset
  borrowAssets : Option (List DomainPortfolioAsset)
  dexAssets : Option (List DomainPortfolioAsset)
  rewardAssets : Option (List DomainPortfolioAsset)
  supplyAssets : Option (List DomainPortfolioAsset)
  deriving DecidableEq, Repr

/-- A complex position: its nested positions. -/
structure DomainComplexPosition where
  name : JsString
  protocolPositions : List DomainProtocolPosition
  deriving DecidableEq, Repr

/-- A protocol position: complex when it has `protocolPositions` (`isComplexPosition`). -/
inductive DomainPosition
  | regular (position : DomainRegularPosition)
  | complex (position : DomainComplexPosition)
  deriving DecidableEq, Repr

/-- A protocol's positions on one chain, in the order `Object.values` lists them. -/
structure AssetByProtocolOnChain where
  protocolPositions : List DomainPosition
  deriving DecidableEq, Repr

/-- A protocol, with its entries by chain key. -/
structure AssetByProtocol where
  name : JsString
  value : JsString
  imgLarge : JsString
  chains : List (JsString × AssetByProtocolOnChain)
  deriving DecidableEq, Repr

/-- The domain portfolio: its protocols, in the order `Object.values` lists them. -/
structure DomainPortfolio where
  assetByProtocols : List AssetByProtocol
  deriving DecidableEq, Repr

/-! ## The route's portfolio -/

/-- `PortfolioAssetType`: the list of a nested position an asset came from. Its five values are
distinct keys that are not array indices, so `Object.entries` lists an object built with them
in the order it was built. -/
inductive PortfolioAssetType
  | general
  | borrow
  | dex
  | rewards
  | supply
  deriving DecidableEq, Repr

/-- An asset of the route's portfolio. -/
structure PortfolioAsset where
  type : PortfolioAssetType
  address : JsString
  decimals : JsString
  logoUri : JsString
  name : JsString
  symbol : JsString
  balance : JsString
  price : JsString
  fiatBalance : JsString
  deriving DecidableEq, Repr

structure RegularPosition where
  name : JsString
  assets : List PortfolioAsset
  value : JsString
  deriving DecidableEq, Repr

structure ComplexPositionPosition where
  name : JsString
  value : JsString
  healthRate : JsString
  assets : List PortfolioAsset
  deriving DecidableEq, Repr

structure ComplexPosition where
  name : JsString
  positions : List ComplexPositionPosition
  deriving DecidableEq, Repr

/-- A mapped protocol position. -/
inductive Position
  | regular (position : RegularPosition)
  | complex (position : ComplexPosition)
  deriving DecidableEq, Repr

structure PositionItem where
  value : JsString
  name : JsString
  logoUri : JsString
  protocolPositions : List Position
  deriving DecidableEq, Repr

/-- A page of results; `next` and `previous` are `null` when absent. -/
structure PortfolioItemPage where
  results : List PositionItem
  count : Nat
  next : Option JsString
  previous : Option JsString
  deriving DecidableEq, Repr

/-! ## The mapper -/

/-- The mapper instance, the `this` of its methods when they are called on it. It has no
state. -/
structure PortfolioMapper

/-- `PortfolioMapper.ChainKeys`, in its order: each chain's key and chain id. -/
def chainKeys : List (JsString × JsString) :=
  [("ancient8", "888888888"), ("arbitrum", "42161"), ("arbitrum_nova", "42170"),
    ("aurora", "1313161554"), ("avalanche", "43114"), ("base", "8453"), ("binance", "56"),
    ("blast", "81457"), ("bob", "60808"), ("boba", "288"), ("celo", "42220"), ("core", "1116"),
    ("cronos", "25"), ("era", "324"), ("ethereum", "1"), ("fantom", "250"), ("fraxtal", "252"),
    ("gnosis", "100"), ("hyperliquid", "998"), ("kava", "2222"), ("kroma", "255"),
    ("linea", "59144"), ("manta", "169"), ("mantle", "5000"), ("metis", "1088"), ("mint", "185"),
    ("mode", "34443"), ("optimism", "10"), ("polygon", "137"), ("polygon_zkevm", "1101"),
    ("rari", "1380012617"), ("scroll", "534352"), ("solana", "101"), ("taiko", "167000"),
    ("wc", "480"), ("xlayer", "196"), ("zora", "7777777")].map fun (k, v) => (js k, js v)

/-- The `TypeError` of reading `property` off `undefined`. -/
def undefinedThisError (property : String) : JsError :=
  .typeError (js ("Cannot read properties of undefined (reading \x27" ++ property ++ "\x27)"))

/-- `this.method(...)`: reading the method off `this` throws when `this` is undefined. -/
def invoke {β : Type} (this : Option PortfolioMapper) (method : String)
    (call : PortfolioMapper → Except JsError β) : Except JsError β :=
  match this with
  | some mapper => call mapper
  | none => .error (undefinedThisError method)

/-- `getChainKey`: the first key of `ChainKeys` whose chain id is `chainId`. -/
def getChainKey (chainId : JsString) : Except JsError JsString :=
  match chainKeys.find? (fun entry => chainId == entry.2) with
  | some (key, _) => .ok key
  | none => .error (.error (chainId ++ js " is not supported!"))

/-- `mapPositionAsset`. -/
def mapPositionAsset (type : PortfolioAssetType) (asset : DomainPortfolioAsset) :
    PortfolioAsset :=
  ⟨type, asset.contract, asset.decimal, asset.imgSmall, asset.name, asset.symbol, asset.balance,
    asset.price, asset.value⟩

/-- `mapRegularPosition`. -/
def mapRegularPosition (this : Option PortfolioMapper) (position : DomainRegularPosition) :
    Except JsError RegularPosition := do
  let assets ← position.assets.mapM fun asset =>
    invoke this "mapPositionAsset" fun _ => pure (mapPositionAsset .general asset)
  pure ⟨position.name, assets, position.totalValue⟩

/-- The object `assetTypes` of `mapComplexPositionProtocolPosition`, as `Object.entries` lists
it: an absent list reads as empty. -/
def assetTypes (position : DomainProtocolPosition) :
    List (PortfolioAssetType × List DomainPortfolioAsset) :=
  [(.general, position.assets), (.borrow, position.borrowAssets.getD []),
    (.dex, position.dexAssets.getD []), (.rewards, position.rewardAssets.getD []),
    (.supply, position.supplyAssets.getD [])]

/-- `mapComplexPositionProtocolPosition`. -/
def mapComplexPositionProtocolPosition (this : Option PortfolioMapper)
    (position : DomainProtocolPosition) : Except JsError ComplexPositionPosition := do
  let assets ← (assetTypes position).mapM fun entry =>
    entry.2.mapM fun asset =>
      invoke this "mapPositionAsset" fun _ => pure (mapPositionAsset entry.1 asset)
  pure ⟨position.name, position.value, position.healthRate, assets.flatten⟩

/-- `mapComplexPosition`: the method read off `this` is passed to `map` on its own, so each call
runs with `this` undefined. -/
def mapComplexPosition (this : Option PortfolioMapper) (position : DomainComplexPosition) :
    Except JsError ComplexPosition :=
  invoke this "mapComplexPositionProtocolPosition" fun _ => do
    let positions ← position.protocolPositions.mapM (mapComplexPositionProtocolPosition none)
    pure ⟨position.name, positions⟩

/-- The body of `mapChainPortfolio`'s loop for one protocol: its item, or none when it has no
entry under the chain's key (`continue`). -/
def mapAssetByProtocol (this : Option PortfolioMapper) (key : JsString)
    (assetByProtocol : AssetByProtocol) : Except JsError (Option PositionItem) :=
  match assetByProtocol.chains.lookup key with
  | none => pure none
  | some assetByProtocolOnChain => do
    let protocolPositions ← assetByProtocolOnChain.protocolPositions.mapM fun protocolPosition =>
      invoke this "isComplexPosition" fun _ =>
        match protocolPosition with
        | .regular position =>
          Position.regular <$> invoke this "mapRegularPosition" fun _ =>
            mapRegularPosition this position
        | .complex position =>
          Position.complex <$> invoke this "mapComplexPosition" fun _ =>
            mapComplexPosition this position
    pure (some ⟨assetByProtocol.value, assetByProtocol.name, assetByProtocol.imgLarge,
      protocolPositions⟩)

/-- `mapChainPortfolio`. -/
def mapChainPortfolio (this : Option PortfolioMapper) (chainId : JsString)
    (portfolio : DomainPortfolio) : Except JsError PortfolioItemPage := do
  let key ← invoke this "getChainKey" fun _ => getChainKey chainId
  let results := (← portfolio.assetByProtocols.mapM (mapAssetByProtocol this key)).filterMap id
  pure ⟨results, results.length, none, none⟩

/-! ## The page with `this` bound -/

/-- A nested position has an asset in one of its lists. -/
def DomainProtocolPosition.hasAsset (position : DomainProtocolPosition) : Bool :=
  (assetTypes position).any fun entry => !entry.2.isEmpty

/-- A complex position with an asset in a nested position. -/
def DomainPosition.hasNestedAsset : DomainPosition → Bool
  | .regular _ => false
  | .complex position => position.protocolPositions.any DomainProtocolPosition.hasAsset

/-- A protocol with an entry under `key` has a complex position with an asset in a nested
position. -/
def DomainPortfolio.hasNestedAssetOn (portfolio : DomainPortfolio) (key : JsString) : Bool :=
  portfolio.assetByProtocols.any fun assetByProtocol =>
    (assetByProtocol.chains.lookup key).any fun onChain =>
      onChain.protocolPositions.any DomainPosition.hasNestedAsset

/-- The assets of a nested position merged into a type-discriminated array, as
`mapComplexPositionProtocolPosition` builds them when `this` is bound: its `assets`,
`borrowAssets`, `dexAssets`, `rewardAssets` and `supplyAssets` one after the other, an absent list
read as empty, each asset tagged with its list's type. -/
def mergedAssets (position : DomainProtocolPosition) : List PortfolioAsset :=
  position.assets.map (mapPositionAsset .general) ++
    (position.borrowAssets.getD []).map (mapPositionAsset .borrow) ++
    (position.dexAssets.getD []).map (mapPositionAsset .dex) ++
    (position.rewardAssets.getD []).map (mapPositionAsset .rewards) ++
    (position.supplyAssets.getD []).map (mapPositionAsset .supply)

/-- A position as the mapper maps it when `this` is bound: a regular one to its assets tagged
`General`, a complex one to its nested positions with their `mergedAssets`. -/
def boundPosition : DomainPosition → Position
  | .regular position =>
    .regular ⟨position.name, position.assets.map (mapPositionAsset .general), position.totalValue⟩
  | .complex position =>
    .complex ⟨position.name, position.protocolPositions.map fun nested =>
      ⟨nested.name, nested.value, nested.healthRate, mergedAssets nested⟩⟩

/-- The `PortfolioItemPage` that `mapChainPortfolio` builds for the chain key `key` when every
method runs with `this` bound: one `PositionItem` per protocol with an entry under `key`, in
order, no pagination. -/
def boundItemPage (key : JsString) (portfolio : DomainPortfolio) : PortfolioItemPage :=
  let results := portfolio.assetByProtocols.filterMap fun assetByProtocol =>
    (assetByProtocol.chains.lookup key).map fun onChain =>
      ⟨assetByProtocol.value, assetByProtocol.name, assetByProtocol.imgLarge,
        onChain.protocolPositions.map boundPosition⟩
  ⟨results, results.length, none, none⟩

/-! ## What the mapper does -/

/-- A `mapM` whose every call throws `e` or returns `g x` throws `e` when one of its calls does,
and otherwise returns the images. -/
theorem mapM_eq_ite {α β : Type} {f : α → Except JsError β} {g : α → β} {P : α → Bool}
    {e : JsError} : ∀ {l : List α}, (∀ x ∈ l, f x = if P x then .error e else .ok (g x)) →
      l.mapM f = if l.any P then .error e else .ok (l.map g)
  | [], _ => rfl
  | x :: l, h => by
    rw [List.mapM_cons, h x (List.mem_cons_self _ _),
      mapM_eq_ite fun y hy => h y (List.mem_cons_of_mem _ hy), List.any_cons]
    cases P x <;> cases l.any P <;> rfl

/-- A `mapM` whose every call returns returns the images. -/
theorem mapM_eq_ok {α β : Type} {f : α → Except JsError β} {g : α → β} {l : List α}
    (h : ∀ x ∈ l, f x = .ok (g x)) : l.mapM f = .ok (l.map g) := by
  simpa using mapM_eq_ite (P := fun _ => false) (e := .error []) (by simpa using h)

theorem mergedAssets_of_not_hasAsset {position : DomainProtocolPosition}
    (h : position.hasAsset = false) : mergedAssets position = [] := by
  simp_all [DomainProtocolPosition.hasAsset, assetTypes, mergedAssets]

/-- Run with `this` undefined, a nested position maps only when it has no asset at all. -/
theorem mapComplexPositionProtocolPosition_undefined (position : DomainProtocolPosition) :
    mapComplexPositionProtocolPosition none position =
      if position.hasAsset then .error (undefinedThisError "mapPositionAsset")
      else .ok ⟨position.name, position.value, position.healthRate, mergedAssets position⟩ := by
  have assets : ∀ (t : PortfolioAssetType) (l : List DomainPortfolioAsset),
      l.mapM (fun asset => invoke none "mapPositionAsset" fun _ => pure (mapPositionAsset t asset))
        = if !l.isEmpty then .error (undefinedThisError "mapPositionAsset") else .ok [] := by
    rintro t (_ | ⟨a, l⟩) <;> rfl
  rw [mapComplexPositionProtocolPosition, mapM_eq_ite (g := fun _ => []) fun entry _ =>
    assets entry.1 entry.2, ← DomainProtocolPosition.hasAsset]
  cases h : position.hasAsset
  · simp [mergedAssets_of_not_hasAsset h]
  · rfl

section Mapper

variable (mapper : PortfolioMapper)

theorem mapRegularPosition_eq (position : DomainRegularPosition) :
    mapRegularPosition (some mapper) position =
      .ok ⟨position.name, position.assets.map (mapPositionAsset .general),
        position.totalValue⟩ := by
  rw [mapRegularPosition, mapM_eq_ok (g := mapPositionAsset .general)]
  · rfl
  · exact fun _ _ => rfl

theorem mapComplexPosition_eq (position : DomainComplexPosition) :
    mapComplexPosition (some mapper) position =
      if position.protocolPositions.any DomainProtocolPosition.hasAsset then
        .error (undefinedThisError "mapPositionAsset")
      else .ok ⟨position.name, position.protocolPositions.map fun nested =>
        ⟨nested.name, nested.value, nested.healthRate, mergedAssets nested⟩⟩ := by
  rw [mapComplexPosition, invoke,
    mapM_eq_ite fun x _ => mapComplexPositionProtocolPosition_undefined x]
  cases position.protocolPositions.any DomainProtocolPosition.hasAsset <;> rfl

/-- One protocol position, regular or complex, throws exactly when it is complex with an asset
in a nested position, and otherwise maps as it would with `this` bound. -/
theorem mapPosition_eq (position : DomainPosition) :
    (invoke (some mapper) "isComplexPosition" fun _ =>
      match position with
      | .regular position =>
        Position.regular <$> invoke (some mapper) "mapRegularPosition" fun _ =>
          mapRegularPosition (some mapper) position
      | .complex position =>
        Position.complex <$> invoke (some mapper) "mapComplexPosition" fun _ =>
          mapComplexPosition (some mapper) position) =
      if position.hasNestedAsset then .error (undefinedThisError "mapPositionAsset")
      else .ok (boundPosition position) := by
  cases position with
  | regular position => simp [invoke, mapRegularPosition_eq, DomainPosition.hasNestedAsset,
      boundPosition, Functor.map, Except.map]
  | complex position =>
    simp only [invoke, mapComplexPosition_eq, DomainPosition.hasNestedAsset]
    split_ifs <;> rfl

theorem mapAssetByProtocol_eq (key : JsString) (assetByProtocol : AssetByProtocol) :
    mapAssetByProtocol (some mapper) key assetByProtocol =
      if (assetByProtocol.chains.lookup key).any fun onChain =>
          onChain.protocolPositions.any DomainPosition.hasNestedAsset then
        .error (undefinedThisError "mapPositionAsset")
      else .ok ((assetByProtocol.chains.lookup key).map fun onChain =>
        ⟨assetByProtocol.value, assetByProtocol.name, assetByProtocol.imgLarge,
          onChain.protocolPositions.map boundPosition⟩) := by
  cases h : assetByProtocol.chains.lookup key with
  | none => simp only [mapAssetByProtocol, h]; rfl
  | some onChain =>
    simp only [mapAssetByProtocol, h, Option.any_some, Option.map_some']
    rw [mapM_eq_ite fun position _ => mapPosition_eq mapper position]
    split_ifs <;> rfl

/-- **What `mapChainPortfolio` does**: on a chain id that `ChainKeys` lacks it throws
`getChainKey`'s error; otherwise, with the chain's key, it throws the `TypeError` of the unbound
`this` when a nested position of a protocol on the chain has an asset, and returns the page
built with `this` bound when none has. -/
theorem mapChainPortfolio_eq (chainId : JsString) (portfolio : DomainPortfolio) :
    mapChainPortfolio (some mapper) chainId portfolio =
      (getChainKey chainId).bind fun key =>
        if portfolio.hasNestedAssetOn key then .error (undefinedThisError "mapPositionAsset")
        else .ok (boundItemPage key portfolio) := by
  simp only [mapChainPortfolio, invoke]
  cases getChainKey chainId with
  | error e => rfl
  | ok key =>
    show (portfolio.assetByProtocols.mapM (mapAssetByProtocol (some mapper) key)).bind _ = _
    rw [mapM_eq_ite fun assetByProtocol _ => mapAssetByProtocol_eq mapper key assetByProtocol]
    change Except.bind (if portfolio.hasNestedAssetOn key then .error _ else .ok _) _ =
      if portfolio.hasNestedAssetOn key then _ else _
    split_ifs
    · rfl
    · change Except.ok _ = Except.ok _
      simp [boundItemPage, List.filterMap_map]

/-- **A nested asset makes `mapChainPortfolio` throw**: on a chain of `ChainKeys`, as soon as
a protocol on the chain has a complex position with an asset in a nested position, it throws
the `TypeError` of reading `mapPositionAsset` off the undefined `this`. -/
theorem mapChainPortfolio_throws {chainId key : JsString} {portfolio : DomainPortfolio}
    (hkey : getChainKey chainId = .ok key) (h : portfolio.hasNestedAssetOn key = true) :
    mapChainPortfolio (some mapper) chainId portfolio =
      .error (undefinedThisError "mapPositionAsset") := by
  rw [mapChainPortfolio_eq, hkey]
  exact if_pos h

/-- **Without nested assets `mapChainPortfolio` returns the page of the chain**: on a chain of
`ChainKeys`, when no nested position of a protocol on the chain has an asset, it returns one
item per protocol with an entry for the chain, in order, with regular positions' assets tagged
`General`, `count` their number and no pagination. -/
theorem mapChainPortfolio_of_no_nested_assets {chainId key : JsString}
    {portfolio : DomainPortfolio} (hkey : getChainKey chainId = .ok key)
    (h : portfolio.hasNestedAssetOn key = false) :
    mapChainPortfolio (some mapper) chainId portfolio = .ok (boundItemPage key portfolio) := by
  rw [mapChainPortfolio_eq, hkey]
  exact if_neg (by simp [h])

end Mapper

/-! ## A portfolio on Ethereum -/

/-- An asset. -/
def usdCoin : DomainPortfolioAsset :=
  ⟨js "0xA0b86991c6218b36c1d19D4a2e9Eb0cE3606eB48", js "6", js "usdc.png", js "USD Coin",
    js "USDC", js "100", js "1", js "100"⟩

/-- A protocol whose position on `ethereum` is the complex position of one nested position. -/
def lendingOn (nested : DomainProtocolPosition) : AssetByProtocol :=
  ⟨js "Lending", js "100", js "lending.png",
    [(js "ethereum", ⟨[.complex ⟨js "Lending", [nested]⟩]⟩)]⟩

/-- A nested position that supplies one asset. -/
def supplied : DomainProtocolPosition :=
  ⟨js "Supplied", js "100", js "1.5", [], none, none, none, some [usdCoin]⟩

/-- The portfolio with one protocol, on `ethereum` (chain id `1`), supplying one asset
throws. -/
theorem mapChainPortfolio_throws_supplied :
    getChainKey (js "1") = .ok (js "ethereum") ∧
      (DomainPortfolio.mk [lendingOn supplied]).hasNestedAssetOn (js "ethereum") = true ∧
      mapChainPortfolio (some ⟨⟩) (js "1") ⟨[lendingOn supplied]⟩ =
        .error (undefinedThisError "mapPositionAsset") :=
  ⟨rfl, rfl, mapChainPortfolio_throws ⟨⟩ rfl rfl⟩

/-- A nested position with no assets yet, next to a regular position, maps. -/
theorem mapChainPortfolio_empty_nested :
    mapChainPortfolio (some ⟨⟩) (js "1")
        ⟨[lendingOn ⟨js "Supplied", js "0", js "1.5", [], none, none, none, some []⟩,
          ⟨js "Wallet", js "100", js "wallet.png",
            [(js "ethereum", ⟨[.regular ⟨js "Wallet", [usdCoin], js "100"⟩]⟩)]⟩]⟩ =
      .ok (boundItemPage (js "ethereum")
        ⟨[lendingOn ⟨js "Supplied", js "0", js "1.5", [], none, none, none, some []⟩,
          ⟨js "Wallet", js "100", js "wallet.png",
            [(js "ethereum", ⟨[.regular ⟨js "Wallet", [usdCoin], js "100"⟩]⟩)]⟩]⟩) :=
  mapChainPortfolio_of_no_nested_assets ⟨⟩ rfl rfl

end SafeClientGateway.Portfolio
