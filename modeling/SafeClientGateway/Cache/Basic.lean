import SafeClientGateway.Js.Basic

/-!
# The cache

`CacheService` stores strings under a `CacheDir`, a key and a field under it; `deleteByKey`
removes every field of a key at once. The service is not under src/: this is the interface its
callers rely on, with the cache as a function of the directory.
-/

namespace SafeClientGateway

open Js

/-- `CacheDir`: a key of the cache and a field under it. -/
structure CacheDir where
  key : JsString
  field : JsString
  deriving DecidableEq, Repr

/-- The cache: the value stored under each key and field. -/
def Cache := CacheDir → Option JsString

/-- The empty cache. -/
def Cache.empty : Cache := fun _ => none

/-- `cacheService.set(cacheDir, value)`. -/
def Cache.set (cache : Cache) (cacheDir : CacheDir) (value : JsString) : Cache :=
  fun d => if d = cacheDir then some value else cache d

/-- `cacheService.deleteByKey(key)`: every field under `key`. -/
def Cache.deleteByKey (cache : Cache) (key : JsString) : Cache :=
  fun d => if d.key = key then none else cache d

@[simp] theorem Cache.set_apply (cache : Cache) (cacheDir d : CacheDir) (value : JsString) :
    cache.set cacheDir value d = if d = cacheDir then some value else cache d := rfl

@[simp] theorem Cache.deleteByKey_apply (cache : Cache) (key : JsString) (d : CacheDir) :
    cache.deleteByKey key d = if d.key = key then none else cache d := rfl

/-- `deleteByKey` only removes entries. -/
theorem Cache.eq_of_deleteByKey {cache : Cache} {key : JsString} {d : CacheDir} {v : JsString}
    (h : cache.deleteByKey key d = some v) : cache d = some v := by
  rw [Cache.deleteByKey_apply] at h
  split_ifs at h
  exact h

end SafeClientGateway
