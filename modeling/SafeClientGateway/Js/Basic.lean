import Mathlib.Data.List.Basic
import Mathlib.Data.List.Infix

/-!
# JavaScript strings and array keys

A JavaScript string is a sequence of UTF-16 code units, and the gateway's regular expressions
match it code unit by code unit (none of them has the `u` flag). This module fixes that
representation and what the gateway's code reads of it:

* the classes of its patterns: `\s` (`isWhiteSpace`) and the line terminators that `.` does
  not match (`isLineTerminator`);
* runs of decimal digits and their value, and white space around a string (`trimWhiteSpace`);
* the keys an array has as an object, which `key in array` tests (`hasProperty`): its
  indices, `length`, and the names it inherits from `Array.prototype` and `Object.prototype`;
  no string starting `0x` is one of them (`hasProperty_of_hex`).
-/

namespace SafeClientGateway.Js

/-- A JavaScript string: its UTF-16 code units. -/
abbrev JsString := List UInt16

/-- A thrown JavaScript error: an `Error` or a `TypeError`, with its message. A `TypeError` for
calling a value that is not a function has a message that V8 words after the caller's text for
the callee (`x.process is not a function`): the model keeps the property called. -/
inductive JsError
  | error (message : JsString)
  | typeError (message : JsString)
  | notAFunction (property : JsString)
  deriving DecidableEq, Repr

/-- The code units of a string literal of the source (all of them in the Basic Multilingual
Plane). -/
def js (s : String) : JsString := s.toList.map fun c => c.toNat.toUInt16

/-- `LineTerminator`: the code units `.` does not match. -/
def isLineTerminator (c : UInt16) : Bool :=
  let n := c.toNat
  n == 0x0A || n == 0x0D || n == 0x2028 || n == 0x2029

/-- The class `\s`: the `WhiteSpace` and `LineTerminator` code units. -/
def isWhiteSpace (c : UInt16) : Bool :=
  let n := c.toNat
  n == 0x09 || n == 0x0B || n == 0x0C || n == 0x20 || n == 0xA0 || n == 0x1680 ||
    (0x2000 ≤ n && n ≤ 0x200A) || n == 0x202F || n == 0x205F || n == 0x3000 || n == 0xFEFF ||
    isLineTerminator c

theorem isWhiteSpace_of_isLineTerminator {c : UInt16} (h : isLineTerminator c = true) :
    isWhiteSpace c = true := by
  simp [isWhiteSpace, h]

theorem isLineTerminator_of_not_isWhiteSpace {c : UInt16} (h : isWhiteSpace c = false) :
    isLineTerminator c = false := by
  cases hc : isLineTerminator c
  · rfl
  · simp [isWhiteSpace_of_isLineTerminator hc] at h

/-- A decimal digit `0`-`9`. -/
def isDigit (c : UInt16) : Bool := 0x30 ≤ c.toNat && c.toNat ≤ 0x39

/-- The value of a run of decimal digits. -/
def digitsValue (ds : JsString) : Nat := ds.foldl (fun n c => 10 * n + (c.toNat - 0x30)) 0

/-- The string with its leading and trailing white space removed (`StrWhiteSpace`, the same
code units as `\s`). -/
def trimWhiteSpace (s : JsString) : JsString :=
  ((s.dropWhile isWhiteSpace).reverse.dropWhile isWhiteSpace).reverse

theorem trimWhiteSpace_of_noWhite {s : JsString} (hs : s ≠ [])
    (h : ∀ c ∈ s, isWhiteSpace c = false) : trimWhiteSpace s = s := by
  have drop : ∀ l : JsString, l ≠ [] → (∀ c ∈ l, isWhiteSpace c = false) →
      l.dropWhile isWhiteSpace = l := by
    rintro (_ | ⟨c, l⟩) hl h
    · exact absurd rfl hl
    · simp [List.dropWhile_cons, h c (List.mem_cons_self _ _)]
  rw [trimWhiteSpace, drop s hs h, drop _ (by simpa using hs) (by simpa using h),
    List.reverse_reverse]

theorem isWhiteSpace_of_isDigit {c : UInt16} (h : isDigit c = true) : isWhiteSpace c = false := by
  simp only [isDigit, Bool.and_eq_true, decide_eq_true_eq] at h
  simp only [isWhiteSpace, isLineTerminator, Bool.or_eq_false_iff, beq_eq_false_iff_ne,
    Bool.and_eq_false_imp, decide_eq_true_eq, decide_eq_false_iff_not]
  omega

/-! ## The keys of an array -/

/-- The keys of a dense array's own index properties: `"0"`, and runs of decimal digits with
no leading `0`, below the array's length. -/
def isIndexKey (key : JsString) (length : Nat) : Bool :=
  key ≠ [] && key.all isDigit && (key = js "0" || key.head? ≠ some 0x30) &&
    decide (digitsValue key < length)

/-- The string keys of `Array.prototype` (ECMAScript 2023). -/
def arrayPrototypeKeys : List JsString :=
  ["length", "constructor", "at", "concat", "copyWithin", "fill", "find", "findIndex",
    "findLast", "findLastIndex", "lastIndexOf", "pop", "push", "reverse", "shift", "unshift",
    "slice", "sort", "splice", "includes", "indexOf", "join", "keys", "entries", "values",
    "forEach", "filter", "flat", "flatMap", "map", "every", "some", "reduce", "reduceRight",
    "toLocaleString", "toString", "toReversed", "toSorted", "toSpliced", "with"].map js

/-- The string keys of `Object.prototype`. -/
def objectPrototypeKeys : List JsString :=
  ["constructor", "__defineGetter__", "__defineSetter__", "hasOwnProperty",
    "__lookupGetter__", "__lookupSetter__", "isPrototypeOf", "propertyIsEnumerable",
    "toString", "valueOf", "__proto__", "toLocaleString"].map js

/-- `key in array` (`HasProperty`): an own key of the array (an index below its length, or
`length`), or a key of a prototype on its chain. The elements are not consulted. -/
def hasProperty {α : Type} (array : List α) (key : JsString) : Bool :=
  isIndexKey key array.length || key = js "length" || arrayPrototypeKeys.contains key ||
    objectPrototypeKeys.contains key

theorem prototypeKeys_not_hex :
    ∀ k ∈ arrayPrototypeKeys ++ objectPrototypeKeys, k.take 2 ≠ js "0x" := by
  decide

/-- A string that starts `0x`, as an address does, is a key of no array, whatever its
elements. -/
theorem hasProperty_of_hex {α : Type} (array : List α) {key : JsString}
    (h : key.take 2 = js "0x") : hasProperty array key = false := by
  have index : isIndexKey key array.length = false := by
    rw [← List.take_append_drop 2 key, h]
    simp only [isIndexKey, show js "0x" = [0x30, 0x78] from rfl, List.cons_append, List.all_cons,
      show isDigit 0x78 = false by decide]
    simp
  have length : key ≠ js "length" := fun hl => absurd (hl ▸ h) (by decide)
  have proto : key ∉ arrayPrototypeKeys ++ objectPrototypeKeys := fun hk =>
    prototypeKeys_not_hex key hk h
  simpa [hasProperty, index, length] using proto

end SafeClientGateway.Js
