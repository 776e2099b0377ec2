import Mathlib.Algebra.Group.Nat.Basic
import SafeClientGateway.Js.Basic

/-!
# `Number(s)` as an array index

`process` reads a template's parameter as `params[Number(valueIndex)]`. This module gives
`StringToNumber` on the code units of `valueIndex`: the `StringNumericLiteral` grammar between
optional white space (ECMAScript 2023, 7.1.4.1.1), the literal's exact value, its rounding to the
nearest double, and the element of an array that double selects as a property key.

* `stringToNumber`: `NaN`, an infinity, or the exact value `± m * 10 ^ e` of the literal;
* `numberIndex`: the element `params[Number(s)]` reads, when it is one;
* `numberIndex_digits`: on a run of decimal digits, the value of the digits.
-/

namespace SafeClientGateway.Js

/-! ## The literal -/

/-- The value of a digit `0`-`9`, `a`-`z` or `A`-`Z` (`10` to `35`). -/
def digitValue (c : UInt16) : Option Nat :=
  let n := c.toNat
  if 0x30 ≤ n ∧ n ≤ 0x39 then some (n - 0x30)
  else if 0x61 ≤ n ∧ n ≤ 0x7A then some (n - 0x57)
  else if 0x41 ≤ n ∧ n ≤ 0x5A then some (n - 0x37)
  else none

/-- A non-empty run of digits of base `b` (`DecimalDigits`, `BinaryDigits`, `OctalDigits`,
`HexDigits`): its value. -/
def radixDigits (b : Nat) (ds : JsString) : Option Nat :=
  if ds = [] then none
  else ds.foldlM (fun n c => (digitValue c).bind fun d => if d < b then some (b * n + d) else none) 0

/-- `NonDecimalIntegerLiteral`: `0b`, `0o` or `0x`, in either case, then digits of that base. -/
def nonDecimalInteger : JsString → Option Nat
  | 0x30 :: x :: ds =>
    if x = 0x62 ∨ x = 0x42 then radixDigits 2 ds
    else if x = 0x6F ∨ x = 0x4F then radixDigits 8 ds
    else if x = 0x78 ∨ x = 0x58 then radixDigits 16 ds
    else none
  | _ => none

/-- `SignedInteger`, after the `e` of an exponent: an optional sign, then decimal digits. -/
def signedInteger : JsString → Option Int
  | 0x2B :: ds => (radixDigits 10 ds).map Int.ofNat
  | 0x2D :: ds => (radixDigits 10 ds).map fun n => -(n : Int)
  | ds => (radixDigits 10 ds).map Int.ofNat

/-- After the whole digits: the fraction digits after a `.`, and the rest. -/
def fractionPart : JsString → JsString × JsString
  | 0x2E :: r => (r.takeWhile isDigit, r.dropWhile isDigit)
  | r => ([], r)

/-- `ExponentPart`, or nothing: the exponent it writes. -/
def exponentPart : JsString → Option Int
  | [] => some 0
  | c :: r => if c = 0x65 ∨ c = 0x45 then signedInteger r else none

/-- `StrUnsignedDecimalLiteral` other than `Infinity`: whole digits, an optional `.` with
fraction digits (digits on at least one side of it), and an optional exponent. Its value
`m * 10 ^ e`, as `(m, e)`. -/
def unsignedDecimal (s : JsString) : Option (Nat × Int) :=
  let whole := s.takeWhile isDigit
  let fraction := fractionPart (s.dropWhile isDigit)
  if whole ++ fraction.1 = [] then none
  else (exponentPart fraction.2).map fun e =>
    (digitsValue (whole ++ fraction.1), e - fraction.1.length)

/-- What `StringToNumber` reads, before rounding: `NaN`, an infinity, or the exact value
`± mantissa * 10 ^ exponent` of the literal. -/
inductive NumericValue
  | nan
  | infinity (negative : Bool)
  | finite (negative : Bool) (mantissa : Nat) (exponent : Int)
  deriving DecidableEq, Repr

/-- `StrUnsignedDecimalLiteral`, after the sign: `Infinity`, or an unsigned decimal. -/
def unsignedLiteral (negative : Bool) (s : JsString) : NumericValue :=
  if s = js "Infinity" then .infinity negative
  else
    match unsignedDecimal s with
    | some (m, e) => .finite negative m e
    | none => .nan

/-- `StringToNumber`: the white space around the literal is dropped, and nothing else is `0`;
then a `NonDecimalIntegerLiteral`, or a `StrDecimalLiteral` with its optional sign. -/
def stringToNumber (s : JsString) : NumericValue :=
  match trimWhiteSpace s with
  | [] => .finite false 0 0
  | t =>
    match nonDecimalInteger t with
    | some n => .finite false n 0
    | none =>
      match t with
      | 0x2B :: r => unsignedLiteral false r
      | 0x2D :: r => unsignedLiteral true r
      | r => unsignedLiteral false r

/-! ## The double, as a key of an array -/

/-- The binade of `0 < n < 2 ^ 32`: the `k` with `2 ^ k ≤ n < 2 ^ (k + 1)`. -/
def binade (n : Nat) : Nat := ((List.range 32).filter fun k => decide (2 ^ k ≤ n)).length - 1

/-- Whether the double nearest to `num / den` is the integer `n`, for `n < 2 ^ 32`. In the binade
`k` of `n`, the doubles next to `n` are `2 ^ (k - 52)` away (`2 ^ (k - 53)` below a power of two),
and `n`'s significand is even, so `n` wins both ties: `num / den` rounds to `n` exactly when it
lies within half these gaps. Around `0` the nearest double is `2 ^ -1074`. -/
def roundsTo (num den n : Nat) : Bool :=
  if n = 0 then decide (num * 2 ^ 1075 ≤ den)
  else
    let j := 53 - binade n
    let j' := if n = 2 ^ binade n then j + 1 else j
    decide (num * 2 ^ j ≤ (n * 2 ^ j + 1) * den ∧ (n * 2 ^ j' - 1) * den ≤ num * 2 ^ j')

/-- The element that `params[x]` reads, for `x` the double nearest to `± num / den`. The key is
`ToString(x)`: for `+0` and `-0` it is `"0"`, for a positive integer `n` below `2 ^ 32 - 1` the
index `n`, and for any other double (negative, or with a fraction) a key no array has. From
`2 ^ 32 - 1` on no key is an index, and the whole part of `num / den` is returned: an array has
at most `2 ^ 32 - 1` elements, so that element reads as undefined as well. -/
def doubleIndex (negative : Bool) (num den : Nat) : Option Nat :=
  if negative then (if roundsTo num den 0 then some 0 else none)
  else
    let n := num / den
    if 2 ^ 32 - 1 ≤ n ∨ roundsTo num den n then some n
    else if roundsTo num den (n + 1) then some (n + 1)
    else none

/-- The element `params[Number(s)]` reads: `NaN` and the infinities are keys no array has. -/
def numberIndex (s : JsString) : Option Nat :=
  match stringToNumber s with
  | .finite negative m e => doubleIndex negative (m * 10 ^ e.toNat) (10 ^ (-e).toNat)
  | _ => none

set_option exponentiation.threshold 1100 in
example : numberIndex (js "1.0") = some 1 ∧ numberIndex (js "+1") = some 1 ∧
    numberIndex (js "1e0") = some 1 ∧ numberIndex (js "0x1") = some 1 ∧
    numberIndex (js "-0") = some 0 ∧ numberIndex (js "") = some 0 := by
  decide

set_option exponentiation.threshold 1100 in
example : numberIndex (js "1.5") = none ∧ numberIndex (js "-1") = none ∧
    numberIndex (js "Infinity") = none ∧ numberIndex (js "1.00000000000000000001") = some 1 := by
  decide

/-! ## Runs of digits -/

theorem unsignedDecimal_digits {ds : JsString} (hne : ds ≠ []) (hd : ∀ c ∈ ds, isDigit c = true) :
    unsignedDecimal ds = some (digitsValue ds, 0) := by
  have hw : ds.takeWhile isDigit = ds := List.takeWhile_eq_self_iff.2 hd
  have hr : ds.dropWhile isDigit = [] := List.dropWhile_eq_nil_iff.2 hd
  simp [unsignedDecimal, hw, hr, fractionPart, exponentPart, hne]

theorem roundsTo_self (n : Nat) : roundsTo n 1 n = true := by
  by_cases h : n = 0
  · simp only [roundsTo, h, if_true, Nat.zero_mul, Nat.zero_le, decide_True]
  · simp [roundsTo, h]

/-- A `0` followed by a digit starts no `0b`, `0o` or `0x` literal. -/
theorem nonDecimalInteger_of_isDigit (c : UInt16) {x : UInt16} (r : JsString)
    (hx : isDigit x = true) : nonDecimalInteger (c :: x :: r) = none := by
  have hne : ∀ y : UInt16, isDigit y = false → x ≠ y := fun y hy h => by rw [h, hy] at hx; cases hx
  unfold nonDecimalInteger
  split
  · rename_i x' ds h
    obtain ⟨-, rfl, -⟩ : c = 0x30 ∧ x = x' ∧ r = ds := by simpa using h
    rw [if_neg, if_neg, if_neg] <;> rintro (h | h) <;> exact hne _ (by decide) h
  · rfl

theorem stringToNumber_digits {ds : JsString} (hne : ds ≠ []) (hd : ∀ c ∈ ds, isDigit c = true) :
    stringToNumber ds = .finite false (digitsValue ds) 0 := by
  obtain ⟨c, cs, rfl⟩ := List.exists_cons_of_ne_nil hne
  have hc := hd c (List.mem_cons_self _ _)
  have hnon : nonDecimalInteger (c :: cs) = none := by
    rcases cs with _ | ⟨x, r⟩
    · unfold nonDecimalInteger
      split
      · simp_all
      · rfl
    · exact nonDecimalInteger_of_isDigit c r (hd x (by simp))
  have hI : c :: cs ≠ js "Infinity" := fun h => absurd (h ▸ hd) (by decide)
  rw [stringToNumber, trimWhiteSpace_of_noWhite hne fun c h => isWhiteSpace_of_isDigit (hd c h)]
  simp only [hnon]
  split
  case h_1 r h | h_2 r h => exact absurd ((List.cons.inj h).1 ▸ hc) (by decide)
  case h_3 => rw [unsignedLiteral, if_neg hI, unsignedDecimal_digits hne hd]

/-- `Number` of a run of decimal digits is its value, which selects that element. -/
theorem numberIndex_digits {ds : JsString} (hne : ds ≠ []) (hd : ∀ c ∈ ds, isDigit c = true) :
    numberIndex ds = some (digitsValue ds) := by
  simp [numberIndex, stringToNumber_digits hne hd, doubleIndex, roundsTo_self]

end SafeClientGateway.Js
