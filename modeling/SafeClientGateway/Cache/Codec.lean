import SafeClientGateway.Js.Basic

/-!
# Rows in the cache

A query result is cached as the text `JSON.stringify` makes of its rows, and a cached text is
read back with `JSON.parse`. The cache's callers rely on one fact of that pair: parsing the text
of some rows gives those rows back. `Codec` is that pair with that fact.

`Codec.ofRows` builds one from the text of a single row (a count is written in unary and closed
by a comma, a string follows its length), so that a model can be run on concrete rows.

* `Codec.ofRows`: a codec from a row encoding that reads back what it wrote;
* `encodeCount_inj`, `encodeString_append_inj`: counts, and strings followed by any text, are
  written injectively, so they can name cache entries apart.
-/

namespace SafeClientGateway

open Js

/-- `JSON.stringify` of a query's rows and `JSON.parse` of the text back: parsing gives the rows
back. -/
structure Codec (Row : Type) where
  stringify : List Row → JsString
  parse : JsString → List Row
  parse_stringify : ∀ rows, parse (stringify rows) = rows

namespace Codec

/-! ## Counts and strings -/

/-- A count: one `.` for each unit, closed by `,`. -/
def encodeCount (n : Nat) : JsString := List.replicate n 0x2E ++ [0x2C]

/-- The count at the front of a text, and the rest of it. -/
def decodeCount : JsString → Option (Nat × JsString)
  | [] => none
  | c :: rest => if c = 0x2C then some (0, rest) else (decodeCount rest).map fun p => (p.1 + 1, p.2)

theorem decodeCount_encodeCount (n : Nat) (rest : JsString) :
    decodeCount (encodeCount n ++ rest) = some (n, rest) := by
  induction n with
  | zero => rfl
  | succ n ih =>
    show decodeCount (0x2E :: (encodeCount n ++ rest)) = _
    rw [decodeCount, if_neg (by decide), ih]
    rfl

theorem encodeCount_inj {n n' : Nat} (h : encodeCount n = encodeCount n') : n = n' := by
  have := decodeCount_encodeCount n []
  rw [h, decodeCount_encodeCount] at this
  exact (Prod.mk.inj (Option.some_inj.1 this)).1.symm

/-- A string, after its length. -/
def encodeString (s : JsString) : JsString := encodeCount s.length ++ s

/-- The string at the front of a text, and the rest of it. -/
def decodeString (text : JsString) : Option (JsString × JsString) :=
  (decodeCount text).map fun p => (p.2.take p.1, p.2.drop p.1)

theorem decodeString_encodeString (s rest : JsString) :
    decodeString (encodeString s ++ rest) = some (s, rest) := by
  simp only [decodeString, encodeString, List.append_assoc, decodeCount_encodeCount,
    Option.map_some', List.take_left', List.drop_left']

/-- A string after its length, then any text: the pair is read back from the whole. -/
theorem encodeString_append_inj {s s' rest rest' : JsString}
    (h : encodeString s ++ rest = encodeString s' ++ rest') : s = s' ∧ rest = rest' := by
  have := decodeString_encodeString s rest
  rw [h, decodeString_encodeString] at this
  exact Prod.mk.inj (Option.some_inj.1 this.symm)

/-! ## Lists of rows -/

section Rows

variable {Row : Type} (encode : Row → JsString) (decode : JsString → Option (Row × JsString))

/-- The rows' texts, one after the other. -/
def encodeAll : List Row → JsString
  | [] => []
  | row :: rows => encode row ++ encodeAll rows

/-- `n` rows from the front of a text. -/
def decodeAll : Nat → JsString → Option (List Row)
  | 0, _ => some []
  | n + 1, text => (decode text).bind fun p => (decodeAll n p.2).map (p.1 :: ·)

variable {encode decode}

theorem decodeAll_encodeAll (h : ∀ row rest, decode (encode row ++ rest) = some (row, rest))
    (rows : List Row) (rest : JsString) :
    decodeAll decode rows.length (encodeAll encode rows ++ rest) = some rows := by
  induction rows with
  | nil => rfl
  | cons row rows ih =>
    simp only [List.length_cons, decodeAll, encodeAll, List.append_assoc, h, Option.some_bind, ih,
      Option.map_some']

/-- **A codec from a row encoding that reads back what it wrote**: the count of rows, then
their texts. -/
def ofRows (h : ∀ row rest, decode (encode row ++ rest) = some (row, rest)) : Codec Row where
  stringify rows := encodeCount rows.length ++ encodeAll encode rows
  parse text := ((decodeCount text).bind fun p => decodeAll decode p.1 p.2).getD []
  parse_stringify rows := by
    have all := decodeAll_encodeAll h rows []
    rw [List.append_nil] at all
    simp only [decodeCount_encodeCount, Option.some_bind, all, Option.getD_some]

end Rows

end Codec

end SafeClientGateway
