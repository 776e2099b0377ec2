import SafeClientGateway.Js.Basic

/-!
# `TEMPLATE_REGEX`

`HumanDescriptionApi` tokenizes its templates with the global regular expression
`/{{(.*?)\s(\$.*?)}}|(\S+)/g`. This module gives its ECMAScript semantics, specialised to the
pattern: backtracking in the order the specification prescribes (the alternatives left to
right, a lazy `.*?` trying its continuation before one more code unit, the greedy `\S+`
taking the longest run), the leftmost search from `lastIndex`, and the update of `lastIndex`
by `exec`.

* `matchAt_append`: a match is a non-empty prefix of the text it is tried on;
* `exec_some`: a successful `exec` moves `lastIndex` strictly forward, and never past the end
  of the string;
* `exec_none`: a failed `exec` resets `lastIndex` to `0`;
* `exec_wellFormed`: what `exec` returns is found in the string, and is a word of `(\S+)` or a
  placeholder whose group 2 starts with `$`.
-/

namespace SafeClientGateway.HumanDescription

open Js

/-- The result of a successful `exec`, by the alternative that matched: the matched text and,
for `{{(.*?)\s(\$.*?)}}`, its two groups (`valueType` and `valueIndexPrefixed` in `process`).
After `(\S+)` both groups are undefined. The third group repeats the matched text, and the
code does not read it. -/
inductive Match
  | placeholder (fullMatch valueType valueIndexPrefixed : JsString)
  | word (fullMatch : JsString)
  deriving DecidableEq, Repr

/-- The matched text. -/
def Match.fullMatch : Match → JsString
  | .placeholder m _ _ => m
  | .word m => m

@[simp] theorem Match.fullMatch_placeholder (m v i : JsString) :
    (Match.placeholder m v i).fullMatch = m := rfl

@[simp] theorem Match.fullMatch_word (m : JsString) : (Match.word m).fullMatch = m := rfl

/-! ## The two alternatives -/

/-- `.*?}}` after the `$` of group 2: the lazy `.*?` tries `}}` first, and only then takes one
more code unit that is not a line terminator. The text taken, and the rest after `}}`. -/
def closeScan : JsString → Option (JsString × JsString)
  | 0x7D :: 0x7D :: r => some ([], r)
  | c :: s => if isLineTerminator c then none else (closeScan s).map fun p => (c :: p.1, p.2)
  | [] => none

/-- `\s(\$.*?)}}` at the head of `s`: the `\s` code unit, group 2 after its `$`, and the rest. -/
def afterGroupOne : JsString → Option (UInt16 × JsString × JsString)
  | w :: 0x24 :: s => if isWhiteSpace w then (closeScan s).map fun p => (w, p) else none
  | _ => none

/-- `(.*?)\s(\$.*?)}}` after `{{`: group 1 grows lazily, by code units that are not line
terminators, until `afterGroupOne` matches. Group 1, then what `afterGroupOne` returns. -/
def openScan : JsString → Option (JsString × UInt16 × JsString × JsString)
  | [] => none
  | c :: s =>
    match afterGroupOne (c :: s) with
    | some q => some ([], q)
    | none => if isLineTerminator c then none else (openScan s).map fun p => (c :: p.1, p.2)

/-- The first alternative, `{{(.*?)\s(\$.*?)}}`, at the head of `s`. -/
def placeholderAt : JsString → Option Match
  | 0x7B :: 0x7B :: s =>
    (openScan s).map fun p =>
      .placeholder (0x7B :: 0x7B :: (p.1 ++ p.2.1 :: 0x24 :: p.2.2.1 ++ [0x7D, 0x7D]))
        p.1 (0x24 :: p.2.2.1)
  | _ => none

/-- The second alternative, the greedy `(\S+)`, at the head of `s`: the longest run of code
units outside `\s`, when it is not empty. -/
def wordAt : JsString → Option Match
  | [] => none
  | c :: s => if isWhiteSpace c then none else some (.word (c :: s.takeWhile (! isWhiteSpace ·)))

/-- `TEMPLATE_REGEX` at the head of `s`: the alternatives left to right. -/
def matchAt (s : JsString) : Option Match :=
  match placeholderAt s with
  | some m => some m
  | none => wordAt s

/-! ## Matches are non-empty prefixes -/

theorem closeScan_eq {s g r : JsString} (h : closeScan s = some (g, r)) :
    s = g ++ 0x7D :: 0x7D :: r := by
  induction s using closeScan.induct generalizing g r with
  | case1 r' => simp_all [closeScan]
  | case2 c s hne hc => simp_all [closeScan]
  | case3 c s hne hc ih =>
    obtain ⟨-, g', hp, rfl⟩ :
        isLineTerminator c = false ∧ ∃ g', closeScan s = some (g', r) ∧ c :: g' = g := by
      simpa [closeScan, hne, hc] using h
    simp [ih hp]
  | case4 => simp [closeScan] at h

theorem afterGroupOne_eq {s g r : JsString} {w : UInt16}
    (h : afterGroupOne s = some (w, g, r)) :
    isWhiteSpace w = true ∧ s = w :: 0x24 :: g ++ 0x7D :: 0x7D :: r := by
  unfold afterGroupOne at h
  split at h
  · split_ifs at h with hw
    obtain ⟨⟨g', r'⟩, hp, he⟩ := Option.map_eq_some'.1 h
    cases he
    simp [hw, closeScan_eq hp]
  · cases h

theorem openScan_eq {s g₁ g₂ r : JsString} {w : UInt16}
    (h : openScan s = some (g₁, w, g₂, r)) :
    s = g₁ ++ w :: 0x24 :: g₂ ++ 0x7D :: 0x7D :: r := by
  induction s generalizing g₁ w g₂ r with
  | nil => simp [openScan] at h
  | cons c s ih =>
    simp only [openScan] at h
    split at h
    · rename_i q hq
      cases h
      simpa using (afterGroupOne_eq hq).2
    · split_ifs at h
      obtain ⟨⟨g₁', w', g₂', r'⟩, hp, he⟩ := Option.map_eq_some'.1 h
      cases he
      simp [ih hp]

theorem placeholderAt_append {s : JsString} {m : Match} (h : placeholderAt s = some m) :
    m.fullMatch ≠ [] ∧ ∃ r, s = m.fullMatch ++ r := by
  unfold placeholderAt at h
  split at h
  · obtain ⟨⟨g₁, w, g₂, r⟩, ho, rfl⟩ := Option.map_eq_some'.1 h
    exact ⟨by simp, r, by simp [openScan_eq ho]⟩
  · cases h

theorem wordAt_append {s : JsString} {m : Match} (h : wordAt s = some m) :
    m.fullMatch ≠ [] ∧ ∃ r, s = m.fullMatch ++ r := by
  unfold wordAt at h
  split at h
  · cases h
  · rename_i c s
    split_ifs at h
    cases h
    exact ⟨by simp, s.dropWhile (! isWhiteSpace ·), by simp [List.takeWhile_append_dropWhile]⟩

/-- **A match is a non-empty prefix** of the text it is tried on. -/
theorem matchAt_append {s : JsString} {m : Match} (h : matchAt s = some m) :
    m.fullMatch ≠ [] ∧ ∃ r, s = m.fullMatch ++ r := by
  unfold matchAt at h
  split at h
  · rename_i hp
    cases h
    exact placeholderAt_append hp
  · exact wordAt_append h

/-! ## The leftmost search and `exec` -/

/-- The leftmost match in the suffix `s` of the string, `s` starting at index `i`: the index
where the match starts, and the match. -/
def search : JsString → Nat → Option (Nat × Match)
  | [], _ => none
  | c :: s, i =>
    match matchAt (c :: s) with
    | some m => some (i, m)
    | none => search s (i + 1)

theorem search_eq {s : JsString} {i j : Nat} {m : Match} (h : search s i = some (j, m)) :
    m.fullMatch ≠ [] ∧ ∃ p r, s = p ++ m.fullMatch ++ r ∧ j = i + p.length := by
  induction s generalizing i with
  | nil => simp [search] at h
  | cons c s ih =>
    simp only [search] at h
    split at h
    · rename_i m' hm
      cases h
      obtain ⟨hne, r, hr⟩ := matchAt_append hm
      exact ⟨hne, [], r, by simpa using hr, by simp⟩
    · obtain ⟨hne, p, r, rfl, rfl⟩ := ih h
      exact ⟨hne, c :: p, r, by simp, by simp; omega⟩

/-- The regular expression object: `exec` reads and writes its `lastIndex`. -/
structure TemplateRegex where
  lastIndex : Nat
  deriving DecidableEq, Repr

/-- `RegExp.prototype.exec` of the global `TEMPLATE_REGEX` on `s`: the leftmost match at or
after `lastIndex`, which moves `lastIndex` to the end of the match; when there is none, or
`lastIndex` is past the end, `null`, and `lastIndex` is reset to `0`. -/
def TemplateRegex.exec (re : TemplateRegex) (s : JsString) : Option Match × TemplateRegex :=
  if s.length < re.lastIndex then (none, ⟨0⟩)
  else
    match search (s.drop re.lastIndex) re.lastIndex with
    | some (i, m) => (some m, ⟨i + m.fullMatch.length⟩)
    | none => (none, ⟨0⟩)

/-- **A failed `exec` resets `lastIndex`.** -/
theorem exec_none {re re' : TemplateRegex} {s : JsString} (h : re.exec s = (none, re')) :
    re'.lastIndex = 0 := by
  unfold TemplateRegex.exec at h
  split_ifs at h
  · cases h; rfl
  · split at h <;> cases h; rfl

/-- What a successful `exec` did: it searched from `lastIndex`, within the string, and moved
`lastIndex` to the end of the match found. -/
theorem exec_eq_some {re re' : TemplateRegex} {s : JsString} {m : Match}
    (h : re.exec s = (some m, re')) :
    re.lastIndex ≤ s.length ∧ ∃ i, search (s.drop re.lastIndex) re.lastIndex = some (i, m) ∧
      re' = ⟨i + m.fullMatch.length⟩ := by
  unfold TemplateRegex.exec at h
  split_ifs at h with hl
  · cases h
  split at h
  · cases h
    exact ⟨by omega, _, ‹_›, rfl⟩
  · cases h

/-- **A successful `exec` moves `lastIndex` forward**, and not past the end of the string. -/
theorem exec_some {re re' : TemplateRegex} {s : JsString} {m : Match}
    (h : re.exec s = (some m, re')) :
    re.lastIndex < re'.lastIndex ∧ re'.lastIndex ≤ s.length := by
  obtain ⟨-, i, hs, rfl⟩ := exec_eq_some h
  obtain ⟨hne, p, r, hd, rfl⟩ := search_eq hs
  have hlen := congrArg List.length hd
  have := List.length_pos.2 hne
  simp only [List.length_drop, List.length_append] at hlen
  dsimp only
  omega

/-! ## What a match is like -/

/-- A word of `(\S+)`: non-empty, with no code unit of `\s`. -/
def IsWord (w : JsString) : Prop := w ≠ [] ∧ ∀ c ∈ w, isWhiteSpace c = false

/-- What `TEMPLATE_REGEX` matches: a word of `(\S+)`, or a placeholder whose group 2 starts with
`$`. -/
def Match.WellFormed : Match → Prop
  | .placeholder _ _ valueIndexPrefixed => valueIndexPrefixed.head? = some 0x24
  | .word w => IsWord w

theorem placeholderAt_wellFormed {s : JsString} {m : Match} (h : placeholderAt s = some m) :
    m.WellFormed := by
  unfold placeholderAt at h
  split at h
  · obtain ⟨_, -, rfl⟩ := Option.map_eq_some'.1 h
    rfl
  · cases h

theorem wordAt_wellFormed {s : JsString} {m : Match} (h : wordAt s = some m) : m.WellFormed := by
  unfold wordAt at h
  split at h
  · cases h
  · split_ifs at h with hc
    cases h
    refine ⟨List.cons_ne_nil _ _, ?_⟩
    rintro c (_ | ⟨_, hc'⟩)
    · simpa using hc
    · simpa using List.mem_takeWhile_imp hc'

theorem matchAt_wellFormed {s : JsString} {m : Match} (h : matchAt s = some m) : m.WellFormed := by
  unfold matchAt at h
  split at h
  · cases h
    exact placeholderAt_wellFormed ‹_›
  · exact wordAt_wellFormed h

theorem search_wellFormed {s : JsString} {i j : Nat} {m : Match} (h : search s i = some (j, m)) :
    m.WellFormed := by
  induction s generalizing i with
  | nil => cases h
  | cons c s ih =>
    simp only [search] at h
    split at h
    · cases h
      exact matchAt_wellFormed ‹_›
    · exact ih h

/-- What a successful `exec` returns: a match of `TEMPLATE_REGEX`, found in the string. -/
theorem exec_wellFormed {re re' : TemplateRegex} {s : JsString} {m : Match}
    (h : re.exec s = (some m, re')) : m.WellFormed ∧ m.fullMatch <:+: s := by
  obtain ⟨-, i, hs, -⟩ := exec_eq_some h
  obtain ⟨-, p, r, hd, -⟩ := search_eq hs
  have hinfix : m.fullMatch <:+: s.drop re.lastIndex := ⟨p, r, hd.symm⟩
  exact ⟨search_wellFormed hs, hinfix.trans (List.drop_suffix _ _).isInfix⟩

end SafeClientGateway.HumanDescription
