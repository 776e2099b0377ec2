import SafeClientGateway.HumanDescription.Api

/-!
# The template language

A template is a sequence of tokens separated by white space: words, and placeholders
`{{T $n}}` with `T` the string of a `ValueType` and `n` a decimal numeral. On such a template
`TEMPLATE_REGEX` matches exactly the tokens, one after the other (`matchAt_token`): a word is
never taken for a placeholder, and a placeholder is never merged with, split by or swallowed
into a neighbour.

* `processLoop_layout`: the loop over a template laid out from tokens;
* `process_layout`: `parseMessages({ sig: t })[sig].process(to, params)` returns one fragment
  per token, in order.
-/

namespace SafeClientGateway.HumanDescription

open Js

/-- A word of a template: non-empty, with no white space and no `{{`. -/
structure TemplateWord where
  text : JsString
  ne_nil : text ≠ []
  noWhiteSpace : ∀ c ∈ text, isWhiteSpace c = false
  noOpen : ¬ [0x7B, 0x7B] <:+: text

/-- A decimal numeral. -/
structure Numeral where
  digits : JsString
  ne_nil : digits ≠ []
  allDigits : ∀ c ∈ digits, isDigit c = true

/-- A token of a template. -/
inductive Token
  | word (w : TemplateWord)
  | placeholder (type : ValueType) (index : Numeral)

section Tokens

variable (E : ValueTypeNames) {α : Type}

/-- The text of a token; a placeholder is `{{T $n}}`. -/
def Token.text : Token → JsString
  | .word w => w.text
  | .placeholder t n => 0x7B :: 0x7B :: (E.name t ++ 0x20 :: 0x24 :: n.digits ++ [0x7D, 0x7D])

/-- The match `TEMPLATE_REGEX` makes of a token. -/
def Token.match : Token → Match
  | .word w => .word w.text
  | .placeholder t n => .placeholder (Token.text E (.placeholder t n)) (E.name t) (0x24 :: n.digits)

/-- The fragment of a token: the word, or the parameter the numeral points to, inside
`{ amount, address }` for a token value. -/
def Token.fragment (toAddress : JsString) (params : List α) : Token → Fragment α
  | .word w => ⟨E.name .word, .word w.text⟩
  | .placeholder .tokenValue n =>
    ⟨E.name .tokenValue, .tokenValue params[digitsValue n.digits]? toAddress⟩
  | .placeholder t n => ⟨E.name t, .param params[digitsValue n.digits]?⟩

/-- `Layout toks s`: `s` is the tokens `toks`, each after a run of white space (non-empty
between two tokens), and a last run of white space. -/
inductive Layout : List Token → JsString → Prop
  | nil (w : JsString) : (∀ c ∈ w, isWhiteSpace c = true) → Layout [] w
  | cons (w : JsString) {tok : Token} {toks : List Token} (rest : JsString) :
      (∀ c ∈ w, isWhiteSpace c = true) → Layout toks rest →
      rest.head?.all isWhiteSpace = true → Layout (tok :: toks) (w ++ tok.text E ++ rest)

theorem Token.text_ne_nil (tok : Token) : tok.text E ≠ [] := by
  cases tok with
  | word w => exact w.ne_nil
  | placeholder t n => simp [Token.text]

theorem Layout.length_le {toks : List Token} {s : JsString} (h : Layout E toks s) :
    toks.length ≤ s.length := by
  induction h with
  | nil => simp
  | cons w rest _ _ _ ih =>
    have := List.length_pos.2 (Token.text_ne_nil E ‹_›)
    simp only [List.length_cons, List.length_append]
    omega

/-! ## The regex on a token -/

theorem matchAt_white {c : UInt16} (hc : isWhiteSpace c = true) (s : JsString) :
    matchAt (c :: s) = none := by
  have hp : placeholderAt (c :: s) = none := by
    unfold placeholderAt
    split
    · rename_i h; cases h; exact absurd hc (by decide)
    · rfl
  simp [matchAt, hp, wordAt, hc]

theorem search_white_append {w : JsString} (hw : ∀ c ∈ w, isWhiteSpace c = true) (s : JsString)
    (i : Nat) : search (w ++ s) i = search s (i + w.length) := by
  induction w generalizing i with
  | nil => rfl
  | cons c w ih =>
    simp only [List.mem_cons, forall_eq_or_imp] at hw
    rw [List.cons_append, search, matchAt_white hw.1]
    dsimp only
    rw [ih hw.2, List.length_cons, Nat.add_right_comm, Nat.add_assoc]

theorem search_of_matchAt {s : JsString} {m : Match} (h : matchAt s = some m) (i : Nat) :
    search s i = some (i, m) := by
  cases s with
  | nil => simp [matchAt, placeholderAt, wordAt] at h
  | cons c s => simp [search, h]

theorem closeScan_digits {ds : JsString} (hd : ∀ c ∈ ds, isDigit c = true) (r : JsString) :
    closeScan (ds ++ 0x7D :: 0x7D :: r) = some (ds, r) := by
  induction ds with
  | nil => rfl
  | cons d ds ih =>
    simp only [List.mem_cons, forall_eq_or_imp] at hd
    have hw := isWhiteSpace_of_isDigit hd.1
    rw [List.cons_append, closeScan.eq_2 _ _ (fun _ h _ => absurd (h ▸ hd.1) (by decide)),
      if_neg (by simp [isLineTerminator_of_not_isWhiteSpace hw]), ih hd.2]
    rfl

theorem afterGroupOne_of_not_white {c : UInt16} (hc : isWhiteSpace c = false) (s : JsString) :
    afterGroupOne (c :: s) = none := by
  unfold afterGroupOne
  split
  · rename_i h; cases h; simp [hc]
  · rfl

theorem openScan_name {T ds : JsString} (hT : ∀ c ∈ T, isWhiteSpace c = false)
    (hd : ∀ c ∈ ds, isDigit c = true) (r : JsString) :
    openScan (T ++ 0x20 :: 0x24 :: (ds ++ 0x7D :: 0x7D :: r)) = some (T, 0x20, ds, r) := by
  induction T with
  | nil =>
    rw [List.nil_append, openScan, afterGroupOne, if_pos (by decide), closeScan_digits hd]
    rfl
  | cons c T ih =>
    simp only [List.mem_cons, forall_eq_or_imp] at hT
    rw [List.cons_append, openScan, afterGroupOne_of_not_white hT.1,
      if_neg (by simp [isLineTerminator_of_not_isWhiteSpace hT.1]), ih hT.2]
    rfl

/-- A word followed by white space or the end of the template opens no placeholder: it has
no `{{`, and a lone `{` at its end is followed by no `{`. -/
theorem placeholderAt_word (w : TemplateWord) {rest : JsString}
    (hr : rest.head?.all isWhiteSpace = true) : placeholderAt (w.text ++ rest) = none := by
  obtain ⟨a, t, ht⟩ := List.exists_cons_of_ne_nil w.ne_nil
  unfold placeholderAt
  split
  · rename_i s h
    rw [ht, List.cons_append] at h
    cases t with
    | nil =>
      obtain ⟨-, h⟩ := List.cons_eq_cons.1 h
      rw [List.nil_append] at h
      subst h
      exact absurd (show isWhiteSpace 0x7B = true from hr) (by decide)
    | cons b t =>
      obtain ⟨rfl, rfl, -⟩ : a = 0x7B ∧ b = 0x7B ∧ _ := by simpa using h
      exact absurd (ht ▸ ⟨[], t, rfl⟩) w.noOpen
  · rfl

/-- `\S+` takes a word whole when white space or the end of the template follows it. -/
theorem wordAt_word (w : TemplateWord) {rest : JsString}
    (hr : rest.head?.all isWhiteSpace = true) : wordAt (w.text ++ rest) = some (.word w.text) := by
  obtain ⟨a, t, ht⟩ := List.exists_cons_of_ne_nil w.ne_nil
  have hwhite := w.noWhiteSpace
  rw [ht] at hwhite
  simp only [List.mem_cons, forall_eq_or_imp] at hwhite
  have htake : (t ++ rest).takeWhile (! isWhiteSpace ·) = t := by
    rw [List.takeWhile_append_of_pos (by simpa using hwhite.2)]
    cases rest with
    | nil => simp
    | cons c r => simp_all
  simp [ht, wordAt, hwhite.1, htake]

/-- **The regex matches a token exactly**, when white space or the end of the template follows
it. -/
theorem matchAt_token (tok : Token) {rest : JsString} (hr : rest.head?.all isWhiteSpace = true) :
    matchAt (tok.text E ++ rest) = some (tok.match E) := by
  cases tok with
  | placeholder t n =>
    have := openScan_name (E.noWhiteSpace t) n.allDigits rest
    simp only [matchAt, placeholderAt, Token.text, Token.match, List.cons_append,
      List.append_assoc, List.singleton_append, List.nil_append, this]
    rfl
  | word w => simp only [Token.text, Token.match, matchAt, placeholderAt_word w hr, wordAt_word w hr]

/-- The loop body turns the match of a token into its fragment. -/
theorem processMatch_token (toAddress : JsString) (params : List α) (tok : Token) :
    processMatch E toAddress params (tok.match E) =
      .ok (some (tok.fragment E toAddress params)) := by
  cases tok with
  | word w => exact if_pos w.ne_nil
  | placeholder t n =>
    have hv : isValueType E (E.name t) = true :=
      decide_eq_true (List.mem_map_of_mem _ (ValueType.mem_all t))
    have hi : numberIndex n.digits = some (digitsValue n.digits) :=
      numberIndex_digits n.ne_nil n.allDigits
    simp only [Token.match, processMatch, hv, Bool.not_true, Bool.false_eq_true, if_false,
      List.cons_ne_nil, and_false, List.drop_one, List.tail_cons, hi, parseExpression, parseParam,
      Option.bind_some]
    cases t <;> simp [Token.fragment, E.injective.eq_iff] <;> rfl

/-! ## The loop over a template -/

/-- The loop from the start of the tokens of a layout, the text before it already consumed. -/
theorem processLoop_layout (toAddress : JsString) (params : List α) {toks : List Token}
    {s : JsString} (h : Layout E toks s) (pre : JsString) (fragments : List (Fragment α))
    {fuel : Nat} (hf : toks.length < fuel) :
    processLoop E (pre ++ s) toAddress params fuel ⟨pre.length⟩ fragments =
      some (.ok (fragments ++ toks.map (Token.fragment E toAddress params)), ⟨0⟩) := by
  induction h generalizing pre fragments fuel with
  | nil w hw =>
    obtain ⟨fuel, rfl⟩ : ∃ f, fuel = f + 1 := ⟨fuel - 1, by omega⟩
    have hs : search (w ++ []) pre.length = none := by rw [search_white_append hw]; rfl
    simp only [List.append_nil] at hs
    simp [processLoop, TemplateRegex.exec, hs]
  | @cons w tok toks rest hw _ hr ih =>
    obtain ⟨fuel, rfl⟩ : ∃ f, fuel = f + 1 := ⟨fuel - 1, by omega⟩
    have hs : search (w ++ tok.text E ++ rest) pre.length =
        some (pre.length + w.length, tok.match E) := by
      rw [List.append_assoc, search_white_append hw, search_of_matchAt (matchAt_token E tok hr)]
    have he : TemplateRegex.exec ⟨pre.length⟩ (pre ++ (w ++ tok.text E ++ rest)) =
        (some (tok.match E), ⟨(pre ++ w ++ tok.text E).length⟩) := by
      simp only [TemplateRegex.exec, List.length_append, List.drop_left, hs]
      rw [if_neg (by omega)]
      cases tok <;> simp [Token.match, Token.text]
    have := ih (pre ++ w ++ tok.text E) (fragments ++ [tok.fragment E toAddress params])
      (show toks.length < fuel by simp at hf; omega)
    rw [processLoop, he]
    simpa [processMatch_token] using this

/-- **A template of tokens is processed token by token**: `parseMessages({ sig: t })[sig]`
`.process(to, params)` returns one fragment per token, in order, and leaves `lastIndex` at
`0`. -/
theorem process_layout (sig t toAddress : JsString) (params : List α) {toks : List Token}
    (h : Layout E toks t) :
    (HumanDescriptionApi.new [(sig, t)]).invoke E ⟨sig, toAddress, params⟩ =
      some (.ok (toks.map (Token.fragment E toAddress params)), HumanDescriptionApi.new [(sig, t)]) := by
  have := processLoop_layout E toAddress params h [] [] (Nat.lt_succ_of_le (h.length_le E))
  simp only [List.nil_append, List.length_nil] at this
  simp [HumanDescriptionApi.invoke, HumanDescriptionApi.new, parseMessages, templateAt,
    List.lookup_cons_self, MessageTemplate.process, this]

end Tokens

/-- The word `Send`. -/
def TemplateWord.send : TemplateWord := ⟨js "Send", by decide, by decide, by decide⟩

/-- The numeral `0`. -/
def Numeral.zero : Numeral := ⟨js "0", by decide, by decide⟩

theorem process_layout_send :
    Layout .lowerCamel [.word .send, .placeholder .address .zero] (js "Send \x7b\x7baddress $0\x7d\x7d") ∧
    (HumanDescriptionApi.new [(js "transfer", js "Send \x7b\x7baddress $0\x7d\x7d")]).invoke .lowerCamel
        ⟨js "transfer", js "0xabc", [7]⟩ =
      some (.ok [⟨js "word", .word (js "Send")⟩, ⟨js "address", .param (some 7)⟩],
        HumanDescriptionApi.new [(js "transfer", js "Send \x7b\x7baddress $0\x7d\x7d")]) :=
  have h : Layout .lowerCamel [.word .send, .placeholder .address .zero]
      (js "Send \x7b\x7baddress $0\x7d\x7d") :=
    Layout.cons [] (js " \x7b\x7baddress $0\x7d\x7d") (by decide)
      (Layout.cons (js " ") [] (by decide) (Layout.nil [] (by decide)) (by decide)) (by decide)
  ⟨h, process_layout _ _ _ _ _ h⟩

end SafeClientGateway.HumanDescription
