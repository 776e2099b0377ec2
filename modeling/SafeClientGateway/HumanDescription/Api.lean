import SafeClientGateway.Js.Number
import SafeClientGateway.HumanDescription.Regex

/-!
# `HumanDescriptionApi`

`parseMessages` turns each contract description into a `process` closure, which runs the
global `TEMPLATE_REGEX` over its template in a `while` loop and collects fragments. All closures
of an instance share the one regex object, so its `lastIndex` is state that one invocation
leaves to the next.

* `processLoop_isSome`: the loop ends within `template.length` turns, whatever `lastIndex`
  it starts from;
* `processLoop_returns`: whenever the loop ends, it returns (the body never throws on a match
  the regex produces) and `lastIndex` is `0` again;
* `MessageTemplate.process_emitted`: on every template, `process` emits only words of the
  template and parameters under the type of a member of `ValueType`;
* `invoke_returns`: an invocation of a call signature the instance has parsed never throws,
  whatever the state of the regex;
* `invokeAll_eq_fresh`: every invocation on an instance, after any history, returns or
  throws what it does on a freshly constructed instance.
-/

namespace SafeClientGateway.HumanDescription

open Js

/-- The members of `ValueType` (its declaration is not under src/): the five members the code
names, each with a case in `parseParam`. -/
inductive ValueType
  | tokenValue
  | address
  | decimals
  | identifier
  | word
  deriving DecidableEq, Repr

/-- `Object.values(ValueType)`, as members. -/
def ValueType.all : List ValueType := [.tokenValue, .address, .decimals, .identifier, .word]

theorem ValueType.mem_all (v : ValueType) : v ∈ ValueType.all := by cases v <;> decide

/-- The string values of the members of `ValueType`: distinct, and without white space. -/
structure ValueTypeNames where
  name : ValueType → JsString
  injective : Function.Injective name
  noWhiteSpace : ∀ v, ∀ c ∈ name v, isWhiteSpace c = false

/-- The members' names in lower camel case. -/
def ValueTypeNames.lowerCamel : ValueTypeNames where
  name
    | .tokenValue => js "tokenValue"
    | .address => js "address"
    | .decimals => js "decimals"
    | .identifier => js "identifier"
    | .word => js "word"
  injective a b h := by cases a <;> cases b <;> first | rfl | exact absurd h (by decide)
  noWhiteSpace v := by cases v <;> decide

/-- The `value` of a `HumanReadableFragment`: a matched word, a parameter `params[i]` (`none`
when undefined), or the `{ amount, address }` of a token value. -/
inductive FragmentValue (α : Type)
  | word (text : JsString)
  | param (value : Option α)
  | tokenValue (amount : Option α) (address : JsString)
  deriving DecidableEq, Repr

/-- `HumanReadableFragment`. -/
structure Fragment (α : Type) where
  type : JsString
  value : FragmentValue α
  deriving DecidableEq, Repr

section Process

variable (E : ValueTypeNames) {α : Type}

/-- `isValueType`: `Object.values(ValueType).includes(type)`. -/
def isValueType (type : JsString) : Bool := decide (type ∈ ValueType.all.map E.name)

/-- `parseParam`: `params[valueIndex]`, inside `{ amount, address: to }` for a token value
(`toAddress` is the `to` of the source); a `valueType` with no case throws. -/
def parseParam (valueType : JsString) (valueIndex : Option Nat) (toAddress : JsString)
    (params : List α) : Except JsError (FragmentValue α) :=
  let param := valueIndex.bind (params[·]?)
  if valueType = E.name .tokenValue then .ok (.tokenValue param toAddress)
  else if valueType = E.name .address ∨ valueType = E.name .decimals ∨
      valueType = E.name .identifier ∨ valueType = E.name .word then .ok (.param param)
  else .error (.error (valueType ++ js " not allowed as ValueType"))

/-- `parseExpression`: the fragment of type `valueType` with the value `parseParam` reads. -/
def parseExpression (valueType : JsString) (valueIndex : Option Nat) (toAddress : JsString)
    (params : List α) : Except JsError (Fragment α) :=
  (parseParam E valueType valueIndex toAddress params).map fun value => ⟨valueType, value⟩

/-- The body of the `while` loop of `process` on one match: `none` when it `continue`s without
a fragment. The `slice` of an undefined `valueIndexPrefixed` throws a `TypeError`; a
placeholder's parameter is `params[Number(valueIndex)]` (`numberIndex`). -/
def processMatch (toAddress : JsString) (params : List α) :
    Match → Except JsError (Option (Fragment α))
  | .word fullMatch =>
    if fullMatch ≠ [] then .ok (some ⟨E.name .word, .word fullMatch⟩)
    else .error (.typeError (js "Cannot read properties of undefined (reading \x27slice\x27)"))
  | .placeholder fullMatch valueType valueIndexPrefixed =>
    if ! isValueType E valueType then .ok none
    else if fullMatch ≠ [] ∧ valueType = [] ∧ valueIndexPrefixed = [] then
      .ok (some ⟨E.name .word, .word fullMatch⟩)
    else
      (parseExpression E valueType (numberIndex (valueIndexPrefixed.drop 1)) toAddress
        params).map some

/-- The `while` loop of `process`, for at most `fuel - 1` turns: what `process` returns or
throws, and the regex afterwards; `none` when the loop has not ended by then. -/
def processLoop (template toAddress : JsString) (params : List α) :
    Nat → TemplateRegex → List (Fragment α) →
      Option (Except JsError (List (Fragment α)) × TemplateRegex)
  | 0, _, _ => none
  | fuel + 1, re, fragments =>
    match re.exec template with
    | (none, re') => some (.ok fragments, re')
    | (some m, re') =>
      match processMatch E toAddress params m with
      | .ok none => processLoop template toAddress params fuel re' fragments
      | .ok (some f) => processLoop template toAddress params fuel re' (fragments ++ [f])
      | .error e => some (.error e, re')

/-! ## The loop ends, and resets the regex -/

/-- What `parseParam` returns for a member: `params[valueIndex]`, inside
`{ amount, address: to }` for a token value. -/
theorem parseParam_name (v : ValueType) (valueIndex : Option Nat) (toAddress : JsString)
    (params : List α) :
    parseParam E (E.name v) valueIndex toAddress params =
      .ok (if v = .tokenValue then .tokenValue (valueIndex.bind (params[·]?)) toAddress
        else .param (valueIndex.bind (params[·]?))) := by
  unfold parseParam
  by_cases hv : v = .tokenValue
  · simp [hv]
  · have hne : E.name v ≠ E.name .tokenValue := fun h => hv (E.injective h)
    cases v <;> simp_all

/-- `parseParam` has a case for every member. -/
theorem parseParam_ok (v : ValueType) (valueIndex : Option Nat) (toAddress : JsString)
    (params : List α) :
    ∃ value, parseParam E (E.name v) valueIndex toAddress params = .ok value :=
  ⟨_, parseParam_name E v valueIndex toAddress params⟩

/-- The body never throws on a match of `TEMPLATE_REGEX`: a word is never empty, and a
placeholder reaches `parseParam` only with a `valueType` it has a case for. -/
theorem processMatch_ok (toAddress : JsString) (params : List α) {m : Match}
    (hm : m.fullMatch ≠ []) : ∃ o, processMatch E toAddress params m = .ok o := by
  cases m with
  | word fullMatch => exact ⟨_, if_pos hm⟩
  | placeholder fullMatch valueType valueIndexPrefixed =>
    unfold processMatch
    by_cases hv : isValueType E valueType
    · obtain ⟨v, -, rfl⟩ := List.mem_map.1 (of_decide_eq_true hv)
      simp only [hv, Bool.not_true, Bool.false_eq_true, if_false]
      split_ifs
      · exact ⟨_, rfl⟩
      · obtain ⟨value, hp⟩ := parseParam_ok E v (numberIndex (valueIndexPrefixed.drop 1)) toAddress
          params
        exact ⟨_, by rw [parseExpression, hp]; rfl⟩
    · exact ⟨none, by simp [hv]⟩

theorem exec_fullMatch {re re' : TemplateRegex} {s : JsString} {m : Match}
    (h : re.exec s = (some m, re')) : m.fullMatch ≠ [] :=
  let ⟨_, _, hs, _⟩ := exec_eq_some h
  (search_eq hs).1

/-- **The loop ends within `template.length` turns** from any `lastIndex`: each turn moves
`lastIndex` forward (`exec_some`), and it never passes the end of the template. -/
theorem processLoop_isSome (template toAddress : JsString) (params : List α) {fuel : Nat}
    {re : TemplateRegex} (fragments : List (Fragment α))
    (h : template.length - re.lastIndex < fuel) :
    (processLoop E template toAddress params fuel re fragments).isSome := by
  induction fuel generalizing re fragments with
  | zero => omega
  | succ fuel ih =>
    unfold processLoop
    split
    · rfl
    · rename_i m re' he
      obtain ⟨hlt, hle⟩ := exec_some he
      have hfuel : template.length - re'.lastIndex < fuel := by omega
      split <;> [exact ih _ hfuel; exact ih _ hfuel; rfl]

/-- **Whenever the loop ends, it returns, and `lastIndex` is `0`**: it ends only when `exec`
returns `null`, since the body never throws on a match the regex produces. -/
theorem processLoop_returns {template toAddress : JsString} {params : List α} {fuel : Nat}
    {re re' : TemplateRegex} {fragments : List (Fragment α)}
    {r : Except JsError (List (Fragment α))}
    (h : processLoop E template toAddress params fuel re fragments = some (r, re')) :
    (∃ fragments', r = .ok fragments') ∧ re' = ⟨0⟩ := by
  induction fuel generalizing re fragments with
  | zero => cases h
  | succ fuel ih =>
    unfold processLoop at h
    split at h
    · rename_i re'' he
      obtain ⟨rfl, rfl⟩ := Prod.mk.inj (Option.some_inj.1 h)
      exact ⟨⟨_, rfl⟩, congrArg TemplateRegex.mk (exec_none he)⟩
    · rename_i m re'' he
      obtain ⟨o, ho⟩ := processMatch_ok E toAddress params (exec_fullMatch he)
      rw [ho] at h
      cases o <;> exact ih h

/-- **The `while` loop of `process` terminates after at most `template.length` turns**, on every
template and from every `lastIndex`: every successful `exec` returns a non-empty match and moves
`lastIndex` strictly forward, never past the end of the template. -/
theorem processLoop_terminates (template toAddress : JsString) (params : List α) :
    (∀ (re re' : TemplateRegex) (m : Match), re.exec template = (some m, re') →
      m.fullMatch ≠ [] ∧ re.lastIndex < re'.lastIndex ∧ re'.lastIndex ≤ template.length) ∧
    ∀ (re : TemplateRegex) (fragments : List (Fragment α)),
      (processLoop E template toAddress params (template.length + 1) re fragments).isSome :=
  ⟨fun _ _ _ h => ⟨exec_fullMatch h, exec_some h⟩,
    fun _ fragments => processLoop_isSome E template toAddress params fragments (by omega)⟩

/-! ## What the loop emits -/

/-- A fragment `process` can emit on `template`: a word of the template, or the value of a
member of `ValueType`, read from `params` at some index (inside `{ amount, address: to }` for a
token value). -/
def Emitted (template toAddress : JsString) (params : List α) (f : Fragment α) : Prop :=
  (∃ w, IsWord w ∧ w <:+: template ∧ f = ⟨E.name .word, .word w⟩) ∨
    ∃ (v : ValueType) (i : Option Nat), f = ⟨E.name v,
      if v = .tokenValue then .tokenValue (i.bind (params[·]?)) toAddress
      else .param (i.bind (params[·]?))⟩

/-- The body emits a fragment only of a match's word, or of a placeholder of a member of
`ValueType`: a placeholder of another type is skipped, and one of the regex is never taken for
a word, as its group 2 is never empty. -/
theorem processMatch_emitted {template toAddress : JsString} {params : List α} {m : Match}
    (hm : m.WellFormed) (hs : m.fullMatch <:+: template) {f : Fragment α}
    (h : processMatch E toAddress params m = .ok (some f)) :
    Emitted E template toAddress params f := by
  cases m with
  | word w =>
    rw [processMatch, if_pos hm.1] at h
    cases h
    exact .inl ⟨w, hm, hs, rfl⟩
  | placeholder fullMatch valueType valueIndexPrefixed =>
    unfold processMatch at h
    by_cases hv : isValueType E valueType
    · obtain ⟨v, -, rfl⟩ := List.mem_map.1 (of_decide_eq_true hv)
      have hne : valueIndexPrefixed ≠ [] := by rintro rfl; cases hm
      simp only [hv, hne, parseExpression, parseParam_name, Bool.not_true, Bool.false_eq_true,
        and_false, if_false, Except.map] at h
      cases h
      exact .inr ⟨v, _, rfl⟩
    · simp [hv] at h

/-- Every fragment the loop adds is emitted on the template. -/
theorem processLoop_emitted {template toAddress : JsString} {params : List α} {fuel : Nat}
    {re re' : TemplateRegex} {fragments fragments' : List (Fragment α)}
    (h : processLoop E template toAddress params fuel re fragments = some (.ok fragments', re'))
    (hf : ∀ f ∈ fragments, Emitted E template toAddress params f) :
    ∀ f ∈ fragments', Emitted E template toAddress params f := by
  induction fuel generalizing re fragments with
  | zero => cases h
  | succ fuel ih =>
    unfold processLoop at h
    split at h
    · cases h
      exact hf
    · rename_i m re'' he
      obtain ⟨hwf, hs⟩ := exec_wellFormed he
      split at h
      · exact ih h hf
      · rename_i f hm
        refine ih h fun g hg => (List.mem_append.1 hg).elim (hf g) fun hg => ?_
        rw [List.mem_singleton.1 hg]
        exact processMatch_emitted E hwf hs hm
      · cases h

end Process

/-! ## Message templates and the instance -/

/-- `Expression`: the contract descriptions, call signature to template, in the order
`for...in` visits them (the keys of an object, so distinct). -/
abbrev Expression := List (JsString × JsString)

/-- A `process` closure built by `parseMessages`: it holds its template, and reads and writes
the instance's `TEMPLATE_REGEX`. -/
structure MessageTemplate where
  template : JsString
  deriving DecidableEq, Repr

/-- `MessageTemplates`: call signature to closure. -/
abbrev MessageTemplates := List (JsString × MessageTemplate)

/-- `parseMessages`: one closure per call signature. -/
def parseMessages (messages : Expression) : MessageTemplates :=
  messages.map fun e => (e.1, ⟨e.2⟩)

/-- `process(to, params)` on the instance's regex `re`: the `while` loop, given the
`template.length` turns it can take (`processLoop_isSome`). -/
def MessageTemplate.process (E : ValueTypeNames) {α : Type} (p : MessageTemplate)
    (toAddress : JsString) (params : List α) (re : TemplateRegex) :
    Option (Except JsError (List (Fragment α)) × TemplateRegex) :=
  processLoop E p.template toAddress params (p.template.length + 1) re []

/-- A `HumanDescriptionApi` instance: its parsed messages and its `TEMPLATE_REGEX`. -/
structure HumanDescriptionApi where
  parsedMessages : MessageTemplates
  templateRegex : TemplateRegex

/-- The constructor: the closures of the contract descriptions, and a fresh regex. -/
def HumanDescriptionApi.new (contractDescriptions : Expression) : HumanDescriptionApi :=
  ⟨parseMessages contractDescriptions, ⟨0⟩⟩

/-- One call to a process function of the instance. -/
structure Invocation (α : Type) where
  callSignature : JsString
  toAddress : JsString
  params : List α

/-- What `getParsedMessages()[callSignature]` is, for `.process` to be called on it. -/
inductive TemplateLookup
  /-- A closure built by `parseMessages`. -/
  | closure (p : MessageTemplate)
  /-- A value with no `process` function: a function or object of a prototype. -/
  | noProcess
  /-- `undefined`. -/
  | undefined

/-- `messageTemplates[callSignature]` on the object `parseMessages` builds: the closure the loop
assigned under the call signature (for `__proto__`, the assignment replaces the object's
prototype by the closure's object, which reading `__proto__` returns). Otherwise the prototype
chain answers: a key of `Object.prototype` is a function, or for `__proto__` the prototype
itself, and `process` names the function of a closure assigned to `__proto__`; none of them has
a `process` function. Any other key is undefined. -/
def templateAt (templates : MessageTemplates) (callSignature : JsString) : TemplateLookup :=
  match templates.lookup callSignature with
  | some p => .closure p
  | none =>
    if callSignature ∈ objectPrototypeKeys ∨
        callSignature = js "process" ∧ (templates.lookup (js "__proto__")).isSome then .noProcess
    else .undefined

theorem templateAt_of_lookup {templates : MessageTemplates} {callSignature : JsString}
    {p : MessageTemplate} (h : templates.lookup callSignature = some p) :
    templateAt templates callSignature = .closure p := by
  rw [templateAt, h]

section Instance

variable (E : ValueTypeNames) {α : Type}

/-- `getParsedMessages()[callSignature].process(to, params)`: what it returns or throws, and
the instance afterwards. Reading `process` of undefined, or calling a value with no `process`
function, throws a `TypeError`, and the regex is not touched. -/
def HumanDescriptionApi.invoke (api : HumanDescriptionApi) (i : Invocation α) :
    Option (Except JsError (List (Fragment α)) × HumanDescriptionApi) :=
  match templateAt api.parsedMessages i.callSignature with
  | .undefined =>
    some (.error (.typeError (js "Cannot read properties of undefined (reading \x27process\x27)")),
      api)
  | .noProcess => some (.error (.notAFunction (js "process")), api)
  | .closure p =>
    (p.process E i.toAddress i.params api.templateRegex).map fun o =>
      (o.1, ⟨api.parsedMessages, o.2⟩)

example : (HumanDescriptionApi.new [(js "transfer", js "Send")]).invoke .lowerCamel
      (⟨js "toString", js "0xabc", [7]⟩ : Invocation Nat) =
    some (.error (.notAFunction (js "process")), HumanDescriptionApi.new [(js "transfer", js "Send")]) :=
  rfl

/-- Invocations made one after the other on one instance: the outcome of each (`none`, and
nothing after it, for one that does not end). -/
def HumanDescriptionApi.invokeAll (api : HumanDescriptionApi) :
    List (Invocation α) → List (Option (Except JsError (List (Fragment α))))
  | [] => []
  | i :: is =>
    match api.invoke E i with
    | some (r, api') => some r :: api'.invokeAll is
    | none => [none]

/-- `process` returns its fragments on every template, from any state of the regex, and
leaves `lastIndex` at `0`. -/
theorem MessageTemplate.process_returns (p : MessageTemplate) (toAddress : JsString)
    (params : List α) (re : TemplateRegex) :
    ∃ fragments, p.process E toAddress params re = some (.ok fragments, ⟨0⟩) := by
  obtain ⟨⟨r, re'⟩, hp⟩ := Option.isSome_iff_exists.1 <| processLoop_isSome E p.template
    toAddress params [] (show p.template.length - re.lastIndex < p.template.length + 1 by omega)
  obtain ⟨⟨fragments, rfl⟩, rfl⟩ := processLoop_returns E hp
  exact ⟨fragments, hp⟩

/-- **`process` emits only words of its template and values of its parameters**, on every
template and from every state of the regex: each fragment is `{ type: Word, value: w }` for a
non-empty run `w` of the template's code units outside `\s`, or `{ type: T, value }` for the
string `T` of a member of `ValueType`, with `value` read from `params` (inside
`{ amount, address: to }` for a token value). A placeholder of any other type is skipped, and
no other type or value reaches a fragment, however malformed the template. -/
theorem MessageTemplate.process_emitted (p : MessageTemplate) (toAddress : JsString)
    (params : List α) (re : TemplateRegex) :
    ∃ fragments, p.process E toAddress params re = some (.ok fragments, ⟨0⟩) ∧
      ∀ f ∈ fragments, Emitted E p.template toAddress params f := by
  obtain ⟨fragments, hp⟩ := p.process_returns E toAddress params re
  exact ⟨fragments, hp, processLoop_emitted E hp (by simp)⟩

/-- An invocation on an instance whose regex is fresh returns, and leaves the instance as it
was. -/
theorem invoke_of_fresh (api : HumanDescriptionApi) (h : api.templateRegex = ⟨0⟩)
    (i : Invocation α) : ∃ r, api.invoke E i = some (r, api) := by
  unfold HumanDescriptionApi.invoke
  split
  · exact ⟨_, rfl⟩
  · exact ⟨_, rfl⟩
  · rename_i p _
    obtain ⟨fragments, hp⟩ := p.process_returns E i.toAddress i.params api.templateRegex
    exact ⟨.ok fragments, by rw [hp, ← h]; rfl⟩

/-- **An invocation of a known call signature never throws**: whatever the state of the
instance's regex, `process` returns the template's fragments and leaves `lastIndex` at `0`. -/
theorem invoke_returns (api : HumanDescriptionApi) (i : Invocation α)
    (h : (api.parsedMessages.lookup i.callSignature).isSome) :
    ∃ fragments, api.invoke E i = some (.ok fragments, ⟨api.parsedMessages, ⟨0⟩⟩) := by
  obtain ⟨p, hp⟩ := Option.isSome_iff_exists.1 h
  obtain ⟨fragments, hf⟩ := p.process_returns E i.toAddress i.params api.templateRegex
  exact ⟨fragments, by rw [HumanDescriptionApi.invoke, templateAt_of_lookup hp]; simp [hf]⟩

/-- `transfer` has a closure, so its invocation returns. -/
theorem invoke_returns_transfer :
    ((HumanDescriptionApi.new [(js "transfer", js "Send")]).parsedMessages.lookup
        (js "transfer")).isSome ∧
      ∃ fragments, (HumanDescriptionApi.new [(js "transfer", js "Send")]).invoke .lowerCamel
          ⟨js "transfer", js "0xabc", [7]⟩ =
        some (.ok fragments, HumanDescriptionApi.new [(js "transfer", js "Send")]) :=
  ⟨rfl, invoke_returns .lowerCamel _ _ rfl⟩

/-- **No history reaches an invocation**: a `process` invocation leaves `lastIndex` at `0`
whenever it returns or throws, from any state of the regex; so on an instance built from any
contract descriptions, every invocation of every sequence returns or throws what it does on the
freshly constructed instance. -/
theorem invokeAll_eq_fresh (contractDescriptions : Expression) :
    (∀ (p : MessageTemplate) (toAddress : JsString) (params : List α) (re re' : TemplateRegex) r,
      p.process E toAddress params re = some (r, re') → re'.lastIndex = 0) ∧
    ∀ invocations : List (Invocation α),
      (HumanDescriptionApi.new contractDescriptions).invokeAll E invocations =
        invocations.map fun i => ((HumanDescriptionApi.new contractDescriptions).invoke E i).map
          Prod.fst := by
  refine ⟨fun _ _ _ _ _ _ h => by rw [(processLoop_returns E h).2], fun invocations => ?_⟩
  induction invocations with
  | nil => rfl
  | cons i is ih =>
    obtain ⟨r, hr⟩ := invoke_of_fresh E (HumanDescriptionApi.new contractDescriptions) rfl i
    simp only [HumanDescriptionApi.invokeAll, hr, ih, List.map_cons, Option.map_some']

end Instance

end SafeClientGateway.HumanDescription
