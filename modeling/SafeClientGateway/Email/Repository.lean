import SafeClientGateway.Js.Basic

/-!
# `EmailRepository.saveEmail`

`saveEmail` builds an `Email` from the address, fetches the Safe, refuses a signer that fails
its ownership gate with `SignerNotOwnerError`, and otherwise hands the email to the datasource
with a fresh verification code, turning a rejection there into `EmailSaveError`.

The gate is `args.signer in safe.owners`. JavaScript's `in` asks whether the array has a
property of that name (`Js.hasProperty`): an index below its length, `length`, or a name it
inherits. It does not look at the elements.

* `saveEmail_of_safe`: once the `Email` is built and the Safe found, the gate decides: past it
  the datasource is called, short of it `SignerNotOwnerError` after `getSafe` alone;
* `saveEmail_refuses_addresses`: a signer that is an address (it starts `0x`) is refused with
  `SignerNotOwnerError` whatever the owners, an owner included.
-/

namespace SafeClientGateway.Email

open Js

/-- The Safe that `safeRepository.getSafe` resolves with: `saveEmail` reads only its owners. -/
structure Safe where
  owners : List JsString

/-- The argument of `saveEmail`. -/
structure SaveEmailArgs where
  chainId : JsString
  safeAddress : JsString
  emailAddress : JsString
  signer : JsString

/-- The argument of `emailDataSource.saveEmail`; `code` has the type of what `codeGenerator`
returns. -/
structure SaveEmailDto (Code : Type) where
  chainId : JsString
  code : Code
  emailAddress : JsString
  safeAddress : JsString
  signer : JsString

/-- The calls `saveEmail` makes to its collaborators. -/
inductive Call (Code : Type)
  | getSafe (chainId address : JsString)
  | saveEmail (args : SaveEmailDto Code)

/-- What `saveEmail` rejects with: what a collaborator threw, `SignerNotOwnerError` or
`EmailSaveError`, with their constructor arguments. -/
inductive SaveEmailError
  | thrown (e : JsError)
  | signerNotOwner (chainId safeAddress signer : JsString)
  | emailSave (chainId safeAddress signer : JsString)
  deriving DecidableEq, Repr

/-- How the collaborators settle: `getSafe`'s Safe or rejection, the code `codeGenerator()`
returns, and the rejection of the datasource's `saveEmail`, if any. -/
structure SaveEmailEnv (Code : Type) where
  getSafe : Except JsError Safe
  verificationCode : Code
  saveEmailRejects : Option JsError

section SaveEmail

variable {Code : Type}
-- `new Email(emailAddress)`: its `value`, or what the constructor throws (the entity is not
-- under src/)
variable (newEmail : JsString → Except JsError JsString)

/-- `saveEmail`: what it resolves or rejects with, and the calls it made. -/
def saveEmail (env : SaveEmailEnv Code) (args : SaveEmailArgs) :
    Except SaveEmailError Unit × List (Call Code) :=
  match newEmail args.emailAddress with
  | .error e => (.error (.thrown e), [])
  | .ok email =>
    let calls := [Call.getSafe args.chainId args.safeAddress]
    match env.getSafe with
    | .error e => (.error (.thrown e), calls)
    | .ok safe =>
      if ! hasProperty safe.owners args.signer then
        (.error (.signerNotOwner args.chainId args.safeAddress args.signer), calls)
      else
        let dto : SaveEmailDto Code :=
          ⟨args.chainId, env.verificationCode, email, args.safeAddress, args.signer⟩
        let calls := calls ++ [.saveEmail dto]
        match env.saveEmailRejects with
        | some _ => (.error (.emailSave args.chainId args.safeAddress args.signer), calls)
        | none => (.ok (), calls)

/-- A call to the datasource is in the log. -/
def CallsDataSource (calls : List (Call Code)) : Prop :=
  ∃ dto, Call.saveEmail dto ∈ calls

/-- Once the `Email` is built and the Safe found, `saveEmail` is decided by the gate: past it,
the datasource is called; short of it, `SignerNotOwnerError` after `getSafe` alone. -/
theorem saveEmail_of_safe (env : SaveEmailEnv Code) (args : SaveEmailArgs) {email : JsString}
    {safe : Safe} (he : newEmail args.emailAddress = .ok email) (hs : env.getSafe = .ok safe) :
    (hasProperty safe.owners args.signer = true →
      CallsDataSource (saveEmail newEmail env args).2) ∧
    (hasProperty safe.owners args.signer = false →
      saveEmail newEmail env args =
        (.error (.signerNotOwner args.chainId args.safeAddress args.signer),
          [.getSafe args.chainId args.safeAddress])) := by
  constructor
  · intro hp
    refine ⟨⟨args.chainId, env.verificationCode, email, args.safeAddress, args.signer⟩, ?_⟩
    cases hr : env.saveEmailRejects <;> simp [saveEmail, he, hs, hp, hr]
  · intro hp
    simp [saveEmail, he, hs, hp]

/-- **No address passes the ownership gate**: once the `Email` is built and the Safe found,
`saveEmail` rejects a signer starting `0x` with `SignerNotOwnerError`, after `getSafe` alone,
whatever the Safe's owners, and whether or not the signer is one of them. -/
theorem saveEmail_refuses_addresses (env : SaveEmailEnv Code) (args : SaveEmailArgs)
    {email : JsString} {safe : Safe} (he : newEmail args.emailAddress = .ok email)
    (hs : env.getSafe = .ok safe) (hsigner : args.signer.take 2 = js "0x") :
    saveEmail newEmail env args =
      (.error (.signerNotOwner args.chainId args.safeAddress args.signer),
        [.getSafe args.chainId args.safeAddress]) :=
  (saveEmail_of_safe newEmail env args he hs).2 (hasProperty_of_hex safe.owners hsigner)

end SaveEmail

/-! ## A Safe of one owner -/

/-- An owner's address. -/
def ownerAddress : JsString := js "0x1234567890123456789012345678901234567890"

/-- Collaborators that succeed: the Safe has the one owner `ownerAddress`. -/
def soleOwnerEnv : SaveEmailEnv JsString := ⟨.ok ⟨[ownerAddress]⟩, js "123456", none⟩

/-- The owner, registering an email for the Safe, is refused with `SignerNotOwnerError`. -/
theorem saveEmail_refuses_sole_owner :
    ownerAddress ∈ [ownerAddress] ∧
      saveEmail Except.ok soleOwnerEnv ⟨js "1", js "0xSafe", js "owner@mail.test", ownerAddress⟩ =
        (.error (.signerNotOwner (js "1") (js "0xSafe") ownerAddress),
          [.getSafe (js "1") (js "0xSafe")]) :=
  ⟨List.mem_singleton_self _,
    saveEmail_refuses_addresses Except.ok soleOwnerEnv _ rfl rfl (by decide)⟩

/- The signer `0`, no owner, passes the gate of the same Safe: `0` is an index of its owners. -/
example : CallsDataSource
    (saveEmail Except.ok soleOwnerEnv ⟨js "1", js "0xSafe", js "owner@mail.test", js "0"⟩).2 :=
  ⟨_, List.mem_append_right _ (List.mem_singleton_self _)⟩

end SafeClientGateway.Email
