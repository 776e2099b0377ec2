import SafeClientGateway.Js.Basic

/-!
# `UsersRepository.createUserWithWallet`

`createUserWithWallet` saves a user with the given status and then a wallet of that user, both
inside one `PostgresDatabaseService.transaction`. The wallets table is the one
`CreateWallet1737368483467.up` creates: its `address` column is `NOT NULL` with no default,
unique by itself and with `user_id`, and `user_id` references `users.id`.

The wallet entity is built as `walletRepository.create({ user: createdUser })`: it is given no
address, and `args.authPayload` is never read. Its `INSERT` therefore writes `NULL` into
`address`, which the column refuses, and the transaction rolls back.

* `createUserWithWallet_rejects`: for every status, payload and database, the call rejects
  (with the users table's own rejection or the wallets table's not-null violation on
  `address`), and leaves both tables as they were.
-/

namespace SafeClientGateway.Users

open Js

/-- A row of `users`, with the columns the call writes (the timestamps are left out). -/
structure UserRow (Status : Type) where
  id : Nat
  status : Status
  deriving DecidableEq, Repr

/-- A row of `wallets`, with the columns the call writes (the timestamps are left out). -/
structure WalletRow where
  id : Nat
  address : JsString
  userId : Option Nat
  deriving DecidableEq, Repr

/-- The rows of the two tables. -/
structure Tables (Status : Type) where
  users : List (UserRow Status)
  wallets : List WalletRow
  deriving DecidableEq, Repr

/-- The last values the `SERIAL` columns' sequences gave out. -/
structure Sequences where
  usersId : Nat
  walletsId : Nat
  deriving DecidableEq, Repr

/-- The database: its rows, and its sequences, which a rollback does not restore. -/
structure Database (Status : Type) where
  tables : Tables Status
  sequences : Sequences
  deriving DecidableEq, Repr

/-- The `QueryFailedError`s an `INSERT` can end with, by the constraint it violates (named as
the migration names them), or another error from the database. -/
inductive QueryFailedError
  | notNullViolation (table column : JsString)
  | uniqueViolation (constraint : JsString)
  | foreignKeyViolation (constraint : JsString)
  | other (e : JsError)
  deriving DecidableEq, Repr

/-- The values of an `INSERT INTO wallets`: a property the entity lacks is written as the
column's default, and `address` has none, so it is `NULL`. -/
structure WalletValues where
  address : Option JsString
  userId : Option Nat

/-- The argument of `createUserWithWallet`. -/
structure CreateUserWithWalletArgs (Status AuthPayload : Type) where
  status : Status
  authPayload : AuthPayload

section Statements

variable {Status : Type}

/-- `nextval` of the wallets' `id` sequence: it is not rolled back. -/
def Database.nextWalletId (db : Database Status) : Nat × Database Status :=
  let id := db.sequences.walletsId + 1
  (id, { db with sequences := { db.sequences with walletsId := id } })

/-- `nextval` of the users' `id` sequence. -/
def Database.nextUserId (db : Database Status) : Nat × Database Status :=
  let id := db.sequences.usersId + 1
  (id, { db with sequences := { db.sequences with usersId := id } })

/-- `INSERT INTO wallets` under the constraints of `CreateWallet1737368483467.up`: the `NOT NULL`
columns, the primary key, `UNIQUE ("user_id", "address")` (rows with a `NULL` `user_id` never
clash there), the unique index on `address`, and the foreign key to `users`. -/
def insertWallet (values : WalletValues) (db : Database Status) :
    Except QueryFailedError WalletRow × Database Status :=
  let (id, db) := db.nextWalletId
  match values.address with
  | none => (.error (.notNullViolation (js "wallets") (js "address")), db)
  | some address =>
    let wallets := db.tables.wallets
    if wallets.any (·.id == id) then
      (.error (.uniqueViolation (js "PK_8402e5df5a30a229380e83e4f7e")), db)
    else if values.userId.isSome &&
        wallets.any (fun w => w.userId == values.userId && w.address == address) then
      (.error (.uniqueViolation (js "UQ_c768f361750f1703d32c1d67599")), db)
    else if wallets.any (·.address == address) then
      (.error (.uniqueViolation (js "IDX_f907d5fd09a9d374f1da4e13bd")), db)
    else if values.userId.all (fun u => db.tables.users.any (·.id == u)) then
      let row : WalletRow := ⟨id, address, values.userId⟩
      (.ok row, { db with tables := { db.tables with wallets := db.tables.wallets ++ [row] } })
    else (.error (.foreignKeyViolation (js "FK_92558c08091598f7a4439586cda")), db)

/-- `INSERT INTO users`; the users table's migration is not under src/, so whether its
constraints refuse the row is `rejects`. -/
def insertUser (rejects : Option QueryFailedError) (status : Status) (db : Database Status) :
    Except QueryFailedError (UserRow Status) × Database Status :=
  let (id, db) := db.nextUserId
  match rejects with
  | some e => (.error e, db)
  | none =>
    let row : UserRow Status := ⟨id, status⟩
    (.ok row, { db with tables := { db.tables with users := db.tables.users ++ [row] } })

/-- `PostgresDatabaseService.transaction`, which is not under src/, as the comment at its call
describes it and PostgreSQL does it: when the body throws, every row it changed is restored
(the sequences keep the values they gave out) and the error is rethrown; otherwise its changes
are committed. -/
def transaction {α : Type} (db : Database Status)
    (body : Database Status → Except QueryFailedError α × Database Status) :
    Except QueryFailedError α × Database Status :=
  match body db with
  | (.ok a, db') => (.ok a, db')
  | (.error e, db') => (.error e, { db' with tables := db.tables })

end Statements

section CreateUserWithWallet

variable {Status AuthPayload : Type}

/-- `createUserWithWallet`, the users table refusing the row with `userRejects` if at all: the
user it resolves with, or what it rejects with, and the database afterwards. -/
def createUserWithWallet (userRejects : Option QueryFailedError)
    (args : CreateUserWithWalletArgs Status AuthPayload) (db : Database Status) :
    Except QueryFailedError (UserRow Status) × Database Status :=
  transaction db fun manager =>
    match insertUser userRejects args.status manager with
    | (.error e, manager) => (.error e, manager)
    | (.ok createdUser, manager) =>
      match insertWallet ⟨none, some createdUser.id⟩ manager with
      | (.error e, manager) => (.error e, manager)
      | (.ok _, manager) => (.ok createdUser, manager)

/-- **`createUserWithWallet` always rejects, and rolls back**: for every status, payload and
database, it rejects, with the users table's refusal of the user or else with the not-null
violation on `wallets.address`, and leaves the rows of both tables as they were. -/
theorem createUserWithWallet_rejects (userRejects : Option QueryFailedError)
    (args : CreateUserWithWalletArgs Status AuthPayload) (db : Database Status) :
    (createUserWithWallet userRejects args db).1 =
        .error (userRejects.getD (.notNullViolation (js "wallets") (js "address"))) ∧
      (createUserWithWallet userRejects args db).2.tables = db.tables := by
  cases userRejects <;> exact ⟨rfl, rfl⟩

end CreateUserWithWallet

end SafeClientGateway.Users
