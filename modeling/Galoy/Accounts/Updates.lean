import Galoy.App.World
import Galoy.Interleave.Failing

set_option autoImplicit false

namespace Galoy.Accounts

open Interleave Interleave.Failing

inductive AccountStatus where
  | new
  | pending
  | active
  | locked
  deriving DecidableEq, Repr

def checkedAccountStatus (status : String) : Result AccountStatus :=
  if status = "new" then .ok .new
  else if status = "pending" then .ok .pending
  else if status = "active" then .ok .active
  else if status = "locked" then .ok .locked
  else .error { name := .InvalidAccountStatusError, message := status }

def isAliasChar (c : Char) : Bool :=
  ('0' ≤ c && c ≤ '9') || ('A' ≤ c && c ≤ 'Z') || ('a' ≤ c && c ≤ 'z') || c = '_'

def checkedToContactAlias (contactAlias : String) : Result String :=
  if 3 ≤ contactAlias.length ∧ contactAlias.length ≤ 50 ∧ contactAlias.toList.all isAliasChar
    then .ok contactAlias
  else .error { name := .InvalidContactAlias, message := contactAlias }

structure StatusUpdate where
  status : AccountStatus
  updatedByUserId : Option UserId := none
  comment : Option String := none
  deriving DecidableEq, Repr

structure Coordinates where
  latitude : ℚ
  longitude : ℚ
  deriving DecidableEq, Repr

structure AccountContact where
  username : Username
  contactAlias : String
  transactionsCount : Nat
  deriving DecidableEq, Repr

structure Account where
  id : AccountId
  level : AccountLevel
  statusHistory : List StatusUpdate
  coordinates : Option Coordinates := none
  title : Option String := none
  username : Option Username := none
  contactEnabled : Bool := true
  contacts : List AccountContact := []
  defaultWalletId : Option WalletId := none
  withdrawFee : Option Int := none
  kratosUserId : Option String := none
  deriving DecidableEq, Repr

def Account.status? (account : Account) : Option AccountStatus :=
  account.statusHistory.getLast?.map (·.status)

structure ContactRecord where
  id : Option String
  name : Option String
  transactionsCount : Nat
  deriving DecidableEq, Repr

structure UserRecord where
  id : AccountId
  level : Option AccountLevel := none
  statusHistory : List StatusUpdate
  coordinates : Option Coordinates := none
  title : Option String := none
  username : Option Username := none
  contactEnabled : Bool := true
  contacts : List ContactRecord := []
  defaultWalletId : Option WalletId := none
  withdrawFee : Option Int := none
  kratosUserId : Option String := none
  role : String := "user"
  deriving DecidableEq, Repr

-- A contact without an id is skipped, and one without a name has its id as alias.
def ContactRecord.translate (contact : ContactRecord) : Option AccountContact :=
  (orUndefined contact.id).map fun id =>
    { username := id
      contactAlias := (orUndefined contact.name).getD id
      transactionsCount := contact.transactionsCount }

-- The status of an empty history raises the TypeError of the source.
def translateToAccount (result : UserRecord) : Result Account :=
  if result.statusHistory = [] then
    .error
      { name := .UnknownRepositoryError
        message := "Cannot read properties of undefined (reading 'status')" }
  else
    .ok
      { id := result.id
        level := result.level.getD .one
        statusHistory := result.statusHistory
        coordinates := result.coordinates
        title := result.title
        username := result.username
        contactEnabled := result.contactEnabled
        contacts := result.contacts.filterMap ContactRecord.translate
        defaultWalletId := result.defaultWalletId
        withdrawFee := result.withdrawFee
        kratosUserId := result.kratosUserId }

-- Properties that are undefined, such as the role, are left out of the update.
def UserRecord.set (record : UserRecord) (account : Account) : UserRecord :=
  { record with
    level := some account.level
    statusHistory := account.statusHistory
    coordinates := account.coordinates <|> record.coordinates
    title := account.title <|> record.title
    username := account.username <|> record.username
    contactEnabled := account.contactEnabled
    contacts := account.contacts.map fun contact =>
      { id := some contact.username, name := some contact.contactAlias,
        transactionsCount := contact.transactionsCount }
    defaultWalletId := account.defaultWalletId <|> record.defaultWalletId
    withdrawFee := account.withdrawFee <|> record.withdrawFee
    kratosUserId := account.kratosUserId <|> record.kratosUserId }

/-- The collection of users. `writes` has the runs whose update was applied, in that order, and
`seen` how many there were when a run last read an account; the code reads neither. -/
structure World where
  users : List UserRecord
  writes : List RunId := []
  seen : RunId → Nat := fun _ => 0

inductive Call where
  | findByUsername (username : Username)
  | findById (accountId : AccountId)
  | update (account : Account)
  deriving DecidableEq

@[reducible] def Reply : Call → Type := fun _ => Result Account

/-- The reply to a write can get lost after the write was applied. -/
structure UpdateAnswer where
  fault : Option RepositoryFault := none
  applied : Bool := true

@[reducible] def Answer : Call → Type
  | .findByUsername _ | .findById _ => Option RepositoryFault
  | .update _ => UpdateAnswer

namespace World

variable (w : World)

def record? (accountId : AccountId) : Option UserRecord := w.users.find? (·.id = accountId)

-- The regular expression ignores the case.
def findByUsername (username : Username) : Result Account :=
  let same (record : UserRecord) : Bool :=
    record.username.map (·.toList.map Char.toLower) = some (username.toList.map Char.toLower)
  match w.users.find? same with
  | none => .error { name := .CouldNotFindAccountFromUsernameError, message := username }
  | some record => translateToAccount record

def findById (accountId : AccountId) : Result Account :=
  match w.record? accountId with
  | none => .error { name := .CouldNotFindError }
  | some record => translateToAccount record

def update (run : RunId) (account : Account) : World :=
  { w with
    users := w.users.map fun record => if record.id = account.id then record.set account else record
    writes := w.writes ++ [run] }

end World

def serve (run : RunId) (w : World) : (c : Call) → Answer c → Option (Reply c × World)
  | .findByUsername username, fault => Stores.read w fault (w.findByUsername username)
  | .findById accountId, fault =>
    Stores.read { w with seen := Function.update w.seen run w.writes.length } fault
      (w.findById accountId)
  | .update account, answer =>
    match w.record? account.id with
    | none =>
      Stores.read w answer.fault
        (.error { name := .RepositoryError, message := "Couldn't update account" })
    | some record =>
      match answer.fault with
      | none => some (translateToAccount (record.set account), w.update run account)
      | some fault => some (.error fault.error, if answer.applied then w.update run account else w)

@[reducible] def services : Service World Call Reply where
  Answer := Answer
  serve := serve

abbrev App (α : Type) := ExceptT AppError (Prog Call Reply) α

def ask (c : Call) : Prog Call Reply (Reply c) := Prog.request c

def Account.withContact (account : Account) (contactUsername : Username) : Account :=
  match account.contacts.findIdx? (·.username = contactUsername) with
  | some idx =>
    { account with
      contacts := account.contacts.modify idx fun contact =>
        { contact with transactionsCount := contact.transactionsCount + 1 } }
  | none =>
    { account with
      contacts := account.contacts ++
        [{ username := contactUsername, contactAlias := "", transactionsCount := 1 }] }

def addNewContact (accountId : AccountId) (contactUsername : Username) : App Account := do
  let _contactAccount ← fallible (ask (.findByUsername contactUsername))
  let account ← fallible (ask (.findById accountId))
  let account := account.withContact contactUsername
  let _updateResult ← fallible (ask (.update account))
  return account

def Account.withAlias (account : Account) (idx : Nat) (contactAlias : String) : Account :=
  { account with contacts := account.contacts.modify idx fun contact =>
    { contact with contactAlias } }

def updateContactAlias (accountId : AccountId) (username : Username) (contactAlias : String) :
    App AccountContact := do
  let aliasChecked ← ofResult (checkedToContactAlias contactAlias)
  let account ← fallible (ask (.findById accountId))
  match account.contacts.find? (·.username = username),
    account.contacts.findIdx? (·.username = username) with
  | some contact, some idx =>
    let _result ← fallible (ask (.update (account.withAlias idx aliasChecked)))
    return { contact with contactAlias := aliasChecked }
  | _, _ => throw { name := .ContactNotExistentError }

def Account.withStatus (account : Account) (status : StatusUpdate) : Account :=
  { account with statusHistory := account.statusHistory ++ [status] }

def updateAccountStatus (id : AccountId) (status : String) (updatedByUserId : UserId)
    (comment : Option String) : App Account := do
  let account ← fallible (ask (.findById id))
  let statusChecked ← ofResult (checkedAccountStatus status)
  fallible (ask (.update (account.withStatus
    { status := statusChecked, updatedByUserId := some updatedByUserId, comment })))

def Account.withLevel (account : Account) (level : AccountLevel) : Account := { account with level }

def updateAccountLevel (id : AccountId) (level : AccountLevel) : App Account := do
  let account ← fallible (ask (.findById id))
  fallible (ask (.update (account.withLevel level)))

end Galoy.Accounts
