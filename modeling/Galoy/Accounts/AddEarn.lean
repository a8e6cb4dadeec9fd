import Galoy.Accounts.Updates
import Galoy.Interleave.Embed
import Galoy.Payments.BuilderChains
import Galoy.Payments.SendIntraledger
import Galoy.Wallets.TxHistory

set_option autoImplicit false

namespace Galoy.Rewards

open Interleave Interleave.Failing

abbrev QuizQuestionId := String

structure PhoneCarrier where
  type : Option String
  deriving DecidableEq, Repr

structure PhoneMetadata where
  carrier : Option PhoneCarrier
  countryCode : Option String
  deriving DecidableEq, Repr

structure IPType where
  isoCode : Option String
  asn : Option String
  proxy : Bool
  deriving DecidableEq, Repr

structure RewardsConfig where
  denyPhoneCountries : List String := []
  allowPhoneCountries : List String := []
  denyIPCountries : List String := []
  allowIPCountries : List String := []
  denyASNs : List String := []
  allowASNs : List String := []
  deriving DecidableEq, Repr

inductive MetadataError where
  | missingPhoneMetadata
  | invalidPhoneMetadataType
  | invalidPhoneMetadataCountry
  | missingIPMetadata
  | invalidIPMetadataProxy
  | invalidIPMetadataCountry
  | invalidIPMetadataASN
  deriving DecidableEq, Repr

def MetadataError.name : MetadataError → String
  | .missingPhoneMetadata => "MissingPhoneMetadataError"
  | .invalidPhoneMetadataType => "InvalidPhoneMetadataTypeError"
  | .invalidPhoneMetadataCountry => "InvalidPhoneMetadataCountryError"
  | .missingIPMetadata => "MissingIPMetadataError"
  | .invalidIPMetadataProxy => "InvalidIPMetadataProxyError"
  | .invalidIPMetadataCountry => "InvalidIPMetadataCountryError"
  | .invalidIPMetadataASN => "InvalidIPMetadataASNError"

def isAllowed (allow deny : List String) (code : String) : Bool :=
  (allow.isEmpty || code.toUpper ∈ allow) && !(code.toUpper ∈ deny)

def PhoneMetadataValidator.validateForReward (config : RewardsConfig)
    (phoneMetadata : Option PhoneMetadata) : Except MetadataError Unit :=
  match phoneMetadata with
  | none => .error .missingPhoneMetadata
  | some metadata =>
    match metadata.carrier, orUndefined metadata.countryCode with
    | some carrier, some countryCode =>
      if carrier.type = some "voip" then .error .invalidPhoneMetadataType
      else if isAllowed config.allowPhoneCountries config.denyPhoneCountries countryCode then .ok ()
      else .error .invalidPhoneMetadataCountry
    | _, _ => .error .missingPhoneMetadata

def IPMetadataValidator.validateForReward (config : RewardsConfig) (ipMetadata : Option IPType) :
    Except MetadataError Unit :=
  match ipMetadata with
  | none => .error .missingIPMetadata
  | some metadata =>
    match orUndefined metadata.isoCode, orUndefined metadata.asn with
    | some isoCode, some asn =>
      if metadata.proxy then .error .invalidIPMetadataProxy
      else if !isAllowed config.allowIPCountries config.denyIPCountries isoCode then
        .error .invalidIPMetadataCountry
      else if isAllowed config.allowASNs config.denyASNs asn then .ok ()
      else .error .invalidIPMetadataASN
    | _, _ => .error .missingIPMetadata

def validated (name : ErrorName) (check : Except MetadataError Unit) : Result Unit :=
  check.mapError fun found => { name, message := found.name }

-- `translateToAccount` takes the id of the owner from the same field as the id.
def ownerId (account : Accounts.Account) : UserId := account.id

def toPaymentAccount (account : Accounts.Account) : Account where
  id := account.id
  ownerId := ownerId account
  username := account.username
  level := account.level

/-- `app` has the stores of the payment functions. `earn` is a field of the documents in `accounts`,
and `none` where there is no document. The code does not read the last two fields: `granted` has the
runs that `add` has let pass, and `reached` those that have called `intraledgerPaymentSendWalletId`.
-/
structure World where
  app : Galoy.World
  accounts : Accounts.World
  earn : AccountId → Option (List QuizQuestionId)
  phoneMetadata : UserId → Option PhoneMetadata
  lastIPs : UserId → Option (List IPType)
  granted : List (RunId × AccountId × QuizQuestionId) := []
  reached : List RunId := []

structure IntraLedgerPaymentSendWalletIdArgs where
  senderWalletId : WalletId
  recipientWalletId : WalletId
  amount : ℚ
  memo : String
  senderAccount : Accounts.Account

structure Quotes where
  args : WithConversionArgs
  now : Nat
  intraLedgerHash : String

inductive Site where
  | funder
  | recipient
  | sender
  | payerContact
  | payeeContact
  | accountUpdate
  deriving DecidableEq, Repr

inductive Call where
  | app (c : Galoy.Call)
  | accounts (site : Site) (c : Accounts.Call)
  | getFunderWalletId
  | findWalletById (site : Site) (walletId : WalletId)
  | findUserById (userId : UserId)
  | findUserIps (userId : UserId)
  | listByAccountId (accountId : AccountId)
  | addReward (accountId : AccountId) (quizQuestionId : QuizQuestionId)
  | intraledgerPaymentSendWalletId (args : IntraLedgerPaymentSendWalletIdArgs)
  | quotes

@[reducible] def Reply : Call → Type
  | .app c => Galoy.Reply c
  | .accounts _ c => Accounts.Reply c
  | .getFunderWalletId => WalletId
  | .findWalletById _ _ => Result WalletDescriptor
  | .findUserById _ => Result (Option PhoneMetadata)
  | .findUserIps _ => Result (List IPType)
  | .listByAccountId _ => Result (List WalletDescriptor)
  | .addReward _ _ => Result Unit
  | .intraledgerPaymentSendWalletId _ => Unit
  | .quotes => Quotes

/-- An update that fails may have been applied. -/
structure AddAnswer where
  failed : Bool := false
  applied : Bool := true
  deriving DecidableEq, Repr

@[reducible] def Answer : Call → Type
  | .app c => Galoy.Answer c
  | .accounts _ c => Accounts.Answer c
  | .findWalletById _ _ | .findUserById _ | .findUserIps _ | .listByAccountId _ =>
    Option RepositoryFault
  | .addReward _ _ => AddAnswer
  | .getFunderWalletId | .intraledgerPaymentSendWalletId _ => Unit
  | .quotes => Quotes

namespace World

variable (w : World)

def payments : Galoy.World :=
  { w.app with accounts := fun accountId =>
    (w.accounts.findById accountId).toOption.map toPaymentAccount }

def listByAccountId (accountId : AccountId) : Result (List WalletDescriptor) :=
  let wallets := w.app.walletsOfAccount accountId
  Stores.found (if wallets.isEmpty then none else some wallets)
    .CouldNotListWalletsFromAccountIdError

def push (accountId : AccountId) (quizQuestionId : QuizQuestionId) (earned : List QuizQuestionId) :
    World :=
  { w with earn := Function.update w.earn accountId (some (earned ++ [quizQuestionId])) }

-- The update appends the question and gives the state before it.
def addReward (run : RunId) (accountId : AccountId) (quizQuestionId : QuizQuestionId)
    (answer : AddAnswer) : Result Unit × World :=
  match w.earn accountId with
  | none =>
    (.error
      { name := .UnknownRepositoryError
        message := if answer.failed then "reward issue" else "account not found" }, w)
  | some earned =>
    let pushed := w.push accountId quizQuestionId earned
    if answer.failed then
      (.error { name := .UnknownRepositoryError, message := "reward issue" },
        if answer.applied then pushed else w)
    else if quizQuestionId ∈ earned then (.error { name := .RewardAlreadyPresentError }, pushed)
    else (.ok (), { pushed with granted := w.granted ++ [(run, accountId, quizQuestionId)] })

end World

def serve (run : RunId) (w : World) : (c : Call) → Answer c → Option (Reply c × World)
  | .app c, answer =>
    (Galoy.serve run w.payments c answer).map fun served => (served.1, { w with app := served.2 })
  | .accounts _ c, answer =>
    (Accounts.serve run w.accounts c answer).map fun served =>
      (served.1, { w with accounts := served.2 })
  | .getFunderWalletId, _ => some (w.app.bank.funder, w)
  | .findWalletById _ walletId, fault =>
    Stores.read w fault (Stores.found (w.app.wallets walletId) .CouldNotFindWalletFromIdError)
  | .findUserById userId, fault =>
    Stores.read w fault
      ((Stores.found (w.app.users userId) .CouldNotFindUserFromIdError userId).map
        fun _ => w.phoneMetadata userId)
  | .findUserIps userId, fault =>
    Stores.read w fault (Stores.found (w.lastIPs userId) .CouldNotFindUserFromIdError userId)
  | .listByAccountId accountId, fault => Stores.read w fault (w.listByAccountId accountId)
  | .addReward accountId quizQuestionId, answer =>
    some (w.addReward run accountId quizQuestionId answer)
  | .intraledgerPaymentSendWalletId _, _ => some ((), { w with reached := w.reached ++ [run] })
  | .quotes, answer => some (answer, w)

@[reducible] def services : Service World Call Reply where
  Answer := Answer
  serve := serve

abbrev App (α : Type) := ExceptT AppError (Prog Call Reply) α

def ask (c : Call) : Prog Call Reply (Reply c) := Prog.request c

def appEmbedding : Embedding Galoy.Call Galoy.Reply Call Reply where
  call := .app
  reply _ reply := reply

def accountsEmbedding (site : Site) : Embedding Accounts.Call Accounts.Reply Call Reply where
  call := .accounts site
  reply _ reply := reply

def viaApp {α : Type} (x : Galoy.App α) : App α := embedRun appEmbedding x

def viaAccounts {α : Type} (site : Site) (x : Accounts.App α) : App α :=
  embedRun (accountsEmbedding site) x

structure Config where
  rewards : RewardsConfig
  pubkeysToSkipProbe : List Pubkey
  getAccountLimits : AccountLevel → AccountLimits

section SendWalletId

variable (config : Config) (args : IntraLedgerPaymentSendWalletIdArgs)

def idsText (accountId accountIdFromWallet : AccountId) : String :=
  "\x7b\"accountId\":\"" ++ accountId ++ "\",\"accountIdFromWallet\":\"" ++
    accountIdFromWallet ++ "\"\x7d"

def AccountValidator.validateWalletForAccount (account : Accounts.Account)
    (wallet : WalletDescriptor) : Result Unit :=
  if account.status? ≠ some .active then .error { name := .InactiveAccountError, message :=
    account.id }
  else if wallet.accountId ≠ account.id then
    .error { name := .InvalidWalletId, message := idsText account.id wallet.accountId }
  else .ok ()

structure ValidatedPaymentInputs where
  senderWallet : WalletDescriptor
  recipientWallet : WalletDescriptor
  recipientAccount : Accounts.Account

def validateIntraledgerPaymentInputs : App ValidatedPaymentInputs := do
  let senderWalletId ← ofResult (checkedToWalletId args.senderWalletId)
  let senderWallet ← fallible (ask (.findWalletById .sender senderWalletId))
  ofResult (AccountValidator.validateWalletForAccount args.senderAccount senderWallet)
  let recipientWalletId ← ofResult (checkedToWalletId args.recipientWalletId)
  let recipientWallet ← fallible (ask (.findWalletById .recipient recipientWalletId))
  let recipientAccount ← fallible (ask (.accounts .sender (.findById recipientWallet.accountId)))
  return { senderWallet, recipientWallet, recipientAccount }

def builderChain (inputs : ValidatedPaymentInputs) (quotes : Quotes) : BuilderChain where
  config := ⟨[], config.pubkeysToSkipProbe⟩
  start := .withoutInvoice quotes.intraLedgerHash args.amount args.memo
  senderWallet := inputs.senderWallet
  recipient := {
    id := inputs.recipientWallet.id
    currency := inputs.recipientWallet.currency
    accountId := inputs.recipientAccount.id
    pubkey := none
    usdPaymentAmount := none
    username := inputs.recipientAccount.username }
  args := quotes.args
  now := quotes.now

def paymentFlow (inputs : ValidatedPaymentInputs) (quotes : Quotes) : Result PaymentFlow :=
  match (builderChain config args inputs quotes).withoutRoute with
  | .error thrown => .error { name := .Error, message := thrown.message }
  | .ok (.error error) =>
    if error.name = .InvalidZeroAmountPriceRatioInputError then .error
      { name := .ZeroAmountForUsdRecipientError }
    else .error error
  | .ok (.ok flow) => .ok flow

structure PreparedPayment where
  payment : IntraledgerPayment
  recipientAccount : Accounts.Account

def preparePayment : App PreparedPayment := do
  let inputs ← validateIntraledgerPaymentInputs args
  let quotes ← total (ask .quotes)
  let flow ← ofResult (paymentFlow config args inputs quotes)
  return {
    payment := {
      paymentFlow := flow
      senderAccount := toPaymentAccount args.senderAccount
      senderWallet := inputs.senderWallet
      recipientAccount := toPaymentAccount inputs.recipientAccount
      recipientWallet := inputs.recipientWallet
      memo := some args.memo }
    recipientAccount := inputs.recipientAccount }

def addContact (site : Site) (accountId : AccountId) (contactUsername : Option Username) :
    App Unit :=
  match orUndefined contactUsername with
  | none => return
  | some username => do
    let _ ← viaAccounts site (Accounts.addNewContact accountId username)
    return

def addContactsAfterSend (senderAccount recipientAccount : Accounts.Account) : App Unit := do
  if senderAccount.contactEnabled && recipientAccount.contactEnabled then
    addContact .payerContact senderAccount.id recipientAccount.username
    addContact .payeeContact recipientAccount.id senderAccount.username
  else return

-- An error of the contacts is recorded and not returned.
def intraledgerPaymentSendWalletId : App PaymentSendStatus := do
  total (ask (.intraledgerPaymentSendWalletId args))
  let prepared ← preparePayment config args
  let status ← viaApp (prepared.payment.prog config.getAccountLimits)
  if args.senderAccount.id ≠ prepared.recipientAccount.id then
    let _ ← attempt (addContactsAfterSend args.senderAccount prepared.recipientAccount)
    return status
  else return status

end SendWalletId

structure QuizQuestion where
  id : QuizQuestionId
  earnAmount : Nat
  deriving DecidableEq, Repr

section AddEarn

variable (config : Config) (quizQuestionId : QuizQuestionId) (accountId : AccountId)

def earnAmount : Result Nat :=
  match (TxHistory.onboardingEarn.lookup quizQuestionId).filter (· ≠ 0) with
  | none => .error { name := .InvalidQuizQuestionIdError }
  | some amount => .ok amount

structure Reward where
  amount : Nat
  funderWalletId : WalletId
  funderAccount : Accounts.Account
  recipientWalletId : WalletId

def findReward : App Reward := do
  let amount ← ofResult (earnAmount quizQuestionId)
  let funderWalletId ← total (ask .getFunderWalletId)
  let funderWallet ← fallible (ask (.findWalletById .funder funderWalletId))
  let funderAccount ← fallible (ask (.accounts .funder (.findById funderWallet.accountId)))
  let recipientAccount ← fallible (ask (.accounts .recipient (.findById accountId)))
  let phoneMetadata ← fallible (ask (.findUserById (ownerId recipientAccount)))
  ofResult (validated .InvalidPhoneMetadataForRewardError
    (PhoneMetadataValidator.validateForReward config.rewards phoneMetadata))
  let lastIPs ← fallible (ask (.findUserIps (ownerId recipientAccount)))
  ofResult (validated .InvalidIPMetadataForRewardError
    (IPMetadataValidator.validateForReward config.rewards lastIPs.getLast?))
  let recipientWallets ← fallible (ask (.listByAccountId accountId))
  match recipientWallets.find? (·.currency = .btc) with
  | none => throw { name := .NoBtcWalletExistsForAccountError }
  | some wallet => return { amount, funderWalletId, funderAccount, recipientWalletId := wallet.id }

def Reward.args (reward : Reward) : IntraLedgerPaymentSendWalletIdArgs where
  senderWalletId := reward.funderWalletId
  recipientWalletId := reward.recipientWalletId
  amount := reward.amount
  memo := quizQuestionId
  senderAccount := reward.funderAccount

def addEarn : App QuizQuestion := do
  let reward ← findReward config quizQuestionId accountId
  fallible (ask (.addReward accountId quizQuestionId))
  let _ ← intraledgerPaymentSendWalletId config (reward.args quizQuestionId)
  return { id := quizQuestionId, earnAmount := reward.amount }

end AddEarn

section Requests

def Call.reads : Call → Bool
  | .accounts _ (.update _) | .app _ | .addReward _ _ | .intraledgerPaymentSendWalletId _ => false
  | _ => true

variable {config : Config} {allowed : Call → Prop} (reads : ∀ c : Call, c.reads → allowed c)

include reads

theorem ask_reads {c : Call} (isRead : c.reads) : (ask c).Only allowed :=
  Prog.only_request (reads c isRead)

theorem findReward_only (quizQuestionId : QuizQuestionId) (accountId : AccountId) :
    OnlyRun allowed (findReward config quizQuestionId accountId) := by
  unfold findReward
  refine OnlyRun.bind (Prog.only_pure _) fun amount => ?_
  refine OnlyRun.bind (total_only (ask_reads reads rfl)) fun funderWalletId => ?_
  refine OnlyRun.bind (fallible_only (ask_reads reads rfl)) fun funderWallet => ?_
  refine OnlyRun.bind (fallible_only (ask_reads reads rfl)) fun funderAccount => ?_
  refine OnlyRun.bind (fallible_only (ask_reads reads rfl)) fun recipientAccount => ?_
  refine OnlyRun.bind (fallible_only (ask_reads reads rfl)) fun phoneMetadata => ?_
  refine OnlyRun.bind (Prog.only_pure _) fun _ => ?_
  refine OnlyRun.bind (fallible_only (ask_reads reads rfl)) fun lastIPs => ?_
  refine OnlyRun.bind (Prog.only_pure _) fun _ => ?_
  refine OnlyRun.bind (fallible_only (ask_reads reads rfl)) fun recipientWallets => ?_
  split
  · exact OnlyRun.throw _
  · exact OnlyRun.pure _

theorem validateIntraledgerPaymentInputs_only (args : IntraLedgerPaymentSendWalletIdArgs) :
    OnlyRun allowed (validateIntraledgerPaymentInputs args) := by
  unfold validateIntraledgerPaymentInputs
  refine OnlyRun.bind (Prog.only_pure _) fun senderWalletId => ?_
  refine OnlyRun.bind (fallible_only (ask_reads reads rfl)) fun senderWallet => ?_
  refine OnlyRun.bind (Prog.only_pure _) fun _ => ?_
  refine OnlyRun.bind (Prog.only_pure _) fun recipientWalletId => ?_
  refine OnlyRun.bind (fallible_only (ask_reads reads rfl)) fun recipientWallet => ?_
  exact OnlyRun.bind (fallible_only (ask_reads reads rfl)) fun recipientAccount => OnlyRun.pure _

theorem preparePayment_only (args : IntraLedgerPaymentSendWalletIdArgs) :
    OnlyRun allowed (preparePayment config args) := by
  refine OnlyRun.bind (validateIntraledgerPaymentInputs_only reads args) fun inputs => ?_
  refine OnlyRun.bind (total_only (ask_reads reads rfl)) fun quotes => ?_
  exact OnlyRun.bind (Prog.only_pure _) fun flow => OnlyRun.pure _

end Requests

section Example

def funderWallet : WalletDescriptor := ⟨"ffffffff-ffff-1fff-8fff-ffffffffffff", .btc, "funder"⟩

def bobWallet : WalletDescriptor := ⟨"bbbbbbbb-bbbb-1bbb-8bbb-bbbbbbbbbbbb", .btc, "bob"⟩

def fundedLedger (sats : ℚ) : Ledger where
  journals :=
    [{ id := 0
       description := ""
       legs := [⟨toLedgerAccountId funderWallet.id, 0, sats, .btc,
         { type := .onchainReceipt, pending := false }⟩]
       timestamp := 0
       writtenBy := 100 }]

def rewardWorld (sats : ℚ) : World where
  app :=
    { Galoy.World.initial ⟨"owner", "dealerBtc", "dealerUsd", funderWallet.id⟩ with
      ledger := fundedLedger sats
      wallets := fun walletId => [funderWallet, bobWallet].find? (·.id = walletId)
      walletsOfAccount := fun accountId =>
        [funderWallet, bobWallet].filter (·.accountId = accountId)
      users := fun userId => some ⟨userId, [], "en"⟩ }
  accounts :=
    { users :=
        [{ id := "funder", statusHistory := [{ status := .active }] },
          { id := "bob", statusHistory := [{ status := .active }] }] }
  earn := fun _ => some []
  phoneMetadata := fun _ => some ⟨some ⟨some "mobile"⟩, some "SV"⟩
  lastIPs := fun _ => some [⟨some "SV", some "AS1", false⟩]

def rewardConfig : Config := ⟨{}, [], sendLimits⟩

def oneCentQuotes : Quotes where
  args :=
    { hedgeBuyUsd := ⟨fun _ => .ok ⟨1⟩, fun _ => .ok ⟨1⟩⟩
      hedgeSellUsd := ⟨fun _ => .ok ⟨1⟩, fun _ => .ok ⟨1⟩⟩
      mid := ⟨fun _ => .ok ⟨1⟩, fun _ => .ok ⟨1⟩⟩ }
  now := 0
  intraLedgerHash := "hash"

def rewardAnswers : (c : Call) → Answer c
  | .app c => (sendOutside paymentNoRoute .pending).answers c
  | .accounts _ (.findByUsername _) | .accounts _ (.findById _) => none
  | .accounts _ (.update _) => {}
  | .findWalletById _ _ | .findUserById _ | .findUserIps _ | .listByAccountId _ => none
  | .addReward _ _ => {}
  | .getFunderWalletId | .intraledgerPaymentSendWalletId _ => ()
  | .quotes => oneCentQuotes

end Example

end Galoy.Rewards
