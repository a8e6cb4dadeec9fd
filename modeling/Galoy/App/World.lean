import Galoy.App.Stores
import Galoy.Interleave.Rules
import Galoy.Ledger.Facade
import Galoy.Lightning.Lnd

set_option autoImplicit false

namespace Galoy

open Interleave

inductive AccountLevel where
  | one
  | two
  deriving DecidableEq, Repr

structure AccountLimits where
  intraLedgerLimit : Int
  withdrawalLimit : Int
  tradeIntraAccountLimit : Int
  deriving DecidableEq, Repr

structure Account where
  id : AccountId
  ownerId : UserId
  username : Option Username
  level : AccountLevel
  deriving DecidableEq, Repr

structure User where
  id : UserId
  deviceTokens : List String
  language : String
  deriving DecidableEq, Repr

structure PartialWalletDescriptor where
  id : WalletId
  currency : WalletCurrency
  deriving DecidableEq, Repr

structure WalletInvoice where
  paymentHash : PaymentHash
  secret : SecretPreImage
  selfGenerated : Bool
  pubkey : Pubkey
  usdAmount : Option UsdPaymentAmount
  recipientWalletDescriptor : PartialWalletDescriptor
  paid : Bool
  deriving DecidableEq, Repr

structure WalletInvoiceRecord where
  secret : SecretPreImage
  walletId : WalletId
  currency : WalletCurrency
  cents : Option Int
  selfGenerated : Bool
  pubkey : Pubkey
  paid : Bool
  deriving DecidableEq, Repr

def walletInvoiceFromRaw (paymentHash : PaymentHash) (record : WalletInvoiceRecord) :
    WalletInvoice where
  paymentHash := paymentHash
  secret := record.secret
  selfGenerated := record.selfGenerated
  pubkey := record.pubkey
  usdAmount := (record.cents.filter (· ≠ 0)).map (⟨·⟩)
  recipientWalletDescriptor := ⟨record.walletId, record.currency⟩
  paid := record.paid

structure PaymentFlowStateIndex where
  paymentHash : PaymentHash
  walletId : WalletId
  inputAmount : Int
  deriving DecidableEq, Repr

def PaymentFlowStateIndex.selects (index : PaymentFlowStateIndex) (flow : PaymentFlow) : Bool :=
  flow.hash = .paymentHash index.paymentHash ∧ flow.senderWalletId = index.walletId ∧
    flow.inputAmount = index.inputAmount

-- Empty texts are read as undefined, and so is the field that the schema does not have.
def paymentFlowFromRaw (stored : PaymentFlow) : PaymentFlow :=
  { stored with
    skipProbeForDestination := none
    recipientWalletId := orUndefined stored.recipientWalletId
    recipientAccountId := orUndefined stored.recipientAccountId
    recipientPubkey := orUndefined stored.recipientPubkey
    recipientUsername := orUndefined stored.recipientUsername
    outgoingNodePubkey := orUndefined stored.outgoingNodePubkey }

inductive TxnGroup where
  | externalPaymentVolumeSince
  | intraledgerTxBaseVolumeSince
  | tradeIntraAccountTxBaseVolumeSince
  deriving DecidableEq, Repr

def TxnGroup.types : TxnGroup → List LedgerTransactionType
  | .externalPaymentVolumeSince => [.payment, .onchainPayment]
  | .intraledgerTxBaseVolumeSince => [.intraLedger, .onchainIntraLedger, .lnIntraLedger]
  | .tradeIntraAccountTxBaseVolumeSince =>
    [.walletIdTradeIntraAccount, .onChainTradeIntraAccount, .lnTradeIntraAccount]

structure TxBaseVolumeAmount (currency : WalletCurrency) where
  outgoingBaseAmount : Amount currency
  incomingBaseAmount : Amount currency
  deriving DecidableEq, Repr

namespace Ledger

def volumeLegs (ledger : Ledger) (group : TxnGroup) (walletId : WalletId) (since : Nat) :
    List Leg :=
  (ledger.journals.filter (·.timestamp ≥ since)).flatMap fun journal =>
    journal.legs.filter fun leg =>
      leg.account = toLedgerAccountId walletId ∧ leg.metadata.type ∈ group.types

def volumeAmountSince (ledger : Ledger) (group : TxnGroup) (wallet : WalletDescriptor)
    (since : Nat) : Except AppError (TxBaseVolumeAmount wallet.currency) := do
  let legs := ledger.volumeLegs group wallet.id since
  let outgoingBaseAmount ← paymentAmountFromNumber wallet.currency (legs.map (·.debit)).sum
  let incomingBaseAmount ← paymentAmountFromNumber wallet.currency (legs.map (·.credit)).sum
  return { outgoingBaseAmount, incomingBaseAmount }

def getWalletBalanceAmount (ledger : Ledger) (wallet : WalletDescriptor) : Amount wallet.currency :=
  ⟨⌊ledger.balance (toLedgerAccountId wallet.id)⌋⟩

end Ledger

inductive LockKey where
  | wallet (id : WalletId)
  | paymentHash (hash : PaymentHash)
  deriving DecidableEq, Repr

structure World where
  bank : BankWallets
  invoices : PaymentHash → Option WalletInvoiceRecord
  flows : List PaymentFlow
  ledger : Ledger
  locks : LockKey → Option RunId
  wallets : WalletId → Option WalletDescriptor
  walletsOfAccount : AccountId → List WalletDescriptor
  accounts : AccountId → Option Account
  users : UserId → Option User
  clock : Nat

def World.balance (w : World) (walletId : WalletId) : ℚ :=
  w.ledger.balance (toLedgerAccountId walletId)

inductive Site where
  | updatePendingInvoiceByPaymentHash
  | updatePendingInvoiceBeforeFinally
  | updatePendingInvoiceBehindLock
  | updatePendingInvoice
  | declineHeldInvoice
  | checkLimits
  | executePaymentViaIntraledger
  | executePaymentViaLn
  | updatePendingPayment
  | reconstructPendingPaymentFlow
  | reimburseFailedUsdPayment
  deriving DecidableEq, Repr

inductive Notification where
  | lightningTxReceived (recipientAccountId : AccountId) (recipientWalletId : WalletId)
      (amount : Int) (currency : WalletCurrency) (displayAmount : ℚ) (paymentHash : PaymentHash)
      (recipientDeviceTokens : List String) (recipientLanguage : String)
  | intraLedgerTxReceived (recipientAccountId : AccountId) (recipientWalletId : WalletId)
      (amount : Int) (currency : WalletCurrency) (displayAmount : ℚ)
      (recipientDeviceTokens : List String) (recipientLanguage : String)
  deriving DecidableEq, Repr

inductive Call where
  | acquire (key : LockKey)
  | release (key : LockKey)
  | signalAborted (key : LockKey)
  | lndService (site : Site)
  | lookupInvoice (site : Site) (pubkey : Pubkey) (paymentHash : PaymentHash)
  | settleInvoice (pubkey : Pubkey) (secret : SecretPreImage)
  | cancelInvoice (site : Site) (pubkey : Pubkey) (paymentHash : PaymentHash)
  | getLndFromPubkey (pubkey : Option Pubkey)
  | payViaRoutes (rawRoute : RawRoute) (paymentHash : PaymentHash)
  | payViaPaymentDetails (decodedInvoice : LnInvoice)
    (btcPaymentAmount maxFeeAmount : BtcPaymentAmount)
  | lookupPayment (pubkey : Pubkey) (paymentHash : PaymentHash)
  | getMidPriceRatio (site : Site)
  | getCentsFromSatsForImmediateBuy (amount : BtcPaymentAmount)
  | findByPaymentHash (site : Site) (paymentHash : PaymentHash)
  | yieldPending (paymentHash : PaymentHash)
  | markAsPaid (site : Site) (paymentHash : PaymentHash)
  | deleteByPaymentHash (site : Site) (paymentHash : PaymentHash)
  | findWalletById (site : Site) (walletId : WalletId)
  | listByAccountId (accountId : AccountId)
  | findAccountById (site : Site) (accountId : AccountId)
  | findUserById (userId : UserId)
  | volumeAmountSince (group : TxnGroup) (wallet : WalletDescriptor)
  | getWalletBalanceAmount (wallet : WalletDescriptor)
  | isLnTxRecorded (paymentHash : PaymentHash)
  | getTransactionsByHash (site : Site) (paymentHash : PaymentHash)
  | getNonEndUserWalletIds
  | getPendingPaymentsCount (walletId : WalletId)
  | listPendingPayments (walletId : WalletId)
  | recordSend (args : RecordSendArgs)
  | recordReceive (args : RecordReceiveArgs)
  | recordIntraledger (args : RecordIntraledgerArgs)
  | settlePendingLnSend (paymentHash : PaymentHash)
  | settlePendingLnPayment (paymentHash : PaymentHash)
  | recordLnSendRevert (journalId : LedgerJournalId)
  | revertLightningPayment (journalId : LedgerJournalId)
  | updateLightningPaymentFlow (flow : PaymentFlow)
  | markLightningPaymentFlowNotPending (index : PaymentFlowStateIndex)
  | persistNewLnPayment (paymentHash : PaymentHash) (paymentRequest : String)
    (sentFromPubkey : Pubkey)
  | updateMetadataByHash (hash : PaymentHash) (revealedPreImage : RevealedPreImage)
  | notify (notification : Notification)
  deriving DecidableEq

@[reducible] def Reply : Call → Type
  | .acquire _ => Result Unit
  | .release _ => Result Unit
  | .signalAborted _ => Bool
  | .lndService _ => Result Pubkey
  | .lookupInvoice _ _ _ => Result LnInvoiceLookup
  | .settleInvoice _ _ => Result Unit
  | .cancelInvoice _ _ _ => Result Unit
  | .getLndFromPubkey _ => Result Unit
  | .payViaRoutes _ _ => PaymentRace
  | .payViaPaymentDetails _ _ _ => PaymentRace
  | .lookupPayment _ _ => Result LnPaymentLookup
  | .getMidPriceRatio _ => Result PriceRatio
  | .getCentsFromSatsForImmediateBuy _ => Result UsdPaymentAmount
  | .findByPaymentHash _ _ => Result WalletInvoice
  | .yieldPending _ => Option WalletInvoice
  | .markAsPaid _ _ => Result WalletInvoice
  | .deleteByPaymentHash _ _ => Result Unit
  | .findWalletById _ _ => Result WalletDescriptor
  | .listByAccountId _ => Result (List WalletDescriptor)
  | .findAccountById _ _ => Result Account
  | .findUserById _ => Result User
  | .volumeAmountSince _ wallet => Result (TxBaseVolumeAmount wallet.currency)
  | .getWalletBalanceAmount wallet => Result (Amount wallet.currency)
  | .isLnTxRecorded _ => Result Bool
  | .getTransactionsByHash _ _ => Result (List LedgerTransaction)
  | .getNonEndUserWalletIds => List WalletId
  | .getPendingPaymentsCount _ => Result Nat
  | .listPendingPayments _ => Result (List LedgerTransaction)
  | .recordSend _ => Result LedgerJournalId
  | .recordReceive _ => Result LedgerJournalId
  | .recordIntraledger _ => Result LedgerJournalId
  | .settlePendingLnSend _ => Result Unit
  | .settlePendingLnPayment _ => Result Unit
  | .recordLnSendRevert _ => Result Unit
  | .revertLightningPayment _ => Result Unit
  | .updateLightningPaymentFlow _ => Unit
  | .markLightningPaymentFlowNotPending _ => Result PaymentFlow
  | .persistNewLnPayment _ _ _ => Unit
  | .updateMetadataByHash _ _ => Unit
  | .notify _ => Unit

/-- A ledger call that reads or stamps the time: the time since the last such call is arbitrary. -/
structure TimedAnswer where
  fault : Option String := none
  elapsed : Nat := 0
  deriving DecidableEq, Repr

@[reducible] def Answer : Call → Type
  | .acquire _ => LockAnswer
  | .release _ => LockAnswer
  | .signalAborted _ => Bool
  | .lndService _ => Result Pubkey
  | .lookupInvoice _ _ _ => Result LnInvoiceLookup
  | .settleInvoice _ _ => Result Unit
  | .cancelInvoice _ _ _ => Result Unit
  | .getLndFromPubkey _ => Bool
  | .payViaRoutes _ _ => PaymentRace
  | .payViaPaymentDetails _ _ _ => PaymentRace
  | .lookupPayment _ _ => Result LnPaymentLookup
  | .getMidPriceRatio _ => Result PriceRatio
  | .getCentsFromSatsForImmediateBuy _ => Result UsdPaymentAmount
  | .yieldPending _ => Unit
  | .findByPaymentHash _ _ | .markAsPaid _ _ | .deleteByPaymentHash _ _ | .findWalletById _ _
  | .listByAccountId _ | .findAccountById _ _ | .findUserById _
  | .updateLightningPaymentFlow _ | .markLightningPaymentFlowNotPending _ => Option RepositoryFault
  | .getWalletBalanceAmount _ | .isLnTxRecorded _ | .getTransactionsByHash _ _
  | .getPendingPaymentsCount _ | .listPendingPayments _
  | .settlePendingLnSend _ | .settlePendingLnPayment _ => Option String
  | .volumeAmountSince _ _ | .recordSend _ | .recordReceive _ | .recordIntraledger _
  | .recordLnSendRevert _ | .revertLightningPayment _ => TimedAnswer
  | .getNonEndUserWalletIds | .persistNewLnPayment _ _ _ | .updateMetadataByHash _ _ | .notify _ =>
    Unit

def oneDay : Nat := 86400

namespace World

def acquire (w : World) (run : RunId) (key : LockKey) (answer : LockAnswer) :
    Option (Result Unit × World) :=
  Stores.acquire w w.locks (fun locks => { w with locks }) run key answer

def release (w : World) (run : RunId) (key : LockKey) (answer : LockAnswer) :
    Option (Result Unit × World) :=
  Stores.release w.locks (fun locks => { w with locks }) run key answer

def findByPaymentHash (w : World) (paymentHash : PaymentHash) : Result WalletInvoice :=
  match w.invoices paymentHash with
  | none => .error { name := .CouldNotFindWalletInvoiceError, message := paymentHash }
  | some record => .ok (walletInvoiceFromRaw paymentHash record)

def markAsPaid (w : World) (paymentHash : PaymentHash) (fault : Option RepositoryFault) :
    Option (Result WalletInvoice × World) :=
  match fault, w.invoices paymentHash with
  | some fault, _ => some (.error fault.error, w)
  | none, none => some (.error { name := .CouldNotFindWalletInvoiceError }, w)
  | none, some record =>
    let paid := { record with paid := true }
    some (.ok (walletInvoiceFromRaw paymentHash paid),
      { w with invoices := Function.update w.invoices paymentHash (some paid) })

def deleteByPaymentHash (w : World) (paymentHash : PaymentHash) (fault : Option RepositoryFault) :
    Option (Result Unit × World) :=
  match fault, w.invoices paymentHash with
  | some _, _ => some (.error { name := .RepositoryError }, w)
  | none, none =>
    some (.error { name := .CouldNotFindWalletInvoiceError, message := paymentHash }, w)
  | none, some _ =>
    some (.ok (), { w with invoices := Function.update w.invoices paymentHash none })

def volumeAmountSince (w : World) (group : TxnGroup) (wallet : WalletDescriptor)
    (answer : TimedAnswer) : Option (Result (TxBaseVolumeAmount wallet.currency) × World) :=
  let now := w.clock + answer.elapsed
  Stores.readLedger { w with clock := now } answer.fault
    (w.ledger.volumeAmountSince group wallet (now - oneDay))

def commit (w : World) (run : RunId) (entry : Entry) (answer : TimedAnswer) :
    Option (Result LedgerJournalId × World) :=
  match answer.fault with
  | some message => some (.error (unknownLedgerError message), w)
  | none =>
    let now := w.clock + answer.elapsed
    some (.ok w.ledger.journals.length,
      { w with clock := now, ledger := w.ledger.commit run now entry })

def settle (w : World) (run : RunId) (paymentHash : PaymentHash) (fault : Option String) :
    Option (Result Unit × World) :=
  match fault with
  | some message => some (.error (unknownLedgerError message), w)
  | none =>
    let result :=
      if w.ledger.modifiedCount paymentHash > 0 then .ok ()
      else .error { name := .NoTransactionToSettleError }
    some (result, { w with ledger := w.ledger.settlePending run paymentHash })

def void (w : World) (run : RunId) (id : LedgerJournalId) (answer : TimedAnswer) :
    Option (Result Unit × World) :=
  let now := w.clock + answer.elapsed
  match answer.fault, w.ledger.void run now id "Payment canceled" with
  | some message, _ => some (.error (unknownLedgerError message), w)
  | none, none => some (.error (unknownLedgerError ""), w)
  | none, some ledger => some (.ok (), { w with clock := now, ledger })

-- `findOneAndUpdate` changes the first flow that the filter selects.
def updateFirst (flows : List PaymentFlow) (select : PaymentFlow → Bool)
    (update : PaymentFlow → PaymentFlow) : Option (PaymentFlow × List PaymentFlow) :=
  match flows with
  | [] => none
  | flow :: rest =>
    if select flow then some (update flow, update flow :: rest)
    else (updateFirst rest select update).map fun found => (found.1, flow :: found.2)

def markLightningPaymentFlowNotPending (w : World) (index : PaymentFlowStateIndex)
    (fault : Option RepositoryFault) : Option (Result PaymentFlow × World) :=
  let update flow := { flow with paymentSentAndPending := false }
  match fault, updateFirst w.flows index.selects update with
  | some fault, _ => some (.error fault.error, w)
  | none, none => some (.error { name := .CouldNotUpdateLightningPaymentFlowError }, w)
  | none, some (flow, flows) => some (.ok (paymentFlowFromRaw flow), { w with flows })

def updateLightningPaymentFlow (w : World) (flow : PaymentFlow) (fault : Option RepositoryFault) :
    Option (Unit × World) :=
  let select stored :=
    stored.hash = flow.hash ∧ stored.senderWalletId = flow.senderWalletId ∧
      stored.inputAmount = flow.inputAmount
  match fault, updateFirst w.flows (fun stored => select stored) (fun _ => flow) with
  | none, some (_, flows) => some ((), { w with flows })
  | _, _ => some ((), w)

def pendingInvoice (w : World) (paymentHash : PaymentHash) : Option WalletInvoice :=
  ((w.invoices paymentHash).filter (!·.paid)).map (walletInvoiceFromRaw paymentHash)

end World

def serve (run : RunId) (w : World) : (c : Call) → Answer c → Option (Reply c × World)
  | .acquire key, answer => w.acquire run key answer
  | .release key, answer => w.release run key answer
  | .signalAborted _, answer => some (answer, w)
  | .lndService _, answer => some (answer, w)
  | .lookupInvoice _ _ _, answer => some (answer, w)
  | .settleInvoice _ _, answer => some (answer, w)
  | .cancelInvoice _ _ _, answer => some (answer, w)
  | .getLndFromPubkey pubkey, online =>
    let result :=
      if online then .ok ()
      else
        .error
          { name := .NoValidNodeForPubkeyError
            message := "lnd with pubkey:" ++ pubkey.getD "undefined" ++ " is offline" }
    some (result, w)
  | .payViaRoutes _ _, answer => some (answer, w)
  | .payViaPaymentDetails _ _ _, answer => some (answer, w)
  | .lookupPayment _ _, answer => some (answer, w)
  | .getMidPriceRatio _, answer => some (answer, w)
  | .getCentsFromSatsForImmediateBuy _, answer => some (answer, w)
  | .findByPaymentHash _ paymentHash, fault => Stores.read w fault (w.findByPaymentHash paymentHash)
  | .yieldPending paymentHash, _ => some (w.pendingInvoice paymentHash, w)
  | .markAsPaid _ paymentHash, fault => w.markAsPaid paymentHash fault
  | .deleteByPaymentHash _ paymentHash, fault => w.deleteByPaymentHash paymentHash fault
  | .findWalletById _ walletId, fault =>
    Stores.read w fault (Stores.found (w.wallets walletId) .CouldNotFindWalletFromIdError)
  | .listByAccountId accountId, fault =>
    let wallets := w.walletsOfAccount accountId
    let result := if wallets.isEmpty then none else some wallets
    Stores.read w fault (Stores.found result .CouldNotListWalletsFromAccountIdError)
  | .findAccountById _ accountId, fault =>
    Stores.read w fault (Stores.found (w.accounts accountId) .CouldNotFindError)
  | .findUserById userId, fault =>
    Stores.read w fault (Stores.found (w.users userId) .CouldNotFindUserFromIdError userId)
  | .volumeAmountSince group wallet, answer => w.volumeAmountSince group wallet answer
  | .getWalletBalanceAmount wallet, fault =>
    Stores.readLedger w fault (.ok (w.ledger.getWalletBalanceAmount wallet))
  | .isLnTxRecorded paymentHash, fault =>
    Stores.readLedger w fault (.ok (w.ledger.isLnTxRecorded paymentHash))
  | .getTransactionsByHash _ paymentHash, fault =>
    Stores.readLedger w fault (.ok (w.ledger.getTransactionsByHash paymentHash))
  | .getNonEndUserWalletIds, _ => some (w.bank.getNonEndUserWalletIds, w)
  | .getPendingPaymentsCount walletId, fault =>
    Stores.readLedger w fault (.ok (w.ledger.listPendingPayments walletId).length)
  | .listPendingPayments walletId, fault =>
    Stores.readLedger w fault (.ok (w.ledger.listPendingPayments walletId))
  | .recordSend args, answer => w.commit run (LedgerFacade.recordSend w.bank args) answer
  | .recordReceive args, answer => w.commit run (LedgerFacade.recordReceive w.bank args) answer
  | .recordIntraledger args, answer =>
    w.commit run (LedgerFacade.recordIntraledger w.bank args) answer
  | .settlePendingLnSend paymentHash, fault => w.settle run paymentHash fault
  | .settlePendingLnPayment paymentHash, fault => w.settle run paymentHash fault
  | .recordLnSendRevert journalId, answer => w.void run journalId answer
  | .revertLightningPayment journalId, answer => w.void run journalId answer
  | .updateLightningPaymentFlow flow, fault => w.updateLightningPaymentFlow flow fault
  | .markLightningPaymentFlowNotPending index, fault =>
    w.markLightningPaymentFlowNotPending index fault
  | .persistNewLnPayment _ _ _, _ => some ((), w)
  | .updateMetadataByHash _ _, _ => some ((), w)
  | .notify _, _ => some ((), w)

@[reducible] def services : Service World Call Reply where
  Answer := Answer
  serve := serve

/-- An application function: an early `return error` of the source is a throw. -/
abbrev App (α : Type) := ExceptT AppError (Prog Call Reply) α

def ask (c : Call) : Prog Call Reply (Reply c) := Prog.request c

namespace App

variable {α : Type}

def fallible (p : Prog Call Reply (Result α)) : App α := ExceptT.mk p

def total (p : Prog Call Reply α) : App α := ExceptT.lift p

def attempt (x : App α) : App (Result α) := ExceptT.lift x.run

def ofResult (result : Result α) : App α := ExceptT.mk (pure result)

-- A release that fails after the body replaces the result of the body.
def withLock (key : LockKey) (body : App α) : App α := do
  fallible (ask (.acquire key))
  let result ← attempt body
  fallible (ask (.release key))
  ofResult result

end App

def World.initial (bank : BankWallets) : World where
  bank := bank
  invoices := fun _ => none
  flows := []
  ledger := {}
  locks := fun _ => none
  wallets := fun _ => none
  walletsOfAccount := fun _ => []
  accounts := fun _ => none
  users := fun _ => none
  clock := 0

structure Outside where
  defaultPubkey : Pubkey
  lookupInvoice : LnInvoiceLookup
  payment : PaymentRace
  lookupPayment : LnPaymentLookup
  midPriceRatio : PriceRatio
  immediateBuy : UsdPaymentAmount

def Outside.answers (outside : Outside) : (c : Call) → Answer c
  | .acquire _ | .release _ => .done
  | .signalAborted _ => false
  | .lndService _ => .ok outside.defaultPubkey
  | .lookupInvoice _ _ _ => .ok outside.lookupInvoice
  | .settleInvoice _ _ | .cancelInvoice _ _ _ => .ok ()
  | .getLndFromPubkey _ => true
  | .payViaRoutes _ _ | .payViaPaymentDetails _ _ _ => outside.payment
  | .lookupPayment _ _ => .ok outside.lookupPayment
  | .getMidPriceRatio _ => .ok outside.midPriceRatio
  | .getCentsFromSatsForImmediateBuy _ => .ok outside.immediateBuy
  | .yieldPending _ => ()
  | .findByPaymentHash _ _ | .markAsPaid _ _ | .deleteByPaymentHash _ _ | .findWalletById _ _
  | .listByAccountId _ | .findAccountById _ _ | .findUserById _
  | .updateLightningPaymentFlow _ | .markLightningPaymentFlowNotPending _ => none
  | .getWalletBalanceAmount _ | .isLnTxRecorded _ | .getTransactionsByHash _ _
  | .getPendingPaymentsCount _ | .listPendingPayments _
  | .settlePendingLnSend _ | .settlePendingLnPayment _ => none
  | .volumeAmountSince _ _ | .recordSend _ | .recordReceive _ | .recordIntraledger _
  | .recordLnSendRevert _ | .revertLightningPayment _ => {}
  | .getNonEndUserWalletIds | .persistNewLnPayment _ _ _ | .updateMetadataByHash _ _ | .notify _ =>
    ()

def usdFromBtcMidPriceFn (site : Site) (amount : BtcPaymentAmount) : App UsdPaymentAmount := do
  let midPriceRatio ← App.fallible (ask (.getMidPriceRatio site))
  return midPriceRatio.convertFromBtc amount

end Galoy
