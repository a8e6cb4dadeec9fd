import Galoy.Payments.Limits
import Galoy.Wallets.Reimburse

set_option autoImplicit false

namespace Galoy

open Interleave App AmountCalculator

inductive PaymentSendStatus where
  | success
  | pending
  | alreadyPaid
  deriving DecidableEq, Repr

def PaymentFlow.displayAmounts (paymentFlow : PaymentFlow) (feeDisplayCurrency : ℚ) :
    DisplayAmounts where
  amountDisplayCurrency := paymentFlow.usdPaymentAmount.amount
  feeDisplayCurrency := feeDisplayCurrency
  displayCurrency := .usd

def checkBalance (paymentFlow : PaymentFlow) (senderWallet : WalletDescriptor) : App Unit := do
  let balance ← fallible (ask (.getWalletBalanceAmount senderWallet))
  ofResult (paymentFlow.checkBalanceForSend balance)

def checkNotAborted (senderWallet : WalletDescriptor) : App Unit := do
  let aborted ← total (ask (.signalAborted (.wallet senderWallet.id)))
  if aborted then throw { name := .ResourceExpiredLockServiceError } else return ()

namespace SendLightning

section Intraledger

variable (paymentFlow : PaymentFlow) (senderWallet recipientWallet : WalletDescriptor)
  (senderUsername : Option Username) (memo : Option String)

def intraledgerMetadata (paymentHash : PaymentHash) (recipientPubkey : Pubkey) :
    IntraledgerMetadata :=
  if senderWallet.accountId = recipientWallet.accountId then
    lnTradeIntraAccountLedgerMetadata paymentHash recipientPubkey paymentFlow
      (paymentFlow.displayAmounts 0) (orUndefined memo)
  else
    lnIntraledgerLedgerMetadata paymentHash recipientPubkey paymentFlow
      (paymentFlow.displayAmounts 0) (orUndefined memo) senderUsername paymentFlow.recipientUsername

def intraledgerArgs (paymentHash : PaymentHash) (recipientPubkey : Pubkey)
    (recipientWalletDescriptor : WalletDescriptor) : RecordIntraledgerArgs where
  description := paymentFlow.descriptionFromInvoice
  amount := paymentFlow.paymentAmounts
  senderWalletDescriptor := paymentFlow.senderWalletDescriptor
  recipientWalletDescriptor := recipientWalletDescriptor
  metadata :=
    (intraledgerMetadata paymentFlow senderWallet recipientWallet senderUsername memo paymentHash
      recipientPubkey).metadata
  additionalDebitMetadata :=
    (intraledgerMetadata paymentFlow senderWallet recipientWallet senderUsername memo paymentHash
      recipientPubkey).debitAccountAdditionalMetadata

def recordAndNotify (paymentHash : PaymentHash) (recipientPubkey : Pubkey)
    (recipientWalletId : WalletId) (recipientWalletCurrency : WalletCurrency)
    (recipientWalletDescriptor : WalletDescriptor) : App PaymentSendStatus := do
  let args := intraledgerArgs paymentFlow senderWallet recipientWallet senderUsername
    memo paymentHash recipientPubkey recipientWalletDescriptor
  let _ ← fallible (ask (.recordIntraledger args))
  let _ ← fallible (ask (.lndService .executePaymentViaIntraledger))
  fallible (ask (.cancelInvoice .executePaymentViaIntraledger recipientPubkey paymentHash))
  let _ ← fallible (ask (.markAsPaid .executePaymentViaIntraledger paymentHash))
  let recipientAccount ←
    fallible (ask (.findAccountById .executePaymentViaIntraledger recipientWallet.accountId))
  let recipientUser ← fallible (ask (.findUserById recipientAccount.ownerId))
  let amount := match recipientWalletCurrency with
    | .btc => paymentFlow.btcPaymentAmount.amount
    | .usd => paymentFlow.usdPaymentAmount.amount
  total (ask (.notify (.lightningTxReceived recipientWallet.accountId recipientWalletId amount
    recipientWalletCurrency (args.metadata.usd.getD 0) paymentHash recipientUser.deviceTokens
    recipientUser.language)))
  return .success

def executePaymentViaIntraledgerBehindLock (paymentHash : PaymentHash) (recipientPubkey : Pubkey)
    (recipientWalletId : WalletId) (recipientWalletCurrency : WalletCurrency) :
    App PaymentSendStatus := do
  let recorded ← fallible (ask (.isLnTxRecorded paymentHash))
  if recorded then return .alreadyPaid
  else
    checkBalance paymentFlow senderWallet
    let _ ← ofResult (PriceRatio.make paymentFlow.usdPaymentAmount paymentFlow.btcPaymentAmount)
    checkNotAborted senderWallet
    match paymentFlow.recipientWalletDescriptor with
    | none => throw { name := .InvalidLightningPaymentFlowBuilderStateError }
    | some recipientWalletDescriptor =>
      recordAndNotify paymentFlow senderWallet recipientWallet senderUsername memo paymentHash
        recipientPubkey recipientWalletId recipientWalletCurrency recipientWalletDescriptor

end Intraledger

def executePaymentViaIntraledger (getAccountLimits : AccountLevel → AccountLimits)
    (paymentFlow : PaymentFlow) (senderWallet : WalletDescriptor) (senderUsername : Option Username)
    (memo : Option String) : App PaymentSendStatus := do
  let priceRatioForLimits ← getPriceRatioForLimits paymentFlow
  let paymentHash ← ofResult paymentFlow.paymentHashForFlow
  match orUndefined paymentFlow.recipientWalletId, paymentFlow.recipientWalletCurrency,
    orUndefined paymentFlow.recipientPubkey with
  | some recipientWalletId, some recipientWalletCurrency, some recipientPubkey =>
    let recipientWallet ←
      fallible (ask (.findWalletById .executePaymentViaIntraledger recipientWalletId))
    checkLimitsFor getAccountLimits senderWallet recipientWallet paymentFlow.usdPaymentAmount
      senderWallet priceRatioForLimits
    withLock (.wallet senderWallet.id)
      (executePaymentViaIntraledgerBehindLock paymentFlow senderWallet recipientWallet
        senderUsername memo paymentHash recipientPubkey recipientWalletId recipientWalletCurrency)
  | _, _, _ =>
    throw
      { name := .InvalidLightningPaymentFlowBuilderStateError
        message := "Expected recipient details missing" }

def payInvoiceViaRoutes (paymentHash : PaymentHash) (rawRoute : RawRoute) (pubkey : Option Pubkey) :
    App PayInvoiceResult := do
  fallible (ask (.getLndFromPubkey pubkey))
  let race ← total (ask (.payViaRoutes rawRoute paymentHash))
  ofResult (race.result paymentHash pubkey)

def payInvoiceViaPaymentDetails (defaultPubkey : Pubkey) (decodedInvoice : LnInvoice)
    (btcPaymentAmount maxFeeAmount : BtcPaymentAmount) : App PayInvoiceResult := do
  let race ← total (ask (.payViaPaymentDetails decodedInvoice btcPaymentAmount maxFeeAmount))
  ofResult (race.result decodedInvoice.paymentHash (some defaultPubkey))

section Ln

variable (decodedInvoice : LnInvoice) (paymentFlow : PaymentFlow) (senderWallet : WalletDescriptor)

def payInvoice (defaultPubkey : Pubkey) : App PayInvoiceResult :=
  match paymentFlow.routeDetails.rawRoute with
  | some rawRoute =>
    payInvoiceViaRoutes decodedInvoice.paymentHash rawRoute
      paymentFlow.routeDetails.outgoingNodePubkey
  | none =>
    payInvoiceViaPaymentDetails defaultPubkey decodedInvoice paymentFlow.btcPaymentAmount
      paymentFlow.btcProtocolFee

def lnSendPubkey (defaultPubkey : Pubkey) : Pubkey :=
  (orUndefined paymentFlow.routeDetails.outgoingNodePubkey).getD defaultPubkey

def lnSendArgs (defaultPubkey : Pubkey) : RecordSendArgs where
  description := paymentFlow.descriptionFromInvoice
  amountToDebitSender :=
    ⟨add paymentFlow.btcPaymentAmount paymentFlow.btcProtocolFee,
      add paymentFlow.usdPaymentAmount paymentFlow.usdProtocolFee⟩
  senderWalletDescriptor := paymentFlow.senderWalletDescriptor
  metadata :=
    lnSendLedgerMetadata decodedInvoice.paymentHash (lnSendPubkey paymentFlow defaultPubkey)
      paymentFlow (paymentFlow.displayAmounts paymentFlow.usdProtocolFee.amount)
      paymentFlow.routeDetails.rawRoute.isSome

def checkNotInTransit (paymentHash : PaymentHash) : App Unit := do
  let ledgerTransactions ←
    fallible (ask (.getTransactionsByHash .executePaymentViaLn paymentHash))
  if ledgerTransactions.any (·.pendingConfirmation) then
    throw { name := .LnPaymentRequestInTransitError }
  else return ()

def recordLnSend : App (LedgerJournalId × Pubkey) := do
  checkNotInTransit decodedInvoice.paymentHash
  checkBalance paymentFlow senderWallet
  let defaultPubkey ← fallible (ask (.lndService .executePaymentViaLn))
  let _ ← ofResult (PriceRatio.make paymentFlow.usdPaymentAmount paymentFlow.btcPaymentAmount)
  checkNotAborted senderWallet
  let journalId ← fallible (ask (.recordSend (lnSendArgs decodedInvoice paymentFlow defaultPubkey)))
  return (journalId, defaultPubkey)

-- The updates of other collections that nobody waits for.
def persistLnPayment (defaultPubkey : Pubkey) (payResult : Result PayInvoiceResult) : App Unit :=
  match payResult with
  | .error error =>
    if error.name = .LnAlreadyPaidError then pure ()
    else
      total (ask (.persistNewLnPayment decodedInvoice.paymentHash decodedInvoice.paymentRequest
        (lnSendPubkey paymentFlow defaultPubkey)))
  | .ok result => do
    total (ask (.persistNewLnPayment decodedInvoice.paymentHash decodedInvoice.paymentRequest
      (lnSendPubkey paymentFlow defaultPubkey)))
    total (ask (.updateMetadataByHash decodedInvoice.paymentHash result.revealedPreImage))

def settleAndReimburse (journalId : LedgerJournalId) (result : PayInvoiceResult) :
    App PaymentSendStatus := do
  fallible (ask (.settlePendingLnSend decodedInvoice.paymentHash))
  if paymentFlow.routeDetails.rawRoute.isSome then return .success
  else
    reimburseFee paymentFlow journalId result.roundedUpFee
    return .success

def settleAndRevert (paymentHash : PaymentHash) (journalId : LedgerJournalId) (error : AppError) :
    App PaymentSendStatus := do
  fallible (ask (.settlePendingLnSend paymentHash))
  fallible (ask (.recordLnSendRevert journalId))
  if error.name = .LnAlreadyPaidError then return .alreadyPaid else throw error

-- Only a timeout leaves the journal pending.
def resolveLnSend (journalId : LedgerJournalId) (payResult : Result PayInvoiceResult) :
    App PaymentSendStatus :=
  match payResult with
  | .error error =>
    if error.name = .LnPaymentPendingError then do
      total (ask (.updateLightningPaymentFlow { paymentFlow with paymentSentAndPending := true }))
      return .pending
    else settleAndRevert decodedInvoice.paymentHash journalId error
  | .ok result => settleAndReimburse decodedInvoice paymentFlow journalId result

def executePaymentViaLnBehindLock : App PaymentSendStatus := do
  let (journalId, defaultPubkey) ← recordLnSend decodedInvoice paymentFlow senderWallet
  let payResult ← attempt (payInvoice decodedInvoice paymentFlow defaultPubkey)
  persistLnPayment decodedInvoice paymentFlow defaultPubkey payResult
  resolveLnSend decodedInvoice paymentFlow journalId payResult

def executePaymentViaLn (getAccountLimits : AccountLevel → AccountLimits) :
    App PaymentSendStatus := do
  let priceRatioForLimits ← getPriceRatioForLimits paymentFlow
  newCheckWithdrawalLimits getAccountLimits paymentFlow.usdPaymentAmount senderWallet
    priceRatioForLimits
  withLock (.wallet senderWallet.id)
    (executePaymentViaLnBehindLock decodedInvoice paymentFlow senderWallet)

end Ln

end SendLightning

structure LnSend where
  decodedInvoice : LnInvoice
  paymentFlow : PaymentFlow
  senderWallet : WalletDescriptor

def LnSend.prog (send : LnSend) (getAccountLimits : AccountLevel → AccountLimits) :
    App PaymentSendStatus :=
  SendLightning.executePaymentViaLn send.decodedInvoice send.paymentFlow send.senderWallet
    getAccountLimits

structure LnIntraledgerPayment where
  paymentFlow : PaymentFlow
  senderWallet : WalletDescriptor
  senderUsername : Option Username := none
  memo : Option String := none

def LnIntraledgerPayment.prog (payment : LnIntraledgerPayment)
    (getAccountLimits : AccountLevel → AccountLimits) : App PaymentSendStatus :=
  SendLightning.executePaymentViaIntraledger getAccountLimits payment.paymentFlow
    payment.senderWallet payment.senderUsername payment.memo

section Example

def sendDeposit (walletId : WalletId) : Entry :=
  LedgerFacade.recordReceive exampleBank
    { description := "deposit"
      recipientWalletDescriptor := ⟨walletId, .btc, walletId ++ "Account"⟩
      amountToCreditReceiver := ⟨⟨10000⟩, ⟨500⟩⟩
      metadata := lnReceiveLedgerMetadata ("deposit of " ++ walletId) ⟨0⟩ 0 500 }

def sendWorld : World :=
  { World.initial exampleBank with
    ledger := (({} : Ledger).commit 100 0 (sendDeposit "alice")).commit 100 0 (sendDeposit "bob")
    wallets := fun walletId => some ⟨walletId, .btc, walletId ++ "Account"⟩
    accounts := fun accountId => some ⟨accountId, "user", none, .one⟩
    users := fun userId => some ⟨userId, [], "en"⟩ }

def sendWallet (walletId : WalletId) : WalletDescriptor := ⟨walletId, .btc, walletId ++ "Account"⟩

def sendInvoice : LnInvoice where
  paymentHash := "hash"
  paymentRequest := "lnbc"
  destination := "destination"

def sendFlow (walletId : WalletId) : PaymentFlow where
  hash := .paymentHash "hash"
  senderWalletId := walletId
  senderWalletCurrency := .btc
  senderAccountId := walletId ++ "Account"
  settlementMethod := .lightning
  paymentInitiationMethod := .lightning
  descriptionFromInvoice := "coffee"
  btcPaymentAmount := ⟨1000⟩
  usdPaymentAmount := ⟨50⟩
  inputAmount := 1000
  btcProtocolFee := ⟨10⟩
  usdProtocolFee := ⟨1⟩

def sendOf (walletId : WalletId) : LnSend := ⟨sendInvoice, sendFlow walletId, sendWallet walletId⟩

def invoicePayment (walletId : WalletId) : LnIntraledgerPayment where
  paymentFlow :=
    { sendFlow walletId with
      settlementMethod := .intraLedger
      recipientWalletId := some "carol"
      recipientWalletCurrency := some .btc
      recipientAccountId := some "carolAccount"
      recipientPubkey := some "node" }
  senderWallet := sendWallet walletId

def sendLimits : AccountLevel → AccountLimits := fun _ => ⟨100000, 100000, 100000⟩

def centsPerSat : PriceRatio := ⟨⟨1⟩, ⟨20⟩, Int.one_ne_zero, by decide⟩

def sendOutside (payment : PaymentRace) (status : PaymentStatus) : Outside where
  defaultPubkey := "node"
  lookupInvoice := ⟨"hash", false, false, 0, "coffee"⟩
  payment := payment
  lookupPayment := { status }
  midPriceRatio := centsPerSat
  immediateBuy := ⟨50⟩

def paymentTimeout : PaymentRace := .rejected { message := some "Timeout" }

def paymentNoRoute : PaymentRace :=
  .rejected { code := some "PaymentPathfindingFailedToFindPossibleRoute" }

end Example

end Galoy
