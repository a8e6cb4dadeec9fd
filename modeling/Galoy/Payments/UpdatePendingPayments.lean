import Galoy.Wallets.Reimburse

set_option autoImplicit false

namespace Galoy

open Interleave App

def isPendingPaymentOfEndUser (nonEndUserWalletIds : List WalletId)
    (tx : LedgerTransaction) : Bool :=
  tx.pendingConfirmation && tx.type = .payment && tx.debit > 0 &&
    match tx.walletId with
    | none => false
    | some walletId => walletId ∉ nonEndUserWalletIds

def reconstructPendingPaymentFlow (paymentHash : PaymentHash) : App PaymentFlow := do
  let ledgerTxns ←
    fallible (ask (.getTransactionsByHash .reconstructPendingPaymentFlow paymentHash))
  let nonEndUserWalletIds ← total (ask .getNonEndUserWalletIds)
  match ledgerTxns.find? (isPendingPaymentOfEndUser nonEndUserWalletIds) with
  | none => throw { name := .CouldNotFindTransactionError }
  | some payment =>
    match orUndefined payment.walletId with
    | none => throw { name := .MissingPropsInTransactionForPaymentFlowError }
    | some senderWalletId =>
      let senderWallet ←
        fallible (ask (.findWalletById .reconstructPendingPaymentFlow senderWalletId))
      let senderAccount ←
        fallible (ask (.findAccountById .reconstructPendingPaymentFlow senderWallet.accountId))
      ofResult (paymentFlowFromLedgerTransaction payment senderAccount.id)

-- The stored flow, or the one that the ledger still shows.
def flowOfPendingPayment (paymentFlowIndex : PaymentFlowStateIndex) : App PaymentFlow := do
  let paymentFlow ← attempt (fallible (ask (.markLightningPaymentFlowNotPending paymentFlowIndex)))
  match paymentFlow with
  | .error _ => reconstructPendingPaymentFlow paymentFlowIndex.paymentHash
  | .ok paymentFlow => pure paymentFlow

def LnPaymentLookup.roundedUpFee (lnPaymentLookup : LnPaymentLookup) : Int :=
  (lnPaymentLookup.confirmedDetails.map (·.roundedUpFee)).getD 0

def LnPaymentLookup.revealedPreImage (lnPaymentLookup : LnPaymentLookup) :
    Option RevealedPreImage :=
  orUndefined (lnPaymentLookup.confirmedDetails.bind (·.revealedPreImage))

def storePreImage (paymentHash : PaymentHash) (revealedPreImage : Option RevealedPreImage) :
    App Unit :=
  match revealedPreImage with
  | none => pure ()
  | some revealedPreImage => total (ask (.updateMetadataByHash paymentHash revealedPreImage))

def confirmPendingPayment (pendingPayment : LedgerTransaction) (paymentFlow : PaymentFlow)
    (paymentHash : PaymentHash) (lnPaymentLookup : LnPaymentLookup) : App Unit := do
  storePreImage paymentHash lnPaymentLookup.revealedPreImage
  if pendingPayment.feeKnownInAdvance then return ()
  else
    match pendingPayment.displayAmount, pendingPayment.displayFee with
    | some _, some _ =>
      reimburseFee paymentFlow pendingPayment.journalId lnPaymentLookup.roundedUpFee
    | _, _ =>
      throw
        { name := .UnknownLedgerError, message := "missing display-related values in transaction" }

def failPendingPayment (pendingPayment : LedgerTransaction) (paymentFlow : PaymentFlow) :
    App Unit :=
  match paymentFlow.senderWalletCurrency with
  | .btc => fallible (ask (.revertLightningPayment pendingPayment.journalId))
  | .usd => reimburseFailedUsdPayment paymentFlow pendingPayment.journalId

def updatePendingPaymentBehindLock (walletId : WalletId) (pendingPayment : LedgerTransaction)
    (paymentHash : PaymentHash) (lnPaymentLookup : LnPaymentLookup) : App Unit := do
  let recorded ← fallible (ask (.isLnTxRecorded paymentHash))
  if recorded then return ()
  else
    let inputAmount ← ofResult (inputAmountFromLedgerTransaction pendingPayment)
    let paymentFlow ← flowOfPendingPayment ⟨paymentHash, walletId, inputAmount⟩
    fallible (ask (.settlePendingLnPayment paymentHash))
    match lnPaymentLookup.status with
    | .settled => confirmPendingPayment pendingPayment paymentFlow paymentHash lnPaymentLookup
    | .failed => failPendingPayment pendingPayment paymentFlow
    | .pending => return ()

def updatePendingPayment (walletId : WalletId) (pendingPayment : LedgerTransaction) : App Unit := do
  let _ ← fallible (ask (.lndService .updatePendingPayment))
  match pendingPayment.paymentHash, pendingPayment.pubkey with
  | none, _ =>
    throw
      { name := .InconsistentDataError, message := "paymentHash missing from payment transaction" }
  | some _, none =>
    throw { name := .InconsistentDataError, message := "pubkey missing from payment transaction" }
  | some paymentHash, some pubkey =>
    let lnPaymentLookup ← fallible (ask (.lookupPayment pubkey paymentHash))
    if lnPaymentLookup.status = .pending then return ()
    else
      withLock (.paymentHash paymentHash)
        (updatePendingPaymentBehindLock walletId pendingPayment paymentHash lnPaymentLookup)

-- The result of an item is not looked at, but an InconsistentDataError is raised, not returned.
def updateEachPendingPayment (walletId : WalletId) : List LedgerTransaction → App Unit
  | [] => pure ()
  | pendingPayment :: pendingPayments => do
    let result ← attempt (updatePendingPayment walletId pendingPayment)
    match result with
    | .error error =>
      if error.name = .InconsistentDataError then throw error
      else updateEachPendingPayment walletId pendingPayments
    | .ok _ => updateEachPendingPayment walletId pendingPayments

def updatePendingPaymentsByWalletId (walletId : WalletId) : App Unit := do
  let count ← fallible (ask (.getPendingPaymentsCount walletId))
  if count = 0 then return ()
  else
    let pendingPayments ← fallible (ask (.listPendingPayments walletId))
    updateEachPendingPayment walletId pendingPayments

end Galoy
