import Galoy.Payments.SendLightning

set_option autoImplicit false

namespace Galoy

namespace SendIntraledger

open Interleave App

section Intraledger

variable (paymentFlow : PaymentFlow) (senderAccount : Account)
  (senderWallet : WalletDescriptor) (recipientAccount : Account)
  (recipientWallet : WalletDescriptor) (memo : Option String)

-- A trade inside one account has no metadata of its own for the debited leg.
def intraledgerMetadata : IntraledgerMetadata :=
  if senderWallet.accountId = recipientWallet.accountId then
    { metadata :=
        walletIdTradeIntraAccountLedgerMetadata paymentFlow (paymentFlow.displayAmounts 0)
          (orUndefined memo)
      debitAccountAdditionalMetadata := {} }
  else
    walletIdIntraledgerLedgerMetadata paymentFlow (paymentFlow.displayAmounts 0) (orUndefined memo)
      senderAccount.username paymentFlow.recipientUsername

def intraledgerArgs (recipientWalletDescriptor : WalletDescriptor) : RecordIntraledgerArgs where
  description := paymentFlow.descriptionFromInvoice
  amount := paymentFlow.paymentAmounts
  senderWalletDescriptor := paymentFlow.senderWalletDescriptor
  recipientWalletDescriptor := recipientWalletDescriptor
  metadata :=
    (intraledgerMetadata paymentFlow senderAccount senderWallet recipientWallet memo).metadata
  additionalDebitMetadata :=
    (intraledgerMetadata paymentFlow senderAccount senderWallet recipientWallet
      memo).debitAccountAdditionalMetadata

def recordAndNotify (recipientWalletCurrency : WalletCurrency)
    (recipientWalletDescriptor : WalletDescriptor) : App PaymentSendStatus := do
  let args := intraledgerArgs paymentFlow senderAccount senderWallet recipientWallet memo
    recipientWalletDescriptor
  let _ ← fallible (ask (.recordIntraledger args))
  let totalSendAmounts := paymentFlow.totalAmountsForPayment
  let recipientUser ← fallible (ask (.findUserById recipientAccount.ownerId))
  let amount := match recipientWalletCurrency with
    | .btc => totalSendAmounts.btc.amount
    | .usd => totalSendAmounts.usd.amount
  total (ask (.notify (.intraLedgerTxReceived recipientWallet.accountId recipientWallet.id amount
    recipientWallet.currency (args.metadata.usd.getD 0) recipientUser.deviceTokens
    recipientUser.language)))
  return .success

def executePaymentViaIntraledgerBehindLock (recipientWalletCurrency : WalletCurrency) :
    App PaymentSendStatus := do
  checkBalance paymentFlow senderWallet
  let _ ← ofResult (PriceRatio.make paymentFlow.usdPaymentAmount paymentFlow.btcPaymentAmount)
  checkNotAborted senderWallet
  match paymentFlow.recipientWalletDescriptor with
  | none => throw { name := .InvalidLightningPaymentFlowBuilderStateError }
  | some recipientWalletDescriptor =>
    recordAndNotify paymentFlow senderAccount senderWallet recipientAccount recipientWallet memo
      recipientWalletCurrency recipientWalletDescriptor

def executePaymentViaIntraledger (getAccountLimits : AccountLevel → AccountLimits) :
    App PaymentSendStatus := do
  let priceRatioForLimits ← getPriceRatioForLimits paymentFlow
  checkLimitsFor getAccountLimits senderWallet recipientWallet paymentFlow.usdPaymentAmount
    senderWallet priceRatioForLimits
  match orUndefined paymentFlow.recipientWalletId, paymentFlow.recipientWalletCurrency with
  | some _, some recipientWalletCurrency =>
    withLock (.wallet senderWallet.id)
      (executePaymentViaIntraledgerBehindLock paymentFlow senderAccount senderWallet
        recipientAccount recipientWallet memo recipientWalletCurrency)
  | _, _ =>
    throw
      { name := .InvalidLightningPaymentFlowBuilderStateError
        message := "Expected recipient details missing" }

end Intraledger

end SendIntraledger

structure IntraledgerPayment where
  paymentFlow : PaymentFlow
  senderAccount : Account
  senderWallet : WalletDescriptor
  recipientAccount : Account
  recipientWallet : WalletDescriptor
  memo : Option String := none

def IntraledgerPayment.prog (payment : IntraledgerPayment)
    (getAccountLimits : AccountLevel → AccountLimits) : App PaymentSendStatus :=
  SendIntraledger.executePaymentViaIntraledger payment.paymentFlow payment.senderAccount
    payment.senderWallet payment.recipientAccount payment.recipientWallet payment.memo
      getAccountLimits

end Galoy
