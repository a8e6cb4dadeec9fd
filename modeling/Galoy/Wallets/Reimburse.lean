import Galoy.App.World

set_option autoImplicit false

namespace Galoy

open Interleave App AmountCalculator

def feeReimbursementArgs (paymentFlow : PaymentFlow) (paymentHash : PaymentHash)
    (journalId : LedgerJournalId) (feeDifference : Amounts) : RecordReceiveArgs where
  description := "fee reimbursement"
  recipientWalletDescriptor := paymentFlow.senderWalletDescriptor
  amountToCreditReceiver := feeDifference
  metadata :=
    { type := .lnFeeReimbursement
      pending := false
      hash := some paymentHash
      relatedJournal := some journalId
      usd := some (feeDifference.usd.amount / 100)
      satsAmount := some feeDifference.btc.amount
      centsAmount := some feeDifference.usd.amount
      satsFee := some 0
      centsFee := some 0
      displayAmount := some feeDifference.usd.amount
      displayFee := some 0
      displayCurrency := some .usd }

-- An actual fee above the prepaid one is only logged.
def reimburseFee (paymentFlow : PaymentFlow) (journalId : LedgerJournalId) (actualFee : Int) :
    App Unit := do
  let actualFeeAmount ← ofResult (paymentAmountFromNumber .btc actualFee)
  let maxFeeAmounts : Amounts := ⟨paymentFlow.btcProtocolFee, paymentFlow.usdProtocolFee⟩
  let priceRatio ←
    ofResult (PriceRatio.make paymentFlow.paymentAmounts.usd paymentFlow.paymentAmounts.btc)
  match getReimbursement maxFeeAmounts priceRatio actualFeeAmount with
  | .error _ => return ()
  | .ok feeDifference =>
    if feeDifference.btc.amount = 0 then return ()
    else
      let paymentHash ← ofResult paymentFlow.paymentHashForFlow
      let _ ← fallible (ask (.recordReceive
        (feeReimbursementArgs paymentFlow paymentHash journalId feeDifference)))
      return ()

def failedUsdPaymentArgs (paymentFlow : PaymentFlow) (paymentHash : PaymentHash)
    (journalId : LedgerJournalId) (btcWalletDescriptor : WalletDescriptor) : RecordReceiveArgs where
  description := "Usd payment canceled"
  recipientWalletDescriptor := btcWalletDescriptor
  amountToCreditReceiver := paymentFlow.totalAmountsForPayment
  metadata :=
    { type := .payment
      pending := false
      hash := some paymentHash
      relatedJournal := some journalId
      usd := some (divFloor paymentFlow.usdPaymentAmount 100).amount
      satsAmount := some paymentFlow.btcPaymentAmount.amount
      centsAmount := some paymentFlow.usdPaymentAmount.amount
      satsFee := some paymentFlow.btcProtocolFee.amount
      centsFee := some paymentFlow.usdProtocolFee.amount
      displayAmount := some paymentFlow.usdPaymentAmount.amount
      displayFee := some paymentFlow.usdProtocolFee.amount
      displayCurrency := some .usd }

def recipientBtcWallet (recipientWallet : WalletDescriptor) : App WalletDescriptor :=
  match recipientWallet.currency with
  | .btc => pure recipientWallet
  | .usd => do
    let recipientWallets ← fallible (ask (.listByAccountId recipientWallet.accountId))
    match recipientWallets.find? (·.currency = .btc) with
    | none =>
      throw
        { name := .CouldNotFindBtcWalletForAccountError
          message := "\x7b\"accountId\":\"" ++ recipientWallet.accountId ++ "\"\x7d" }
    | some btcWallet => pure btcWallet

def reimburseFailedUsdPayment (paymentFlow : PaymentFlow) (journalId : LedgerJournalId) :
    App Unit := do
  let paymentHash ← ofResult paymentFlow.paymentHashForFlow
  let recipientWallet ←
    fallible
      (ask (.findWalletById .reimburseFailedUsdPayment paymentFlow.senderWalletDescriptor.id))
  let btcWalletDescriptor ← recipientBtcWallet recipientWallet
  let _ ← fallible (ask (.recordReceive
    (failedUsdPaymentArgs paymentFlow paymentHash journalId btcWalletDescriptor)))
  return ()

end Galoy
