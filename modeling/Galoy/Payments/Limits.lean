import Galoy.App.World

set_option autoImplicit false

namespace Galoy

open Interleave App

structure LimitCheck where
  limitAmount : Int
  limitError : ErrorName
  limitErrMsg : String

def TxBaseVolumeAmount.outgoingInUsd (priceRatio : PriceRatio) {currency : WalletCurrency}
    (walletVolume : TxBaseVolumeAmount currency) : UsdPaymentAmount :=
  match currency, walletVolume.outgoingBaseAmount with
  | .btc, outgoing => priceRatio.convertFromBtc outgoing
  | .usd, outgoing => outgoing

def checkLimitBase (check : LimitCheck) (priceRatio : PriceRatio) {currency : WalletCurrency}
    (amount : UsdPaymentAmount) (walletVolume : TxBaseVolumeAmount currency) : Result Unit :=
  let volumeInUsdAmount := walletVolume.outgoingInUsd priceRatio
  let remainingLimit := check.limitAmount - volumeInUsdAmount.amount
  if remainingLimit < amount.amount then
    .error { name := check.limitError, message := check.limitErrMsg }
  else .ok ()

namespace AccountLimitsChecker

def limitErrMsg (limit : Int) : String :=
  "Cannot transfer more than " ++ toString limit ++ " cents in 24 hours"

def checkIntraledger (accountLimits : AccountLimits) : LimitCheck where
  limitAmount := accountLimits.intraLedgerLimit
  limitError := .IntraledgerLimitsExceededError
  limitErrMsg := limitErrMsg accountLimits.intraLedgerLimit

def checkWithdrawal (accountLimits : AccountLimits) : LimitCheck where
  limitAmount := accountLimits.withdrawalLimit
  limitError := .WithdrawalLimitsExceededError
  limitErrMsg := limitErrMsg accountLimits.withdrawalLimit

def checkTradeIntraAccount (accountLimits : AccountLimits) : LimitCheck where
  limitAmount := accountLimits.tradeIntraAccountLimit
  limitError := .TradeIntraAccountLimitsExceededError
  limitErrMsg := limitErrMsg accountLimits.tradeIntraAccountLimit

end AccountLimitsChecker

-- The three checks of the payment functions read the volume of a different group.
def newCheckLimits (getAccountLimits : AccountLevel → AccountLimits) (group : TxnGroup)
    (check : AccountLimits → LimitCheck) (amount : UsdPaymentAmount) (wallet : WalletDescriptor)
    (priceRatio : PriceRatio) : App Unit := do
  let walletVolume ← fallible (ask (.volumeAmountSince group wallet))
  let account ← fallible (ask (.findAccountById .checkLimits wallet.accountId))
  ofResult (checkLimitBase (check (getAccountLimits account.level)) priceRatio amount walletVolume)

section Limits

variable (getAccountLimits : AccountLevel → AccountLimits)

def newCheckIntraledgerLimits :=
  newCheckLimits getAccountLimits .intraledgerTxBaseVolumeSince
    AccountLimitsChecker.checkIntraledger

def newCheckTradeIntraAccountLimits :=
  newCheckLimits getAccountLimits .tradeIntraAccountTxBaseVolumeSince
    AccountLimitsChecker.checkTradeIntraAccount

def newCheckWithdrawalLimits :=
  newCheckLimits getAccountLimits .externalPaymentVolumeSince AccountLimitsChecker.checkWithdrawal

def checkLimitsFor (senderWallet recipientWallet : WalletDescriptor) :=
  if senderWallet.accountId = recipientWallet.accountId then
    newCheckTradeIntraAccountLimits getAccountLimits
  else newCheckIntraledgerLimits getAccountLimits

end Limits

inductive LimitKind where
  | tradeIntraAccount
  | intraledger
  | withdrawal
  deriving DecidableEq, Repr

namespace LimitKind

def group : LimitKind → TxnGroup
  | .tradeIntraAccount => .tradeIntraAccountTxBaseVolumeSince
  | .intraledger => .intraledgerTxBaseVolumeSince
  | .withdrawal => .externalPaymentVolumeSince

def limit : LimitKind → AccountLimits → LimitCheck
  | .tradeIntraAccount => AccountLimitsChecker.checkTradeIntraAccount
  | .intraledger => AccountLimitsChecker.checkIntraledger
  | .withdrawal => AccountLimitsChecker.checkWithdrawal

def newCheck (kind : LimitKind) (getAccountLimits : AccountLevel → AccountLimits) :=
  newCheckLimits getAccountLimits kind.group kind.limit

end LimitKind

def minSatsForPriceRatioPrecision : BtcPaymentAmount := ⟨5000⟩

def getPriceRatioForLimits (paymentFlow : PaymentFlow) : App PriceRatio :=
  if paymentFlow.btcPaymentAmount.amount < minSatsForPriceRatioPrecision.amount then do
    let usdPaymentAmountForRatio ← usdFromBtcMidPriceFn .checkLimits minSatsForPriceRatioPrecision
    ofResult (PriceRatio.make usdPaymentAmountForRatio minSatsForPriceRatioPrecision)
  else ofResult (PriceRatio.make paymentFlow.usdPaymentAmount paymentFlow.btcPaymentAmount)

def PaymentFlow.priceRatioForLimits (flow : PaymentFlow) (midPriceRatio : PriceRatio) :
    Result PriceRatio :=
  if flow.btcPaymentAmount.amount < minSatsForPriceRatioPrecision.amount then
    PriceRatio.make (midPriceRatio.convertFromBtc minSatsForPriceRatioPrecision)
      minSatsForPriceRatioPrecision
  else PriceRatio.make flow.usdPaymentAmount flow.btcPaymentAmount

end Galoy
