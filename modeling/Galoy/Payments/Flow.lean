import Galoy.Ledger.EntryBuilder

set_option autoImplicit false

namespace Galoy

open AmountCalculator

structure WalletDescriptor where
  id : WalletId
  currency : WalletCurrency
  accountId : AccountId
  deriving DecidableEq, Repr

def isHexDigit (c : Char) : Bool :=
  ('0' ≤ c && c ≤ '9') || ('a' ≤ c && c ≤ 'f') || ('A' ≤ c && c ≤ 'F')

def uuidPattern : List (Char → Bool) :=
  let digits (count : Nat) := List.replicate count isHexDigit
  let dash : List (Char → Bool) := [(· = '-')]
  digits 8 ++ dash ++ digits 4 ++ dash ++ [fun c => '1' ≤ c && c ≤ '5'] ++ digits 3 ++ dash ++
    [fun c => decide (c ∈ ['8', '9', 'a', 'b', 'A', 'B'])] ++ digits 3 ++ dash ++ digits 12

def checkedToWalletId (walletId : WalletId) : Except AppError WalletId :=
  let chars := walletId.toList
  if chars.length = uuidPattern.length ∧ (uuidPattern.zip chars).all (fun test => test.1 test.2)
    then .ok walletId
  else .error { name := .InvalidWalletId, message := walletId }

theorem checkedToWalletId_ofList {letters : List Char} (uuid : letters.length = uuidPattern.length ∧
    (uuidPattern.zip letters).all (fun test => test.1 test.2)) :
    checkedToWalletId (String.ofList letters) = .ok (String.ofList letters) := by
  rw [checkedToWalletId, String.toList_ofList]
  exact if_pos uuid

def toLedgerAccountDescriptor (wallet : WalletDescriptor) : LedgerAccountDescriptor :=
  ⟨toLedgerAccountId wallet.id, wallet.currency⟩

inductive SettlementMethod where
  | intraLedger
  | onChain
  | lightning
  deriving DecidableEq, Repr

inductive PaymentInitiationMethod where
  | intraLedger
  | onChain
  | lightning
  deriving DecidableEq, Repr

/-- Exactly one of `paymentHash` and `intraLedgerHash` is a property of a flow. -/
inductive FlowHash where
  | paymentHash (hash : PaymentHash)
  | intraLedgerHash (hash : String)
  deriving DecidableEq, Repr

structure RawRoute where
  totalMtokens : Int
  fee : ℚ := 0
  hops : List Pubkey := []
  deriving DecidableEq, Repr

structure Amounts where
  btc : BtcPaymentAmount
  usd : UsdPaymentAmount
  deriving DecidableEq, Repr

structure PaymentFlow where
  hash : FlowHash
  senderWalletId : WalletId
  senderWalletCurrency : WalletCurrency
  senderAccountId : AccountId
  settlementMethod : SettlementMethod
  paymentInitiationMethod : PaymentInitiationMethod
  descriptionFromInvoice : String
  skipProbeForDestination : Option Bool := some false
  createdAt : Nat := 0
  paymentSentAndPending : Bool := false
  btcPaymentAmount : BtcPaymentAmount
  usdPaymentAmount : UsdPaymentAmount
  inputAmount : Int
  btcProtocolFee : BtcPaymentAmount
  usdProtocolFee : UsdPaymentAmount
  recipientWalletId : Option WalletId := none
  recipientWalletCurrency : Option WalletCurrency := none
  recipientAccountId : Option AccountId := none
  recipientPubkey : Option Pubkey := none
  recipientUsername : Option Username := none
  outgoingNodePubkey : Option Pubkey := none
  cachedRoute : Option RawRoute := none
  deriving DecidableEq, Repr

def RawRoute.validate (rawRoute : RawRoute) (btcPaymentAmount : BtcPaymentAmount) : Bool :=
  btcPaymentAmount.amount = rawRoute.totalMtokens / 1000

namespace PaymentFlow

def protocolFeeInSenderWalletCurrency (flow : PaymentFlow) : Int :=
  match flow.senderWalletCurrency with
  | .btc => flow.btcProtocolFee.amount
  | .usd => flow.usdProtocolFee.amount

def amountInSenderCurrency (flow : PaymentFlow) : Int :=
  match flow.senderWalletCurrency with
  | .btc => flow.btcPaymentAmount.amount
  | .usd => flow.usdPaymentAmount.amount

def paymentAmounts (flow : PaymentFlow) : Amounts := ⟨flow.btcPaymentAmount, flow.usdPaymentAmount⟩

def totalAmountsForPayment (flow : PaymentFlow) : Amounts where
  btc := add flow.btcPaymentAmount flow.btcProtocolFee
  usd := add flow.usdPaymentAmount flow.usdProtocolFee

structure RouteDetails where
  rawRoute : Option RawRoute
  outgoingNodePubkey : Option Pubkey

def routeDetails (flow : PaymentFlow) : RouteDetails :=
  let rawRoute := flow.cachedRoute.filter (·.validate flow.btcPaymentAmount)
  { rawRoute, outgoingNodePubkey := if rawRoute.isSome then flow.outgoingNodePubkey else none }

def senderWalletDescriptor (flow : PaymentFlow) : WalletDescriptor :=
  ⟨flow.senderWalletId, flow.senderWalletCurrency, flow.senderAccountId⟩

def recipientWalletDescriptor (flow : PaymentFlow) : Option WalletDescriptor :=
  match orUndefined flow.recipientWalletId, flow.recipientWalletCurrency,
    orUndefined flow.recipientAccountId with
  | some id, some currency, some accountId => some ⟨id, currency, accountId⟩
  | _, _, _ => none

def totalSendAmount (flow : PaymentFlow) (currency : WalletCurrency) : Int :=
  match currency with
  | .btc => (add flow.btcPaymentAmount flow.btcProtocolFee).amount
  | .usd => (add flow.usdPaymentAmount flow.usdProtocolFee).amount

def checkBalanceForSend (flow : PaymentFlow) {currency : WalletCurrency}
    (balanceAmount : Amount currency) : Except AppError Unit :=
  if flow.senderWalletCurrency ≠ currency then
    .error { name := .InvalidCurrencyForWalletError }
  else if balanceAmount.amount < flow.totalSendAmount currency then
    let unitForMsg := match flow.senderWalletCurrency with | .btc => "sats" | .usd => "cents"
    .error
      { name := .InsufficientBalanceError
        message := "Payment amount '" ++ toString (flow.totalSendAmount currency) ++ "' " ++
          unitForMsg ++ " exceeds balance '" ++ toString balanceAmount.amount ++ "'" }
  else .ok ()

def paymentHashForFlow (flow : PaymentFlow) : Except AppError PaymentHash :=
  match flow.hash with
  | .paymentHash hash =>
    if hash = "" then .error { name := .InvalidLightningPaymentFlowBuilderStateError } else .ok hash
  | .intraLedgerHash hash =>
    if hash = "" then .error { name := .InvalidLightningPaymentFlowBuilderStateError }
    else .error { name := .IntraLedgerHashPresentInLnFlowError }

end PaymentFlow

def getReimbursement (prepaidFeeAmount : Amounts) (priceRatio : PriceRatio)
    (actualFee : BtcPaymentAmount) : Except AppError Amounts :=
  let feeDifferenceBtc := prepaidFeeAmount.btc.amount - actualFee.amount
  if feeDifferenceBtc < 0 then .error { name := .FeeDifferenceError }
  else
    .ok
      { btc := ⟨feeDifferenceBtc⟩
        usd :=
          if actualFee.amount = 0 then priceRatio.convertFromBtc ⟨feeDifferenceBtc⟩
          else priceRatio.convertFromBtcToFloor ⟨feeDifferenceBtc⟩ }

def inputAmountFromLedgerTransaction (txn : LedgerTransaction) : Except AppError Int :=
  let fee := match txn.currency with | .usd => txn.centsFee | .btc => txn.satsFee
  match fee with
  | none => .error { name := .InvalidLedgerTransactionStateError }
  | some fee => safeBigInt (txn.debit - fee)

def paymentFlowFromLedgerTransaction (ledgerTxn : LedgerTransaction) (senderAccountId : AccountId) :
    Except AppError PaymentFlow :=
  if ledgerTxn.type ≠ .payment then
    .error { name := .NonLnPaymentTransactionForPaymentFlowError }
  else
    match ledgerTxn.walletId, ledgerTxn.paymentHash, ledgerTxn.satsAmount, ledgerTxn.centsAmount,
      ledgerTxn.satsFee, ledgerTxn.centsFee with
    | some senderWalletId, some paymentHash, some satsAmount, some centsAmount, some satsFee,
        some centsFee =>
      .ok
        { hash := .paymentHash paymentHash
          senderWalletId
          senderWalletCurrency := ledgerTxn.currency
          senderAccountId
          settlementMethod := .lightning
          paymentInitiationMethod := .lightning
          descriptionFromInvoice := ""
          createdAt := ledgerTxn.timestamp
          paymentSentAndPending := true
          btcPaymentAmount := ⟨satsAmount⟩
          usdPaymentAmount := ⟨centsAmount⟩
          inputAmount := match ledgerTxn.currency with | .usd => centsAmount | .btc => satsAmount
          btcProtocolFee := ⟨satsFee⟩
          usdProtocolFee := ⟨centsFee⟩ }
    | _, _, _, _, _, _ => .error { name := .MissingPropsInTransactionForPaymentFlowError }

end Galoy
