import Galoy.Payments.Flow
import Mathlib.Data.Rat.Floor

set_option autoImplicit false

namespace Galoy

open AmountCalculator

structure BankWallets where
  bankOwner : WalletId
  dealerBtc : WalletId
  dealerUsd : WalletId
  funder : WalletId
  deriving DecidableEq, Repr

def exampleBank : BankWallets := ⟨"bankOwner", "dealerBtc", "dealerUsd", "funder"⟩

namespace BankWallets

def staticAccountIds (bank : BankWallets) : StaticAccountIds where
  bankOwnerAccountId := toLedgerAccountId bank.bankOwner
  dealerBtcAccountId := toLedgerAccountId bank.dealerBtc
  dealerUsdAccountId := toLedgerAccountId bank.dealerUsd

def getDealerWalletIds (bank : BankWallets) : List WalletId := [bank.dealerBtc, bank.dealerUsd]

def getNonEndUserWalletIds (bank : BankWallets) : List WalletId :=
  bank.getDealerWalletIds ++ [bank.bankOwner, bank.funder]

end BankWallets

structure DisplayAmounts where
  amountDisplayCurrency : ℚ
  feeDisplayCurrency : ℚ
  displayCurrency : DisplayCurrency

def lnSendLedgerMetadata (paymentHash : PaymentHash) (pubkey : Pubkey) (paymentFlow : PaymentFlow)
    (display : DisplayAmounts) (feeKnownInAdvance : Bool) : TxMetadata where
  type := .payment
  pending := true
  hash := some paymentHash
  pubkey := some pubkey
  feeKnownInAdvance := some feeKnownInAdvance
  fee := some paymentFlow.btcProtocolFee.amount
  feeUsd := some (display.feeDisplayCurrency / 100)
  usd := some ((display.amountDisplayCurrency + display.feeDisplayCurrency) / 100)
  satsFee := some paymentFlow.btcProtocolFee.amount
  displayFee := some display.feeDisplayCurrency
  displayAmount := some display.amountDisplayCurrency
  displayCurrency := some display.displayCurrency
  centsAmount := some paymentFlow.usdPaymentAmount.amount
  satsAmount := some paymentFlow.btcPaymentAmount.amount
  centsFee := some paymentFlow.usdProtocolFee.amount

-- `toFixed(2)`: the nearest multiple of a hundredth, a tie away from zero.
def toFixedTwo (x : ℚ) : ℚ :=
  if x < 0 then -(⌊-x * 100 + 1 / 2⌋ : ℚ) / 100 else (⌊x * 100 + 1 / 2⌋ : ℚ) / 100

def convertCentsToUsdAsDollars (cents : ℚ) : ℚ := toFixedTwo (cents / 100)

def lnReceiveLedgerMetadata (paymentHash : PaymentHash) (fee : BtcPaymentAmount)
    (feeDisplayCurrency amountDisplayCurrency : ℚ) : TxMetadata where
  type := .invoice
  pending := false
  hash := some paymentHash
  fee := some fee.amount
  feeUsd := some (convertCentsToUsdAsDollars feeDisplayCurrency)
  usd := some (convertCentsToUsdAsDollars amountDisplayCurrency)

def lnFeeReimbursementReceiveLedgerMetadata (paymentFlow : PaymentFlow) (paymentHash : PaymentHash)
    (journalId : LedgerJournalId) (display : DisplayAmounts) : TxMetadata where
  type := .lnFeeReimbursement
  pending := false
  hash := some paymentHash
  relatedJournal := some journalId
  usd := some ((display.amountDisplayCurrency + display.feeDisplayCurrency) / 100)
  satsFee := some paymentFlow.btcProtocolFee.amount
  displayFee := some display.feeDisplayCurrency
  displayAmount := some display.amountDisplayCurrency
  displayCurrency := some display.displayCurrency
  centsAmount := some paymentFlow.usdPaymentAmount.amount
  satsAmount := some paymentFlow.btcPaymentAmount.amount
  centsFee := some paymentFlow.usdProtocolFee.amount

def TxMetadata.withFlowAmounts (metadata : TxMetadata) (paymentFlow : PaymentFlow)
    (display : DisplayAmounts) : TxMetadata :=
  { metadata with
    usd := some (display.amountDisplayCurrency / 100)
    satsFee := some paymentFlow.btcProtocolFee.amount
    displayFee := some display.feeDisplayCurrency
    displayAmount := some display.amountDisplayCurrency
    displayCurrency := some display.displayCurrency
    centsAmount := some paymentFlow.usdPaymentAmount.amount
    satsAmount := some paymentFlow.btcPaymentAmount.amount
    centsFee := some paymentFlow.usdProtocolFee.amount }

structure IntraledgerMetadata where
  metadata : TxMetadata
  debitAccountAdditionalMetadata : AdditionalMetadata

def walletIdIntraledgerLedgerMetadata (paymentFlow : PaymentFlow) (display : DisplayAmounts)
    (memoOfPayer : Option String) (senderUsername recipientUsername : Option Username) :
    IntraledgerMetadata where
  metadata :=
    { type := .intraLedger, pending := false, memoPayer := memoOfPayer,
      username := senderUsername : TxMetadata }.withFlowAmounts paymentFlow display
  debitAccountAdditionalMetadata := { username := some recipientUsername }

def lnIntraledgerLedgerMetadata (paymentHash : PaymentHash) (pubkey : Pubkey)
    (paymentFlow : PaymentFlow) (display : DisplayAmounts) (memoOfPayer : Option String)
    (senderUsername recipientUsername : Option Username) : IntraledgerMetadata where
  metadata :=
    { type := .lnIntraLedger, pending := false, username := senderUsername,
      hash := some paymentHash, pubkey := some pubkey : TxMetadata }.withFlowAmounts
        paymentFlow display
  debitAccountAdditionalMetadata :=
    { memoPayer := some memoOfPayer, username := some recipientUsername }

def walletIdTradeIntraAccountLedgerMetadata (paymentFlow : PaymentFlow) (display : DisplayAmounts)
    (memoOfPayer : Option String) : TxMetadata :=
  { type := .walletIdTradeIntraAccount, pending := false,
    memoPayer := memoOfPayer : TxMetadata }.withFlowAmounts paymentFlow display

def lnTradeIntraAccountLedgerMetadata (paymentHash : PaymentHash) (pubkey : Pubkey)
    (paymentFlow : PaymentFlow) (display : DisplayAmounts) (memoOfPayer : Option String) :
    IntraledgerMetadata where
  metadata :=
    { type := .lnTradeIntraAccount, pending := false, hash := some paymentHash,
      pubkey := some pubkey : TxMetadata }.withFlowAmounts paymentFlow display
  debitAccountAdditionalMetadata := { memoPayer := some memoOfPayer }

structure RecordSendArgs where
  description : String
  senderWalletDescriptor : WalletDescriptor
  amountToDebitSender : Amounts
  bankFee : Option Amounts := none
  metadata : TxMetadata
  deriving DecidableEq, Repr

structure RecordReceiveArgs where
  description : String
  recipientWalletDescriptor : WalletDescriptor
  amountToCreditReceiver : Amounts
  bankFee : Option Amounts := none
  metadata : TxMetadata
  deriving DecidableEq, Repr

structure RecordIntraledgerArgs where
  description : String
  senderWalletDescriptor : WalletDescriptor
  recipientWalletDescriptor : WalletDescriptor
  amount : Amounts
  metadata : TxMetadata
  additionalDebitMetadata : AdditionalMetadata := {}
  deriving DecidableEq, Repr

namespace LedgerFacade

def actualFee (bankFee : Option Amounts) : Amounts := bankFee.getD ⟨zeroSats, zeroCents⟩

def recordSend (bank : BankWallets) (args : RecordSendArgs) : Entry :=
  let fee := actualFee args.bankFee
  let builder : EntryBuilder :=
    { staticAccountIds := bank.staticAccountIds
      entry := { description := args.description }
      metadata := args.metadata }
  builder.withTotalAmount ⟨args.amountToDebitSender.usd, args.amountToDebitSender.btc⟩
    |>.withBankFee ⟨fee.usd, fee.btc⟩
    |>.debitAccount (toLedgerAccountDescriptor args.senderWalletDescriptor)
    |>.creditLnd

def recordReceive (bank : BankWallets) (args : RecordReceiveArgs) : Entry :=
  let fee := actualFee args.bankFee
  let builder : EntryBuilder :=
    { staticAccountIds := bank.staticAccountIds
      entry := { description := args.description }
      metadata := args.metadata }
  builder.withTotalAmount
      ⟨add args.amountToCreditReceiver.usd fee.usd, add args.amountToCreditReceiver.btc fee.btc⟩
    |>.withBankFee ⟨fee.usd, fee.btc⟩
    |>.debitLnd
    |>.creditAccount (toLedgerAccountDescriptor args.recipientWalletDescriptor)

def recordIntraledger (bank : BankWallets) (args : RecordIntraledgerArgs) : Entry :=
  let builder : EntryBuilder :=
    { staticAccountIds := bank.staticAccountIds
      entry := { description := args.description }
      metadata := args.metadata }
  builder.withTotalAmount ⟨args.amount.usd, args.amount.btc⟩
    |>.withBankFee zeroBankFee
    |>.debitAccount (toLedgerAccountDescriptor args.senderWalletDescriptor)
        args.additionalDebitMetadata
    |>.creditAccount (toLedgerAccountDescriptor args.recipientWalletDescriptor)

end LedgerFacade

end Galoy
