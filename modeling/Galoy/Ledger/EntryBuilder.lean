import Galoy.Ledger.Book

set_option autoImplicit false

namespace Galoy

open AmountCalculator

structure LedgerAccountDescriptor where
  id : LedgerAccountId
  currency : WalletCurrency
  deriving DecidableEq, Repr

def lndLedgerAccountDescriptor : LedgerAccountDescriptor := ⟨.lnd, .btc⟩
def coldStorageAccountDescriptor : LedgerAccountDescriptor := ⟨.coldStorage, .btc⟩

structure StaticAccountIds where
  bankOwnerAccountId : LedgerAccountId
  dealerBtcAccountId : LedgerAccountId
  dealerUsdAccountId : LedgerAccountId
  deriving DecidableEq, Repr

structure AmountWithFees where
  usdWithFees : UsdPaymentAmount
  btcWithFees : BtcPaymentAmount
  deriving DecidableEq, Repr

structure BankFee where
  usdBankFee : UsdPaymentAmount
  btcBankFee : BtcPaymentAmount
  deriving DecidableEq, Repr

def zeroBankFee : BankFee := ⟨zeroCents, zeroSats⟩

/-- Keys that are present override the metadata, also with undefined. -/
structure AdditionalMetadata where
  memoPayer : Option (Option String) := none
  username : Option (Option Username) := none
  deriving DecidableEq, Repr

def TxMetadata.override (metadata : TxMetadata) (additional : AdditionalMetadata) : TxMetadata :=
  { metadata with
    memoPayer := additional.memoPayer.getD metadata.memoPayer
    username := additional.username.getD metadata.username }

def addBtcToUsdConversionToDealer (staticAccountIds : StaticAccountIds) (entry : Entry)
    (metadata : TxMetadata) (btcAmount : BtcPaymentAmount) (usdAmount : UsdPaymentAmount) : Entry :=
  (entry.credit staticAccountIds.dealerBtcAccountId btcAmount.amount .btc metadata).debit
    staticAccountIds.dealerUsdAccountId usdAmount.amount .usd metadata

def addUsdToBtcConversionToEntry (staticAccountIds : StaticAccountIds) (entry : Entry)
    (metadata : TxMetadata) (btcAmount : BtcPaymentAmount) (usdAmount : UsdPaymentAmount) : Entry :=
  (entry.debit staticAccountIds.dealerBtcAccountId btcAmount.amount .btc metadata).credit
    staticAccountIds.dealerUsdAccountId usdAmount.amount .usd metadata

structure EntryBuilder where
  staticAccountIds : StaticAccountIds
  entry : Entry
  metadata : TxMetadata

structure EntryBuilderFee extends EntryBuilder where
  amountWithFees : AmountWithFees

structure EntryBuilderDebit extends EntryBuilderFee where
  bankFee : BankFee

structure EntryBuilderCredit extends EntryBuilderDebit where
  debitCurrency : WalletCurrency

def EntryBuilder.withTotalAmount (builder : EntryBuilder) (amountWithFees : AmountWithFees) :
    EntryBuilderFee :=
  { builder with amountWithFees }

def EntryBuilderFee.withBankFee (builder : EntryBuilderFee) (bankFee : BankFee) :
    EntryBuilderDebit :=
  let entry :=
    if bankFee.btcBankFee.amount > 0 then
      builder.entry.credit builder.staticAccountIds.bankOwnerAccountId
        bankFee.btcBankFee.amount .btc builder.metadata
    else builder.entry
  { builder with entry, bankFee }

def EntryBuilderDebit.debitAccount (builder : EntryBuilderDebit)
    (accountDescriptor : LedgerAccountDescriptor)
    (additionalMetadata : AdditionalMetadata := {}) : EntryBuilderCredit :=
  let debitMetadata := builder.metadata.override additionalMetadata
  let entry :=
    match accountDescriptor.currency with
    | .btc => builder.entry.debit accountDescriptor.id
        builder.amountWithFees.btcWithFees.amount .btc debitMetadata
    | .usd => builder.entry.debit accountDescriptor.id
        builder.amountWithFees.usdWithFees.amount .usd debitMetadata
  { builder with entry, debitCurrency := accountDescriptor.currency }

def EntryBuilderDebit.debitLnd (builder : EntryBuilderDebit) : EntryBuilderCredit :=
  builder.debitAccount lndLedgerAccountDescriptor

def EntryBuilderDebit.debitColdStorage (builder : EntryBuilderDebit) : EntryBuilderCredit :=
  builder.debitAccount coldStorageAccountDescriptor

def EntryBuilderCredit.withConversion (builder : EntryBuilderCredit)
    (creditCurrency : WalletCurrency) : Entry :=
  let usdWithOutFee := sub builder.amountWithFees.usdWithFees builder.bankFee.usdBankFee
  let btcWithOutFee := sub builder.amountWithFees.btcWithFees builder.bankFee.btcBankFee
  match builder.debitCurrency, creditCurrency with
  | .usd, .usd =>
    if builder.bankFee.usdBankFee.amount > 0 then
      addUsdToBtcConversionToEntry builder.staticAccountIds builder.entry builder.metadata
        builder.bankFee.btcBankFee builder.bankFee.usdBankFee
    else builder.entry
  | .usd, .btc =>
    addUsdToBtcConversionToEntry builder.staticAccountIds builder.entry builder.metadata
      builder.amountWithFees.btcWithFees builder.amountWithFees.usdWithFees
  | .btc, .usd =>
    addBtcToUsdConversionToDealer builder.staticAccountIds builder.entry builder.metadata
      btcWithOutFee usdWithOutFee
  | .btc, .btc => builder.entry

def EntryBuilderCredit.creditAccount (builder : EntryBuilderCredit)
    (accountDescriptor : LedgerAccountDescriptor) : Entry :=
  let usdWithOutFee := sub builder.amountWithFees.usdWithFees builder.bankFee.usdBankFee
  let btcWithOutFee := sub builder.amountWithFees.btcWithFees builder.bankFee.btcBankFee
  let entryToReturn := builder.withConversion accountDescriptor.currency
  let credited :=
    match accountDescriptor.currency with
    | .usd => entryToReturn.credit accountDescriptor.id usdWithOutFee.amount .usd builder.metadata
    | .btc => entryToReturn.credit accountDescriptor.id btcWithOutFee.amount .btc builder.metadata
  credited.removeZeroAmountEntries

def EntryBuilderCredit.creditLnd (builder : EntryBuilderCredit) : Entry :=
  builder.creditAccount lndLedgerAccountDescriptor

def EntryBuilderCredit.creditColdStorage (builder : EntryBuilderCredit) : Entry :=
  builder.creditAccount coldStorageAccountDescriptor

structure LegacyEntryBuilder where
  staticAccountIds : StaticAccountIds
  entry : Entry
  metadata : TxMetadata

structure LegacyEntryBuilderDebit extends LegacyEntryBuilder where
  fee : BtcPaymentAmount

structure LegacyEntryBuilderCredit (currency : WalletCurrency) extends LegacyEntryBuilderDebit where
  debitAmount : Amount currency

def addUsdToDealer := addBtcToUsdConversionToDealer

def withdrawUsdFromDealer := addUsdToBtcConversionToEntry

def LegacyEntryBuilder.withFee (builder : LegacyEntryBuilder) (fee : BtcPaymentAmount) :
    LegacyEntryBuilderDebit :=
  let entry :=
    if fee.amount > 0 then
      builder.entry.credit builder.staticAccountIds.bankOwnerAccountId fee.amount .btc
        builder.metadata
    else builder.entry
  { builder with entry, fee }

def LegacyEntryBuilder.withoutFee (builder : LegacyEntryBuilder) : LegacyEntryBuilderDebit :=
  builder.withFee zeroSats

def LegacyEntryBuilderDebit.debitAccount {currency : WalletCurrency}
    (builder : LegacyEntryBuilderDebit) (accountId : LedgerAccountId) (amount : Amount currency)
    (additionalMetadata : AdditionalMetadata := {}) : LegacyEntryBuilderCredit currency :=
  let debitMetadata := builder.metadata.override additionalMetadata
  { builder with
    entry := builder.entry.debit accountId amount.amount currency debitMetadata
    debitAmount := amount }

def LegacyEntryBuilderDebit.debitLnd (builder : LegacyEntryBuilderDebit)
    (amount : BtcPaymentAmount) : LegacyEntryBuilderCredit .btc :=
  { builder with
    entry := builder.entry.debit .lnd amount.amount .btc builder.metadata
    debitAmount := amount }

namespace LegacyEntryBuilderCreditWithUsdDebit

def creditLnd (builder : LegacyEntryBuilderCredit .usd) (btcCreditAmount : BtcPaymentAmount) :
    Entry :=
  let entry := withdrawUsdFromDealer builder.staticAccountIds builder.entry builder.metadata
    btcCreditAmount builder.debitAmount
  let creditAmount := sub btcCreditAmount builder.fee
  (entry.credit .lnd creditAmount.amount .btc builder.metadata).removeZeroAmountEntries

def creditAccount (builder : LegacyEntryBuilderCredit .usd) (accountId : LedgerAccountId)
    (amount : Option BtcPaymentAmount := none) : Entry :=
  match amount with
  | some amount =>
    let entry := withdrawUsdFromDealer builder.staticAccountIds builder.entry builder.metadata
      amount builder.debitAmount
    let creditAmount := sub amount builder.fee
    (entry.credit accountId creditAmount.amount .btc builder.metadata).removeZeroAmountEntries
  | none =>
    (builder.entry.credit accountId builder.debitAmount.amount .usd
      builder.metadata).removeZeroAmountEntries

end LegacyEntryBuilderCreditWithUsdDebit

namespace LegacyEntryBuilderCreditWithBtcDebit

def creditLnd (builder : LegacyEntryBuilderCredit .btc) : Entry :=
  let creditAmount := sub builder.debitAmount builder.fee
  (builder.entry.credit .lnd creditAmount.amount .btc builder.metadata).removeZeroAmountEntries

def creditAccount (builder : LegacyEntryBuilderCredit .btc) (accountId : LedgerAccountId)
    (amount : Option UsdPaymentAmount := none) : Entry :=
  match amount with
  | some amount =>
    let entry := addUsdToDealer builder.staticAccountIds builder.entry builder.metadata
      builder.debitAmount amount
    (entry.credit accountId amount.amount .usd builder.metadata).removeZeroAmountEntries
  | none =>
    let creditAmount := sub builder.debitAmount builder.fee
    (builder.entry.credit accountId creditAmount.amount .btc
      builder.metadata).removeZeroAmountEntries

end LegacyEntryBuilderCreditWithBtcDebit

end Galoy
