import Galoy.Ledger.Facade

set_option autoImplicit false

namespace Galoy

structure ReceiptArgs where
  metadata : TxMetadata
  walletId : WalletId
  walletCurrency : WalletCurrency
  sats : ℚ
  cents : Option ℚ := none
  fee : ℚ := 0
  description : String

def legacyEntryBuilder (bank : BankWallets) (description : String) (metadata : TxMetadata) :
    LegacyEntryBuilder where
  staticAccountIds := bank.staticAccountIds
  entry := { description }
  metadata := metadata

namespace LedgerService

def addReceiptNoFee (bank : BankWallets) (args : ReceiptArgs) : Except AppError Entry := do
  let accountId := toLedgerAccountId args.walletId
  let satsAmount ← paymentAmountFromNumber .btc args.sats
  let builder :=
    (legacyEntryBuilder bank args.description args.metadata).withoutFee.debitLnd satsAmount
  match args.walletCurrency with
  | .btc => return LegacyEntryBuilderCreditWithBtcDebit.creditAccount builder accountId
  | .usd =>
    match args.cents with
    | none => throw { name := .NotReachableError, message := "cents should be defined here" }
    | some cents =>
      let centsAmount ← paymentAmountFromNumber .usd cents
      return LegacyEntryBuilderCreditWithBtcDebit.creditAccount builder accountId (some centsAmount)

def addReceiptFee (bank : BankWallets) (args : ReceiptArgs) : Except AppError Entry := do
  let accountId := toLedgerAccountId args.walletId
  if args.walletCurrency ≠ .btc then
    throw { name := .NotImplementedError, message := "USD Intraledger" }
  let feeSatsAmount ← paymentAmountFromNumber .btc args.fee
  let satsAmount ← paymentAmountFromNumber .btc args.sats
  let builder :=
    ((legacyEntryBuilder bank args.description args.metadata).withFee feeSatsAmount).debitLnd
      satsAmount
  return LegacyEntryBuilderCreditWithBtcDebit.creditAccount builder accountId

def addReceipt (bank : BankWallets) (args : ReceiptArgs) : Except AppError Entry :=
  if args.fee > 0 then addReceiptFee bank args else addReceiptNoFee bank args

structure AddOnChainTxReceiveArgs where
  walletId : WalletId
  walletCurrency : WalletCurrency
  txHash : OnChainTxHash
  sats : ℚ
  fee : ℚ
  feeDisplayCurrency : ℚ
  amountDisplayCurrency : ℚ
  receivingAddress : OnChainAddress

def addOnChainTxReceive (bank : BankWallets) (args : AddOnChainTxReceiveArgs) :
    Except AppError Entry :=
  addReceipt bank
    { metadata :=
        { type := .onchainReceipt, pending := false, hash := some args.txHash, fee := some args.fee,
          feeUsd := some args.feeDisplayCurrency, usd := some args.amountDisplayCurrency,
          payeeAddresses := [args.receivingAddress] }
      walletId := args.walletId
      walletCurrency := args.walletCurrency
      sats := args.sats
      fee := args.fee
      description := "" }

structure AddLnTxReceiveArgs where
  walletId : WalletId
  walletCurrency : WalletCurrency
  paymentHash : PaymentHash
  description : String
  sats : ℚ
  feeInboundLiquidityDisplayCurrency : ℚ
  amountDisplayCurrency : ℚ
  feeInboundLiquidity : ℚ
  cents : Option ℚ

def addLnTxReceive (bank : BankWallets) (args : AddLnTxReceiveArgs) : Except AppError Entry :=
  addReceipt bank
    { metadata :=
        { type := .invoice, pending := false, hash := some args.paymentHash,
          fee := some args.feeInboundLiquidity,
          feeUsd := some args.feeInboundLiquidityDisplayCurrency,
          usd := some args.amountDisplayCurrency }
      walletId := args.walletId
      walletCurrency := args.walletCurrency
      sats := args.sats
      cents := args.cents
      fee := args.feeInboundLiquidity
      description := args.description }

structure AddLnFeeReimbursementReceiveArgs where
  walletId : WalletId
  walletCurrency : WalletCurrency
  paymentHash : PaymentHash
  journalId : LedgerJournalId
  sats : ℚ
  cents : Option ℚ
  paymentFlow : PaymentFlow
  display : DisplayAmounts

def addLnFeeReimbursementReceive (bank : BankWallets) (args : AddLnFeeReimbursementReceiveArgs) :
    Except AppError Entry :=
  addReceiptNoFee bank
    { metadata :=
        lnFeeReimbursementReceiveLedgerMetadata args.paymentFlow args.paymentHash args.journalId
          args.display
      walletId := args.walletId
      walletCurrency := args.walletCurrency
      sats := args.sats
      cents := args.cents
      description := "fee reimbursement" }

structure SendArgs where
  metadata : TxMetadata
  walletId : WalletId
  walletCurrency : WalletCurrency
  sats : ℚ
  cents : Option ℚ := none
  fee : ℚ := 0
  description : String

def addSendNoInternalFee (bank : BankWallets) (args : SendArgs) : Except AppError Entry := do
  let accountId := toLedgerAccountId args.walletId
  let builder := (legacyEntryBuilder bank args.description args.metadata).withoutFee
  let satsAmount ← paymentAmountFromNumber .btc args.sats
  match args.walletCurrency with
  | .btc =>
    return LegacyEntryBuilderCreditWithBtcDebit.creditLnd
      (builder.debitAccount accountId satsAmount)
  | .usd =>
    -- `!cents` is also true of the amount 0.
    match args.cents.filter (· ≠ 0) with
    | none => throw { name := .UnknownLedgerError, message := "Cents are required" }
    | some cents =>
      let centsAmount ← paymentAmountFromNumber .usd cents
      return LegacyEntryBuilderCreditWithUsdDebit.creditLnd
        (builder.debitAccount accountId centsAmount) satsAmount

def addSendInternalFee (bank : BankWallets) (args : SendArgs) : Except AppError Entry := do
  if args.walletCurrency ≠ .btc then
    throw { name := .NotImplementedError, message := "USD Intraledger" }
  let accountId := toLedgerAccountId args.walletId
  let feeSatsAmount ← paymentAmountFromNumber .btc args.fee
  let satsAmount ← paymentAmountFromNumber .btc args.sats
  let builder := (legacyEntryBuilder bank args.description args.metadata).withFee feeSatsAmount
  return LegacyEntryBuilderCreditWithBtcDebit.creditLnd (builder.debitAccount accountId satsAmount)

structure AddOnChainTxSendArgs where
  walletId : WalletId
  walletCurrency : WalletCurrency
  txHash : OnChainTxHash
  payeeAddress : OnChainAddress
  description : String
  sats : ℚ
  bankFee : ℚ
  amountDisplayCurrency : ℚ
  totalFee : ℚ
  totalFeeDisplayCurrency : ℚ
  sendAll : Bool

def addOnChainTxSend (bank : BankWallets) (args : AddOnChainTxSendArgs) : Except AppError Entry :=
  let send : SendArgs :=
    { metadata :=
        { type := .onchainPayment, pending := true, hash := some args.txHash,
          payeeAddresses := [args.payeeAddress], fee := some args.totalFee,
          feeUsd := some args.totalFeeDisplayCurrency, usd := some args.amountDisplayCurrency,
          sendAll := some args.sendAll }
      walletId := args.walletId
      walletCurrency := args.walletCurrency
      sats := args.sats
      fee := args.bankFee
      description := args.description }
  if args.bankFee > 0 then addSendInternalFee bank send else addSendNoInternalFee bank send

structure IntraledgerTransferArgs where
  senderWalletId : WalletId
  senderWalletCurrency : WalletCurrency
  senderUsername : Option Username
  description : String
  sats : Option ℚ
  cents : Option ℚ
  recipientWalletId : WalletId
  recipientWalletCurrency : WalletCurrency
  recipientUsername : Option Username
  memoPayer : Option String

def centsAndSats (cents sats : Option ℚ) :
    Except AppError (UsdPaymentAmount × BtcPaymentAmount) :=
  match cents, sats with
  | some cents, some sats => do
    let centsAmount ← paymentAmountFromNumber .usd cents
    let satsAmount ← paymentAmountFromNumber .btc sats
    return (centsAmount, satsAmount)
  | _, _ => throw { name := .Error, message := "cents or sats undefined implementation error" }

def addIntraledgerTxTransfer (bank : BankWallets) (args : IntraledgerTransferArgs)
    (shareMemoWithPayee : Bool) (metadata : TxMetadata) : Except AppError Entry := do
  let senderAccountId := toLedgerAccountId args.senderWalletId
  let recipientAccountId := toLedgerAccountId args.recipientWalletId
  let sharedMetadata :=
    { metadata with
      username := args.senderUsername
      memoPayer := if shareMemoWithPayee then args.memoPayer else none }
  let builder := (legacyEntryBuilder bank args.description sharedMetadata).withoutFee
  let additionalMetadata : AdditionalMetadata :=
    { memoPayer := some args.memoPayer, username := some args.recipientUsername }
  match args.senderWalletCurrency, args.recipientWalletCurrency with
  | .btc, .btc =>
    match args.sats with
    | none => throw { name := .NotReachableError, message := "sats undefined implementation error" }
    | some sats =>
      let satsAmount ← paymentAmountFromNumber .btc sats
      return LegacyEntryBuilderCreditWithBtcDebit.creditAccount
        (builder.debitAccount senderAccountId satsAmount additionalMetadata) recipientAccountId
  | .usd, .usd =>
    match args.cents with
    | none => throw { name := .Error, message := "cents undefined implementation error" }
    | some cents =>
      let centsAmount ← paymentAmountFromNumber .usd cents
      return LegacyEntryBuilderCreditWithUsdDebit.creditAccount
        (builder.debitAccount senderAccountId centsAmount additionalMetadata) recipientAccountId
  | .usd, .btc =>
    let (centsAmount, satsAmount) ← centsAndSats args.cents args.sats
    return LegacyEntryBuilderCreditWithUsdDebit.creditAccount
      (builder.debitAccount senderAccountId centsAmount additionalMetadata) recipientAccountId
      (some satsAmount)
  | .btc, .usd =>
    let (centsAmount, satsAmount) ← centsAndSats args.cents args.sats
    return LegacyEntryBuilderCreditWithBtcDebit.creditAccount
      (builder.debitAccount senderAccountId satsAmount additionalMetadata) recipientAccountId
      (some centsAmount)

-- The on-chain and the wallet transfer have no `cents` argument.
def addOnChainIntraledgerTxTransfer (bank : BankWallets) (args : IntraledgerTransferArgs)
    (amountDisplayCurrency : ℚ) (payeeAddresses : List OnChainAddress) (sendAll : Bool) :
    Except AppError Entry :=
  addIntraledgerTxTransfer bank { args with cents := none } false
    { type := .onchainIntraLedger, pending := false, usd := some amountDisplayCurrency,
      payeeAddresses, sendAll := some sendAll }

def addWalletIdIntraledgerTxTransfer (bank : BankWallets) (args : IntraledgerTransferArgs)
    (amountDisplayCurrency : ℚ) : Except AppError Entry :=
  addIntraledgerTxTransfer bank { args with cents := none } true
    { type := .intraLedger, pending := false, usd := some amountDisplayCurrency }

def addLnIntraledgerTxTransfer (bank : BankWallets) (args : IntraledgerTransferArgs)
    (paymentHash : PaymentHash) (pubkey : Pubkey) (amountDisplayCurrency : ℚ) :
    Except AppError Entry :=
  addIntraledgerTxTransfer bank args false
    { type := .intraLedger, pending := false, hash := some paymentHash,
      usd := some amountDisplayCurrency, pubkey := some pubkey }

end LedgerService

namespace LedgerAdmin

structure ColdStorageArgs where
  txHash : OnChainTxHash
  payeeAddress : OnChainAddress
  description : String
  sats : ℚ
  fee : ℚ
  feeDisplayCurrency : ℚ
  amountDisplayCurrency : ℚ

def ColdStorageArgs.metadata (args : ColdStorageArgs) (type : LedgerTransactionType) :
    TxMetadata where
  type := type
  pending := false
  hash := some args.txHash
  payeeAddresses := [args.payeeAddress]
  fee := some args.fee
  feeUsd := some args.feeDisplayCurrency
  usd := some args.amountDisplayCurrency

def addColdStorageTxReceive (bank : BankWallets) (args : ColdStorageArgs) : Entry :=
  let metadata := args.metadata .toColdStorage
  (((({ description := args.description } : Entry).credit .lnd (args.sats + args.fee) .btc
    metadata).debit (toLedgerAccountId bank.bankOwner) args.fee .btc metadata).debit .coldStorage
      args.sats .btc metadata)

def addColdStorageTxSend (bank : BankWallets) (args : ColdStorageArgs) : Entry :=
  let metadata := args.metadata .toHotWallet
  (((({ description := args.description } : Entry).credit .coldStorage (args.sats + args.fee) .btc
    metadata).debit (toLedgerAccountId bank.bankOwner) args.fee .btc metadata).debit .lnd
      args.sats .btc metadata)

structure SwapResult where
  id : String
  onchainMinerFee : ℚ
  offchainRoutingFee : ℚ
  serviceProviderFee : ℚ

def addSwapFeeTxSend (bank : BankWallets) (swapResult : SwapResult) (found : Except AppError Unit) :
    Except AppError Entry :=
  match found with
  | .error { name := .CouldNotFindTransactionMetadataError, .. } =>
    let totalSwapFee :=
      swapResult.offchainRoutingFee + swapResult.onchainMinerFee + swapResult.serviceProviderFee
    let metadata : TxMetadata := { type := .fee, pending := false }
    let entry : Entry := { description := "Swap out fee for swapId " ++ swapResult.id }
    .ok ((entry.credit .lnd totalSwapFee .btc metadata).debit (toLedgerAccountId bank.bankOwner)
      totalSwapFee .btc metadata)
  | _ => .error { name := .DuplicateError }

def addLndChannelOpeningOrClosingFee (bank : BankWallets) (description : String) (fee : ℚ)
    (txid : OnChainTxHash) : Entry :=
  let metadata : TxMetadata := { type := .fee, pending := false, txid := some txid }
  (({ description } : Entry).debit (toLedgerAccountId bank.bankOwner) fee .btc metadata).credit .lnd
    fee .btc metadata

def addLndRoutingRevenue (bank : BankWallets) (amount : ℚ) (collectedOn : String) : Entry :=
  let metadata : TxMetadata :=
    { type := .routingRevenue, pending := false, feesCollectedOn := some collectedOn }
  (({ description := "routing fee" } : Entry).credit (toLedgerAccountId bank.bankOwner) amount .btc
    metadata).debit .lnd amount .btc metadata

def updateLndEscrow (ledgerEscrow amount : ℚ) : Option Entry :=
  let diff := amount + ledgerEscrow
  let metadata : TxMetadata := { type := .escrow, pending := false }
  let entry : Entry := { description := "escrow" }
  if diff = 0 then none
  else if diff > 0 then
    some ((entry.credit .lnd diff .btc metadata).debit .escrow diff .btc metadata)
  else
    some ((entry.debit .lnd (-diff) .btc metadata).credit .escrow (-diff) .btc metadata)

end LedgerAdmin

end Galoy
