import Galoy.OnChain.UpdateOnChainReceipt
import Galoy.Shared.Record

set_option autoImplicit false

namespace Galoy.TxHistory

open OnChain Keyed

structure IncomingTransaction extends IncomingOnChainTransaction where
  createdAt : Nat
  deriving DecidableEq, Repr

/-- Both `undefined` and 0 confirmations are falsy, and an empty list of addresses is not. -/
structure TxFilterArgs where
  confirmationsLessThan : Option Nat := none
  confirmationsGreaterThanOrEqual : Option Nat := none
  addresses : Option (List OnChainAddress) := none
  deriving DecidableEq, Repr

def TxFilterArgs.keeps (args : TxFilterArgs) (tx : IncomingTransaction) : Bool :=
  if args.confirmationsGreaterThanOrEqual.getD 0 ≠ 0 ∧
      tx.confirmations < args.confirmationsGreaterThanOrEqual.getD 0 then false
  else if args.confirmationsLessThan.getD 0 ≠ 0 ∧ args.confirmationsLessThan.getD 0 ≤
    tx.confirmations then false
  else
    match args.addresses with
    | none => true
    | some addresses => tx.rawTx.outs.any fun out => out.address.any fun address =>
      address ∈ addresses

def TxFilterArgs.apply (args : TxFilterArgs) (txs : List IncomingTransaction) :
    List IncomingTransaction :=
  txs.filter args.keeps

namespace IncomingOnChainTxHandler

def addBalance {κ : Type} [DecidableEq κ] (balances : Record κ BtcPaymentAmount) (key : κ)
    (amount : BtcPaymentAmount) : Record κ BtcPaymentAmount :=
  balances.set key (AmountCalculator.add ((balances.get? key).getD zeroSats) amount)

def addOutput (balanceByAddress : Record OnChainAddress BtcPaymentAmount) (out : TxOut) :
    Result (Record OnChainAddress BtcPaymentAmount) :=
  match orUndefined out.address with
  | none => .ok balanceByAddress
  | some address =>
    match paymentAmountFromNumber .btc out.sats with
    | .error error => .error error
    | .ok outAmount => .ok (addBalance balanceByAddress address outAmount)

def balanceFromIncomingTx (tx : IncomingTransaction) :
    Result (Record OnChainAddress BtcPaymentAmount) :=
  tx.rawTx.outs.foldlM addOutput .empty

def addBalances (balancesByAddress : Record OnChainAddress BtcPaymentAmount) :
    Result (Record OnChainAddress BtcPaymentAmount) →
      Result (Record OnChainAddress BtcPaymentAmount)
  | .error error => .error error
  | .ok balances =>
    .ok (balances.entries.foldl (fun sums entry => addBalance sums entry.1 entry.2)
      balancesByAddress)

def balancesByAddresses (txns : List IncomingTransaction) :
    Result (Record OnChainAddress BtcPaymentAmount) :=
  (txns.map balanceFromIncomingTx).foldlM addBalances .empty

def addWallet (balancesByAddress : Record OnChainAddress BtcPaymentAmount)
    (balancesByWallet : Record WalletId BtcPaymentAmount) (wallet : Wallet) :
    Record WalletId BtcPaymentAmount :=
  balancesByAddress.entries.foldl (fun balances entry =>
    if entry.1 ∈ wallet.onChainAddresses then addBalance balances wallet.id entry.2 else balances)
    (balancesByWallet.set wallet.id zeroSats)

def balanceByWallet (txns : List IncomingTransaction) (wallets : List Wallet) :
    Result (Record WalletId BtcPaymentAmount) :=
  match balancesByAddresses txns with
  | .error error => .error error
  | .ok balancesByAddress => .ok (wallets.foldl (addWallet balancesByAddress) .empty)

end IncomingOnChainTxHandler

inductive InitiationVia where
  | intraLedger (counterPartyWalletId : Option WalletId) (counterPartyUsername : Option Username)
  | lightning (paymentHash : Option PaymentHash) (pubkey : Option Pubkey)
  | onChain (address : OnChainAddress)
  deriving DecidableEq, Repr

inductive SettlementVia where
  | intraLedger (counterPartyWalletId : Option WalletId) (counterPartyUsername : Option Username)
  | lightning
  | onChain (transactionHash : Option OnChainTxHash)
  deriving DecidableEq, Repr

inductive TxStatus where
  | pending
  | success
  | failure
  deriving DecidableEq, Repr

/-- A price that could not be had is `NaN`, here `none`. -/
structure WalletTransaction where
  id : String
  walletId : Option WalletId
  settlementAmount : ℚ
  settlementFee : ℚ
  settlementCurrency : WalletCurrency
  displayCurrencyPerSettlementCurrencyUnit : Option ℚ
  status : TxStatus
  memo : Option String
  createdAt : Nat
  initiationVia : InitiationVia
  settlementVia : SettlementVia
  deriving DecidableEq, Repr

structure AddPendingIncomingArgs where
  pendingIncoming : List IncomingTransaction
  addressesByWalletId : Record WalletId (List OnChainAddress)
  walletDetailsByWalletId : Record WalletId WalletCurrency
  displayCurrencyPerSat : Option ℚ
  detailed : ∀ walletId, (addressesByWalletId.get? walletId).isSome →
    (walletDetailsByWalletId.get? walletId).isSome

namespace AddPendingIncomingArgs

variable (args : AddPendingIncomingArgs)

def pendingTransaction (tx : IncomingTransaction) (sats : Nat) (address : OnChainAddress)
    (walletId : WalletId) : WalletTransaction where
  id := tx.rawTx.txHash
  walletId := some walletId
  settlementAmount := sats
  settlementFee := 0
  settlementCurrency := (args.walletDetailsByWalletId.get? walletId).getD .btc
  displayCurrencyPerSettlementCurrencyUnit := args.displayCurrencyPerSat
  status := .pending
  memo := none
  createdAt := tx.createdAt
  initiationVia := .onChain address
  settlementVia := .onChain (some tx.rawTx.txHash)

def pendingOfOutput (tx : IncomingTransaction) (out : TxOut) : List WalletTransaction :=
  match orUndefined out.address with
  | none => []
  | some address =>
    (args.addressesByWalletId.entries.filter fun entry => address ∈ entry.2).map fun entry =>
      args.pendingTransaction tx out.sats address entry.1

def filterPendingIncoming : List WalletTransaction :=
  args.pendingIncoming.flatMap fun tx => tx.rawTx.outs.flatMap (args.pendingOfOutput tx)

end AddPendingIncomingArgs

structure LedgerTransactionDetails extends LedgerTransaction where
  id : String
  fee : ℚ
  usd : ℚ
  feeUsd : ℚ
  lnMemo : Option String
  username : Option Username
  memoFromPayer : Option String
  address : Option OnChainAddress
  txHash : Option OnChainTxHash
  recipientWalletId : Option WalletId
  deriving DecidableEq, Repr

def onboardingEarn : List (String × Nat) :=
  [("walletDownloaded", 1), ("walletActivated", 1), ("whatIsBitcoin", 1), ("sat", 2),
    ("whereBitcoinExist", 5), ("whoControlsBitcoin", 5), ("copyBitcoin", 5),
    ("moneyImportantGovernement", 10), ("moneyIsImportant", 10),
    ("whyStonesShellGold", 10), ("moneyEvolution", 10), ("coincidenceOfWants", 10),
    ("moneySocialAggrement", 10),
    ("WhatIsFiat", 10), ("whyCareAboutFiatMoney", 10), ("GovernementCanPrintMoney", 10),
    ("FiatLosesValueOverTime", 10), ("OtherIssues", 10), ("LimitedSupply", 20),
    ("Decentralized", 20),
    ("NoCounterfeitMoney", 20), ("HighlyDivisible", 20), ("securePartOne", 20),
    ("securePartTwo", 20)]

structure MemoSharing where
  satsThreshold : ℚ
  centsThreshold : ℚ
  deriving DecidableEq, Repr

def isAuthorizedMemo (memo : Option String) : Bool :=
  (orUndefined memo).any fun memo => memo ∈ onboardingEarn.map Prod.fst

def shouldDisplayMemo (sharing : MemoSharing) (memo : Option String) (credit : ℚ)
    (currency : WalletCurrency) : Bool :=
  isAuthorizedMemo memo || credit = 0 ||
    match currency with
    | .btc => sharing.satsThreshold ≤ credit
    | .usd => sharing.centsThreshold ≤ credit

def translateMemo (sharing : MemoSharing) (memoFromPayer lnMemo : Option String) (credit : ℚ)
    (currency : WalletCurrency) : Option String :=
  let memo := (orUndefined memoFromPayer).or lnMemo
  if shouldDisplayMemo sharing memo credit currency then orUndefined memo else none

def displayCurrencyPerBaseUnitFromAmounts (displayAmount settlementAmount : ℚ) : ℚ :=
  if settlementAmount = 0 then 0 else |displayAmount / settlementAmount|

def LedgerTransactionDetails.txType (txn : LedgerTransactionDetails) : LedgerTransactionType :=
  if txn.type = .intraLedger ∧ (orUndefined txn.paymentHash).isSome
    then .lnIntraLedger else txn.type

def defaultOnChainAddress : OnChainAddress := "<no-address>"

def LedgerTransactionDetails.initiationVia (txn : LedgerTransactionDetails) : InitiationVia :=
  match txn.txType with
  | .intraLedger | .walletIdTradeIntraAccount => .intraLedger txn.recipientWalletId txn.username
  | .onchainIntraLedger | .onChainTradeIntraAccount | .onchainPayment | .onchainReceipt =>
    .onChain ((orUndefined txn.address).getD defaultOnChainAddress)
  | .lnIntraLedger | .lnTradeIntraAccount | .payment | .invoice =>
    .lightning txn.paymentHash txn.pubkey
  | _ => .intraLedger txn.recipientWalletId txn.username

def LedgerTransactionDetails.settlementVia (txn : LedgerTransactionDetails) : SettlementVia :=
  match txn.txType with
  | .intraLedger | .walletIdTradeIntraAccount => .intraLedger txn.recipientWalletId txn.username
  | .onchainIntraLedger | .onChainTradeIntraAccount =>
    .intraLedger txn.recipientWalletId (orUndefined txn.username)
  | .onchainPayment | .onchainReceipt => .onChain txn.txHash
  | .lnIntraLedger | .lnTradeIntraAccount =>
    .intraLedger txn.recipientWalletId (orUndefined txn.username)
  | .payment | .invoice => .lightning
  | _ => .intraLedger txn.recipientWalletId (orUndefined txn.username)

def translateLedgerTxnToWalletTxn (sharing : MemoSharing) (txn : LedgerTransactionDetails) :
    WalletTransaction where
  id := txn.id
  walletId := txn.walletId
  settlementAmount := txn.credit - txn.debit
  settlementFee :=
    match txn.currency with
    | .btc => txn.fee
    | .usd => if txn.feeUsd = 0 then 0 else ⌊txn.feeUsd * 100⌋
  settlementCurrency := txn.currency
  displayCurrencyPerSettlementCurrencyUnit :=
    some (displayCurrencyPerBaseUnitFromAmounts txn.usd (txn.credit - txn.debit))
  status := if txn.pendingConfirmation then .pending else .success
  memo := translateMemo sharing txn.memoFromPayer txn.lnMemo txn.credit txn.currency
  createdAt := txn.timestamp
  initiationVia := txn.initiationVia
  settlementVia := txn.settlementVia

def fromLedger (sharing : MemoSharing) (ledgerTransactions : List LedgerTransactionDetails) :
    List WalletTransaction :=
  ledgerTransactions.map (translateLedgerTxnToWalletTxn sharing)

def addPendingIncoming (transactions : List WalletTransaction) (args : AddPendingIncomingArgs) :
    List WalletTransaction :=
  args.filterPendingIncoming ++ transactions

structure Answers where
  ledgerTransactions : Result (List LedgerTransactionDetails)
  onChainTxs : Result (List IncomingTransaction)
  currentPrice : Result ℚ

structure Config where
  onchainMinConfirmations : Nat
  memoSharing : MemoSharing
  deriving DecidableEq, Repr

def byWalletId {β : Type} (value : Wallet → β) (wallets : List Wallet) : Record WalletId β :=
  wallets.foldl (fun record wallet => record.set wallet.id (value wallet)) .empty

theorem byWalletId_snoc {β : Type} (value : Wallet → β) (wallets : List Wallet) (wallet : Wallet) :
    byWalletId value (wallets ++ [wallet]) = (byWalletId value wallets).set wallet.id
      (value wallet) := by
  simp [byWalletId]

theorem byWalletId_get? {β : Type} (value : Wallet → β) (wallets : List Wallet)
    (walletId : WalletId) :
    (byWalletId value wallets).get? walletId =
      (wallets.reverse.find? fun wallet => wallet.id = walletId).map value := by
  induction wallets using List.reverseRecOn with
  | nil => rfl
  | append_singleton wallets wallet ih =>
    rw [byWalletId_snoc, Record.get?_set, ih]
    by_cases same : wallet.id = walletId
    · simp [same]
    · simp [same, Ne.symm same]

def addPendingIncomingArgs (wallets : List Wallet) (pendingIncoming : List IncomingTransaction)
    (currentPrice : Result ℚ) : AddPendingIncomingArgs where
  pendingIncoming
  addressesByWalletId := byWalletId Wallet.onChainAddresses wallets
  walletDetailsByWalletId := byWalletId Wallet.currency wallets
  displayCurrencyPerSat := currentPrice.toOption
  detailed := by
    intro walletId
    simp [byWalletId_get?]

def getTransactionsForWallets (config : Config) (answers : Answers) (wallets : List Wallet) :
    PartialResult (List WalletTransaction) :=
  match answers.ledgerTransactions with
  | .error error => .err error
  | .ok ledgerTransactions =>
    let confirmedHistory := fromLedger config.memoSharing ledgerTransactions
    match answers.onChainTxs with
    | .error error => .partly confirmedHistory error
    | .ok onChainTxs =>
      let filter : TxFilterArgs :=
        { confirmationsLessThan := some config.onchainMinConfirmations
          addresses := some (wallets.flatMap Wallet.onChainAddresses) }
      .ok (addPendingIncoming confirmedHistory
        (addPendingIncomingArgs wallets (filter.apply onChainTxs) answers.currentPrice))

def getTransactionsForWalletsByAddresses (config : Config) (answers : Answers)
    (wallets : List Wallet) (addresses : List OnChainAddress) :
    PartialResult (List WalletTransaction) :=
  match answers.ledgerTransactions with
  | .error error => .err error
  | .ok ledgerTransactionsForWallets =>
    let ledgerTransactions := ledgerTransactionsForWallets.filter fun tx =>
      (orUndefined tx.address).any fun address => address ∈ addresses
    let confirmedHistory := fromLedger config.memoSharing ledgerTransactions
    match answers.onChainTxs with
    | .error error => .partly confirmedHistory error
    | .ok onChainTxs =>
      let allAddresses := wallets.flatMap Wallet.onChainAddresses
      let filter : TxFilterArgs :=
        { confirmationsLessThan := some config.onchainMinConfirmations
          addresses := some (addresses.filter fun address => address ∈ allAddresses) }
      .ok (addPendingIncoming confirmedHistory
        (addPendingIncomingArgs wallets (filter.apply onChainTxs) answers.currentPrice))

def getPendingOnChainBalanceForWallets (config : Config)
    (onChainTxs : Result (List IncomingTransaction)) (wallets : List Wallet) :
    Result (Record WalletId BtcPaymentAmount) := do
  let onChainTxs ← onChainTxs
  let filter : TxFilterArgs :=
    { confirmationsLessThan := some config.onchainMinConfirmations
      addresses := some (wallets.flatMap Wallet.onChainAddresses) }
  IncomingOnChainTxHandler.balanceByWallet (filter.apply onChainTxs) wallets

end Galoy.TxHistory
