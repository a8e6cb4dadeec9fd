import Galoy.Interleave.Pool
import Galoy.Shared.Amount
import Mathlib.Algebra.Order.Ring.Rat

set_option autoImplicit false

namespace Galoy

open Interleave

abbrev WalletId := String
abbrev AccountId := String
abbrev UserId := String
abbrev PaymentHash := String
abbrev OnChainTxHash := String
abbrev OnChainAddress := String
abbrev Pubkey := String
abbrev Username := String
abbrev LedgerJournalId := Nat

inductive LedgerAccountId where
  | lnd
  | coldStorage
  | escrow
  | liabilities (walletId : WalletId)
  deriving DecidableEq, Repr

inductive MainAccount where
  | assets
  | liabilities
  deriving DecidableEq, Repr

def LedgerAccountId.mainAccount : LedgerAccountId → MainAccount
  | .lnd | .coldStorage | .escrow => .assets
  | .liabilities _ => .liabilities

def toLedgerAccountId (walletId : WalletId) : LedgerAccountId := .liabilities walletId

-- The path `Liabilities:${walletId}` has to split into exactly two non-empty parts.
def toWalletId : LedgerAccountId → Option WalletId
  | .liabilities walletId =>
    if walletId = "" ∨ ':' ∈ walletId.toList then none else some walletId
  | _ => none

inductive LedgerTransactionType where
  | invoice
  | payment
  | lnFeeReimbursement
  | onchainReceipt
  | onchainPayment
  | intraLedger
  | lnIntraLedger
  | onchainIntraLedger
  | walletIdTradeIntraAccount
  | lnTradeIntraAccount
  | onChainTradeIntraAccount
  | fee
  | toColdStorage
  | toHotWallet
  | escrow
  | routingRevenue
  deriving DecidableEq, Repr

inductive DisplayCurrency where
  | usd
  | btc
  | crc
  deriving DecidableEq, Repr

structure TxMetadata where
  type : LedgerTransactionType
  pending : Bool
  hash : Option PaymentHash := none
  txid : Option OnChainTxHash := none
  pubkey : Option Pubkey := none
  feeKnownInAdvance : Option Bool := none
  relatedJournal : Option LedgerJournalId := none
  payeeAddresses : List OnChainAddress := []
  sendAll : Option Bool := none
  memoPayer : Option String := none
  username : Option Username := none
  feesCollectedOn : Option String := none
  fee : Option ℚ := none
  feeUsd : Option ℚ := none
  usd : Option ℚ := none
  satsAmount : Option Int := none
  centsAmount : Option Int := none
  satsFee : Option Int := none
  centsFee : Option Int := none
  displayAmount : Option ℚ := none
  displayFee : Option ℚ := none
  displayCurrency : Option DisplayCurrency := none
  deriving DecidableEq, Repr

structure Leg where
  account : LedgerAccountId
  debit : ℚ
  credit : ℚ
  currency : WalletCurrency
  metadata : TxMetadata
  deriving DecidableEq, Repr

structure Entry where
  description : String
  transactions : List Leg := []
  deriving DecidableEq, Repr

namespace Entry

def credit (entry : Entry) (account : LedgerAccountId) (amount : ℚ) (currency : WalletCurrency)
    (metadata : TxMetadata) : Entry :=
  { entry with transactions := entry.transactions ++ [⟨account, 0, amount, currency, metadata⟩] }

def debit (entry : Entry) (account : LedgerAccountId) (amount : ℚ) (currency : WalletCurrency)
    (metadata : TxMetadata) : Entry :=
  { entry with transactions := entry.transactions ++ [⟨account, amount, 0, currency, metadata⟩] }

def removeZeroAmountEntries (entry : Entry) : Entry :=
  { entry with
    transactions := entry.transactions.filter fun txn => ¬(txn.debit = 0 ∧ txn.credit = 0) }

end Entry

structure Journal where
  id : LedgerJournalId
  description : String
  legs : List Leg
  timestamp : Nat
  voided : Bool := false
  originalJournal : Option LedgerJournalId := none
  -- The run that wrote the journal: nothing in the code reads it.
  writtenBy : RunId
  deriving DecidableEq, Repr

structure Ledger where
  journals : List Journal := []
  settles : List (RunId × PaymentHash) := []
  deriving DecidableEq, Repr

namespace Leg

def ofHash (leg : Leg) (hash : PaymentHash) : Bool := leg.metadata.hash = some hash

def isPendingFor (leg : Leg) (hash : PaymentHash) : Bool := leg.ofHash hash && leg.metadata.pending

def settle (leg : Leg) : Leg :=
  { leg with metadata := { leg.metadata with pending := false } }

def settleFor (hash : PaymentHash) (leg : Leg) : Leg :=
  if leg.ofHash hash then leg.settle else leg

def reversed (leg : Leg) : Leg := { leg with debit := leg.credit, credit := leg.debit }

def net (leg : Leg) : ℚ := leg.credit - leg.debit

end Leg

namespace Journal

def settleFor (hash : PaymentHash) (journal : Journal) : Journal :=
  { journal with legs := journal.legs.map (Leg.settleFor hash) }

def markVoided (id : LedgerJournalId) (journal : Journal) : Journal :=
  if journal.id = id then { journal with voided := true } else journal

end Journal

namespace Ledger

def legs (ledger : Ledger) : List Leg := ledger.journals.flatMap (·.legs)

def journal? (ledger : Ledger) (id : LedgerJournalId) : Option Journal :=
  ledger.journals.find? (·.id = id)

def commit (ledger : Ledger) (run : RunId) (clock : Nat) (entry : Entry) : Ledger :=
  { ledger with
    journals := ledger.journals ++
      [{ id := ledger.journals.length, description := entry.description,
         legs := entry.transactions, timestamp := clock, writtenBy := run }] }

-- `result.modifiedCount` of the update: the legs whose flag was not already false.
def modifiedCount (ledger : Ledger) (hash : PaymentHash) : Nat :=
  ledger.legs.countP (·.isPendingFor hash)

def settlePending (ledger : Ledger) (run : RunId) (hash : PaymentHash) : Ledger :=
  { journals := ledger.journals.map (Journal.settleFor hash)
    settles :=
      if ledger.modifiedCount hash > 0 then ledger.settles ++ [(run, hash)] else ledger.settles }

-- A journal that is missing or already voided makes medici throw.
def void (ledger : Ledger) (run : RunId) (clock : Nat) (id : LedgerJournalId) (reason : String) :
    Option Ledger :=
  match ledger.journal? id with
  | none => none
  | some original =>
    if original.voided then none
    else
      some { ledger with
        journals := ledger.journals.map (Journal.markVoided id) ++
          [{ id := ledger.journals.length, description := reason,
             legs := original.legs.map Leg.reversed, timestamp := clock,
             originalJournal := some id, writtenBy := run }] }

def balance (ledger : Ledger) (account : LedgerAccountId) : ℚ :=
  ((ledger.legs.filter (·.account = account)).map Leg.net).sum

def mainBalance (ledger : Ledger) (account : MainAccount) (currency : WalletCurrency) : ℚ :=
  ((ledger.legs.filter fun leg => leg.account.mainAccount = account ∧ leg.currency = currency).map
    Leg.net).sum

def isLnTxRecorded (ledger : Ledger) (hash : PaymentHash) : Bool :=
  ledger.legs.any fun leg => leg.ofHash hash && !leg.metadata.pending

end Ledger

structure LedgerTransaction where
  walletId : Option WalletId
  type : LedgerTransactionType
  debit : ℚ
  credit : ℚ
  currency : WalletCurrency
  timestamp : Nat
  pendingConfirmation : Bool
  journalId : LedgerJournalId
  paymentHash : Option PaymentHash
  pubkey : Option Pubkey
  feeKnownInAdvance : Bool
  satsAmount : Option Int
  centsAmount : Option Int
  satsFee : Option Int
  centsFee : Option Int
  displayAmount : Option ℚ
  displayFee : Option ℚ
  deriving DecidableEq, Repr

-- An empty string is falsy.
def orUndefined : Option String → Option String
  | some "" => none
  | s => s

-- The fee fields have the schema default 0, so a stored leg always has them.
def translateToLedgerTx (journal : Journal) (leg : Leg) : LedgerTransaction where
  walletId := toWalletId leg.account
  type := leg.metadata.type
  debit := leg.debit
  credit := leg.credit
  currency := leg.currency
  timestamp := journal.timestamp
  pendingConfirmation := leg.metadata.pending
  journalId := journal.id
  paymentHash := orUndefined leg.metadata.hash
  pubkey := orUndefined leg.metadata.pubkey
  feeKnownInAdvance := leg.metadata.feeKnownInAdvance.getD false
  satsAmount := leg.metadata.satsAmount
  centsAmount := leg.metadata.centsAmount
  satsFee := some (leg.metadata.satsFee.getD 0)
  centsFee := some (leg.metadata.centsFee.getD 0)
  displayAmount := leg.metadata.displayAmount
  displayFee := some (leg.metadata.displayFee.getD 0)

namespace Ledger

-- `MainBook.ledger` sorts the newest first.
def transactions (ledger : Ledger) (query : Leg → Bool) : List LedgerTransaction :=
  ledger.journals.reverse.flatMap fun journal =>
    (journal.legs.filter query).map (translateToLedgerTx journal)

def getTransactionsByHash (ledger : Ledger) (hash : PaymentHash) : List LedgerTransaction :=
  ledger.transactions fun leg => leg.ofHash hash && leg.account.mainAccount = .liabilities

def listPendingPayments (ledger : Ledger) (walletId : WalletId) : List LedgerTransaction :=
  ledger.transactions fun leg =>
    leg.account = toLedgerAccountId walletId && leg.metadata.type = .payment &&
      leg.metadata.pending

end Ledger

end Galoy
