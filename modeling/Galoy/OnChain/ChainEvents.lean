import Galoy.Interleave.Embed
import Galoy.OnChain.SendOnChain

set_option autoImplicit false

namespace Galoy.ChainEvents

open Interleave Interleave.Failing
open OnChain (Wallet fromSats)
open Withdrawal (OnChainPayment)

structure ChainTransaction where
  id : OnChainTxHash
  isOutgoing : Bool
  isConfirmed : Bool
  tokens : Int
  fee : Option Int := none
  outputAddresses : List OnChainAddress := []
  deriving DecidableEq, Repr

structure PaymentRequest where
  run : RunId
  address : OnChainAddress
  amount : ℚ
  answer : Result OnChainTxHash
  deriving DecidableEq

structure OnChainTxNotification where
  accountId : AccountId
  walletId : WalletId
  amount : Int
  currency : WalletCurrency
  displayAmount : Option ℚ
  txHash : OnChainTxHash
  deviceTokens : List String
  language : String
  deriving DecidableEq, Repr

structure World where
  withdrawals : Withdrawal.World
  requests : List PaymentRequest := []

def World.ledger (w : World) : Ledger := w.withdrawals.ledger

def World.setLedger (w : World) (ledger : Ledger) : World :=
  { w with withdrawals := { w.withdrawals with ledger } }

def requested (run : RunId) : (c : Withdrawal.Call) → Withdrawal.Answer c → List PaymentRequest
  | .payToAddress address amount _ _, answer => [⟨run, address, amount, answer⟩]
  | _, _ => []

@[reducible] def paying : Service World Withdrawal.Call Withdrawal.Reply where
  Answer := Withdrawal.Answer
  serve run w c a :=
    (Withdrawal.serve run w.withdrawals c a).map fun served =>
      (served.1, { w with withdrawals := served.2, requests := w.requests ++ requested run c a })

inductive Call where
  | withdrawal (c : Withdrawal.Call)
  | settlePendingOnChainPayment (hash : OnChainTxHash)
  | getWalletIdByTransactionHash (hash : OnChainTxHash)
  | getCurrentPrice
  | findWalletById (walletId : WalletId)
  | findAccountById (accountId : AccountId)
  | findUserById (userId : UserId)
  | onChainTxSent (notification : OnChainTxNotification)
  | clearLastOnChainTransactions
  | listByAddresses (addresses : List OnChainAddress)
  | onChainTxReceivedPending (notification : OnChainTxNotification)

@[reducible] def Reply : Call → Type
  | .withdrawal c => Withdrawal.Reply c
  | .settlePendingOnChainPayment _ => Result Unit
  | .getWalletIdByTransactionHash _ => Result WalletId
  | .getCurrentPrice => Result ℚ
  | .findWalletById _ => Result Wallet
  | .findAccountById _ => Result Galoy.Account
  | .findUserById _ => Result User
  | .onChainTxSent _ | .clearLastOnChainTransactions | .onChainTxReceivedPending _ => Unit
  | .listByAddresses _ => Result (List Wallet)

@[reducible] def Answer : Call → Type
  | .withdrawal c => Withdrawal.Answer c
  | .settlePendingOnChainPayment _ | .getWalletIdByTransactionHash _ => Option String
  | .getCurrentPrice => Result ℚ
  | .findWalletById _ | .listByAddresses _ => Option RepositoryFault
  | .findAccountById _ => Result Galoy.Account
  | .findUserById _ => Result User
  | .onChainTxSent _ | .clearLastOnChainTransactions | .onChainTxReceivedPending _ => Unit

def settlePendingOnChainPayment (run : RunId) (w : World) (hash : OnChainTxHash)
    (fault : Option String) : Result Unit × World :=
  match fault with
  | some message => (.error (unknownLedgerError message), w)
  | none =>
    (if w.ledger.modifiedCount hash > 0 then .ok () else .error
      { name := .NoTransactionToSettleError }, w.setLedger (w.ledger.settlePending run hash))

-- Any leg of the hash on a wallet that is not the bank owner's.
def getWalletIdByTransactionHash (w : World) (hash : OnChainTxHash) : Result WalletId :=
  match w.ledger.legs.find? fun leg => leg.account.mainAccount = .liabilities &&
      leg.account ≠ toLedgerAccountId w.withdrawals.bank.bankOwner && leg.ofHash hash with
  | none => .error { name := .CouldNotFindTransactionError }
  | some leg =>
    match toWalletId leg.account with
    | none =>
      .error { name := .UnknownLedgerError, message := "no wallet id associated to transaction" }
    | some walletId => .ok walletId

def listByAddresses (w : World) (addresses : List OnChainAddress) : Result (List Wallet) :=
  let result := w.withdrawals.wallets.filter fun wallet => wallet.onChainAddresses.any
    (· ∈ addresses)
  if result.length = 0 then .error { name := .CouldNotFindWalletFromOnChainAddressesError }
    else .ok result

def serve (run : RunId) (w : World) : (c : Call) → Answer c → Option (Reply c × World)
  | .withdrawal c, answer => paying.serve run w c answer
  | .settlePendingOnChainPayment hash, fault => some (settlePendingOnChainPayment run w hash fault)
  | .getWalletIdByTransactionHash hash, fault =>
    Stores.readLedger w fault (getWalletIdByTransactionHash w hash)
  | .getCurrentPrice, answer => some (answer, w)
  | .findWalletById walletId, fault => Stores.read w fault (w.withdrawals.findById walletId)
  | .findAccountById _, answer => some (answer, w)
  | .findUserById _, answer => some (answer, w)
  | .onChainTxSent _, _ | .clearLastOnChainTransactions, _ | .onChainTxReceivedPending _, _ =>
    some ((), w)
  | .listByAddresses addresses, fault => Stores.read w fault (listByAddresses w addresses)

@[reducible] def services : Service World Call Reply where
  Answer := Answer
  serve := serve

abbrev App (α : Type) := ExceptT AppError (Prog Call Reply) α

def ask (c : Call) : Prog Call Reply (Reply c) := Prog.request c

-- `if (displayCurrencyPerSat)`: a price of zero is taken as absent.
def displayPaymentAmount (price : Result ℚ) (sats : Int) : Option ℚ :=
  match price with
  | .error _ => none
  | .ok displayCurrencyPerSat =>
    if displayCurrencyPerSat = 0 then none else some (fromSats displayCurrencyPerSat sats)

def notificationOf (tx : ChainTransaction) (sats : Int) (price : Result ℚ) (wallet : Wallet)
    (user : User) : OnChainTxNotification where
  accountId := wallet.accountId
  walletId := wallet.id
  amount := sats
  currency := wallet.currency
  displayAmount := displayPaymentAmount price sats
  txHash := tx.id
  deviceTokens := user.deviceTokens
  language := user.language

def userOf (wallet : Wallet) : App User := do
  let account ← fallible (ask (.findAccountById wallet.accountId))
  fallible (ask (.findUserById account.ownerId))

def outgoingTransactionHandler (tx : ChainTransaction) : App Unit := do
  if !tx.isConfirmed then return ()
  else
    fallible (ask (.settlePendingOnChainPayment tx.id))
    let walletId ← fallible (ask (.getWalletIdByTransactionHash tx.id))
    let price ← total (ask .getCurrentPrice)
    let senderWallet ← fallible (ask (.findWalletById walletId))
    let senderUser ← userOf senderWallet
    total (ask (.onChainTxSent
      (notificationOf tx (tx.tokens - tx.fee.getD 0) price senderWallet senderUser)))

-- The wallets are told independently of each other.
def incomingTransactionHandler (tx : ChainTransaction) : App Unit := do
  total (ask .clearLastOnChainTransactions)
  let wallets ← fallible (ask (.listByAddresses tx.outputAddresses))
  if tx.isConfirmed then return ()
  else
    let price ← total (ask .getCurrentPrice)
    each wallets fun wallet => do
      let _ ← attempt (do
        let recipientUser ← userOf wallet
        total (ask
          (.onChainTxReceivedPending (notificationOf tx tx.tokens price wallet recipientUser))))
      return ()

def onchainTransactionEventHandler (tx : ChainTransaction) : App Unit :=
  if tx.isOutgoing then outgoingTransactionHandler tx else incomingTransactionHandler tx

def withdrawalEmbedding : Embedding Withdrawal.Call Withdrawal.Reply Call Reply where
  call := .withdrawal
  reply _ reply := reply

inductive Job where
  | withdrawal (payment : OnChainPayment)
  | transactionEvent (tx : ChainTransaction)

def Job.prog (config : Withdrawal.Config) : Job → Prog Call Reply Unit
  | .withdrawal payment => do
    let _ ← (Withdrawal.executePaymentViaOnChain config payment).run.embed withdrawalEmbedding
    .pure ()
  | .transactionEvent tx => do
    let _ ← (onchainTransactionEventHandler tx).run
    .pure ()

end Galoy.ChainEvents
