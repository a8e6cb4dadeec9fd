import Galoy.App.World
import Galoy.Interleave.Failing
import Galoy.Ledger.Services
import Galoy.Shared.Number

set_option autoImplicit false

namespace Galoy.OnChain

open Interleave Failing

structure TxOut where
  sats : Nat
  address : Option OnChainAddress
  deriving DecidableEq, Repr

structure OnChainTransaction where
  txHash : OnChainTxHash
  outs : List TxOut
  deriving DecidableEq, Repr

structure IncomingOnChainTransaction where
  confirmations : Nat
  rawTx : OnChainTransaction
  fee : Nat
  deriving DecidableEq, Repr

def uniqueAddressesForTxn (rawTx : OnChainTransaction) : List OnChainAddress :=
  rawTx.outs.foldl (fun addresses out =>
    match out.address with
    | some address => if address ∈ addresses then addresses else addresses ++ [address]
    | none => addresses) []

structure Wallet where
  id : WalletId
  accountId : AccountId
  currency : WalletCurrency
  onChainAddresses : List OnChainAddress
  deriving DecidableEq, Repr

structure Account where
  id : AccountId
  ownerId : UserId
  depositFeeRatio : ℚ
  deriving DecidableEq, Repr

-- `Math.round` rounds a half up; the product of two numbers is rounded before.
def onChainDepositFee (amount : Nat) (ratio : ℚ) : Int :=
  ⌊nearestNumber (amount * nearestNumber ratio) + 1 / 2⌋

theorem onChainDepositFee_zero (ratio : ℚ) : onChainDepositFee 0 ratio = 0 := by
  norm_num [onChainDepositFee]

-- 0.7 is not a number, and 45 times the number next to it is below 31.5.
example : onChainDepositFee 45 (7 / 10) = 31 := by decide +kernel

def fromSats (displayCurrencyPerSat amount : ℚ) : ℚ :=
  nearestNumber (amount * displayCurrencyPerSat)

structure World where
  bank : BankWallets
  ledger : Ledger
  locks : OnChainTxHash → Option RunId
  wallets : List Wallet
  accounts : AccountId → Option Account
  users : UserId → Option User
  clock : Nat

structure OnChainTxReceived where
  recipientAccountId : AccountId
  recipientWalletId : WalletId
  amount : Nat
  currency : WalletCurrency
  displayAmount : ℚ
  txHash : OnChainTxHash
  recipientDeviceTokens : List String
  recipientLanguage : String
  deriving DecidableEq, Repr

inductive Site where
  | depositFee
  | recipient
  deriving DecidableEq, Repr

inductive Call where
  | onChainService
  | listIncomingTransactions (scanDepth : Nat)
  | listByAddresses (addresses : List OnChainAddress)
  | getCurrentPrice
  | acquire (txHash : OnChainTxHash)
  | release (txHash : OnChainTxHash)
  | isOnChainTxRecorded (walletId : WalletId) (txHash : OnChainTxHash)
  | findAccountById (site : Site) (accountId : AccountId)
  | findUserById (userId : UserId)
  | addOnChainTxReceive (args : LedgerService.AddOnChainTxReceiveArgs)
  | onChainTxReceived (notification : OnChainTxReceived)
  | coldStorageService
  | isWithdrawalTransaction (txHash : OnChainTxHash)
  | isToHotWalletTxRecorded (txHash : OnChainTxHash)
  | isDerivedAddress (address : OnChainAddress)
  | lookupTransactionFee (txHash : OnChainTxHash)
  | addColdStorageTxSend (args : LedgerAdmin.ColdStorageArgs)

@[reducible] def Reply : Call → Type
  | .onChainService | .coldStorageService => Result Unit
  | .listIncomingTransactions _ => Result (List IncomingOnChainTransaction)
  | .listByAddresses _ => Result (List Wallet)
  | .getCurrentPrice => Result ℚ
  | .acquire _ | .release _ => Result Unit
  | .isOnChainTxRecorded _ _ | .isToHotWalletTxRecorded _ => Result Bool
  | .isWithdrawalTransaction _ | .isDerivedAddress _ => Result Bool
  | .findAccountById _ _ => Result Account
  | .findUserById _ => Result User
  | .addOnChainTxReceive _ | .addColdStorageTxSend _ => Result LedgerJournalId
  | .onChainTxReceived _ => Unit
  | .lookupTransactionFee _ => Result Nat

@[reducible] def Answer : Call → Type
  | .onChainService | .coldStorageService => Result Unit
  | .listIncomingTransactions _ => Result (List IncomingOnChainTransaction)
  | .getCurrentPrice => Result ℚ
  | .acquire _ | .release _ => LockAnswer
  | .isWithdrawalTransaction _ | .isDerivedAddress _ => Result Bool
  | .lookupTransactionFee _ => Result Nat
  | .listByAddresses _ | .findAccountById _ _ | .findUserById _ => Option RepositoryFault
  | .isOnChainTxRecorded _ _ | .isToHotWalletTxRecorded _ => Option String
  | .addOnChainTxReceive _ | .addColdStorageTxSend _ => TimedAnswer
  | .onChainTxReceived _ => Unit

def isReceiptOf (txHash : OnChainTxHash) (leg : Leg) : Bool :=
  leg.metadata.type = .onchainReceipt ∧ leg.metadata.hash = some txHash

namespace World

def acquire (w : World) (run : RunId) (txHash : OnChainTxHash) (answer : LockAnswer) :
    Option (Result Unit × World) :=
  Stores.acquire w w.locks (fun locks => { w with locks }) run txHash answer

def release (w : World) (run : RunId) (txHash : OnChainTxHash) (answer : LockAnswer) :
    Option (Result Unit × World) :=
  Stores.release w.locks (fun locks => { w with locks }) run txHash answer

def listByAddresses (w : World) (addresses : List OnChainAddress) : Result (List Wallet) :=
  let wallets := w.wallets.filter fun wallet => wallet.onChainAddresses.any (· ∈ addresses)
  if wallets.isEmpty then .error { name := .CouldNotFindWalletFromOnChainAddressesError }
  else .ok wallets

def isOnChainTxRecorded (w : World) (walletId : WalletId) (txHash : OnChainTxHash) : Bool :=
  w.ledger.legs.any fun leg => leg.account = toLedgerAccountId walletId && isReceiptOf txHash leg

def isToHotWalletTxRecorded (w : World) (txHash : OnChainTxHash) : Bool :=
  w.ledger.legs.any fun leg =>
    leg.metadata.type = .toHotWallet && leg.metadata.hash = some txHash

def commit (w : World) (run : RunId) (entry : Entry) (answer : TimedAnswer) :
    Option (Result LedgerJournalId × World) :=
  match answer.fault with
  | some message => some (.error (unknownLedgerError message), w)
  | none =>
    let now := w.clock + answer.elapsed
    some (.ok w.ledger.journals.length,
      { w with clock := now, ledger := w.ledger.commit run now entry })

def addOnChainTxReceive (w : World) (run : RunId) (args : LedgerService.AddOnChainTxReceiveArgs)
    (answer : TimedAnswer) : Option (Result LedgerJournalId × World) :=
  match LedgerService.addOnChainTxReceive w.bank args with
  | .error error => some (.error error, w)
  | .ok entry => w.commit run entry answer

end World

def serve (run : RunId) (w : World) : (c : Call) → Answer c → Option (Reply c × World)
  | .onChainService, answer | .coldStorageService, answer => some (answer, w)
  | .listIncomingTransactions _, answer => some (answer, w)
  | .listByAddresses addresses, fault => Stores.read w fault (w.listByAddresses addresses)
  | .getCurrentPrice, answer => some (answer, w)
  | .acquire txHash, answer => w.acquire run txHash answer
  | .release txHash, answer => w.release run txHash answer
  | .isOnChainTxRecorded walletId txHash, fault =>
    Stores.readLedger w fault (.ok (w.isOnChainTxRecorded walletId txHash))
  | .findAccountById _ accountId, fault =>
    Stores.read w fault (Stores.found (w.accounts accountId) .CouldNotFindError)
  | .findUserById userId, fault =>
    Stores.read w fault (Stores.found (w.users userId) .CouldNotFindUserFromIdError userId)
  | .addOnChainTxReceive args, answer => w.addOnChainTxReceive run args answer
  | .onChainTxReceived _, _ => some ((), w)
  | .isWithdrawalTransaction _, answer => some (answer, w)
  | .isToHotWalletTxRecorded txHash, fault =>
    Stores.readLedger w fault (.ok (w.isToHotWalletTxRecorded txHash))
  | .isDerivedAddress _, answer => some (answer, w)
  | .lookupTransactionFee _, answer => some (answer, w)
  | .addColdStorageTxSend args, answer =>
    w.commit run (LedgerAdmin.addColdStorageTxSend w.bank args) answer

@[reducible] def services : Service World Call Reply where
  Answer := Answer
  serve := serve

abbrev App (α : Type) := ExceptT AppError (Prog Call Reply) α

def ask (c : Call) : Prog Call Reply (Reply c) := Prog.request c

def lockOnChainTxHash {α : Type} (txHash : OnChainTxHash) (body : App α) : App α :=
  bracket (fallible (ask (.acquire txHash))) (fallible (ask (.release txHash))) body

def receiveArgs (wallet : Wallet) (txHash : OnChainTxHash) (account : Account)
    (displayCurrencyPerSat : ℚ) (sats : Nat) (address : OnChainAddress) :
    LedgerService.AddOnChainTxReceiveArgs :=
  let fee := onChainDepositFee sats account.depositFeeRatio
  { walletId := wallet.id
    walletCurrency := wallet.currency
    txHash
    sats
    fee
    amountDisplayCurrency := fromSats displayCurrencyPerSat sats
    feeDisplayCurrency := fromSats displayCurrencyPerSat fee
    receivingAddress := address }

def Wallet.paidBy (wallet : Wallet) (out : TxOut) : Option OnChainAddress :=
  out.address.filter (· ∈ wallet.onChainAddresses)

def receiveOutput (wallet : Wallet) (txHash : OnChainTxHash) (account : Account)
    (displayCurrencyPerSat : ℚ) (out : TxOut) : App Unit :=
  match wallet.paidBy out with
  | none => return ()
  | some address => do
    let _ ← fallible (ask (.addOnChainTxReceive
      (receiveArgs wallet txHash account displayCurrencyPerSat out.sats address)))
    let recipientAccount ← fallible (ask (.findAccountById .recipient wallet.accountId))
    let recipientUser ← fallible (ask (.findUserById recipientAccount.ownerId))
    total (ask (.onChainTxReceived
      { recipientAccountId := wallet.accountId
        recipientWalletId := wallet.id
        amount := out.sats
        currency := wallet.currency
        displayAmount := fromSats displayCurrencyPerSat out.sats
        txHash
        recipientDeviceTokens := recipientUser.deviceTokens
        recipientLanguage := recipientUser.language }))

def processTxForWallet (wallet : Wallet) (tx : IncomingOnChainTransaction) : App Unit := do
  let displayCurrencyPerSat ← fallible (ask .getCurrentPrice)
  lockOnChainTxHash tx.rawTx.txHash do
    let recorded ← fallible (ask (.isOnChainTxRecorded wallet.id tx.rawTx.txHash))
    let account ← fallible (ask (.findAccountById .depositFee wallet.accountId))
    if recorded then return ()
    else
      each tx.rawTx.outs (receiveOutput wallet tx.rawTx.txHash account displayCurrencyPerSat)

-- lnd sets the fee of a deposit to zero, and then the cold storage wallet is asked.
def hotWalletFee (tx : IncomingOnChainTransaction) : App Nat := do
  if tx.fee ≠ 0 then return tx.fee
  else
    let fee ← total (ask (.lookupTransactionFee tx.rawTx.txHash))
    match fee with
    | .ok fee => return fee
    | .error _ => return 0

def depositToHotWallet (tx : IncomingOnChainTransaction) (displayCurrencyPerSat : ℚ) (out : TxOut) :
    App Unit :=
  match out.address with
  | none => return ()
  | some address => do
    let isColdStorageAddress ← total (ask (.isDerivedAddress address))
    match isColdStorageAddress with
    | .error _ | .ok true => return ()
    | .ok false =>
      let fee ← hotWalletFee tx
      -- An error of the ledger is only logged.
      let _ ← total (ask (.addColdStorageTxSend
        { txHash := tx.rawTx.txHash
          payeeAddress := address
          description :=
            "deposit to hot wallet of " ++ toString out.sats ++ " sats from the cold storage wallet"
          sats := out.sats
          fee
          feeDisplayCurrency := fromSats displayCurrencyPerSat fee
          amountDisplayCurrency := fromSats displayCurrencyPerSat out.sats }))

def processTxForHotWallet (tx : IncomingOnChainTransaction) : App Unit := do
  fallible (ask .coldStorageService)
  let isFromColdStorage ← fallible (ask (.isWithdrawalTransaction tx.rawTx.txHash))
  if ¬isFromColdStorage then return ()
  else
    let displayCurrencyPerSat ← fallible (ask .getCurrentPrice)
    lockOnChainTxHash tx.rawTx.txHash do
      let recorded ← fallible (ask (.isToHotWalletTxRecorded tx.rawTx.txHash))
      if recorded then return ()
      else each tx.rawTx.outs (depositToHotWallet tx displayCurrencyPerSat)

-- The errors of the wallets are only logged.
def processTx (onchainMinConfirmations : Nat) (tx : IncomingOnChainTransaction) : App Unit := do
  if tx.confirmations < onchainMinConfirmations then return ()
  else
    let wallets ← total (ask (.listByAddresses (uniqueAddressesForTxn tx.rawTx)))
    match wallets with
    | .error error =>
      if error.name = .CouldNotFindWalletFromOnChainAddressesError then
        let _ ← attempt (processTxForHotWallet tx)
      else return ()
    | .ok wallets =>
      each wallets fun wallet => do
        let _ ← attempt (processTxForWallet wallet tx)

def updateOnChainReceipt (onchainMinConfirmations scanDepth : Nat) : App Nat := do
  fallible (ask .onChainService)
  let onChainTxs ← fallible (ask (.listIncomingTransactions scanDepth))
  each onChainTxs (processTx onchainMinConfirmations)
  return onChainTxs.length

end Galoy.OnChain
