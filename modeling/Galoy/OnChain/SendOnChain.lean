import Galoy.Interleave.Failing
import Galoy.Ledger.Conservation
import Galoy.OnChain.UpdateOnChainReceipt
import Galoy.OnChain.WithdrawalFee
import Galoy.Payments.SendLightning

set_option autoImplicit false

namespace Galoy.Withdrawal

open Interleave Interleave.Failing
open OnChain (Wallet fromSats)

def checkedToSats (amount : ℚ) : Result ℚ :=
  if ¬ amount > 0 then .error { name := .InvalidSatoshiAmountError, message := toString amount }
  else if amount > maxSats.amount then .error { name := .BtcAmountTooLargeError }
  else .ok amount

def checkedToTargetConfs (confs : Int) : Result Int :=
  if confs > 0 then .ok confs else .error { name := .InvalidTargetConfirmations }

structure TxBaseVolume where
  outgoingBaseAmount : ℚ
  incomingBaseAmount : ℚ
  deriving DecidableEq, Repr

structure Conditions where
  minerFee : OnChainAddress → Int → ℚ → ℕ
  minerFee_mono : ∀ address targetConfirmations, Monotone (minerFee address targetConfirmations)
  lightningVolume : WalletId → TxBaseVolume
  onChainVolume : WalletId → TxBaseVolume

/-- `balances` has the balance that a run has read under the lock; the code does not read it. -/
structure World where
  bank : BankWallets
  ledger : Ledger
  locks : WalletId → Option RunId
  wallets : List Wallet
  conditions : Conditions
  clock : Nat
  balances : RunId → Option ℚ

inductive Asker where
  | estimate
  | lockedEstimate
  | withdrawal
  deriving DecidableEq, Repr

inductive Call where
  | onChainService
  | getCurrentPrice
  | checkWithdrawalLimits (amount : ℚ) (walletId : WalletId) (displayCurrencyPerSat : ℚ)
  | getBalance
  | findWalletById (walletId : WalletId)
  | findByAddress (asker : Asker) (address : OnChainAddress)
  | getWalletBalance (asker : Asker) (walletId : WalletId)
  | getOnChainFeeEstimate (amount : ℚ) (address : OnChainAddress) (targetConfirmations : Int)
  | lightningTxBaseVolumeSince (walletId : WalletId) (sinceDaysAgo : Nat)
  | onChainTxBaseVolumeSince (walletId : WalletId) (sinceDaysAgo : Nat)
  | acquire (walletId : WalletId)
  | release (walletId : WalletId)
  | signalAborted (walletId : WalletId)
  | addOnChainTxSend (args : LedgerService.AddOnChainTxSendArgs)
  | payToAddress (address : OnChainAddress) (amount : ℚ) (targetConfirmations : Int)
      (description : String)
  | revertOnChainPayment (journalId : LedgerJournalId)
  | setOnChainTxSendHash (journalId : LedgerJournalId) (newTxHash : OnChainTxHash)
  | lookupOnChainFee (txHash : OnChainTxHash)

@[reducible] def Reply : Call → Type
  | .onChainService | .checkWithdrawalLimits _ _ _ | .acquire _ | .release _
  | .revertOnChainPayment _ | .setOnChainTxSendHash _ _ => Result Unit
  | .getCurrentPrice | .getBalance | .getWalletBalance _ _ | .lookupOnChainFee _ => Result ℚ
  | .getOnChainFeeEstimate _ _ _ => Result ℕ
  | .findWalletById _ | .findByAddress _ _ => Result Wallet
  | .lightningTxBaseVolumeSince _ _ | .onChainTxBaseVolumeSince _ _ => Result TxBaseVolume
  | .signalAborted _ => Bool
  | .addOnChainTxSend _ => Result LedgerJournalId
  | .payToAddress _ _ _ _ => Result OnChainTxHash

/-- The update of the pending flags and the void are two requests to the database. -/
structure RevertAnswer where
  settleFault : Option String := none
  voidFault : Option String := none
  elapsed : Nat := 0

@[reducible] def Answer : Call → Type
  | .onChainService | .checkWithdrawalLimits _ _ _ => Result Unit
  | .getCurrentPrice | .getBalance | .lookupOnChainFee _ => Result ℚ
  | .getOnChainFeeEstimate _ _ _ => Option AppError
  | .findWalletById _ | .findByAddress _ _ => Option RepositoryFault
  | .getWalletBalance _ _ | .lightningTxBaseVolumeSince _ _ | .onChainTxBaseVolumeSince _ _
  | .setOnChainTxSendHash _ _ => Option String
  | .acquire _ | .release _ => LockAnswer
  | .signalAborted _ => Bool
  | .addOnChainTxSend _ => TimedAnswer
  | .revertOnChainPayment _ => RevertAnswer
  | .payToAddress _ _ _ _ => Result OnChainTxHash

def Journal.setHash (id : LedgerJournalId) (newTxHash : OnChainTxHash)
    (journal : Journal) : Journal :=
  if journal.id = id then
    { journal with
      legs := journal.legs.map fun leg =>
        { leg with metadata := { leg.metadata with hash := some newTxHash } } }
  else journal

namespace World

variable (w : World)

def findById (walletId : WalletId) : Result Wallet :=
  match w.wallets.find? (·.id = walletId) with
  | none => .error { name := .CouldNotFindWalletFromIdError }
  | some wallet => .ok wallet

def findByAddress (address : OnChainAddress) : Result Wallet :=
  match w.wallets.find? (address ∈ ·.onChainAddresses) with
  | none => .error { name := .CouldNotFindWalletFromOnChainAddressError }
  | some wallet => .ok wallet

def walletBalance (walletId : WalletId) : ℚ := w.ledger.balance (toLedgerAccountId walletId)

def getWalletBalance (run : RunId) (asker : Asker) (walletId : WalletId) (fault : Option String) :
    Option (Result ℚ × World) :=
  match fault with
  | some message => some (.error (unknownLedgerError message), w)
  | none =>
    let balance := w.walletBalance walletId
    some (.ok balance,
      if asker = .withdrawal then
        { w with balances := Function.update w.balances run (some balance) }
      else w)

def acquire (run : RunId) (walletId : WalletId) (answer : LockAnswer) :
    Option (Result Unit × World) :=
  Stores.acquire w w.locks (fun locks => { w with locks }) run walletId answer

def release (run : RunId) (walletId : WalletId) (answer : LockAnswer) :
    Option (Result Unit × World) :=
  Stores.release w.locks (fun locks => { w with locks }) run walletId answer

def addOnChainTxSend (run : RunId) (args : LedgerService.AddOnChainTxSendArgs)
    (answer : TimedAnswer) : Option (Result LedgerJournalId × World) :=
  match LedgerService.addOnChainTxSend w.bank args with
  | .error error => some (.error error, w)
  | .ok entry =>
    match answer.fault with
    | some message => some (.error (unknownLedgerError message), w)
    | none =>
      let now := w.clock + answer.elapsed
      some (.ok w.ledger.journals.length,
        { w with clock := now, ledger := w.ledger.commit run now entry })

def revertOnChainPayment (run : RunId) (journalId : LedgerJournalId) (answer : RevertAnswer) :
    Option (Result Unit × World) :=
  match answer.settleFault, answer.voidFault with
  | some message, _ => some (.error (unknownLedgerError message), w)
  | none, some message =>
    some (.error (unknownLedgerError message),
      { w with ledger := w.ledger.settleJournal journalId })
  | none, none =>
    let now := w.clock + answer.elapsed
    let reverted := w.ledger.revertOnChainPayment run now journalId "Protocol error"
    some (reverted.1, { w with clock := now, ledger := reverted.2 })

def setOnChainTxSendHash (journalId : LedgerJournalId) (newTxHash : OnChainTxHash)
    (fault : Option String) : Option (Result Unit × World) :=
  match fault with
  | some message => some (.error (unknownLedgerError message), w)
  | none =>
    let modified := w.ledger.journals.any fun journal =>
      journal.id = journalId && journal.legs.any fun leg => leg.metadata.hash ≠ some newTxHash
    let journals := w.ledger.journals.map (Journal.setHash journalId newTxHash)
    some (if modified then .ok () else .error { name := .NoTransactionToUpdateError },
      { w with ledger := { w.ledger with journals } })

end World

def serve (run : RunId) (w : World) : (c : Call) → Answer c → Option (Reply c × World)
  | .onChainService, answer | .checkWithdrawalLimits _ _ _, answer => some (answer, w)
  | .getCurrentPrice, answer | .getBalance, answer | .lookupOnChainFee _, answer => some (answer, w)
  | .findWalletById walletId, fault => Stores.read w fault (w.findById walletId)
  | .findByAddress _ address, fault => Stores.read w fault (w.findByAddress address)
  | .getWalletBalance asker walletId, fault => w.getWalletBalance run asker walletId fault
  | .getOnChainFeeEstimate amount address targetConfirmations, none =>
    some (.ok (w.conditions.minerFee address targetConfirmations amount), w)
  | .getOnChainFeeEstimate _ _ _, some error => some (.error error, w)
  | .lightningTxBaseVolumeSince walletId _, fault =>
    Stores.readLedger w fault (.ok (w.conditions.lightningVolume walletId))
  | .onChainTxBaseVolumeSince walletId _, fault =>
    Stores.readLedger w fault (.ok (w.conditions.onChainVolume walletId))
  | .acquire walletId, answer => w.acquire run walletId answer
  | .release walletId, answer => w.release run walletId answer
  | .signalAborted _, aborted => some (aborted, w)
  | .addOnChainTxSend args, answer => w.addOnChainTxSend run args answer
  | .payToAddress _ _ _ _, answer => some (answer, w)
  | .revertOnChainPayment journalId, answer => w.revertOnChainPayment run journalId answer
  | .setOnChainTxSendHash journalId newTxHash, fault =>
    w.setOnChainTxSendHash journalId newTxHash fault

@[reducible] def services : Service World Call Reply where
  Answer := Answer
  serve := serve

abbrev App (α : Type) := ExceptT AppError (Prog Call Reply) α

def ask (c : Call) : Prog Call Reply (Reply c) := Prog.request c

def lockWalletId {α : Type} (walletId : WalletId) (body : App α) : App α :=
  bracket (fallible (ask (.acquire walletId))) (fallible (ask (.release walletId))) body

structure Config where
  withdraw : WithdrawConfig
  dustThreshold : ℚ

structure Account where
  id : AccountId
  withdrawFee : ℚ
  deriving DecidableEq, Repr

structure OnChainPayment where
  senderWallet : WalletDescriptor
  senderAccount : Account
  amount : ℚ
  address : OnChainAddress
  targetConfirmations : Int
  memo : Option String
  sendAll : Bool
  temporaryHash : OnChainTxHash
  deriving DecidableEq, Repr

section Programs

variable (config : Config)

def Config.calculator : OnchainWithdrawalConfig where
  thresholdImbalance := (getFeesConfig config.withdraw).withdrawThreshold
  feeRatio := (getFeesConfig config.withdraw).withdrawRatio

def netInboundFlow (volume : TxBaseVolume) : ℚ :=
  volume.incomingBaseAmount - volume.outgoingBaseAmount

def getSwapOutImbalance (walletId : WalletId) : App ℚ := do
  let feeConfig := getFeesConfig config.withdraw
  if feeConfig.withdrawMethod = .flat then return 0
  else
    let lightning ← fallible
      (ask (.lightningTxBaseVolumeSince walletId feeConfig.withdrawDaysLookback))
    let onChain ← fallible (ask (.onChainTxBaseVolumeSince walletId feeConfig.withdrawDaysLookback))
    return netInboundFlow lightning - netInboundFlow onChain

def lessThanDustThreshold : AppError where
  name := .LessThanDustThresholdError
  message := "Use lightning to send amounts less than " ++ toString config.dustThreshold

-- Every answer about the payee except one that it is unknown, or an unknown error, makes the
-- payment intraledger.
def getOnChainFee (asker : Asker) (walletId : WalletId) (account : Account) (amount : ℚ)
    (address : OnChainAddress) (targetConfirmations : Int) : App ℚ := do
  let amountChecked ← ofResult (checkedToSats amount)
  let targetConfsChecked ← ofResult (checkedToTargetConfs targetConfirmations)
  let walletIdChecked ← ofResult (checkedToWalletId walletId)
  let wallet ← fallible (ask (.findWalletById walletIdChecked))
  let payeeWallet ← total (ask (.findByAddress asker address))
  match payeeWallet with
  | .error { name := .UnknownRepositoryError, message } =>
    throw { name := .UnknownRepositoryError, message }
  | .error { name := .CouldNotFindWalletFromOnChainAddressError, .. } =>
    if amountChecked < config.dustThreshold then throw (lessThanDustThreshold config)
    else
      let balance ← fallible (ask (.getWalletBalance asker wallet.id))
      if balance < amountChecked then
        throw { name := .InsufficientBalanceError, message := "Balance is too low" }
      else
        fallible (ask .onChainService)
        let minerFee ← fallible
          (ask (.getOnChainFeeEstimate amountChecked address targetConfsChecked))
        let imbalance ← getSwapOutImbalance config walletId
        return (WithdrawalFeeCalculator.onChainWithdrawalFee config.calculator
          minerFee amountChecked account.withdrawFee imbalance).totalFee
  | _ => return WithdrawalFeeCalculator.onChainIntraLedgerFee

-- `withdrawFee || withdrawDefaultMin`: a fee of zero is taken as absent.
def minBankFee (account : Account) : ℚ :=
  if account.withdrawFee ≠ 0 then account.withdrawFee
  else (getFeesConfig config.withdraw).withdrawDefaultMin

def OnChainPayment.sendArgs (payment : OnChainPayment) (amountToSend : ℚ)
    (fees : OnChainWithdrawalFee) (displayCurrencyPerSat : ℚ) :
    LedgerService.AddOnChainTxSendArgs where
  walletId := payment.senderWallet.id
  walletCurrency := payment.senderWallet.currency
  txHash := payment.temporaryHash
  description := payment.memo.getD ""
  sats := amountToSend + fees.totalFee
  totalFee := fees.totalFee
  bankFee := fees.bankFee
  amountDisplayCurrency := fromSats displayCurrencyPerSat (amountToSend + fees.totalFee)
  payeeAddress := payment.address
  sendAll := payment.sendAll
  totalFeeDisplayCurrency := fromSats displayCurrencyPerSat fees.totalFee

def payAndSetHash (payment : OnChainPayment) (amountToSend : ℚ) (journalId : LedgerJournalId) :
    App PaymentSendStatus := do
  let txHash ← total (ask (.payToAddress payment.address amountToSend payment.targetConfirmations
    ("journal-" ++ toString journalId)))
  match txHash with
  | .error error =>
    if error.name = .InsufficientOnChainFundsError ∨ error.name = .CPFPAncestorLimitReachedError then
      fallible (ask (.revertOnChainPayment journalId))
      throw error
    else throw error
  | .ok txHash =>
    fallible (ask (.setOnChainTxSendHash journalId txHash))
    -- An error of the lookup is only logged.
    let _finalMinerFee ← total (ask (.lookupOnChainFee txHash))
    return .success

def withdrawUnderLock (payment : OnChainPayment) (amountToSend displayCurrencyPerSat : ℚ) :
    App PaymentSendStatus := do
  let wallet := payment.senderWallet
  let balance ← fallible (ask (.getWalletBalance .withdrawal wallet.id))
  let estimatedFee ← getOnChainFee config .lockedEstimate wallet.id payment.senderAccount
    payment.amount payment.address payment.targetConfirmations
  if balance < amountToSend + estimatedFee then
    throw
      { name := .InsufficientBalanceError
        message := toString (amountToSend + estimatedFee) ++ " exceeds balance " ++
        toString balance }
  else
    let aborted ← total (ask (.signalAborted wallet.id))
    if aborted then throw { name := .ResourceExpiredLockServiceError }
    else
      let imbalance ← getSwapOutImbalance config wallet.id
      let minerFee ← fallible
        (ask (.getOnChainFeeEstimate amountToSend payment.address payment.targetConfirmations))
      let fees := WithdrawalFeeCalculator.onChainWithdrawalFee config.calculator
        minerFee amountToSend (minBankFee config payment.senderAccount) imbalance
      let journalId ← fallible
        (ask (.addOnChainTxSend (payment.sendArgs amountToSend fees displayCurrencyPerSat)))
      payAndSetHash payment amountToSend journalId

def executePaymentViaOnChain (payment : OnChainPayment) : App PaymentSendStatus := do
  let wallet := payment.senderWallet
  if wallet.currency ≠ .btc then throw { name := .NotImplementedError, message :=
    "USD Intraledger" }
  else
    fallible (ask .onChainService)
    let displayCurrencyPerSat ← fallible (ask .getCurrentPrice)
    fallible (ask (.checkWithdrawalLimits payment.amount wallet.id displayCurrencyPerSat))
    let onChainAvailableBalance ← fallible (ask .getBalance)
    let estimatedFee ← getOnChainFee config .estimate wallet.id payment.senderAccount payment.amount
      payment.address payment.targetConfirmations
    let amountToSend := if payment.sendAll then payment.amount - estimatedFee else payment.amount
    if onChainAvailableBalance < amountToSend + estimatedFee
      then throw { name := .RebalanceNeededError }
    else if amountToSend < config.dustThreshold then throw (lessThanDustThreshold config)
    else lockWalletId wallet.id (withdrawUnderLock config payment amountToSend
      displayCurrencyPerSat)

end Programs

end Galoy.Withdrawal
