import Galoy.Ledger.Conservation
import Galoy.Lightning.RoutingRevenues
import Galoy.OnChain.UpdateOnChainReceipt
import Galoy.Swap.SwapFees

set_option autoImplicit false

namespace Galoy

open Interleave

def LedgerWrite.convertsAmounts : LedgerWrite → Bool
  | .addColdStorageTxReceive _ | .addColdStorageTxSend _ | .addSwapFeeTxSend
    _ _ | .updateLndEscrow _
  | .addLndChannelOpeningOrClosingFee _ _ _ | .addLndRoutingRevenue _ _ => false
  | _ => true

namespace Operations

structure LndChannel where
  isPartnerInitiated : Bool
  commitTransactionFee : Nat
  deriving DecidableEq, Repr

def escrowInLnd (channels : List LndChannel) : Nat :=
  ((channels.filter (·.isPartnerInitiated = false)).map (·.commitTransactionFee)).sum

def updateEscrows (getActiveLnd : Except AppError Unit)
    (getChannels : Except AppError (List LndChannel)) : Except AppError LedgerWrite := do
  let _ ← getActiveLnd
  let channels ← getChannels
  return .updateLndEscrow (escrowInLnd channels)

inductive StateChange where
  | opened
  | closed
  deriving DecidableEq, Repr

structure ChannelEvent where
  isPartnerInitiated : Bool
  transactionId : OnChainTxHash
  deriving DecidableEq, Repr

structure ChainTransaction where
  id : OnChainTxHash
  fee : Option Nat
  deriving DecidableEq, Repr

-- No fee and the fee 0 are both only logged.
def onChannelUpdated (scanDepth : Nat) (channel : ChannelEvent) (stateChange : StateChange)
    (getWalletInfo : Except AppError Nat)
    (getChainTransactions : Nat → Except AppError (List ChainTransaction)) :
    Except AppError (Option LedgerWrite) :=
  if channel.isPartnerInitiated then .ok none
  else if stateChange = .closed then .ok none
  else do
    let currentBlockHeight ← getWalletInfo
    let transactions ← getChainTransactions (currentBlockHeight - scanDepth)
    match ((transactions.find? (·.id = channel.transactionId)).bind (·.fee)).filter (· ≠ 0) with
    | none => return none
    | some fee =>
      return some (.addLndChannelOpeningOrClosingFee "channel opened onchain fee" fee
        channel.transactionId)

structure RebalanceCheckerConfig where
  minOnChainHotWalletBalance : Int
  minRebalanceSize : Int
  maxHotWalletBalance : Int
  deriving DecidableEq, Repr

def getWithdrawFromHotWalletAmount (config : RebalanceCheckerConfig)
    (onChainHotWalletBalance offChainHotWalletBalance : Int) : Int :=
  let totalHotWallet := onChainHotWalletBalance + offChainHotWalletBalance
  if totalHotWallet > config.maxHotWalletBalance then
    let rebalanceAmount := onChainHotWalletBalance - config.minOnChainHotWalletBalance
    if rebalanceAmount > config.minRebalanceSize then rebalanceAmount else 0
  else 0

structure RebalanceServices where
  coldStorageService : Except AppError Unit
  onChainService : Except AppError Unit
  offChainService : Except AppError Unit
  getCurrentPrice : Except AppError ℚ
  getBalance : Except AppError Nat
  getOffChainBalance : Except AppError Nat
  createOnChainAddress : Except AppError OnChainAddress
  payToAddress : OnChainAddress → Int → Except AppError OnChainTxHash
  lookupOnChainFee : OnChainTxHash → Except AppError Nat

-- A fee that is not found is taken to be 0.
def lookedUpFee : Except AppError Nat → Nat
  | .ok fee => fee
  | .error _ => 0

def rebalanceToColdWallet (config : RebalanceCheckerConfig) (services : RebalanceServices) :
    Except AppError (Option LedgerWrite) := do
  let _ ← services.coldStorageService
  let _ ← services.onChainService
  let _ ← services.offChainService
  let displayCurrencyPerSat ← services.getCurrentPrice
  let onChainBalance ← services.getBalance
  let offChainBalance ← services.getOffChainBalance
  let rebalanceAmount := getWithdrawFromHotWalletAmount config onChainBalance offChainBalance
  if rebalanceAmount ≤ 0 then return none
  else
    let address ← services.createOnChainAddress
    let txHash ← services.payToAddress address rebalanceAmount
    let fee := lookedUpFee (services.lookupOnChainFee txHash)
    return some (.addColdStorageTxReceive
      { txHash
        payeeAddress := address
        description := "deposit of " ++ toString rebalanceAmount ++
        " sats to the cold storage wallet"
        sats := rebalanceAmount
        fee
        feeDisplayCurrency := OnChain.fromSats displayCurrencyPerSat fee
        amountDisplayCurrency := OnChain.fromSats displayCurrencyPerSat rebalanceAmount })

def btc2sat (btc : ℚ) : Int := ⌊btc * 100000000 + 1 / 2⌋

-- bitcoind has the fee of an own transaction as a negative number of bitcoins.
def lookupTransactionFee (fee : Except AppError ℚ) : Except AppError Nat :=
  fee.map fun fee => (btc2sat |fee|).toNat

def hotWalletFee (tx : OnChain.IncomingOnChainTransaction) (fee : Except AppError ℚ) : Nat :=
  if tx.fee ≠ 0 then tx.fee else lookedUpFee (lookupTransactionFee fee)

def hotWalletArgs (tx : OnChain.IncomingOnChainTransaction) (fee : Nat) (displayCurrencyPerSat : ℚ)
    (sats : Nat) (address : OnChainAddress) : LedgerAdmin.ColdStorageArgs where
  txHash := tx.rawTx.txHash
  payeeAddress := address
  description := "deposit to hot wallet of " ++ toString sats ++
    " sats from the cold storage wallet"
  sats := sats
  fee := fee
  feeDisplayCurrency := OnChain.fromSats displayCurrencyPerSat fee
  amountDisplayCurrency := OnChain.fromSats displayCurrencyPerSat sats

end Operations

open Operations

inductive Operation where
  | converted (write : LedgerWrite) (converts : write.convertsAmounts = true)
  | rebalanceToColdWallet (config : RebalanceCheckerConfig) (services : RebalanceServices)
  | depositToHotWallet (tx : OnChain.IncomingOnChainTransaction) (fee : Except AppError ℚ)
      (displayCurrencyPerSat : ℚ) (sats : Nat) (address : OnChainAddress)
  | addSwapFeeTxSend (swapResult : Swap.SwapStatusResult) (found : Except AppError Unit)
  | updateEscrows (getActiveLnd : Except AppError Unit)
    (getChannels : Except AppError (List LndChannel))
  | onChannelUpdated (scanDepth : Nat) (channel : ChannelEvent) (stateChange : StateChange)
      (getWalletInfo : Except AppError Nat)
      (getChainTransactions : Nat → Except AppError (List ChainTransaction))
  | updateRoutingRevenues (lnd : Routing.Lnd) (faults : Routing.Faults) (now : Int)

namespace Operation

def write : Operation → Option LedgerWrite
  | .converted write _ => some write
  | .rebalanceToColdWallet config services =>
    (Operations.rebalanceToColdWallet config services).toOption.join
  | .depositToHotWallet tx fee displayCurrencyPerSat sats address =>
    some (.addColdStorageTxSend (hotWalletArgs tx (hotWalletFee tx fee) displayCurrencyPerSat
      sats address))
  | .addSwapFeeTxSend swapResult found => some (.addSwapFeeTxSend swapResult.fees found)
  | .updateEscrows getActiveLnd getChannels =>
    (Operations.updateEscrows getActiveLnd getChannels).toOption
  | .onChannelUpdated scanDepth channel stateChange getWalletInfo getChainTransactions =>
    (Operations.onChannelUpdated scanDepth channel stateChange getWalletInfo
      getChainTransactions).toOption.join
  | .updateRoutingRevenues _ _ _ => none

end Operation

structure OperationCall where
  run : RunId
  clock : Nat
  operation : Operation

namespace OperationCall

def performWrite (bank : BankWallets) (w : Routing.World) (call : OperationCall) : Routing.World :=
  match call.operation.write with
  | none => w
  | some write =>
    { w with ledger := WriteRequest.perform bank w.ledger ⟨call.run, call.clock, write⟩ }

def perform (bank : BankWallets) (w : Routing.World) (call : OperationCall) : Routing.World :=
  match call.operation with
  | .updateRoutingRevenues lnd faults now =>
    (Routing.updateRoutingRevenues lnd bank faults now w).2
  | _ => call.performWrite bank w

end OperationCall

def performOperations (bank : BankWallets) (w : Routing.World) (calls : List OperationCall) :
    Routing.World :=
  calls.foldl (OperationCall.perform bank) w

section Programs

open Interleave.Failing

def HotWalletCall (tx : OnChain.IncomingOnChainTransaction) : OnChain.Call → Prop
  | .addColdStorageTxSend args =>
    ∃ fee displayCurrencyPerSat sats address, args =
      hotWalletArgs tx fee displayCurrencyPerSat sats address
  | .addOnChainTxReceive _ => False
  | _ => True

theorem depositToHotWallet_asks (tx : OnChain.IncomingOnChainTransaction)
    (displayCurrencyPerSat : ℚ) (out : OnChain.TxOut) :
    OnlyRun (HotWalletCall tx) (OnChain.depositToHotWallet tx displayCurrencyPerSat out) := by
  unfold OnChain.depositToHotWallet
  cases out.address with
  | none => exact OnlyRun.pure ()
  | some address =>
    refine OnlyRun.bind (total_only (Prog.only_request trivial)) fun isColdStorageAddress => ?_
    split
    · exact OnlyRun.pure ()
    · exact OnlyRun.pure ()
    · have looksUp : OnlyRun (HotWalletCall tx) (OnChain.hotWalletFee tx) := by
        unfold OnChain.hotWalletFee
        split
        · exact OnlyRun.pure _
        · refine OnlyRun.bind (total_only (Prog.only_request trivial)) fun fee => ?_
          cases fee <;> exact OnlyRun.pure _
      refine OnlyRun.bind looksUp fun fee => OnlyRun.bind (total_only (Prog.only_request ?_))
        fun _ => OnlyRun.pure ()
      exact ⟨fee, displayCurrencyPerSat, out.sats, address, rfl⟩

theorem processTxForHotWallet_asks (tx : OnChain.IncomingOnChainTransaction) :
    OnlyRun (HotWalletCall tx) (OnChain.processTxForHotWallet tx) := by
  unfold OnChain.processTxForHotWallet
  refine OnlyRun.bind (fallible_only (Prog.only_request trivial)) fun _ => ?_
  refine OnlyRun.bind (fallible_only (Prog.only_request trivial)) fun isFromColdStorage => ?_
  split
  · exact OnlyRun.pure ()
  · refine OnlyRun.bind (fallible_only (Prog.only_request trivial)) fun displayCurrencyPerSat => ?_
    refine bracket_only (fallible_only (Prog.only_request trivial))
      (fallible_only (Prog.only_request trivial)) ?_
    refine OnlyRun.bind (fallible_only (Prog.only_request trivial)) fun recorded => ?_
    split
    · exact OnlyRun.pure ()
    · exact each_only fun out _ => depositToHotWallet_asks tx displayCurrencyPerSat out

def SwapFeeCall (swapResult : Swap.SwapStatusResult) : Swap.Call → Prop
  | .commit entry =>
    ∃ bank found, LedgerAdmin.addSwapFeeTxSend bank swapResult.fees found = .ok entry
  | _ => True

theorem addSwapFeeTxSend_asks (sha256 : Swap.SwapId → Swap.SwapHash) (bank : BankWallets)
    (swapResult : Swap.SwapStatusResult) :
    OnlyRun (SwapFeeCall swapResult) (Swap.addSwapFeeTxSend sha256 bank swapResult) := by
  unfold Swap.addSwapFeeTxSend
  refine OnlyRun.bind (attempt_only (fallible_only (Prog.only_request trivial))) fun found => ?_
  split
  · refine OnlyRun.bind (fallible_only (Prog.only_request trivial)) fun bankOwner => ?_
    refine ofResult_bind_only fun entry built => ?_
    refine OnlyRun.bind (fallible_only (Prog.only_request ?_)) fun journalEntry => ?_
    · exact ⟨_, _, built⟩
    · exact OnlyRun.bind (fallible_only (Prog.only_request trivial)) fun _ => OnlyRun.pure _
  · exact OnlyRun.throw _

end Programs

end Galoy
