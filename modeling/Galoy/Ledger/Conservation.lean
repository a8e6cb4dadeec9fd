import Galoy.Ledger.Balance
import Galoy.Ledger.Services

set_option autoImplicit false

namespace Galoy

open Interleave LedgerService LedgerAdmin

namespace Ledger

def settleJournal (ledger : Ledger) (id : LedgerJournalId) : Ledger :=
  { ledger with
    journals := ledger.journals.map fun journal =>
      if journal.id = id then { journal with legs := journal.legs.map Leg.settle } else journal }

-- The pending flags are cleared first, and stay cleared when the void fails.
def revertOnChainPayment (ledger : Ledger) (run : RunId) (clock : Nat) (id : LedgerJournalId)
    (description : String) : Except AppError Unit × Ledger :=
  let settled := ledger.settleJournal id
  match settled.void run clock id description with
  | some reverted => (.ok (), reverted)
  | none => (.error { name := .UnknownLedgerError }, settled)

def getLndEscrowBalance (ledger : Ledger) : ℚ :=
  netOver (fun account currency => account = .escrow && currency = .btc) ledger.legs

def getAssetsBalance (ledger : Ledger) (currency : WalletCurrency) : ℚ :=
  ledger.mainBalance .assets currency

def getLiabilitiesBalance (ledger : Ledger) (currency : WalletCurrency) : ℚ :=
  ledger.mainBalance .liabilities currency

def totalDebit (ledger : Ledger) (currency : WalletCurrency) : ℚ :=
  ((ledger.legs.filter (·.currency = currency)).map (·.debit)).sum

def totalCredit (ledger : Ledger) (currency : WalletCurrency) : ℚ :=
  ((ledger.legs.filter (·.currency = currency)).map (·.credit)).sum

end Ledger

inductive LedgerWrite where
  | recordSend (args : RecordSendArgs)
  | recordReceive (args : RecordReceiveArgs)
  | recordIntraledger (args : RecordIntraledgerArgs)
  | recordLnSendRevert (journalId : LedgerJournalId)
  | revertLightningPayment (journalId : LedgerJournalId)
  | revertOnChainPayment (journalId : LedgerJournalId) (description : String)
  | settlePending (hash : PaymentHash)
  | addOnChainTxSend (args : AddOnChainTxSendArgs)
  | addOnChainTxReceive (args : AddOnChainTxReceiveArgs)
  | addLnTxReceive (args : AddLnTxReceiveArgs)
  | addLnFeeReimbursementReceive (args : AddLnFeeReimbursementReceiveArgs)
  | addOnChainIntraledgerTxTransfer (args : IntraledgerTransferArgs) (amountDisplayCurrency : ℚ)
      (payeeAddresses : List OnChainAddress) (sendAll : Bool)
  | addWalletIdIntraledgerTxTransfer (args : IntraledgerTransferArgs) (amountDisplayCurrency : ℚ)
  | addLnIntraledgerTxTransfer (args : IntraledgerTransferArgs) (paymentHash : PaymentHash)
      (pubkey : Pubkey) (amountDisplayCurrency : ℚ)
  | addColdStorageTxReceive (args : ColdStorageArgs)
  | addColdStorageTxSend (args : ColdStorageArgs)
  | addSwapFeeTxSend (swapResult : SwapResult) (found : Except AppError Unit)
  | updateLndEscrow (amount : ℚ)
  | addLndChannelOpeningOrClosingFee (description : String) (fee : ℚ) (txid : OnChainTxHash)
  | addLndRoutingRevenue (amount : ℚ) (collectedOn : String)

def LedgerWrite.feesNonnegative : LedgerWrite → Prop
  | .recordSend args => 0 ≤ (LedgerFacade.actualFee args.bankFee).btc.amount
  | .recordReceive args => 0 ≤ (LedgerFacade.actualFee args.bankFee).btc.amount
  | _ => True

structure WriteRequest where
  run : RunId
  clock : Nat
  write : LedgerWrite

namespace WriteRequest

def commitOk (request : WriteRequest) (ledger : Ledger) (entry : Except AppError Entry) : Ledger :=
  match entry with
  | .ok entry => ledger.commit request.run request.clock entry
  | .error _ => ledger

def voidOk (request : WriteRequest) (ledger : Ledger) (id : LedgerJournalId) : Ledger :=
  (ledger.void request.run request.clock id "Payment canceled").getD ledger

def perform (bank : BankWallets) (ledger : Ledger) (request : WriteRequest) : Ledger :=
  let commitOk := request.commitOk ledger
  match request.write with
  | .recordSend args => commitOk (.ok (LedgerFacade.recordSend bank args))
  | .recordReceive args => commitOk (.ok (LedgerFacade.recordReceive bank args))
  | .recordIntraledger args => commitOk (.ok (LedgerFacade.recordIntraledger bank args))
  | .recordLnSendRevert id => request.voidOk ledger id
  | .revertLightningPayment id => request.voidOk ledger id
  | .revertOnChainPayment id description =>
    (ledger.revertOnChainPayment request.run request.clock id description).2
  | .settlePending hash => ledger.settlePending request.run hash
  | .addOnChainTxSend args => commitOk (addOnChainTxSend bank args)
  | .addOnChainTxReceive args => commitOk (addOnChainTxReceive bank args)
  | .addLnTxReceive args => commitOk (addLnTxReceive bank args)
  | .addLnFeeReimbursementReceive args => commitOk (addLnFeeReimbursementReceive bank args)
  | .addOnChainIntraledgerTxTransfer args display payeeAddresses sendAll =>
    commitOk (addOnChainIntraledgerTxTransfer bank args display payeeAddresses sendAll)
  | .addWalletIdIntraledgerTxTransfer args display =>
    commitOk (addWalletIdIntraledgerTxTransfer bank args display)
  | .addLnIntraledgerTxTransfer args paymentHash pubkey display =>
    commitOk (addLnIntraledgerTxTransfer bank args paymentHash pubkey display)
  | .addColdStorageTxReceive args => commitOk (.ok (addColdStorageTxReceive bank args))
  | .addColdStorageTxSend args => commitOk (.ok (addColdStorageTxSend bank args))
  | .addSwapFeeTxSend swapResult found => commitOk (addSwapFeeTxSend bank swapResult found)
  | .updateLndEscrow amount =>
    match LedgerAdmin.updateLndEscrow ledger.getLndEscrowBalance amount with
    | some entry => commitOk (.ok entry)
    | none => ledger
  | .addLndChannelOpeningOrClosingFee description fee txid =>
    commitOk (.ok (addLndChannelOpeningOrClosingFee bank description fee txid))
  | .addLndRoutingRevenue amount collectedOn =>
    commitOk (.ok (addLndRoutingRevenue bank amount collectedOn))

end WriteRequest

def performAll (bank : BankWallets) (ledger : Ledger) (requests : List WriteRequest) : Ledger :=
  requests.foldl (WriteRequest.perform bank) ledger

def inCurrency (currency : WalletCurrency) : Selection := fun _ c => c = currency

def BalancedLegs (legs : List Leg) : Prop := ∀ currency, netOver (inCurrency currency) legs = 0

def Ledger.Balanced (ledger : Ledger) : Prop :=
  ∀ journal ∈ ledger.journals, BalancedLegs journal.legs

@[simp] theorem inCurrency_apply (currency : WalletCurrency) (account : LedgerAccountId)
    (c : WalletCurrency) : inCurrency currency account c = decide (c = currency) := rfl

section Entries

variable (bank : BankWallets)

theorem builder_balanced (builder : EntryBuilder) (total : AmountWithFees) (fee : BankFee)
    (nonneg : 0 ≤ fee.inCurrency .btc) (debited credited : LedgerAccountDescriptor)
    (additional : AdditionalMetadata) (fresh : builder.entry.transactions = [])
    (converts : debited.currency = .btc ∨ credited.currency = .btc ∨
      (fee.inCurrency .btc = 0 ∧ fee.inCurrency .usd = 0)) :
    BalancedLegs ((((builder.withTotalAmount total).withBankFee fee).debitAccount debited
        additional).creditAccount credited).transactions := by
  intro currency
  rw [netOver_builder _ _ _ _ nonneg, fresh]
  rcases debited with ⟨debitId, debitCurrency⟩
  rcases credited with ⟨creditId, creditCurrency⟩
  cases debitCurrency <;> cases creditCurrency <;> cases currency <;>
    simp_all [conversionNet, dealerNet]
  ring

theorem recordSend_balanced (args : RecordSendArgs)
    (nonneg : 0 ≤ (LedgerFacade.actualFee args.bankFee).btc.amount) :
    BalancedLegs (LedgerFacade.recordSend bank args).transactions := by
  refine builder_balanced _ _ _ ?_ _ _ _ rfl (.inr (.inl rfl))
  exact nonneg

theorem recordReceive_balanced (args : RecordReceiveArgs)
    (nonneg : 0 ≤ (LedgerFacade.actualFee args.bankFee).btc.amount) :
    BalancedLegs (LedgerFacade.recordReceive bank args).transactions := by
  refine builder_balanced _ _ _ ?_ _ _ _ rfl (.inl rfl)
  exact nonneg

theorem recordIntraledger_balanced (args : RecordIntraledgerArgs) :
    BalancedLegs (LedgerFacade.recordIntraledger bank args).transactions :=
  builder_balanced _ _ _ le_rfl _ _ _ rfl (.inr (.inr ⟨rfl, rfl⟩))

def Builds (property : Entry → Prop) (built : Except AppError Entry) : Prop :=
  ∀ entry, built = .ok entry → property entry

namespace Builds

variable {property : Entry → Prop}

theorem ofEntry {entry : Entry} (holds : property entry) : Builds property (.ok entry) := by
  rintro _ ⟨⟩
  exact holds

theorem ofError (error : AppError) : Builds property (.error error) := by
  rintro _ ⟨⟩

theorem bind {α : Type} {first : Except AppError α} {rest : α → Except AppError Entry}
    (builds : ∀ value, first = .ok value → Builds property (rest value)) :
    Builds property (first >>= rest) := by
  cases first with
  | error error => exact ofError error
  | ok value => exact builds value rfl

end Builds

def Entry.Balanced (entry : Entry) : Prop := BalancedLegs entry.transactions

theorem netOver_withFee (q : Selection) (builder : LegacyEntryBuilder) (fee : BtcPaymentAmount)
    (nonneg : 0 ≤ fee.amount) :
    netOver q (builder.withFee fee).entry.transactions =
      netOver q builder.entry.transactions +
        if q builder.staticAccountIds.bankOwnerAccountId .btc then (fee.amount : ℚ) else 0 := by
  by_cases positive : fee.amount > 0
  · simp [LegacyEntryBuilder.withFee, positive]
  · have zero : fee.amount = 0 := by omega
    simp [LegacyEntryBuilder.withFee, zero]

section Legacy

variable (builder : LegacyEntryBuilder) (fresh : builder.entry.transactions = [])
  (debited credited : LedgerAccountId) (additional : AdditionalMetadata)

include fresh

theorem btc_credit_balanced (amount fee : BtcPaymentAmount) (nonneg : 0 ≤ fee.amount) :
    BalancedLegs (LegacyEntryBuilderCreditWithBtcDebit.creditAccount
      ((builder.withFee fee).debitAccount debited amount additional) credited).transactions := by
  intro currency
  have first := netOver_withFee (inCurrency currency) builder fee nonneg
  cases currency <;>
    simp_all [LegacyEntryBuilderCreditWithBtcDebit.creditAccount,
      LegacyEntryBuilderDebit.debitAccount, AmountCalculator.sub, LegacyEntryBuilder.withFee]

theorem btc_convert_balanced (amount : BtcPaymentAmount) (usd : UsdPaymentAmount) :
    BalancedLegs (LegacyEntryBuilderCreditWithBtcDebit.creditAccount
      (builder.withoutFee.debitAccount debited amount additional) credited
      (some usd)).transactions := by
  intro currency
  cases currency <;>
    simp [LegacyEntryBuilderCreditWithBtcDebit.creditAccount, addUsdToDealer,
      addBtcToUsdConversionToDealer, LegacyEntryBuilderDebit.debitAccount,
      LegacyEntryBuilder.withoutFee, LegacyEntryBuilder.withFee, zeroSats, fresh]

theorem usd_credit_balanced (amount : UsdPaymentAmount) :
    BalancedLegs (LegacyEntryBuilderCreditWithUsdDebit.creditAccount
      (builder.withoutFee.debitAccount debited amount additional) credited).transactions := by
  intro currency
  cases currency <;>
    simp [LegacyEntryBuilderCreditWithUsdDebit.creditAccount, LegacyEntryBuilderDebit.debitAccount,
      LegacyEntryBuilder.withoutFee, LegacyEntryBuilder.withFee, zeroSats, fresh]

theorem usd_convert_balanced (amount : UsdPaymentAmount) (btc : BtcPaymentAmount) :
    BalancedLegs (LegacyEntryBuilderCreditWithUsdDebit.creditAccount
      (builder.withoutFee.debitAccount debited amount additional) credited
      (some btc)).transactions := by
  intro currency
  cases currency <;>
    simp [LegacyEntryBuilderCreditWithUsdDebit.creditAccount, withdrawUsdFromDealer,
      addUsdToBtcConversionToEntry, LegacyEntryBuilderDebit.debitAccount, AmountCalculator.sub,
      LegacyEntryBuilder.withoutFee, LegacyEntryBuilder.withFee, zeroSats, fresh]

end Legacy

theorem fee_nonneg {fee : ℚ} {feeAmount : BtcPaymentAmount} (charged : fee > 0)
    (converted : paymentAmountFromNumber .btc fee = .ok feeAmount) : 0 ≤ feeAmount.amount := by
  rw [← paymentAmountFromNumber_exact converted] at charged
  exact_mod_cast charged.le

theorem addReceiptNoFee_balanced (args : ReceiptArgs) : Builds Entry.Balanced
    (addReceiptNoFee bank args) := by
  refine .bind fun satsAmount _ => ?_
  cases args.walletCurrency with
  | btc => exact .ofEntry (btc_credit_balanced _ rfl .lnd _ {} _ zeroSats le_rfl)
  | usd =>
    cases args.cents with
    | none => exact .ofError _
    | some cents =>
      exact .bind fun centsAmount _ => .ofEntry (btc_convert_balanced _ rfl .lnd _ {} _ _)

theorem addReceiptFee_balanced (args : ReceiptArgs) (charged : args.fee > 0) :
    Builds Entry.Balanced (addReceiptFee bank args) := by
  unfold addReceiptFee
  dsimp only
  split
  · exact .ofError _
  · refine .bind fun feeAmount converted => .bind fun satsAmount _ => .ofEntry ?_
    exact btc_credit_balanced _ rfl .lnd _ {} _ _ (fee_nonneg charged converted)

theorem addReceipt_balanced (args : ReceiptArgs) : Builds Entry.Balanced
    (addReceipt bank args) := by
  unfold addReceipt
  split
  · rename_i charged
    exact addReceiptFee_balanced bank args charged
  · exact addReceiptNoFee_balanced bank args

theorem addSendNoInternalFee_balanced (args : SendArgs) :
    Builds Entry.Balanced (addSendNoInternalFee bank args) := by
  refine .bind fun satsAmount _ => ?_
  cases args.walletCurrency with
  | btc => exact .ofEntry (btc_credit_balanced _ rfl _ .lnd {} _ zeroSats le_rfl)
  | usd =>
    dsimp only
    split
    · exact .ofError _
    · exact .bind fun centsAmount _ => .ofEntry (usd_convert_balanced _ rfl _ .lnd {} _ _)

theorem addSendInternalFee_balanced (args : SendArgs) (charged : args.fee > 0) :
    Builds Entry.Balanced (addSendInternalFee bank args) := by
  unfold addSendInternalFee
  split
  · exact .ofError _
  · refine .bind fun feeAmount converted => .bind fun satsAmount _ => .ofEntry ?_
    exact btc_credit_balanced _ rfl _ .lnd {} _ _ (fee_nonneg charged converted)

theorem addOnChainTxSend_balanced (args : AddOnChainTxSendArgs) :
    Builds Entry.Balanced (addOnChainTxSend bank args) := by
  unfold addOnChainTxSend
  dsimp only
  split
  · rename_i charged
    exact addSendInternalFee_balanced bank _ charged
  · exact addSendNoInternalFee_balanced bank _

theorem addIntraledgerTxTransfer_balanced (args : IntraledgerTransferArgs) (share : Bool)
    (metadata : TxMetadata) : Builds Entry.Balanced
      (addIntraledgerTxTransfer bank args share metadata) := by
  unfold addIntraledgerTxTransfer
  cases args.senderWalletCurrency <;> cases args.recipientWalletCurrency
  case btc.btc =>
    cases args.sats with
    | none => exact .ofError _
    | some sats =>
      exact .bind fun _ _ => .ofEntry (btc_credit_balanced _ rfl _ _ _ _ zeroSats le_rfl)
  case btc.usd => exact .bind fun _ _ => .ofEntry (btc_convert_balanced _ rfl _ _ _ _ _)
  case usd.btc => exact .bind fun _ _ => .ofEntry (usd_convert_balanced _ rfl _ _ _ _ _)
  case usd.usd =>
    cases args.cents with
    | none => exact .ofError _
    | some cents => exact .bind fun _ _ => .ofEntry (usd_credit_balanced _ rfl _ _ _ _)

theorem addSwapFeeTxSend_balanced (swapResult : SwapResult) (found : Except AppError Unit) :
    Builds Entry.Balanced (addSwapFeeTxSend bank swapResult found) := by
  unfold addSwapFeeTxSend
  split
  · refine .ofEntry fun currency => ?_
    cases currency <;> simp
  · exact .ofError _

theorem updateLndEscrow_balanced (ledgerEscrow amount : ℚ) (entry : Entry)
    (built : LedgerAdmin.updateLndEscrow ledgerEscrow amount = some entry) :
    BalancedLegs entry.transactions := by
  intro currency
  unfold LedgerAdmin.updateLndEscrow at built
  dsimp only at built
  split at built
  · cases built
  · split at built <;> cases built <;> cases currency <;> simp

end Entries

section Book

variable {ledger : Ledger}

theorem commit_balanced (balanced : ledger.Balanced) (run : RunId) (clock : Nat) {entry : Entry}
    (entryBalanced : BalancedLegs entry.transactions) :
    (ledger.commit run clock entry).Balanced := by
  intro journal member
  simp only [Ledger.commit, List.mem_append, List.mem_singleton] at member
  rcases member with old | rfl
  · exact balanced journal old
  · exact entryBalanced

theorem void_balanced (balanced : ledger.Balanced) {run : RunId} {clock : Nat}
    {id : LedgerJournalId} {reason : String} {after : Ledger}
    (voided : ledger.void run clock id reason = some after) :
    after.Balanced := by
  obtain ⟨original, found, _, _, journals⟩ := Ledger.void_inversion voided
  intro journal member
  simp only [journals, List.mem_append, List.mem_map, List.mem_singleton] at member
  rcases member with ⟨old, there, rfl⟩ | rfl
  · unfold Journal.markVoided
    split <;> exact balanced old there
  · intro currency
    simp [balanced original (Ledger.journal?_mem found) currency]

theorem settlePending_balanced (balanced : ledger.Balanced) (run : RunId) (hash : PaymentHash) :
    (ledger.settlePending run hash).Balanced := by
  intro journal member
  obtain ⟨old, there, rfl⟩ := List.mem_map.mp member
  intro currency
  simp [Journal.settleFor, balanced old there currency]

theorem revertOnChainPayment_balanced (balanced : ledger.Balanced) (run : RunId) (clock : Nat)
    (id : LedgerJournalId) (description : String) :
    (ledger.revertOnChainPayment run clock id description).2.Balanced := by
  have settled : (ledger.settleJournal id).Balanced := by
    intro journal member
    obtain ⟨old, there, rfl⟩ := List.mem_map.mp member
    intro currency
    have before := balanced old there currency
    split
    · simpa using before
    · exact before
  unfold Ledger.revertOnChainPayment
  dsimp only
  split
  · rename_i reverted voided
    exact void_balanced settled voided
  · exact settled

variable (bank : BankWallets)

theorem commitOk_balanced (balanced : ledger.Balanced) (request : WriteRequest)
    {built : Except AppError Entry} (builds : Builds Entry.Balanced built) :
    (request.commitOk ledger built).Balanced := by
  cases built with
  | error error => exact balanced
  | ok entry => exact commit_balanced balanced _ _ (builds entry rfl)

theorem voidOk_balanced (balanced : ledger.Balanced) (request : WriteRequest)
    (id : LedgerJournalId) :
    (request.voidOk ledger id).Balanced := by
  unfold WriteRequest.voidOk
  cases voided : ledger.void request.run request.clock id "Payment canceled" with
  | none => exact balanced
  | some after => exact void_balanced balanced voided

theorem perform_balanced (balanced : ledger.Balanced) (request : WriteRequest)
    (nonneg : request.write.feesNonnegative) : (request.perform bank ledger).Balanced := by
  rcases request with ⟨run, clock, write⟩
  cases write with
  | recordSend args =>
    exact commitOk_balanced balanced _ (.ofEntry (recordSend_balanced bank args nonneg))
  | recordReceive args =>
    exact commitOk_balanced balanced _ (.ofEntry (recordReceive_balanced bank args nonneg))
  | recordIntraledger args =>
    exact commitOk_balanced balanced _ (.ofEntry (recordIntraledger_balanced bank args))
  | recordLnSendRevert id => exact voidOk_balanced balanced _ id
  | revertLightningPayment id => exact voidOk_balanced balanced _ id
  | revertOnChainPayment id description => exact revertOnChainPayment_balanced balanced _ _ _ _
  | settlePending hash => exact settlePending_balanced balanced _ hash
  | addOnChainTxSend args =>
    exact commitOk_balanced balanced _ (addOnChainTxSend_balanced bank args)
  | addOnChainTxReceive args => exact commitOk_balanced balanced _ (addReceipt_balanced bank _)
  | addLnTxReceive args => exact commitOk_balanced balanced _ (addReceipt_balanced bank _)
  | addLnFeeReimbursementReceive args =>
    exact commitOk_balanced balanced _ (addReceiptNoFee_balanced bank _)
  | addOnChainIntraledgerTxTransfer args display payeeAddresses sendAll =>
    exact commitOk_balanced balanced _ (addIntraledgerTxTransfer_balanced bank _ _ _)
  | addWalletIdIntraledgerTxTransfer args display =>
    exact commitOk_balanced balanced _ (addIntraledgerTxTransfer_balanced bank _ _ _)
  | addLnIntraledgerTxTransfer args paymentHash pubkey display =>
    exact commitOk_balanced balanced _ (addIntraledgerTxTransfer_balanced bank _ _ _)
  | addColdStorageTxReceive args =>
    refine commitOk_balanced balanced _ (.ofEntry fun currency => ?_)
    cases currency <;> simp [addColdStorageTxReceive]
  | addColdStorageTxSend args =>
    refine commitOk_balanced balanced _ (.ofEntry fun currency => ?_)
    cases currency <;> simp [addColdStorageTxSend]
  | addSwapFeeTxSend swapResult found =>
    exact commitOk_balanced balanced _ (addSwapFeeTxSend_balanced bank swapResult found)
  | updateLndEscrow amount =>
    unfold WriteRequest.perform
    dsimp only
    split
    · rename_i entry built
      exact commitOk_balanced balanced _ (.ofEntry (updateLndEscrow_balanced _ _ entry built))
    · exact balanced
  | addLndChannelOpeningOrClosingFee description fee txid =>
    refine commitOk_balanced balanced _ (.ofEntry fun currency => ?_)
    cases currency <;> simp [addLndChannelOpeningOrClosingFee]
  | addLndRoutingRevenue amount collectedOn =>
    refine commitOk_balanced balanced _ (.ofEntry fun currency => ?_)
    cases currency <;> simp [addLndRoutingRevenue]

theorem performAll_balanced (balanced : ledger.Balanced) (requests : List WriteRequest)
    (nonneg : ∀ request ∈ requests, request.write.feesNonnegative) :
    (performAll bank ledger requests).Balanced := by
  induction requests generalizing ledger with
  | nil => exact balanced
  | cons request requests ih =>
    exact ih (perform_balanced bank balanced request (nonneg request (by simp)))
      fun later member => nonneg later (by simp [member])

theorem net_of_balanced (balanced : ledger.Balanced) (currency : WalletCurrency) :
    netOver (inCurrency currency) ledger.legs = 0 :=
  netOver_flatMap_zero _ _ _ fun journal member => balanced journal member currency

theorem credit_sub_debit (legs : List Leg) (currency : WalletCurrency) :
    netOver (inCurrency currency) legs =
      ((legs.filter (·.currency = currency)).map (·.credit)).sum -
        ((legs.filter (·.currency = currency)).map (·.debit)).sum := by
  induction legs with
  | nil => simp
  | cons leg legs ih =>
    by_cases same : leg.currency = currency <;> simp [netOver_cons, ih, same, Leg.net]
    ring

theorem main_accounts_split (legs : List Leg) (currency : WalletCurrency) :
    netOver (inCurrency currency) legs =
      netOver (fun a c => a.mainAccount = .assets && c = currency) legs +
        netOver (fun a c => a.mainAccount = .liabilities && c = currency) legs := by
  induction legs with
  | nil => simp
  | cons leg legs ih =>
    cases main : leg.account.mainAccount <;>
      simp [netOver_cons, ih, main] <;> ring

theorem ledger_conserves_each_currency (requests : List WriteRequest)
    (nonneg : ∀ request ∈ requests, request.write.feesNonnegative) (currency : WalletCurrency) :
    (performAll bank {} requests).totalDebit currency =
        (performAll bank {} requests).totalCredit currency ∧
      (performAll bank {} requests).getAssetsBalance currency +
        (performAll bank {} requests).getLiabilitiesBalance currency = 0 := by
  have start : Ledger.Balanced {} := by
    intro journal member
    cases member
  have net := net_of_balanced (performAll_balanced bank start requests nonneg) currency
  constructor
  · rw [credit_sub_debit] at net
    exact (sub_eq_zero.mp net).symm
  · rw [main_accounts_split] at net
    simpa [Ledger.getAssetsBalance, Ledger.getLiabilitiesBalance, Ledger.mainBalance_eq_netOver]
      using net

end Book

def usdSendAndRevert : List WriteRequest :=
  [ ⟨0, 0, .recordSend
      { description := "usd send"
        senderWalletDescriptor := ⟨"alice", .usd, "aliceAccount"⟩
        amountToDebitSender := ⟨⟨1003⟩, ⟨21⟩⟩
        bankFee := some ⟨⟨3⟩, ⟨1⟩⟩
        metadata := { type := .payment, pending := true, hash := some "h" } }⟩,
    ⟨0, 1, .recordLnSendRevert 0⟩ ]

theorem ledger_conserves_usd_send_and_revert :
    (∀ request ∈ usdSendAndRevert, request.write.feesNonnegative) ∧
      ((performAll exampleBank {} usdSendAndRevert).totalDebit .usd =
          (performAll exampleBank {} usdSendAndRevert).totalCredit .usd ∧
        (performAll exampleBank {} usdSendAndRevert).getAssetsBalance .usd +
          (performAll exampleBank {} usdSendAndRevert).getLiabilitiesBalance .usd = 0) := by
  have nonneg : ∀ request ∈ usdSendAndRevert, request.write.feesNonnegative := by
    simp [usdSendAndRevert, LedgerWrite.feesNonnegative, LedgerFacade.actualFee]
  exact ⟨nonneg, ledger_conserves_each_currency exampleBank usdSendAndRevert nonneg .usd⟩

end Galoy
