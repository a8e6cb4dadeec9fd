import Galoy.App.World
import Galoy.Ledger.Journals
import Galoy.Ledger.Operations
import Mathlib.Algebra.Ring.Subring.Basic

set_option autoImplicit false

namespace Galoy

open Interleave LedgerService LedgerAdmin AmountCalculator Operations

def wholeAmounts : Subring ℚ := (Int.castRingHom ℚ).range

theorem mem_wholeAmounts {amount : ℚ} : amount ∈ wholeAmounts ↔ (⌊amount⌋ : ℚ) = amount := by
  constructor
  · rintro ⟨n, rfl⟩
    simp
  · intro exact
    exact ⟨⌊amount⌋, exact⟩

@[simp] theorem int_whole (n : Int) : (n : ℚ) ∈ wholeAmounts := intCast_mem wholeAmounts n

@[simp] theorem nat_whole (n : Nat) : (n : ℚ) ∈ wholeAmounts := natCast_mem wholeAmounts n

theorem millisats_whole_iff (millisats : Nat) : (millisats : ℚ) / 1000 ∈ wholeAmounts ↔
    1000 ∣ millisats := by
  constructor
  · rintro ⟨sats, same⟩
    have scaled : (millisats : ℚ) = ((sats * 1000 : Int) : ℚ) := by
      rw [eq_div_iff (by norm_num)] at same
      push_cast
      exact same.symm
    have equal : (millisats : Int) = sats * 1000 := by exact_mod_cast scaled
    omega
  · rintro ⟨sats, rfl⟩
    simp

def Leg.Whole (leg : Leg) : Prop := leg.debit ∈ wholeAmounts ∧ leg.credit ∈ wholeAmounts

def WholeLegs (legs : List Leg) : Prop := ∀ leg ∈ legs, leg.Whole

def Entry.Whole (entry : Entry) : Prop := WholeLegs entry.transactions

def Ledger.Whole (ledger : Ledger) : Prop := WholeLegs ledger.legs

section Legs

@[simp] theorem wholeLegs_nil : WholeLegs [] := by simp [WholeLegs]

@[simp] theorem wholeLegs_append {first second : List Leg} :
    WholeLegs (first ++ second) ↔ WholeLegs first ∧ WholeLegs second := by
  simp [WholeLegs, or_imp, forall_and]

@[simp] theorem wholeLegs_singleton {leg : Leg} : WholeLegs [leg] ↔ leg.Whole := by
  simp [WholeLegs]

theorem wholeLegs_map {change : Leg → Leg} (kept : ∀ leg, (change leg).Whole ↔ leg.Whole)
    (legs : List Leg) :
    WholeLegs (legs.map change) ↔ WholeLegs legs := by
  simp [WholeLegs, kept]

theorem settle_whole (leg : Leg) : leg.settle.Whole ↔ leg.Whole := Iff.rfl

theorem settleFor_whole (hash : PaymentHash) (leg : Leg) : (leg.settleFor hash).Whole ↔
    leg.Whole := by
  unfold Leg.settleFor
  split <;> rfl

theorem reversed_whole (leg : Leg) : leg.reversed.Whole ↔ leg.Whole := and_comm

theorem netOver_whole (q : Selection) {legs : List Leg} (whole : WholeLegs legs) :
    netOver q legs ∈ wholeAmounts := by
  refine list_sum_mem fun amount member => ?_
  obtain ⟨leg, selected, rfl⟩ := List.mem_map.mp member
  obtain ⟨debit, credit⟩ := whole leg (List.mem_of_mem_filter selected)
  exact sub_mem credit debit

end Legs

section Entries

variable {entry : Entry} {account : LedgerAccountId} {amount : ℚ} {currency : WalletCurrency}
  {metadata : TxMetadata}

@[simp] theorem fresh_whole (description : String) : Entry.Whole { description } := wholeLegs_nil

@[simp] theorem credit_whole_iff :
    (entry.credit account amount currency metadata).Whole ↔
      entry.Whole ∧ amount ∈ wholeAmounts := by
  simp [Entry.Whole, Entry.credit, Leg.Whole, zero_mem]

@[simp] theorem debit_whole_iff :
    (entry.debit account amount currency metadata).Whole ↔ entry.Whole ∧ amount ∈ wholeAmounts := by
  simp [Entry.Whole, Entry.debit, Leg.Whole, zero_mem]

theorem removeZeroAmountEntries_whole (whole : entry.Whole) : entry.removeZeroAmountEntries.Whole :=
  fun leg member => whole leg (List.mem_of_mem_filter member)

@[simp] theorem addBtcToUsd_whole_iff (ids : StaticAccountIds) (btc : BtcPaymentAmount)
    (usd : UsdPaymentAmount) :
    (addBtcToUsdConversionToDealer ids entry metadata btc usd).Whole ↔ entry.Whole := by
  simp [addBtcToUsdConversionToDealer]

@[simp] theorem addUsdToBtc_whole_iff (ids : StaticAccountIds) (btc : BtcPaymentAmount)
    (usd : UsdPaymentAmount) :
    (addUsdToBtcConversionToEntry ids entry metadata btc usd).Whole ↔ entry.Whole := by
  simp [addUsdToBtcConversionToEntry]

end Entries

section Builder

theorem withBankFee_whole (builder : EntryBuilderFee) (fee : BankFee)
    (whole : builder.entry.Whole) :
    (builder.withBankFee fee).entry.Whole := by
  unfold EntryBuilderFee.withBankFee
  dsimp only
  split <;> simp [whole]

theorem debitAccount_whole (builder : EntryBuilderDebit) (debited : LedgerAccountDescriptor)
    (additional : AdditionalMetadata) (whole : builder.entry.Whole) :
    (builder.debitAccount debited additional).entry.Whole := by
  unfold EntryBuilderDebit.debitAccount
  cases debited.currency <;> simp [whole]

theorem withConversion_whole (builder : EntryBuilderCredit) (creditCurrency : WalletCurrency)
    (whole : builder.entry.Whole) : (builder.withConversion creditCurrency).Whole := by
  unfold EntryBuilderCredit.withConversion
  cases builder.debitCurrency <;> cases creditCurrency <;> dsimp only
  case usd.usd => split <;> simp [whole]
  all_goals simp [whole]

theorem creditAccount_whole (builder : EntryBuilderCredit) (credited : LedgerAccountDescriptor)
    (whole : builder.entry.Whole) : (builder.creditAccount credited).Whole := by
  have converted := withConversion_whole builder credited.currency whole
  unfold EntryBuilderCredit.creditAccount
  refine removeZeroAmountEntries_whole ?_
  cases currency : credited.currency <;> rw [currency] at converted <;> simp [converted]

theorem builder_whole (builder : EntryBuilder) (total : AmountWithFees) (fee : BankFee)
    (debited credited : LedgerAccountDescriptor) (additional : AdditionalMetadata)
    (whole : builder.entry.Whole) :
    ((((builder.withTotalAmount total).withBankFee fee).debitAccount debited
      additional).creditAccount credited).Whole :=
  creditAccount_whole _ _ (debitAccount_whole _ _ _ (withBankFee_whole _ _ whole))

end Builder

section Legacy

theorem withFee_whole (builder : LegacyEntryBuilder) (fee : BtcPaymentAmount)
    (whole : builder.entry.Whole) :
    (builder.withFee fee).entry.Whole := by
  unfold LegacyEntryBuilder.withFee
  dsimp only
  split <;> simp [whole]

theorem btcDebit_credit_whole (builder : LegacyEntryBuilderCredit .btc) (credited : LedgerAccountId)
    (amount : Option UsdPaymentAmount) (whole : builder.entry.Whole) :
    (LegacyEntryBuilderCreditWithBtcDebit.creditAccount builder credited amount).Whole := by
  unfold LegacyEntryBuilderCreditWithBtcDebit.creditAccount
  cases amount <;> exact removeZeroAmountEntries_whole (by simp [addUsdToDealer, whole])

theorem usdDebit_credit_whole (builder : LegacyEntryBuilderCredit .usd) (credited : LedgerAccountId)
    (amount : Option BtcPaymentAmount) (whole : builder.entry.Whole) :
    (LegacyEntryBuilderCreditWithUsdDebit.creditAccount builder credited amount).Whole := by
  unfold LegacyEntryBuilderCreditWithUsdDebit.creditAccount
  cases amount <;> exact removeZeroAmountEntries_whole (by simp [withdrawUsdFromDealer, whole])

variable (bank : BankWallets) (description : String) (metadata : TxMetadata)
  (fee : BtcPaymentAmount) (additional : AdditionalMetadata)

theorem legacy_debit_whole {currency : WalletCurrency} (debited : LedgerAccountId)
    (amount : Amount currency) :
    (((legacyEntryBuilder bank description metadata).withFee fee).debitAccount debited amount
      additional).entry.Whole := by
  have charged := withFee_whole (legacyEntryBuilder bank description metadata) fee
    (fresh_whole description)
  simp [LegacyEntryBuilderDebit.debitAccount, charged]

theorem addReceiptNoFee_whole (args : ReceiptArgs) : Builds Entry.Whole
    (addReceiptNoFee bank args) := by
  refine .bind fun satsAmount _ => ?_
  have debited := legacy_debit_whole bank args.description args.metadata zeroSats {} .lnd satsAmount
  cases args.walletCurrency with
  | btc => exact .ofEntry (btcDebit_credit_whole _ _ none debited)
  | usd =>
    cases args.cents with
    | none => exact .ofError _
    | some cents =>
      exact .bind fun centsAmount _ => .ofEntry (btcDebit_credit_whole _ _ (some _) debited)

theorem addReceiptFee_whole (args : ReceiptArgs) : Builds Entry.Whole
    (addReceiptFee bank args) := by
  unfold addReceiptFee
  dsimp only
  split
  · exact .ofError _
  · refine .bind fun feeAmount _ => .bind fun satsAmount _ => .ofEntry ?_
    exact btcDebit_credit_whole _ _ none (legacy_debit_whole _ _ _ _ {} .lnd _)

theorem addReceipt_whole (args : ReceiptArgs) : Builds Entry.Whole (addReceipt bank args) := by
  unfold addReceipt
  split
  · exact addReceiptFee_whole bank args
  · exact addReceiptNoFee_whole bank args

theorem addSendNoInternalFee_whole (args : SendArgs) : Builds Entry.Whole
    (addSendNoInternalFee bank args) := by
  refine .bind fun satsAmount _ => ?_
  cases args.walletCurrency with
  | btc =>
    exact .ofEntry (btcDebit_credit_whole _ .lnd none (legacy_debit_whole _ _ _ zeroSats {} _ _))
  | usd =>
    dsimp only
    split
    · exact .ofError _
    · refine .bind fun centsAmount _ => .ofEntry ?_
      exact usdDebit_credit_whole _ .lnd (some _) (legacy_debit_whole _ _ _ zeroSats {} _ _)

theorem addSendInternalFee_whole (args : SendArgs) : Builds Entry.Whole
    (addSendInternalFee bank args) := by
  unfold addSendInternalFee
  split
  · exact .ofError _
  · refine .bind fun feeAmount _ => .bind fun satsAmount _ => .ofEntry ?_
    exact btcDebit_credit_whole _ .lnd none (legacy_debit_whole _ _ _ _ {} _ _)

theorem addOnChainTxSend_whole (args : AddOnChainTxSendArgs) :
    Builds Entry.Whole (addOnChainTxSend bank args) := by
  unfold addOnChainTxSend
  dsimp only
  split
  · exact addSendInternalFee_whole bank _
  · exact addSendNoInternalFee_whole bank _

theorem addIntraledgerTxTransfer_whole (args : IntraledgerTransferArgs) (share : Bool) :
    Builds Entry.Whole (addIntraledgerTxTransfer bank args share metadata) := by
  unfold addIntraledgerTxTransfer
  cases args.senderWalletCurrency <;> cases args.recipientWalletCurrency
  case btc.btc =>
    cases args.sats with
    | none => exact .ofError _
    | some sats =>
      exact .bind fun _ _ =>
        .ofEntry (btcDebit_credit_whole _ _ none (legacy_debit_whole _ _ _ zeroSats _ _ _))
  case btc.usd =>
    exact .bind fun _ _ =>
      .ofEntry (btcDebit_credit_whole _ _ (some _) (legacy_debit_whole _ _ _ zeroSats _ _ _))
  case usd.btc =>
    exact .bind fun _ _ =>
      .ofEntry (usdDebit_credit_whole _ _ (some _) (legacy_debit_whole _ _ _ zeroSats _ _ _))
  case usd.usd =>
    cases args.cents with
    | none => exact .ofError _
    | some cents =>
      exact .bind fun _ _ =>
        .ofEntry (usdDebit_credit_whole _ _ none (legacy_debit_whole _ _ _ zeroSats _ _ _))

end Legacy

section Admin

variable (bank : BankWallets)

theorem addColdStorageTxReceive_whole (args : ColdStorageArgs) (sats : args.sats ∈ wholeAmounts)
    (fee : args.fee ∈ wholeAmounts) : (addColdStorageTxReceive bank args).Whole := by
  simp [addColdStorageTxReceive, sats, fee, add_mem]

theorem addColdStorageTxSend_whole (args : ColdStorageArgs) (sats : args.sats ∈ wholeAmounts)
    (fee : args.fee ∈ wholeAmounts) : (addColdStorageTxSend bank args).Whole := by
  simp [addColdStorageTxSend, sats, fee, add_mem]

theorem addSwapFeeTxSend_whole (swapResult : SwapResult) (found : Except AppError Unit)
    (miner : swapResult.onchainMinerFee ∈ wholeAmounts)
    (routing : swapResult.offchainRoutingFee ∈ wholeAmounts)
    (provider : swapResult.serviceProviderFee ∈ wholeAmounts) :
    Builds Entry.Whole (LedgerAdmin.addSwapFeeTxSend bank swapResult found) := by
  unfold LedgerAdmin.addSwapFeeTxSend
  split
  · have total := add_mem (add_mem routing miner) provider
    refine .ofEntry ?_
    simp [total]
  · exact .ofError _

theorem updateLndEscrow_whole {ledgerEscrow amount : ℚ} (escrow : ledgerEscrow ∈ wholeAmounts)
    (whole : amount ∈ wholeAmounts) {entry : Entry}
    (built : LedgerAdmin.updateLndEscrow ledgerEscrow amount = some entry) : entry.Whole := by
  have diff := add_mem whole escrow
  unfold LedgerAdmin.updateLndEscrow at built
  dsimp only at built
  split at built
  · cases built
  · split at built <;> cases built
    · simp [diff]
    · simp only [debit_whole_iff, credit_whole_iff, neg_mem_iff]
      exact ⟨⟨fresh_whole _, diff⟩, diff⟩

theorem addLndChannelOpeningOrClosingFee_whole (description : String) {fee : ℚ}
    (txid : OnChainTxHash) (whole : fee ∈ wholeAmounts) :
    (addLndChannelOpeningOrClosingFee bank description fee txid).Whole := by
  simp [addLndChannelOpeningOrClosingFee, whole]

theorem addLndRoutingRevenue_whole_iff (amount : ℚ) (collectedOn : String) :
    (addLndRoutingRevenue bank amount collectedOn).Whole ↔ amount ∈ wholeAmounts := by
  simp [addLndRoutingRevenue]

end Admin

section Book

variable {ledger : Ledger}

theorem commit_whole_iff (run : RunId) (clock : Nat) (entry : Entry) :
    (ledger.commit run clock entry).Whole ↔ ledger.Whole ∧ entry.Whole := by
  simp [Ledger.Whole, Entry.Whole]

theorem void_whole_iff {run : RunId} {clock : Nat} {id : LedgerJournalId} {reason : String}
    {after : Ledger} (voided : ledger.void run clock id reason = some after) :
    after.Whole ↔ ledger.Whole := by
  obtain ⟨original, found, legs⟩ := Ledger.legs_void voided
  rw [Ledger.Whole, legs, wholeLegs_append, wholeLegs_map reversed_whole]
  refine and_iff_left_of_imp fun whole leg member => ?_
  exact whole leg (Ledger.mem_legs.mpr ⟨original, Ledger.journal?_mem found, member⟩)

theorem settlePending_whole_iff (run : RunId) (hash : PaymentHash) :
    (ledger.settlePending run hash).Whole ↔ ledger.Whole := by
  simp [Ledger.Whole, wholeLegs_map (settleFor_whole hash)]

theorem whole_iff_journals : ledger.Whole ↔ ∀ journal ∈ ledger.journals,
    WholeLegs journal.legs := by
  simp only [Ledger.Whole, WholeLegs, Ledger.mem_legs]
  grind

theorem settleJournal_whole_iff (id : LedgerJournalId) : (ledger.settleJournal id).Whole ↔
    ledger.Whole := by
  simp only [whole_iff_journals, Ledger.settleJournal, List.forall_mem_map]
  refine forall₂_congr fun journal _ => ?_
  split
  · exact wholeLegs_map settle_whole _
  · rfl

theorem revertOnChainPayment_whole_iff (run : RunId) (clock : Nat) (id : LedgerJournalId)
    (description : String) :
    (ledger.revertOnChainPayment run clock id description).2.Whole ↔ ledger.Whole := by
  unfold Ledger.revertOnChainPayment
  dsimp only
  split
  · rename_i reverted voided
    rw [void_whole_iff voided, settleJournal_whole_iff]
  · exact settleJournal_whole_iff id

theorem commitOk_whole_iff (request : WriteRequest) {built : Except AppError Entry}
    (builds : ledger.Whole → Builds Entry.Whole built) :
    (request.commitOk ledger built).Whole ↔ ledger.Whole := by
  cases built with
  | error error => rfl
  | ok entry =>
    refine (commit_whole_iff _ _ _).trans (and_iff_left_of_imp fun whole => ?_)
    exact builds whole entry rfl

theorem voidOk_whole_iff (request : WriteRequest) (id : LedgerJournalId) :
    (request.voidOk ledger id).Whole ↔ ledger.Whole := by
  unfold WriteRequest.voidOk
  cases voided : ledger.void request.run request.clock id "Payment canceled" with
  | none => rfl
  | some after => exact void_whole_iff voided

end Book

def LedgerWrite.TakesWhole : LedgerWrite → Prop
  | .addColdStorageTxReceive args | .addColdStorageTxSend args =>
    args.sats ∈ wholeAmounts ∧ args.fee ∈ wholeAmounts
  | .addSwapFeeTxSend swapResult _ =>
    swapResult.onchainMinerFee ∈ wholeAmounts ∧ swapResult.offchainRoutingFee ∈ wholeAmounts ∧
      swapResult.serviceProviderFee ∈ wholeAmounts
  | .updateLndEscrow amount => amount ∈ wholeAmounts
  | .addLndChannelOpeningOrClosingFee _ fee _ => fee ∈ wholeAmounts
  | .addLndRoutingRevenue amount _ => amount ∈ wholeAmounts
  | _ => True

section Writes

variable (bank : BankWallets)

theorem perform_whole_iff {ledger : Ledger} (request : WriteRequest)
    (takes : request.write.TakesWhole) :
    (request.perform bank ledger).Whole ↔ ledger.Whole := by
  rcases request with ⟨run, clock, write⟩
  cases write with
  | recordSend args =>
    exact commitOk_whole_iff _ fun _ => .ofEntry (builder_whole _ _ _ _ _ _ (fresh_whole _))
  | recordReceive args =>
    exact commitOk_whole_iff _ fun _ => .ofEntry (builder_whole _ _ _ _ _ _ (fresh_whole _))
  | recordIntraledger args =>
    exact commitOk_whole_iff _ fun _ => .ofEntry (builder_whole _ _ _ _ _ _ (fresh_whole _))
  | recordLnSendRevert id => exact voidOk_whole_iff _ id
  | revertLightningPayment id => exact voidOk_whole_iff _ id
  | revertOnChainPayment id description => exact revertOnChainPayment_whole_iff _ _ _ _
  | settlePending hash => exact settlePending_whole_iff _ hash
  | addOnChainTxSend args => exact commitOk_whole_iff _ fun _ => addOnChainTxSend_whole bank args
  | addOnChainTxReceive args => exact commitOk_whole_iff _ fun _ => addReceipt_whole bank _
  | addLnTxReceive args => exact commitOk_whole_iff _ fun _ => addReceipt_whole bank _
  | addLnFeeReimbursementReceive args =>
    exact commitOk_whole_iff _ fun _ => addReceiptNoFee_whole bank _
  | addOnChainIntraledgerTxTransfer args display payeeAddresses sendAll =>
    exact commitOk_whole_iff _ fun _ => addIntraledgerTxTransfer_whole bank _ _ _
  | addWalletIdIntraledgerTxTransfer args display =>
    exact commitOk_whole_iff _ fun _ => addIntraledgerTxTransfer_whole bank _ _ _
  | addLnIntraledgerTxTransfer args paymentHash pubkey display =>
    exact commitOk_whole_iff _ fun _ => addIntraledgerTxTransfer_whole bank _ _ _
  | addColdStorageTxReceive args =>
    exact commitOk_whole_iff _ fun _ =>
      .ofEntry (addColdStorageTxReceive_whole bank args takes.1 takes.2)
  | addColdStorageTxSend args =>
    exact commitOk_whole_iff _ fun _ =>
      .ofEntry (addColdStorageTxSend_whole bank args takes.1 takes.2)
  | addSwapFeeTxSend swapResult found =>
    exact commitOk_whole_iff _ fun _ => addSwapFeeTxSend_whole bank swapResult found takes.1
      takes.2.1 takes.2.2
  | updateLndEscrow amount =>
    unfold WriteRequest.perform
    dsimp only
    split
    · rename_i entry built
      refine commitOk_whole_iff _ fun whole => .ofEntry ?_
      exact updateLndEscrow_whole (netOver_whole _ whole) takes built
    · rfl
  | addLndChannelOpeningOrClosingFee description fee txid =>
    exact commitOk_whole_iff _ fun _ =>
      .ofEntry (addLndChannelOpeningOrClosingFee_whole bank description txid takes)
  | addLndRoutingRevenue amount collectedOn =>
    exact commitOk_whole_iff _ fun _ =>
      .ofEntry ((addLndRoutingRevenue_whole_iff bank amount collectedOn).mpr takes)

theorem takesWhole_of_converts {write : LedgerWrite} (converts : write.convertsAmounts = true) :
    write.TakesWhole := by
  cases write <;> trivial

theorem rebalance_takesWhole {config : RebalanceCheckerConfig} {services : RebalanceServices}
    {write : LedgerWrite} (rebalanced : rebalanceToColdWallet config services = .ok (some write)) :
    write.TakesWhole := by
  unfold rebalanceToColdWallet at rebalanced
  obtain ⟨_, _, rest⟩ := bind_eq_ok rebalanced
  obtain ⟨_, _, rest⟩ := bind_eq_ok rest
  obtain ⟨_, _, rest⟩ := bind_eq_ok rest
  obtain ⟨displayCurrencyPerSat, _, rest⟩ := bind_eq_ok rest
  obtain ⟨onChainBalance, _, rest⟩ := bind_eq_ok rest
  obtain ⟨offChainBalance, _, rest⟩ := bind_eq_ok rest
  dsimp only at rest
  split at rest
  · cases rest
  · obtain ⟨address, _, rest⟩ := bind_eq_ok rest
    obtain ⟨txHash, _, built⟩ := bind_eq_ok rest
    cases built
    exact ⟨int_whole _, nat_whole _⟩

theorem onChannelUpdated_takesWhole {scanDepth : Nat} {channel : ChannelEvent}
    {stateChange : StateChange} {getWalletInfo : Except AppError Nat}
    {getChainTransactions : Nat → Except AppError (List ChainTransaction)} {write : LedgerWrite}
    (updated : onChannelUpdated scanDepth channel stateChange getWalletInfo getChainTransactions =
      .ok (some write)) : write.TakesWhole := by
  unfold onChannelUpdated at updated
  split at updated
  · cases updated
  · split at updated
    · cases updated
    · obtain ⟨currentBlockHeight, _, rest⟩ := bind_eq_ok updated
      obtain ⟨transactions, _, rest⟩ := bind_eq_ok rest
      split at rest
      · cases rest
      · cases rest
        exact nat_whole _

theorem ok_of_join {result : Except AppError (Option LedgerWrite)} {write : LedgerWrite}
    (writes : result.toOption.join = some write) : result = .ok (some write) := by
  cases result with
  | error error => cases writes
  | ok found => exact congrArg Except.ok writes

theorem write_takesWhole {operation : Operation} {write : LedgerWrite}
    (writes : operation.write = some write) :
    write.TakesWhole := by
  cases operation with
  | converted converted converts =>
    cases writes
    exact takesWhole_of_converts converts
  | rebalanceToColdWallet config services => exact rebalance_takesWhole (ok_of_join writes)
  | depositToHotWallet tx fee displayCurrencyPerSat sats address =>
    cases writes
    exact ⟨nat_whole _, nat_whole _⟩
  | addSwapFeeTxSend swapResult found =>
    cases writes
    exact ⟨int_whole _, int_whole _, int_whole _⟩
  | updateEscrows getActiveLnd getChannels =>
    cases getActiveLnd with
    | error error => cases writes
    | ok _ =>
      cases getChannels with
      | error error => cases writes
      | ok channels =>
        cases writes
        exact nat_whole _
  | onChannelUpdated scanDepth channel stateChange getWalletInfo getChainTransactions =>
    exact onChannelUpdated_takesWhole (ok_of_join writes)
  | updateRoutingRevenues lnd faults now => cases writes

end Writes

namespace Routing

def dateGroupedForwards (page : Page) : List (String × List Forward) :=
  Grouping.groupBy Forward.date page.fetch

def totalMtokens (forwards : List Forward) : Nat := (forwards.map (·.feeMtokens)).sum

def WholeDays (lnd : Lnd) (faults : Faults) (now : Int) (w : World) : Prop :=
  Records faults now w →
    ∀ group ∈ dateGroupedForwards (lnd.getForwards (w.interval now)),
      faults.addLndRoutingRevenue group.1 = none → 1000 ∣ totalMtokens group.2

theorem feeMtokens_eq (forwards : List Forward) : feeMtokens forwards = totalMtokens forwards := by
  rw [feeMtokens, totalMtokens]
  refine Eq.trans ?_ (map_list_sum (Nat.castRingHom ℚ) _).symm
  rw [List.map_map]
  rfl

theorem recordRevenues_whole_iff (bank : BankWallets) (faults : Faults) (now : Int)
    (ledger : Ledger) (revenues : List (String × ℚ)) :
    (recordRevenues bank faults now ledger revenues).Whole ↔
      ledger.Whole ∧ ∀ revenue ∈ revenues, faults.addLndRoutingRevenue revenue.1 = none →
        revenue.2 ∈ wholeAmounts := by
  unfold recordRevenues
  induction revenues generalizing ledger with
  | nil => simp
  | cons revenue rest ih =>
    rw [List.foldl_cons, ih, List.forall_mem_cons]
    cases failed : faults.addLndRoutingRevenue revenue.1 with
    | some error => simp
    | none =>
      rw [commit_whole_iff, addLndRoutingRevenue_whole_iff, and_assoc]
      simp

theorem updateRoutingRevenues_whole_iff (lnd : Lnd) (bank : BankWallets) (faults : Faults)
    (now : Int) (w : World) :
    (updateRoutingRevenues lnd bank faults now w).2.ledger.Whole ↔
      w.ledger.Whole ∧ WholeDays lnd faults now w := by
  by_cases records : Records faults now w
  · rw [step_ledger lnd bank records, recordRevenues_whole_iff]
    refine and_congr_right fun _ => ?_
    simp only [WholeDays, records, true_imp_iff]
    rw [getRoutingFees, List.forall_mem_map]
    refine forall₂_congr fun group _ => ?_
    rw [feeMtokens_eq, millisats_whole_iff]
  · rw [step_ledger_unchanged lnd bank records]
    exact (and_iff_left fun reached => absurd reached records).symm

end Routing

section Runs

def Operation.WholeDays (w : Routing.World) : Operation → Prop
  | .updateRoutingRevenues lnd faults now => Routing.WholeDays lnd faults now w
  | _ => True

def WholeDays (bank : BankWallets) : Routing.World → List OperationCall → Prop
  | _, [] => True
  | w, call :: rest => call.operation.WholeDays w ∧ WholeDays bank (call.perform bank w) rest

variable (bank : BankWallets)

theorem performWrite_whole_iff (w : Routing.World) (call : OperationCall) :
    (call.performWrite bank w).ledger.Whole ↔ w.ledger.Whole := by
  unfold OperationCall.performWrite
  cases writes : call.operation.write with
  | none => rfl
  | some write => exact perform_whole_iff bank _ (write_takesWhole writes)

theorem operation_whole_iff (w : Routing.World) (call : OperationCall) :
    (call.perform bank w).ledger.Whole ↔ w.ledger.Whole ∧ call.operation.WholeDays w := by
  rcases call with ⟨run, clock, operation⟩
  cases operation
  case updateRoutingRevenues lnd faults now =>
    exact Routing.updateRoutingRevenues_whole_iff lnd bank faults now w
  all_goals exact (performWrite_whole_iff bank w _).trans (iff_of_eq (and_true _)).symm

theorem operations_whole_iff (w : Routing.World) (calls : List OperationCall) :
    (performOperations bank w calls).ledger.Whole ↔ w.ledger.Whole ∧ WholeDays bank w calls := by
  induction calls generalizing w with
  | nil => simp [performOperations, WholeDays]
  | cons call rest ih =>
    have later := ih (call.perform bank w)
    rw [operation_whole_iff, and_assoc] at later
    exact later

end Runs

structure WholeBook (ledger : Ledger) : Prop where
  legs : ∀ leg ∈ ledger.legs, leg.debit ∈ wholeAmounts ∧ leg.credit ∈ wholeAmounts
  balances : ∀ account, ledger.balance account ∈ wholeAmounts
  unrounded : ∀ wallet : WalletDescriptor,
    ((ledger.getWalletBalanceAmount wallet).amount : ℚ) =
      ledger.balance (toLedgerAccountId wallet.id)

theorem wholeBook_iff {ledger : Ledger} : WholeBook ledger ↔ ledger.Whole := by
  constructor
  · intro book
    exact book.legs
  · intro whole
    have balances (account : LedgerAccountId) : ledger.balance account ∈ wholeAmounts := by
      rw [Ledger.balance_eq_netOver]
      exact netOver_whole _ whole
    exact ⟨whole, balances, fun wallet => mem_wholeAmounts.mp (balances _)⟩

theorem book_whole_iff (bank : BankWallets) (start : Routing.World) (calls : List OperationCall)
    (whole : WholeBook start.ledger) :
    WholeBook (performOperations bank start calls).ledger ↔ WholeDays bank start calls := by
  rw [wholeBook_iff, operations_whole_iff]
  exact and_iff_right (wholeBook_iff.mp whole)

def forwardOf (feeMtokens : Nat) : Routing.Forward := ⟨2 * 86400000 + 1, feeMtokens⟩

def revenuesOf (feeMtokens : Nat) : OperationCall where
  run := 1
  clock := 4 * 86400
  operation := .updateRoutingRevenues (Routing.onePage [forwardOf feeMtokens]) {}
    (4 * Routing.msPerDay)

theorem empty_book_whole : WholeBook {} := wholeBook_iff.mpr wholeLegs_nil

theorem seven_sats_whole :
    WholeBook {} ∧ WholeBook (performOperations exampleBank { ledger := {} }
      [revenuesOf 7000]).ledger := by
  refine ⟨empty_book_whole, (book_whole_iff _ _ _ empty_book_whole).mpr ⟨fun _ => ?_, trivial⟩⟩
  decide +kernel

theorem millisats_in_the_book :
    ((performOperations exampleBank { ledger := {} } [revenuesOf 1500]).ledger.legs.map fun leg =>
        (leg.account, leg.debit, leg.credit)) =
      [(toLedgerAccountId "bankOwner", 0, 3 / 2), (.lnd, 3 / 2, 0)] ∧
    (performOperations exampleBank { ledger := {} } [revenuesOf 1500]).ledger.balance
      (toLedgerAccountId "bankOwner") = 3 / 2 ∧
    ((performOperations exampleBank { ledger := {} }
      [revenuesOf 1500]).ledger.getWalletBalanceAmount
        ⟨"bankOwner", .btc, "bankOwnerAccount"⟩).amount = 1 ∧
    WholeBook {} ∧
    ¬ WholeBook (performOperations exampleBank { ledger := {} } [revenuesOf 1500]).ledger := by
  refine ⟨by decide +kernel, by decide +kernel, by decide +kernel, empty_book_whole, fun book => ?_⟩
  have shown := book.unrounded ⟨"bankOwner", .btc, "bankOwnerAccount"⟩
  exact absurd shown (by decide +kernel)

end Galoy
