import Galoy.Ledger.Customers
import Galoy.Ledger.Journals
import Galoy.Payments.SendLightning

set_option autoImplicit false

namespace Galoy

open Interleave

namespace SendLightning

open AmountCalculator

variable (bank : BankWallets) (decodedInvoice : LnInvoice) (paymentFlow : PaymentFlow)
  (defaultPubkey : Pubkey)

def lnSendEntry : Entry :=
  LedgerFacade.recordSend bank (lnSendArgs decodedInvoice paymentFlow defaultPubkey)

def senderLeg : Leg where
  account := toLedgerAccountId paymentFlow.senderWalletId
  debit := paymentFlow.totalSendAmount paymentFlow.senderWalletCurrency
  credit := 0
  currency := paymentFlow.senderWalletCurrency
  metadata := (lnSendArgs decodedInvoice paymentFlow defaultPubkey).metadata

theorem lnSendArgs_amount (currency : WalletCurrency) :
    (lnSendArgs decodedInvoice paymentFlow defaultPubkey).amountToDebitSender.inCurrency currency =
      paymentFlow.totalSendAmount currency := by
  cases currency <;> rfl

variable {bank decodedInvoice paymentFlow defaultPubkey} {leg : Leg}

theorem lnSendEntry_transactions :
    (lnSendEntry bank decodedInvoice paymentFlow defaultPubkey).transactions =
      (sendLegs bank (lnSendArgs decodedInvoice paymentFlow defaultPubkey)).filter
        fun leg => ¬(leg.debit = 0 ∧ leg.credit = 0) :=
  recordSend_transactions bank _ rfl

theorem lnSendEntry_metadata
    (member : leg ∈ (lnSendEntry bank decodedInvoice paymentFlow defaultPubkey).transactions) :
    leg.metadata = (lnSendArgs decodedInvoice paymentFlow defaultPubkey).metadata := by
  rw [lnSendEntry_transactions] at member
  have unfiltered := List.mem_of_mem_filter member
  unfold sendLegs at unfiltered
  dsimp only at unfiltered
  split at unfiltered <;> simp only [List.mem_cons, List.not_mem_nil, or_false] at unfiltered
  · rcases unfiltered with rfl | rfl <;> rfl
  · rcases unfiltered with rfl | rfl | rfl | rfl <;> rfl

theorem lnSendEntry_pending
    (member : leg ∈ (lnSendEntry bank decodedInvoice paymentFlow defaultPubkey).transactions) :
    leg.isPendingFor decodedInvoice.paymentHash = true := by
  simp [Leg.isPendingFor, Leg.ofHash, lnSendEntry_metadata member, lnSendArgs, lnSendLedgerMetadata]

theorem lnSendEntry_wallet {walletId : WalletId}
    (member : leg ∈ (lnSendEntry bank decodedInvoice paymentFlow defaultPubkey).transactions)
    (account : leg.account = toLedgerAccountId walletId) :
    leg = senderLeg decodedInvoice paymentFlow defaultPubkey ∨
      walletId ∈ bank.getDealerWalletIds := by
  rw [lnSendEntry_transactions] at member
  have unfiltered := List.mem_of_mem_filter member
  have same :
      (lnSendArgs decodedInvoice paymentFlow defaultPubkey).senderWalletDescriptor.currency =
      paymentFlow.senderWalletCurrency := rfl
  unfold sendLegs at unfiltered
  dsimp only at unfiltered
  cases currency : paymentFlow.senderWalletCurrency <;> rw [same, currency] at unfiltered <;>
    simp only [List.mem_cons, List.not_mem_nil, or_false] at unfiltered
  case btc =>
    rcases unfiltered with rfl | rfl
    · simp [senderLeg, currency, PaymentFlow.totalSendAmount, lnSendArgs,
        PaymentFlow.senderWalletDescriptor]
    · simp [toLedgerAccountId] at account
  case usd =>
    rcases unfiltered with rfl | rfl | rfl | rfl
    · simp [senderLeg, currency, PaymentFlow.totalSendAmount, lnSendArgs,
        PaymentFlow.senderWalletDescriptor]
    · simp only [toLedgerAccountId, LedgerAccountId.liabilities.injEq] at account
      simp [BankWallets.getDealerWalletIds, ← account]
    · simp only [toLedgerAccountId, LedgerAccountId.liabilities.injEq] at account
      simp [BankWallets.getDealerWalletIds, ← account]
    · simp [toLedgerAccountId] at account

theorem senderLeg_mem
    (nonzero : paymentFlow.totalSendAmount paymentFlow.senderWalletCurrency ≠ 0) :
    senderLeg decodedInvoice paymentFlow defaultPubkey ∈
      (lnSendEntry bank decodedInvoice paymentFlow defaultPubkey).transactions := by
  rw [lnSendEntry_transactions]
  refine List.mem_filter.mpr ⟨?_, by simpa [senderLeg] using nonzero⟩
  unfold sendLegs senderLeg
  cases currency : paymentFlow.senderWalletCurrency <;>
    simp [lnSendArgs, PaymentFlow.senderWalletDescriptor, currency, PaymentFlow.totalSendAmount]

end SendLightning

structure PaymentFlow.Nonneg (flow : PaymentFlow) : Prop where
  btcPaymentAmount : 0 ≤ flow.btcPaymentAmount.amount
  usdPaymentAmount : 0 ≤ flow.usdPaymentAmount.amount
  btcProtocolFee : 0 ≤ flow.btcProtocolFee.amount
  usdProtocolFee : 0 ≤ flow.usdProtocolFee.amount

theorem PaymentFlow.Nonneg.totalSendAmount_pos {flow : PaymentFlow} (nonneg : flow.Nonneg)
    {priceRatio : PriceRatio}
    (made : PriceRatio.make flow.usdPaymentAmount flow.btcPaymentAmount = .ok priceRatio)
    (currency : WalletCurrency) : 0 < flow.totalSendAmount currency := by
  obtain ⟨usd, btc⟩ := PriceRatio.make_ok made
  rcases nonneg with ⟨btcPayment, usdPayment, btcFee, usdFee⟩
  cases currency <;> simp only [PaymentFlow.totalSendAmount, AmountCalculator.add] <;> omega

section Own

open SendLightning

variable {send : LnSend} {base journals : List Journal} {paymentHash : PaymentHash}
  {id : LedgerJournalId} {journal : Journal} {ledger : Ledger} {run : RunId}

structure LnSend.Sent (send : LnSend) (base : List Journal) (paymentHash : PaymentHash)
    (id : LedgerJournalId) (journals : List Journal) (journal : Journal) : Prop where
  last : journals = base ++ [journal]
  isId : journal.id = id
  active : journal.voided = false
  sender : ∃ pubkey, senderLeg send.decodedInvoice send.paymentFlow pubkey ∈ journal.legs
  pending : ∀ leg ∈ journal.legs, leg.isPendingFor paymentHash = true

structure LnSend.Settled (base : List Journal) (paymentHash : PaymentHash) (id : LedgerJournalId)
    (journals : List Journal) (journal : Journal) : Prop where
  last : journals = base ++ [journal]
  isId : journal.id = id
  active : journal.voided = false
  settled : ¬Ledger.HasPending paymentHash journal

theorem LnSend.Sent.ofCommit (fresh : ledger.writtenBy run = base)
    (hash : send.decodedInvoice.paymentHash = paymentHash)
    (positive : send.paymentFlow.totalSendAmount send.paymentFlow.senderWalletCurrency ≠ 0)
    (bank : BankWallets) (defaultPubkey : Pubkey) (clock : Nat) :
    ∃ journal, send.Sent base paymentHash ledger.journals.length
      ((ledger.commit run clock
        (lnSendEntry bank send.decodedInvoice send.paymentFlow defaultPubkey)).writtenBy run)
    journal := by
  refine ⟨ledger.newJournal run clock
    (lnSendEntry bank send.decodedInvoice send.paymentFlow defaultPubkey), ?_, rfl, rfl,
    ⟨defaultPubkey, senderLeg_mem positive⟩, ?_⟩
  · rw [Ledger.writtenBy_commit, fresh]
  · intro leg member
    rw [← hash]
    exact lnSendEntry_pending member

namespace LnSend

theorem Sent.own (sent : send.Sent base paymentHash id (ledger.writtenBy run) journal) :
    journal ∈ ledger.writtenBy run := by
  rw [sent.last]
  simp

theorem Sent.hasPending (sent : send.Sent base paymentHash id journals journal) :
    Ledger.HasPending paymentHash journal := by
  obtain ⟨pubkey, member⟩ := sent.sender
  exact ⟨_, member, sent.pending _ member⟩

theorem Sent.settles (sent : send.Sent base paymentHash id (ledger.writtenBy run) journal) :
    0 < ledger.modifiedCount paymentHash := by
  refine Ledger.modifiedCount_pos.mpr fun quiet => ?_
  exact Ledger.noPending_iff.mp quiet journal (Ledger.mem_writtenBy.mp sent.own).1 sent.hasPending

theorem Sent.settlePending (sent : send.Sent base paymentHash id (ledger.writtenBy run) journal)
    (settledBase : ∀ other ∈ base, ¬Ledger.HasPending paymentHash other) (settler : RunId) :
    Settled base paymentHash id ((ledger.settlePending settler paymentHash).writtenBy run)
      (journal.settleFor paymentHash) := by
  refine ⟨?_, sent.isId, sent.active, Ledger.not_hasPending_settleFor journal⟩
  have unchanged : base.map (Journal.settleFor paymentHash) = base := by
    rw [List.map_congr_left fun other member =>
      Ledger.settleFor_of_not_pending (settledBase other member), List.map_id']
  rw [Ledger.writtenBy_settlePending, sent.last, List.map_append, unchanged]
  rfl

theorem Settled.own (settled : Settled base paymentHash id (ledger.writtenBy run) journal) :
    journal ∈ ledger.writtenBy run := by
  rw [settled.last]
  simp

theorem Settled.found (settled : Settled base paymentHash id (ledger.writtenBy run) journal)
    (numbered : ledger.Numbered) : ledger.journal? id = some journal := by
  rw [← settled.isId]
  exact Ledger.journal?_of_mem numbered (Ledger.mem_writtenBy.mp settled.own).1

theorem Settled.voids (settled : Settled base paymentHash id (ledger.writtenBy run) journal)
    (numbered : ledger.Numbered) (clock : Nat) (reason : String) :
    ledger.void run clock id reason ≠ none := by
  simp [Ledger.void, settled.found numbered, settled.active]

theorem Settled.void (settled : Settled base paymentHash id (ledger.writtenBy run) journal)
    (numbered : ledger.Numbered) {clock : Nat} {reason : String} {after : Ledger}
    (voided : ledger.void run clock id reason = some after) :
    ∃ reversal, reversal.legs = journal.legs.map Leg.reversed ∧
      after.writtenBy run = (base ++ [journal]).map (Journal.markVoided id) ++ [reversal] := by
  obtain ⟨original, same, _, _, all⟩ := Ledger.void_inversion voided
  obtain rfl := Option.some.inj (same.symm.trans (settled.found numbered))
  have last := settled.last
  unfold Ledger.writtenBy at last
  refine ⟨{ id := ledger.journals.length, description := reason,
            legs := original.legs.map Leg.reversed, timestamp := clock,
            originalJournal := some id, writtenBy := run }, rfl, ?_⟩
  unfold Ledger.writtenBy
  rw [all, List.filter_append, Ledger.writtenBy_map_markVoided, last]
  simp

end LnSend

end Own

section Example

theorem sendFlow_nonneg (walletId : WalletId) : (sendFlow walletId).Nonneg := by
  constructor <;> simp [sendFlow]

theorem sendWorld_numbered : sendWorld.ledger.Numbered := by
  have empty : ({} : Ledger).Numbered := fun _ _ at_ => by cases at_
  exact (empty.commit _ _ _).commit _ _ _

theorem sendWorld_noPending : sendWorld.ledger.NoPending "hash" := by decide +kernel

end Example

end Galoy
