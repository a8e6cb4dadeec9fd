import Galoy.Payments.FlowContract
import Galoy.Payments.PendingResolution

set_option autoImplicit false

namespace Galoy

open Interleave SendLightning

def BuilderChain.Builds (chain : BuilderChain) (flow : PaymentFlow) : Prop :=
  chain.withoutRoute = .ok (.ok flow) ∨
    ∃ pubkey rawRoute, chain.withRoute pubkey rawRoute = .ok (.ok flow)

section Built

variable {chain : BuilderChain} {flow : PaymentFlow}

theorem BuilderChain.Builds.inversion (builds : chain.Builds flow) :
    ∃ state, chain.withConversion = .ok (.ok state) ∧
      flow.settlementMethod = state.settlementMethod ∧
      flow.senderWalletCurrency = state.senderWalletCurrency ∧
        flow.inputAmount = state.inputAmount ∧
      flow.btcPaymentAmount = state.quote.btcPaymentAmount ∧
      flow.usdPaymentAmount = state.quote.usdPaymentAmount := by
  rcases builds with built | ⟨pubkey, rawRoute, built⟩
  · obtain ⟨builder, isConverted, rest⟩ := map_eq_ok built
    obtain ⟨state, rfl, isFlow⟩ := bind_eq_ok rest
    obtain ⟨_, _, rfl⟩ := paymentFromState_inversion isFlow
    exact ⟨state, isConverted, rfl, rfl, rfl, rfl, rfl⟩
  · obtain ⟨builder, isConverted, rest⟩ := map_eq_ok built
    obtain ⟨state, rfl, isFlow⟩ := bind_eq_ok rest
    obtain ⟨ratio, _, rest⟩ := bind_eq_ok isFlow
    obtain ⟨fee, _, isFlow⟩ := bind_eq_ok rest
    obtain ⟨_, _, rfl⟩ := paymentFromState_inversion isFlow
    exact ⟨state, isConverted, rfl, rfl, rfl, rfl, rfl⟩

theorem inputAmount_iff (builds : chain.Builds flow)
    (lightning : flow.settlementMethod = .lightning) :
    flow.amountInSenderCurrency = flow.inputAmount ↔
      chain.senderWallet.currency = .btc ∨ chain.start.uncheckedAmount.isSome ∨
        flow.usdPaymentAmount.amount = flow.btcPaymentAmount.amount := by
  obtain ⟨state, isConverted, method, currency, input, btc, usd⟩ := builds.inversion
  have outside : chain.settlement.settlementMethod = .lightning := by
    rw [← (withConversion_parties isConverted).1, ← method, lightning]
  obtain ⟨sent, _, known, knows, isInput, quoted, _⟩ :=
    withConversion_inversion (fun inside => absurd (outside.symm.trans inside) (by decide))
      isConverted
  unfold PaymentFlow.amountInSenderCurrency
  rw [currency, sent.senderWalletCurrency, input, isInput, btc, usd]
  generalize state.quote = quote at quoted
  cases quoted with
  | fromSats asked made =>
    cases inCurrency : chain.senderWallet.currency with
    | btc => simp [KnownAmounts.inputAmount]
    | usd =>
      have unchosen : chain.start.uncheckedAmount = none := by
        rcases knows with ⟨_, _, inBtc⟩ | ⟨none, _⟩
        · rw [inCurrency] at inBtc
          cases inBtc
        · exact none
      simp [KnownAmounts.inputAmount, unchosen]
  | fromCents asked made => simp [KnownAmounts.inputAmount, knows.1, knows.2.2]
  | known btc usd =>
    exact absurd (outside.symm.trans knows.2.2.2) (by decide)

end Built

section Mark

variable {w : World} {flow : PaymentFlow} {earlier later : List PaymentFlow} {hash : PaymentHash}

def PaymentFlow.marked (flow : PaymentFlow) (paymentSentAndPending : Bool) : PaymentFlow :=
  { flow with paymentSentAndPending }

/-- The flow is stored as sent and pending, and it is the oldest one under its key. -/
structure StoredPending (flow : PaymentFlow) (earlier later : List PaymentFlow)
    (w : World) : Prop where
  flows : w.flows = earlier ++ flow.marked true :: later
  oldest : ∀ other ∈ earlier, other.hash = flow.hash → other.senderWalletId = flow.senderWalletId →
    other.inputAmount ≠ flow.inputAmount

theorem updateFirst_append {select : PaymentFlow → Bool} {update : PaymentFlow → PaymentFlow}
    (skipped : ∀ other ∈ earlier, select other = false) (flows : List PaymentFlow) :
    World.updateFirst (earlier ++ flows) select update =
      (World.updateFirst flows select update).map fun found => (found.1, earlier ++ found.2) := by
  induction earlier with
  | nil => simp
  | cons other earlier ih =>
    have no := skipped other (by simp)
    rw [List.cons_append, World.updateFirst, no, ih fun another member =>
      skipped another (by simp [member])]
    simp [Function.comp_def]

theorem StoredPending.finds (stored : StoredPending flow earlier later w)
    (isHash : flow.hash = .paymentHash hash) :
    World.updateFirst w.flows
      (PaymentFlowStateIndex.selects ⟨hash, flow.senderWalletId, flow.inputAmount⟩)
      (fun found => { found with paymentSentAndPending := false }) =
        some (flow.marked false, earlier ++ flow.marked false :: later) := by
  rw [stored.flows, updateFirst_append]
  · simp [World.updateFirst, PaymentFlowStateIndex.selects, PaymentFlow.marked, isHash]
  · intro other member
    have different := stored.oldest other member
    rw [isHash] at different
    simpa only [PaymentFlowStateIndex.selects, decide_eq_false_iff_not, not_and] using different

end Mark

/-- The update looks for the stored flow with the amount it has read from the ledger, which is not
always the amount that the flow was stored under. -/
theorem pending_mark_cleared_iff (chain : BuilderChain) (flow : PaymentFlow)
    (builds : chain.Builds flow) (lightning : flow.settlementMethod = .lightning)
    (hash : PaymentHash) (isHash : flow.hash = .paymentHash hash) (journal : Journal)
    (decodedInvoice : LnInvoice) (pubkey : Pubkey) (w : World) (earlier later : List PaymentFlow)
    (stored : StoredPending flow earlier later w) (run : RunId) :
    (∃ amount, inputAmountFromLedgerTransaction
          (translateToLedgerTx journal (senderLeg decodedInvoice flow pubkey)) = .ok amount ∧
        amount = flow.inputAmount ∧
        serve run w (.markLightningPaymentFlowNotPending ⟨hash, flow.senderWalletId, amount⟩) none =
          some (.ok (paymentFlowFromRaw (flow.marked false)),
            { w with flows := earlier ++ flow.marked false :: later })) ↔
      chain.senderWallet.currency = .btc ∨ chain.start.uncheckedAmount.isSome ∨
        flow.usdPaymentAmount.amount = flow.btcPaymentAmount.amount := by
  rw [← inputAmount_iff builds lightning, inputAmount_senderLeg]
  constructor
  · rintro ⟨_, shown, same, _⟩
    exact (Except.ok.inj shown).trans same
  · intro same
    refine ⟨flow.amountInSenderCurrency, rfl, same, ?_⟩
    rw [same]
    have finds := stored.finds isHash
    unfold serve World.markLightningPaymentFlowNotPending
    dsimp only
    rw [finds]

section Example

def markInvoice : LnInvoice := { paymentHash := "hash", paymentRequest := "lnbc", destination :=
    "outside" }

def outsideFlow (btc usd inputAmount btcFee usdFee : Int) : PaymentFlow where
  hash := .paymentHash "hash"
  senderWalletId := "alice"
  senderWalletCurrency := .usd
  senderAccountId := "account"
  settlementMethod := .lightning
  paymentInitiationMethod := .lightning
  descriptionFromInvoice := ""
  btcPaymentAmount := ⟨btc⟩
  usdPaymentAmount := ⟨usd⟩
  inputAmount
  btcProtocolFee := ⟨btcFee⟩
  usdProtocolFee := ⟨usdFee⟩

def markWorld (flow : PaymentFlow) : World :=
  { World.initial exampleBank with
    flows := [flow.marked true]
    ledger := ({} : Ledger).commit 0 0 (lnSendEntry exampleBank markInvoice flow "node") }

def markJournal (flow : PaymentFlow) : Journal :=
  ({} : Ledger).newJournal 0 0 (lnSendEntry exampleBank markInvoice flow "node")

theorem chosen_cents_mark_cleared :
    (outsideChain .usd 20 (.withNoAmountInvoice · 730) none).withoutRoute =
        .ok (.ok (outsideFlow 14600 730 730 80 4)) ∧
      serve 1 (markWorld (outsideFlow 14600 730 730 80 4))
          (.markLightningPaymentFlowNotPending ⟨"hash", "alice", 730⟩) none =
        some (.ok (paymentFlowFromRaw ((outsideFlow 14600 730 730 80 4).marked false)),
          { markWorld (outsideFlow 14600 730 730 80 4) with
            flows := [(outsideFlow 14600 730 730 80 4).marked false] }) := by
  have built : (outsideChain .usd 20 (.withNoAmountInvoice · 730) none).withoutRoute =
      .ok (.ok (outsideFlow 14600 730 730 80 4)) := rfl
  refine ⟨built, ?_⟩
  have stored : StoredPending (outsideFlow 14600 730 730 80 4) [] []
      (markWorld (outsideFlow 14600 730 730 80 4)) :=
    ⟨rfl, by simp⟩
  have cleared := (pending_mark_cleared_iff (outsideChain .usd 20 (.withNoAmountInvoice · 730) none)
    (outsideFlow 14600 730 730 80 4) (.inl built) rfl "hash" rfl
    (markJournal (outsideFlow 14600 730 730 80 4))
    markInvoice "node" (markWorld (outsideFlow 14600 730 730 80 4)) [] [] stored 1).mpr
      (.inr (.inl rfl))
  obtain ⟨amount, _, same, served⟩ := cleared
  rw [same] at served
  exact served

theorem invoice_of_1000_sats_stays_marked :
    (outsideChain .usd 20 .withInvoice (some ⟨1000⟩)).withoutRoute =
      .ok (.ok (outsideFlow 1000 50 1000 5 1)) ∧
      senderLeg markInvoice (outsideFlow 1000 50 1000 5 1) "node" ∈
        (markJournal (outsideFlow 1000 50 1000 5 1)).legs ∧
      inputAmountFromLedgerTransaction
        (translateToLedgerTx (markJournal (outsideFlow 1000 50 1000 5 1))
          (senderLeg markInvoice (outsideFlow 1000 50 1000 5 1) "node")) = .ok 50 ∧
      serve 1 (markWorld (outsideFlow 1000 50 1000 5 1))
          (.markLightningPaymentFlowNotPending ⟨"hash", "alice", 50⟩) none =
        some (.error { name := .CouldNotUpdateLightningPaymentFlowError },
          markWorld (outsideFlow 1000 50 1000 5 1)) :=
  ⟨rfl, senderLeg_mem (by decide), inputAmount_senderLeg _ _ _ _, rfl⟩

end Example

end Galoy
