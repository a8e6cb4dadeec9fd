import Galoy.Ledger.Customers
import Galoy.Payments.FlowContract
import Galoy.Payments.Requests

set_option autoImplicit false

namespace Galoy

open Interleave App AmountCalculator

def PaymentFlow.reimbursement (flow : PaymentFlow) (actualFee : Int) : Except AppError Amounts := do
  let priceRatio ← PriceRatio.make flow.usdPaymentAmount flow.btcPaymentAmount
  getReimbursement ⟨flow.btcProtocolFee, flow.usdProtocolFee⟩ priceRatio ⟨actualFee⟩

section Refund

variable {ratio : PriceRatio} {prepaid : Amounts} (usd : 0 < ratio.usd.amount)
  (btc : 0 < ratio.btc.amount)

def refundedCents (ratio : PriceRatio) (prepaid : BtcPaymentAmount) (actualFee : Int) :
    UsdPaymentAmount :=
  if actualFee = 0 then ratio.convertFromBtc ⟨prepaid.amount - actualFee⟩
  else ratio.convertFromBtcToFloor ⟨prepaid.amount - actualFee⟩

theorem getReimbursement_within {actualFee : Int} (within : actualFee ≤ prepaid.btc.amount) :
    getReimbursement prepaid ratio ⟨actualFee⟩ =
      .ok ⟨⟨prepaid.btc.amount - actualFee⟩, refundedCents ratio prepaid.btc actualFee⟩ := by
  unfold getReimbursement
  dsimp only
  rw [if_neg (by omega)]
  rfl

include usd btc

end Refund

section Prepaid

variable {chain : BuilderChain} {known : KnownAmounts} {quote : Quote} {ratio : PriceRatio}

theorem PriceRatio.make_of_positive {usd : UsdPaymentAmount} {btc : BtcPaymentAmount}
    (usdPositive : 0 < usd.amount) (btcPositive : 0 < btc.amount) :
    ∃ ratio, PriceRatio.make usd btc = .ok ratio := by
  unfold PriceRatio.make
  rw [dif_neg (by omega)]
  exact ⟨_, rfl⟩

theorem Quoted.btcFee_nonneg (fair : chain.Fair) (knows : chain.Knows known)
    (quoted : Quoted chain known quote) :
    0 ≤ quote.btcProtocolFee.amount := by
  by_cases inside : chain.settlement.settlementMethod = .intraLedger
  · exact (quoted.free inside).1.ge
  · exact zero_le_one.trans (quoted.charged fair inside knows).1

theorem Quoted.whole_refund (fair : chain.Fair) (knows : chain.Knows known)
    (quoted : Quoted chain known quote)
    (made : PriceRatio.make quote.usdPaymentAmount quote.btcPaymentAmount = .ok ratio)
    (cheap : quote.usdPaymentAmount.amount ≤ quote.btcPaymentAmount.amount) :
    (ratio.convertFromBtc quote.btcProtocolFee).amount ≤ quote.usdProtocolFee.amount ∧
      (ratio.convertFromBtc quote.btcProtocolFee = quote.usdProtocolFee ↔
        (chain.start.uncheckedAmount.isSome ∧ chain.senderWallet.currency = .usd) ∨
          quote.btcProtocolFee.amount * quote.usdPaymentAmount.amount %
          quote.btcPaymentAmount.amount = 0 ∨
          quote.btcPaymentAmount.amount / 2 <
            quote.btcProtocolFee.amount * quote.usdPaymentAmount.amount %
            quote.btcPaymentAmount.amount ∨
          quote.btcProtocolFee.amount * quote.usdPaymentAmount.amount <
          quote.btcPaymentAmount.amount) := by
  have fee := quoted.btcFee_nonneg fair knows
  obtain ⟨btcPositive, usdPositive⟩ := quoted.positive fair knows
  obtain ⟨sameUsd, sameBtc⟩ := PriceRatio.of_make made
  have usd : 0 < ratio.usd.amount := sameUsd ▸ usdPositive
  have btc : 0 < ratio.btc.amount := sameBtc ▸ btcPositive
  cases quoted with
  | fromSats asked isRatio =>
    obtain rfl := Except.ok.inj (made.symm.trans isRatio)
    refine ⟨PriceRatio.round_le_ceil usd btc fee, ?_⟩
    dsimp only at sameUsd sameBtc ⊢
    rw [PriceRatio.round_eq_ceil_iff usd btc fee, sameUsd, sameBtc]
    simp only [knows.not_cents, false_or]
  | fromCents asked isRatio =>
    obtain rfl := Except.ok.inj (made.symm.trans isRatio)
    have paid : 0 ≤ (firstFee chain.settlement.settlementMethod ratio.usd).amount := by
      unfold firstFee
      split_ifs
      · exact le_rfl
      · exact zero_le_one.trans (one_le_maxProtocolFee usd)
    dsimp only at sameUsd sameBtc cheap ⊢
    rw [← sameUsd, ← sameBtc] at cheap ⊢
    rw [PriceRatio.cents_round_trip usd btc paid cheap]
    exact ⟨le_rfl, fun _ => .inl ⟨by rw [knows.1]; rfl, knows.2.2⟩, fun _ => rfl⟩
  | known btcAmount usdAmount =>
    have none : ratio.convertFromBtc ⟨0⟩ = ⟨0⟩ := rfl
    rw [none]
    simp

theorem withoutRoute_quoted (fair : chain.Fair) {flow : PaymentFlow}
    (built : chain.withoutRoute = .ok (.ok flow)) :
    ∃ known, chain.Knows known ∧ Quoted chain known flow.quote := by
  obtain ⟨builder, isConverted, rest⟩ := map_eq_ok built
  obtain ⟨state, rfl, isFlow⟩ := bind_eq_ok rest
  obtain ⟨_, _, known, knows, _, quoted, _⟩ := withConversion_inversion fair.inCents isConverted
  obtain ⟨_, _, rfl⟩ := paymentFromState_inversion isFlow
  exact ⟨known, knows, quoted⟩

end Prepaid

theorem PaymentFlow.reimbursement_within {flow : PaymentFlow} {ratio : PriceRatio} {actualFee : Int}
    (made : PriceRatio.make flow.usdPaymentAmount flow.btcPaymentAmount = .ok ratio)
    (within : actualFee ≤ flow.btcProtocolFee.amount) :
    flow.reimbursement actualFee =
      .ok ⟨⟨flow.btcProtocolFee.amount - actualFee⟩, refundedCents ratio flow.btcProtocolFee
        actualFee⟩ := by
  unfold PaymentFlow.reimbursement
  rw [made]
  exact getReimbursement_within within

/-- The fee is prepaid in cents rounded up on one path of the builder and refunded rounded to the
nearest, so an unspent fee is not always given back whole. -/
theorem whole_refund_iff (chain : BuilderChain) (fair : chain.Fair) (flow : PaymentFlow)
    (built : chain.withoutRoute = .ok (.ok flow))
    (cheap : flow.usdPaymentAmount.amount ≤ flow.btcPaymentAmount.amount) :
    flow.reimbursement 0 = .ok ⟨flow.btcProtocolFee, flow.usdProtocolFee⟩ ↔
      (chain.start.uncheckedAmount.isSome ∧ chain.senderWallet.currency = .usd) ∨
        flow.btcProtocolFee.amount * flow.usdPaymentAmount.amount % flow.btcPaymentAmount.amount =
          0 ∨
        flow.btcPaymentAmount.amount / 2 <
          flow.btcProtocolFee.amount * flow.usdPaymentAmount.amount % flow.btcPaymentAmount.amount ∨
        flow.btcProtocolFee.amount * flow.usdPaymentAmount.amount <
          flow.btcPaymentAmount.amount := by
  obtain ⟨known, knows, quoted⟩ := withoutRoute_quoted fair built
  obtain ⟨btcPositive, usdPositive⟩ := quoted.positive fair knows
  obtain ⟨ratio, made⟩ := PriceRatio.make_of_positive usdPositive btcPositive
  have whole : flow.reimbursement 0 =
      .ok ⟨flow.btcProtocolFee, ratio.convertFromBtc flow.btcProtocolFee⟩ := by
    rw [PaymentFlow.reimbursement_within made (quoted.btcFee_nonneg fair knows)]
    simp [refundedCents]
  rw [whole]
  refine Iff.trans ?_ (quoted.whole_refund fair knows made cheap).2
  simp [PaymentFlow.quote]

theorem cents_first_refunded_whole :
    ∃ flow, (outsideChain .usd 48 (.withNoAmountInvoice · 2083) none).withoutRoute =
      .ok (.ok flow) ∧
      flow.reimbursement 0 = .ok ⟨flow.btcProtocolFee, flow.usdProtocolFee⟩ := by
  refine ⟨_, rfl, ?_⟩
  exact (whole_refund_iff (outsideChain .usd 48 (.withNoAmountInvoice · 2083) none)
    (outsideChain_fair nofun) _ rfl (by decide)).mpr (.inl ⟨rfl, rfl⟩)

theorem sats_first_loses_a_cent :
    ∃ flow, (outsideChain .usd 48 .withInvoice (some ⟨100000⟩)).withoutRoute = .ok (.ok flow) ∧
      flow.usdPaymentAmount.amount ≤ flow.btcPaymentAmount.amount ∧
      flow.btcProtocolFee = ⟨500⟩ ∧ flow.usdProtocolFee = ⟨11⟩ ∧
        flow.reimbursement 0 = .ok ⟨⟨500⟩, ⟨10⟩⟩ :=
  ⟨_, rfl, by decide, rfl, rfl, rfl⟩

end Galoy
