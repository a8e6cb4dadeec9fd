import Galoy.Payments.BuilderChains
import Galoy.Shared.Rounding

set_option autoImplicit false

namespace Galoy

open AmountCalculator

def feeCap (amount : Int) : Int := max 1 ⌈(amount * 50 / 10000 : ℚ) - 1 / 2⌉

theorem maxProtocolFee_eq_feeCap {currency : WalletCurrency} {amount : Amount currency}
    (positive : 0 < amount.amount) : (LnFees.maxProtocolFee amount).amount =
      feeCap amount.amount := by
  have product : 0 ≤ amount.amount * 50 := by omega
  obtain ⟨high, low⟩ := divRound_bounds currency product (d := 10000) (by decide)
  have rounded : (mulBasisPoints amount LnFees.feeCapBasisPoints).amount =
      ⌈(amount.amount * 50 / 10000 : ℚ) - 1 / 2⌉ := by
    symm
    rw [Int.ceil_eq_iff]
    unfold mulBasisPoints LnFees.feeCapBasisPoints
    generalize (divRound (⟨amount.amount * 50⟩ : Amount currency) 10000).amount = q at high low ⊢
    have highCast : (2 * (q * 10000) : ℚ) < 2 * (amount.amount * 50) + 10000 := by
      exact_mod_cast high
    have lowCast : (2 * (amount.amount * 50) : ℚ) ≤ 2 * (q * 10000) + 10000 := by exact_mod_cast low
    constructor <;> linarith
  have nonneg : 0 ≤ (mulBasisPoints amount LnFees.feeCapBasisPoints).amount := by
    unfold mulBasisPoints LnFees.feeCapBasisPoints
    omega
  unfold LnFees.maxProtocolFee feeCap
  rw [if_neg positive.ne', ← rounded]
  dsimp only
  split_ifs with none
  · rw [none]
    rfl
  · exact (max_eq_right (by omega)).symm

structure BuilderChain.Fair (chain : BuilderChain) : Prop where
  invoiceAmount : ∀ btc, chain.start.invoiceAmount = some btc → 0 < btc.amount
  inCents : chain.InCents
  recipientAmount : ∀ usd, chain.recipient.usdPaymentAmount = some usd → 0 < usd.amount
  usdQuote : ∀ side btc usd, (chain.args.at side).usdFromBtc btc = .ok usd → 0 ≤ usd.amount
  btcQuote : ∀ side usd btc, (chain.args.at side).btcFromUsd usd = .ok btc → 0 ≤ btc.amount

structure FlowContract (chain : BuilderChain) (flow : PaymentFlow) : Prop where
  hash : Xor (∃ hash, hash ≠ "" ∧ flow.hash = .paymentHash hash)
    (∃ hash, hash ≠ "" ∧ flow.hash = .intraLedgerHash hash)
  positive : 0 < flow.btcPaymentAmount.amount ∧ 0 < flow.usdPaymentAmount.amount
  chosen : ∀ amount, chain.start.uncheckedAmount = some amount →
    (flow.amountInSenderCurrency : ℚ) = amount ∧ (flow.inputAmount : ℚ) = amount
  fixed : chain.start.uncheckedAmount = none →
    chain.start.invoiceAmount = some flow.btcPaymentAmount ∧
      flow.inputAmount = flow.btcPaymentAmount.amount
  recipientAmount : flow.settlementMethod = .intraLedger →
    ∀ usd, chain.recipient.usdPaymentAmount = some usd → flow.usdPaymentAmount = usd
  different : flow.recipientWalletId ≠ some flow.senderWalletId
  settlement : flow.settlementMethod = .intraLedger ∨ flow.settlementMethod = .lightning
  inside : flow.settlementMethod = .intraLedger →
    flow.recipientWalletId = some chain.recipient.id ∧
      flow.btcProtocolFee.amount = 0 ∧ flow.usdProtocolFee.amount = 0
  outside : flow.settlementMethod = .lightning →
    flow.recipientWalletDescriptor = none ∧ flow.recipientWalletId = none ∧
      1 ≤ flow.btcProtocolFee.amount ∧ 1 ≤ flow.usdProtocolFee.amount ∧
      if chain.start.uncheckedAmount.isSome ∧ flow.senderWalletCurrency = .usd then
        flow.usdProtocolFee.amount = feeCap flow.usdPaymentAmount.amount
      else flow.btcProtocolFee.amount = feeCap flow.btcPaymentAmount.amount

section Amounts

variable {chain : BuilderChain} {known : KnownAmounts} {quote : Quote}

theorem Quoted.positive (fair : chain.Fair) (knows : chain.Knows known)
    (quoted : Quoted chain known quote) :
    0 < quote.btcPaymentAmount.amount ∧ 0 < quote.usdPaymentAmount.amount := by
  cases quoted with
  | fromSats asked made =>
    rename_i btc usd side ratio
    obtain ⟨sameUsd, _⟩ := PriceRatio.of_make made
    have nonneg := fair.usdQuote side btc usd asked
    have nonzero := ratio.usd_ne
    rw [sameUsd] at nonzero
    refine ⟨?_, by dsimp only; omega⟩
    rcases knows with ⟨_, positive, _⟩ | ⟨_, invoiceAmount⟩
    · exact positive
    · exact fair.invoiceAmount btc invoiceAmount
  | fromCents asked made =>
    rename_i btc usd side ratio
    obtain ⟨_, sameBtc⟩ := PriceRatio.of_make made
    have nonneg := fair.btcQuote side usd btc asked
    have nonzero := ratio.btc_ne
    rw [sameBtc] at nonzero
    exact ⟨by dsimp only; omega, knows.2.1⟩
  | known btc usd =>
    obtain ⟨_, invoiceAmount, given, _⟩ := knows
    exact ⟨fair.invoiceAmount btc invoiceAmount, fair.recipientAmount usd given⟩

theorem Quoted.free (inside : chain.settlement.settlementMethod = .intraLedger)
    (quoted : Quoted chain known quote) :
    quote.btcProtocolFee.amount = 0 ∧ quote.usdProtocolFee.amount = 0 := by
  cases quoted with
  | fromSats asked made =>
    simp [firstFee, inside, PriceRatio.convertFromBtcToCeil, divCeil]
  | fromCents asked made =>
    simp [firstFee, inside, PriceRatio.convertFromUsd]
  | known btc usd => exact ⟨rfl, rfl⟩

theorem one_le_maxProtocolFee {currency : WalletCurrency} {amount : Amount currency}
    (positive : 0 < amount.amount) : 1 ≤ (LnFees.maxProtocolFee amount).amount := by
  rw [maxProtocolFee_eq_feeCap positive]
  exact le_max_left _ _

theorem BuilderChain.Knows.not_cents {btc : BtcPaymentAmount} (knows : chain.Knows (.sats btc)) :
    ¬(chain.start.uncheckedAmount.isSome ∧ chain.senderWallet.currency = .usd) := by
  rintro ⟨isSome, inUsd⟩
  rcases knows with ⟨_, _, inBtc⟩ | ⟨none, _⟩
  · rw [inUsd] at inBtc
    cases inBtc
  · rw [none] at isSome
    cases isSome

theorem Quoted.charged (fair : chain.Fair)
    (outside : chain.settlement.settlementMethod ≠ .intraLedger) (knows : chain.Knows known)
    (quoted : Quoted chain known quote) :
    1 ≤ quote.btcProtocolFee.amount ∧ 1 ≤ quote.usdProtocolFee.amount ∧
      if chain.start.uncheckedAmount.isSome ∧ chain.senderWallet.currency = .usd then
        quote.usdProtocolFee.amount = feeCap quote.usdPaymentAmount.amount
      else quote.btcProtocolFee.amount = feeCap quote.btcPaymentAmount.amount := by
  obtain ⟨btcPositive, usdPositive⟩ := quoted.positive fair knows
  cases quoted with
  | fromSats asked made =>
    rename_i ratio
    obtain ⟨rfl, rfl⟩ := PriceRatio.of_make made
    have fee := one_le_maxProtocolFee btcPositive
    simp only [firstFee, if_neg outside]
    refine ⟨fee, PriceRatio.one_le_ceil usdPositive btcPositive fee, ?_⟩
    rw [if_neg knows.not_cents]
    exact maxProtocolFee_eq_feeCap btcPositive
  | fromCents asked made =>
    rename_i ratio
    obtain ⟨rfl, rfl⟩ := PriceRatio.of_make made
    have fee := one_le_maxProtocolFee usdPositive
    simp only [firstFee, if_neg outside]
    refine ⟨PriceRatio.one_le_convertFromUsd usdPositive btcPositive fee, fee, ?_⟩
    rw [if_pos ⟨by rw [knows.1]; rfl, knows.2.2⟩]
    exact maxProtocolFee_eq_feeCap usdPositive
  | known btc usd => exact absurd knows.2.2.2 outside

theorem settlement_inside_or_lightning (chain : BuilderChain) :
    chain.settlement.settlementMethod = .intraLedger ∨
      chain.settlement.settlementMethod = .lightning := by
  unfold BuilderChain.settlement LightningPaymentFlowBuilder.settlementMethodFromDestination
  dsimp only
  split
  · exact .inl rfl
  · split
    · exact .inl rfl
    · exact .inr rfl

theorem Quoted.given (knows : chain.Knows known) (quoted : Quoted chain known quote) :
    (∀ amount, chain.start.uncheckedAmount = some amount →
        ((match chain.senderWallet.currency with
          | .btc => quote.btcPaymentAmount.amount
          | .usd => quote.usdPaymentAmount.amount : Int) : ℚ) = amount ∧
          (known.inputAmount : ℚ) = amount) ∧
      (chain.start.uncheckedAmount = none →
        chain.start.invoiceAmount = some quote.btcPaymentAmount ∧
          known.inputAmount = quote.btcPaymentAmount.amount) := by
  cases quoted with
  | fromSats asked made =>
    rcases knows with ⟨chosen, _, currency⟩ | ⟨none, invoiceAmount⟩
    · rw [chosen, currency]
      exact ⟨fun amount same => ⟨Option.some.inj same, Option.some.inj same⟩, nofun⟩
    · rw [none]
      exact ⟨nofun, fun _ => ⟨invoiceAmount, rfl⟩⟩
  | fromCents asked made =>
    rw [knows.1, knows.2.2]
    exact ⟨fun amount same => ⟨Option.some.inj same, Option.some.inj same⟩, nofun⟩
  | known btc usd =>
    rw [knows.1]
    exact ⟨nofun, fun _ => ⟨knows.2.1, rfl⟩⟩

theorem Quoted.kept {usd : UsdPaymentAmount} (cents : known.recipientCents = some usd)
    (quoted : Quoted chain known quote) : quote.usdPaymentAmount = usd := by
  cases quoted with
  | fromSats asked made => cases cents
  | fromCents asked made => cases cents
  | known btc other => exact Option.some.inj cents

end Amounts

theorem built_flow_meets_contract (chain : BuilderChain) (fair : chain.Fair) (flow : PaymentFlow)
    (built : chain.withoutRoute = .ok (.ok flow)) : FlowContract chain flow := by
  obtain ⟨builder, isConverted, rest⟩ := map_eq_ok built
  obtain ⟨state, rfl, isFlow⟩ := bind_eq_ok rest
  obtain ⟨sent, addressed, known, knows, input, quoted, cents⟩ :=
    withConversion_inversion fair.inCents isConverted
  obtain ⟨notPayment, notIntraLedger, rfl⟩ := paymentFromState_inversion isFlow
  obtain ⟨chosen, fixed⟩ := quoted.given knows
  have method := sent.settlementMethod
  have currency := sent.senderWalletCurrency
  constructor
  case hash =>
    dsimp only
    cases isHash : state.hash with
    | paymentHash hash =>
      refine .inl ⟨⟨hash, fun empty => notPayment (by rw [isHash, empty]), rfl⟩, ?_⟩
      rintro ⟨_, _, other⟩
      cases other
    | intraLedgerHash hash =>
      refine .inr ⟨⟨hash, fun empty => notIntraLedger (by rw [isHash, empty]), rfl⟩, ?_⟩
      rintro ⟨_, _, other⟩
      cases other
  case positive => exact quoted.positive fair knows
  case chosen =>
    intro amount given
    obtain ⟨sentAmount, inputAmount⟩ := chosen amount given
    unfold PaymentFlow.amountInSenderCurrency
    dsimp only
    rw [currency, input]
    exact ⟨sentAmount, inputAmount⟩
  case fixed =>
    intro none
    dsimp only
    rw [input]
    exact fixed none
  case recipientAmount =>
    intro inside usd given
    exact quoted.kept ((cents inside).symm.trans given)
  case different =>
    dsimp only
    by_cases inside : state.settlementMethod = .intraLedger
    · obtain ⟨recipient, different, _⟩ := addressed.inside inside
      rw [recipient, sent.senderWalletId]
      exact fun same => different (Option.some.inj same)
    · rw [(addressed.outside inside).1]
      exact nofun
  case settlement =>
    dsimp only
    rw [method]
    exact settlement_inside_or_lightning chain
  case inside =>
    intro inside
    exact ⟨(addressed.inside inside).1, quoted.free (method.symm.trans inside)⟩
  case outside =>
    intro lightning
    have outside : state.settlementMethod ≠ .intraLedger := by
      dsimp only at lightning
      rw [lightning]
      decide
    obtain ⟨noWallet, noCurrency, noAccount, _⟩ := addressed.outside outside
    have charged := quoted.charged fair (method ▸ outside) knows
    rw [← currency] at charged
    refine ⟨?_, noWallet, charged⟩
    unfold PaymentFlow.recipientWalletDescriptor
    dsimp only
    rw [noWallet]
    rfl

section Example

def quotesAt (satsPerCent : Int) : ConversionFns where
  usdFromBtc amount := .ok ⟨max 0 (amount.amount / satsPerCent)⟩
  btcFromUsd amount := .ok ⟨max 0 (amount.amount * satsPerCent)⟩

def outsideChain (currency : WalletCurrency) (satsPerCent : Int) (start : LnInvoice → FlowStart)
    (paymentAmount : Option BtcPaymentAmount) : BuilderChain where
  config := ⟨["node"], []⟩
  start := start { paymentHash := "hash", paymentRequest := "lnbc", destination := "outside", paymentAmount }
  senderWallet := ⟨"alice", currency, "account"⟩
  recipient := noRecipient
  args := ⟨quotesAt satsPerCent, quotesAt satsPerCent, quotesAt satsPerCent⟩
  now := 0

theorem outsideChain_fair {currency : WalletCurrency} {satsPerCent : Int}
    {start : LnInvoice → FlowStart} {paymentAmount : Option BtcPaymentAmount}
    (positive : ∀ btc, (outsideChain currency satsPerCent start paymentAmount).start.invoiceAmount = some btc →
      0 < btc.amount) : (outsideChain currency satsPerCent start paymentAmount).Fair where
  invoiceAmount := positive
  inCents := fun _ => nofun
  recipientAmount := nofun
  usdQuote side btc usd asked := by
    cases side <;> cases asked <;> exact le_max_left _ _
  btcQuote side usd btc asked := by
    cases side <;> cases asked <;> exact le_max_left _ _

theorem invoice_of_1000_sats_meets_contract :
    ∃ flow, (outsideChain .usd 20 .withInvoice (some ⟨1000⟩)).withoutRoute = .ok (.ok flow) ∧
      FlowContract (outsideChain .usd 20 .withInvoice (some ⟨1000⟩)) flow := by
  refine ⟨_, rfl, built_flow_meets_contract _ (outsideChain_fair ?_) _ rfl⟩
  intro btc given
  cases given
  decide

end Example

end Galoy
