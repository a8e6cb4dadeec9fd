import Galoy.Payments.FlowBuilder

set_option autoImplicit false

namespace Galoy

open AmountCalculator

inductive FlowStart where
  | withInvoice (invoice : LnInvoice)
  | withNoAmountInvoice (invoice : LnInvoice) (uncheckedAmount : ℚ)
  | withoutInvoice (intraLedgerHash : String) (uncheckedAmount : ℚ) (description : String)

namespace FlowStart

def builder (config : LightningPaymentFlowBuilderConfig) :
    FlowStart → Except Thrown (Except AppError LPFBWithInvoiceState)
  | .withInvoice invoice => LightningPaymentFlowBuilder.withInvoice config invoice
  | .withNoAmountInvoice invoice uncheckedAmount =>
    LightningPaymentFlowBuilder.withNoAmountInvoice config invoice uncheckedAmount
  | .withoutInvoice intraLedgerHash uncheckedAmount description =>
    .ok (.ok (LightningPaymentFlowBuilder.withoutInvoice config intraLedgerHash
      uncheckedAmount description))

def hash : FlowStart → FlowHash
  | .withInvoice invoice | .withNoAmountInvoice invoice _ => .paymentHash invoice.paymentHash
  | .withoutInvoice intraLedgerHash _ _ => .intraLedgerHash intraLedgerHash

def destination : FlowStart → Option Pubkey
  | .withInvoice invoice | .withNoAmountInvoice invoice _ => some invoice.destination
  | .withoutInvoice _ _ _ => none

def uncheckedAmount : FlowStart → Option ℚ
  | .withInvoice _ => none
  | .withNoAmountInvoice _ uncheckedAmount | .withoutInvoice _ uncheckedAmount _ =>
    some uncheckedAmount

def invoiceAmount : FlowStart → Option BtcPaymentAmount
  | .withInvoice invoice => invoice.paymentAmount
  | .withNoAmountInvoice _ _ | .withoutInvoice _ _ _ => none

end FlowStart

structure BuilderChain where
  config : LightningPaymentFlowBuilderConfig
  start : FlowStart
  senderWallet : WalletDescriptor
  recipient : RecipientDetails
  args : WithConversionArgs
  now : Nat

namespace BuilderChain

variable (chain : BuilderChain)

def settlement : Settlement :=
  LightningPaymentFlowBuilder.settlementMethodFromDestination chain.config chain.start.destination

def withSenderWallet : Except Thrown (Except AppError LPFBWithSenderWalletState) :=
  (chain.start.builder chain.config).bind (senderStep chain.senderWallet)

def withRecipient : Except Thrown (Except AppError LPFBWithRecipientWalletState) :=
  chain.withSenderWallet.map fun builder => builder.bind fun state =>
    if state.isIntraLedger then state.withRecipientWallet chain.recipient
    else state.withoutRecipientWallet

def withConversion : Except Thrown (Except AppError LPFBWithConversionState) :=
  chain.withRecipient.map fun builder => builder.bind fun state =>
    state.withConversion chain.args chain.now

def withoutRoute : Except Thrown (Except AppError PaymentFlow) :=
  chain.withConversion.map fun builder => builder.bind fun state => state.withoutRoute

def withRoute (pubkey : Pubkey) (rawRoute : RawRoute) : Except Thrown
    (Except AppError PaymentFlow) :=
  chain.withConversion.map fun builder => builder.bind fun state => state.withRoute pubkey rawRoute

end BuilderChain

inductive KnownAmounts where
  | sats (btc : BtcPaymentAmount)
  | cents (usd : UsdPaymentAmount)
  | both (btc : BtcPaymentAmount) (usd : UsdPaymentAmount)

def firstFee {currency : WalletCurrency} (method : SettlementMethod) (amount : Amount currency) :
    Amount currency :=
  if method = .intraLedger then ⟨0⟩ else LnFees.maxProtocolFee amount

namespace BuilderChain

variable (chain : BuilderChain)

def Knows : KnownAmounts → Prop
  | .sats btc =>
    (chain.start.uncheckedAmount = some (btc.amount : ℚ) ∧ 0 < btc.amount ∧
      chain.senderWallet.currency = .btc) ∨
      (chain.start.uncheckedAmount = none ∧ chain.start.invoiceAmount = some btc)
  | .cents usd =>
    chain.start.uncheckedAmount = some (usd.amount : ℚ) ∧ 0 < usd.amount ∧
      chain.senderWallet.currency = .usd
  | .both btc usd =>
    chain.start.uncheckedAmount = none ∧ chain.start.invoiceAmount = some btc ∧
      chain.recipient.usdPaymentAmount = some usd ∧ chain.settlement.settlementMethod = .intraLedger

end BuilderChain

def KnownAmounts.inputAmount : KnownAmounts → Int
  | .sats btc => btc.amount
  | .cents usd => usd.amount
  | .both btc _ => btc.amount

def KnownAmounts.recipientCents : KnownAmounts → Option UsdPaymentAmount
  | .sats _ | .cents _ => none
  | .both _ usd => some usd

def LPFBWithSenderWalletState.Holds (state : LPFBWithSenderWalletState) : KnownAmounts → Prop
  | .sats btc =>
    state.btcPaymentAmount = some btc ∧ state.usdPaymentAmount = none ∧
      state.btcProtocolFee = some (firstFee state.settlementMethod btc)
  | .cents usd =>
    state.btcPaymentAmount = none ∧ state.usdPaymentAmount = some usd ∧
      state.usdProtocolFee = some (firstFee state.settlementMethod usd)
  | .both btc usd =>
    state.btcPaymentAmount = some btc ∧ state.usdPaymentAmount = some usd ∧
      state.btcProtocolFee = some ⟨0⟩ ∧ state.usdProtocolFee = some ⟨0⟩

section Steps

variable {chain : BuilderChain}

theorem start_inversion {state : LPFBWithInvoiceState}
    (built : chain.start.builder chain.config = .ok (.ok state)) :
    state.hash = chain.start.hash ∧ state.toSettlement = chain.settlement ∧
      state.uncheckedAmount = chain.start.uncheckedAmount ∧
      state.btcPaymentAmount = chain.start.invoiceAmount ∧
      state.inputAmount = chain.start.invoiceAmount.map (·.amount) := by
  unfold BuilderChain.settlement
  cases entered : chain.start with
  | withInvoice invoice =>
    rw [entered] at built
    unfold FlowStart.builder LightningPaymentFlowBuilder.withInvoice at built
    dsimp only at built
    split at built
    · cases built
    · rename_i paymentAmount amount
      obtain ⟨_, _, same⟩ := bind_eq_ok built
      cases same
      exact ⟨rfl, rfl, rfl, amount.symm, (congrArg (Option.map _) amount).symm⟩
  | withNoAmountInvoice invoice uncheckedAmount =>
    rw [entered] at built
    obtain ⟨_, _, same⟩ := bind_eq_ok built
    cases same
    exact ⟨rfl, rfl, rfl, rfl, rfl⟩
  | withoutInvoice intraLedgerHash uncheckedAmount description =>
    rw [entered] at built
    cases built
    exact ⟨rfl, rfl, rfl, rfl, rfl⟩

theorem settlement_free (free : chain.settlement.settlementMethod = .intraLedger) :
    chain.settlement.btcProtocolFee = some ⟨0⟩ ∧ chain.settlement.usdProtocolFee = some ⟨0⟩ := by
  unfold BuilderChain.settlement LightningPaymentFlowBuilder.settlementMethodFromDestination at *
  dsimp only at free ⊢
  rw [free]
  exact ⟨rfl, rfl⟩

theorem settlement_fees (btc : BtcPaymentAmount) (usd : UsdPaymentAmount) :
    chain.settlement.btcProtocolFee.getD (LnFees.maxProtocolFee btc) =
        firstFee chain.settlement.settlementMethod btc ∧
      chain.settlement.usdProtocolFee.getD (LnFees.maxProtocolFee usd) =
        firstFee chain.settlement.settlementMethod usd := by
  unfold firstFee
  by_cases free : chain.settlement.settlementMethod = .intraLedger
  · obtain ⟨btcFee, usdFee⟩ := settlement_free free
    rw [btcFee, usdFee, if_pos free, if_pos free]
    exact ⟨rfl, rfl⟩
  · rw [if_neg free, if_neg free]
    unfold BuilderChain.settlement LightningPaymentFlowBuilder.settlementMethodFromDestination at *
    dsimp only at free ⊢
    rw [if_neg free]
    exact ⟨rfl, rfl⟩

theorem invoiceAmount_none {start : FlowStart} (chosen : start.uncheckedAmount ≠ none) :
    start.invoiceAmount = none := by
  cases start with
  | withInvoice invoice => exact absurd rfl chosen
  | withNoAmountInvoice invoice uncheckedAmount => rfl
  | withoutInvoice intraLedgerHash uncheckedAmount description => rfl

structure Sent (chain : BuilderChain) (state : LPFBWithSenderWalletState) : Prop where
  hash : state.hash = chain.start.hash
  settlementMethod : state.settlementMethod = chain.settlement.settlementMethod
  uncheckedAmount : state.uncheckedAmount = chain.start.uncheckedAmount
  senderWalletId : state.senderWalletId = chain.senderWallet.id
  senderWalletCurrency : state.senderWalletCurrency = chain.senderWallet.currency
  senderAccountId : state.senderAccountId = chain.senderWallet.accountId
  free : state.settlementMethod = .intraLedger →
    state.btcProtocolFee = some ⟨0⟩ ∧ state.usdProtocolFee = some ⟨0⟩

theorem withSenderWallet_inversion {sent : LPFBWithSenderWalletState}
    (built : chain.withSenderWallet = .ok (.ok sent)) :
    Sent chain sent ∧ ∃ known, chain.Knows known ∧ sent.Holds known ∧
      sent.inputAmount = known.inputAmount ∧
      ∀ btc usd, known ≠ .both btc usd := by
  obtain ⟨builder, entered, built⟩ := bind_eq_ok built
  cases builder with
  | error error => cases built
  | ok state =>
    obtain ⟨hash, settlement, unchecked, invoiceAmount, inputAmount⟩ := start_inversion entered
    unfold senderStep LPFBWithInvoiceState.withSenderWallet at built
    dsimp only at built
    have method : state.settlementMethod = chain.settlement.settlementMethod := by rw [settlement]
    have btcFee (btc : BtcPaymentAmount) : state.btcProtocolFee.getD (LnFees.maxProtocolFee btc) =
        firstFee state.settlementMethod btc := by
      rw [settlement]
      exact (settlement_fees btc ⟨0⟩).1
    have usdFee (usd : UsdPaymentAmount) : state.usdProtocolFee.getD (LnFees.maxProtocolFee usd) =
        firstFee state.settlementMethod usd := by
      rw [settlement]
      exact (settlement_fees ⟨0⟩ usd).2
    have free : state.settlementMethod = .intraLedger →
        state.btcProtocolFee = some ⟨0⟩ ∧ state.usdProtocolFee = some ⟨0⟩ := by
      rw [settlement]
      exact settlement_free
    split at built
    · rename_i amount _ chosen currency
      obtain ⟨paymentAmount, checked, rfl⟩ := map_eq_ok (Except.ok.inj built)
      obtain ⟨exact, positive⟩ := checkedToPaymentAmount_exact checked
      refine ⟨⟨hash, method, unchecked, rfl, rfl, rfl, fun inside => ?_⟩, .sats paymentAmount,
        .inl ⟨?_, positive, currency⟩, ⟨rfl, rfl, congrArg some (btcFee paymentAmount)⟩, rfl, nofun⟩
      · exact ⟨by rw [(free inside).1]; rfl, (free inside).2⟩
      · rw [← unchecked, chosen, exact]
    · rename_i amount _ chosen currency
      obtain ⟨paymentAmount, checked, rfl⟩ := map_eq_ok (Except.ok.inj built)
      obtain ⟨exact, positive⟩ := checkedToPaymentAmount_exact checked
      have none : chain.start.invoiceAmount = none :=
        invoiceAmount_none (by rw [← unchecked, chosen]; simp)
      refine ⟨⟨hash, method, unchecked, rfl, rfl, rfl, fun inside => ?_⟩, .cents paymentAmount,
        ⟨?_, positive, currency⟩, ⟨invoiceAmount.trans none, rfl,
          congrArg some (usdFee paymentAmount)⟩, rfl, nofun⟩
      · exact ⟨(free inside).1, by rw [(free inside).2]; rfl⟩
      · rw [← unchecked, chosen, exact]
    · rename_i _ _ fixed
      split at built
      · rename_i input btc isInput isBtc
        split at built
        · cases built
        · cases built
          have given : chain.start.invoiceAmount = some btc := invoiceAmount.symm.trans isBtc
          have same : input = btc.amount := by
            rw [isInput, given] at inputAmount
            exact Option.some.inj inputAmount
          refine ⟨⟨hash, method, unchecked, rfl, rfl, rfl, fun inside => ?_⟩, .sats btc,
            .inr ⟨unchecked.symm.trans fixed, given⟩, ⟨isBtc, rfl, congrArg some (btcFee btc)⟩,
            same, nofun⟩
          exact ⟨by rw [(free inside).1]; rfl, (free inside).2⟩
      · cases built

structure Addressed (chain : BuilderChain) (state : LPFBWithRecipientWalletState) : Prop where
  inside : state.settlementMethod = .intraLedger →
    state.recipientWalletId = some chain.recipient.id ∧ chain.recipient.id ≠ chain.senderWallet.id ∧
      state.recipientWalletCurrency = some chain.recipient.currency ∧
      state.recipientAccountId = some chain.recipient.accountId
  outside : state.settlementMethod ≠ .intraLedger →
    state.recipientWalletId = none ∧ state.recipientWalletCurrency = none ∧
      state.recipientAccountId = none ∧
      state.recipientPubkey = none ∧ state.recipientUsername = none

def RecipientDetails.InCents (recipient : RecipientDetails) : Prop :=
  recipient.usdPaymentAmount.isSome → recipient.currency = .usd

def BuilderChain.InCents (chain : BuilderChain) : Prop :=
  chain.settlement.settlementMethod = .intraLedger → chain.recipient.InCents

theorem withRecipientWallet_inversion {sent : LPFBWithSenderWalletState}
    {recipient : RecipientDetails} {state : LPFBWithRecipientWalletState}
    (built : sent.withRecipientWallet recipient = .ok state) :
    recipient.id ≠ sent.senderWalletId ∧
      ¬(recipient.currency = .usd ∧ recipient.usdPaymentAmount.isSome =
        truthy sent.uncheckedAmount) ∧
      state = { sent with
        recipientWalletId := some recipient.id
        recipientWalletCurrency := some recipient.currency
        recipientPubkey := recipient.pubkey
        recipientAccountId := some recipient.accountId
        recipientUsername := recipient.username
        usdPaymentAmount := recipient.usdPaymentAmount.or sent.usdPaymentAmount } := by
  unfold LPFBWithSenderWalletState.withRecipientWallet at built
  split at built
  · cases built
  · rename_i different
    split at built
    · cases built
    · rename_i combination
      exact ⟨different, combination, (Except.ok.inj built).symm⟩

theorem no_recipient_cents {recipient : RecipientDetails} (inCents : recipient.InCents)
    {chosen : Int} (positive : 0 < chosen)
    (combination : ¬(recipient.currency = .usd ∧
      recipient.usdPaymentAmount.isSome = truthy (some (chosen : ℚ)))) :
    recipient.usdPaymentAmount = none := by
  have isTruthy : truthy (some (chosen : ℚ)) = true := by
    simp [truthy, positive.ne']
  rw [isTruthy] at combination
  cases given : recipient.usdPaymentAmount with
  | none => rfl
  | some usd =>
    have isSome : recipient.usdPaymentAmount.isSome = true := by rw [given]; rfl
    exact absurd ⟨inCents isSome, isSome⟩ combination

theorem withRecipient_inversion (inCents : chain.InCents) {state : LPFBWithRecipientWalletState}
    (built : chain.withRecipient = .ok (.ok state)) :
    Sent chain state.toLPFBWithSenderWalletState ∧ Addressed chain state ∧
      ∃ known, chain.Knows known ∧ state.Holds known ∧ state.inputAmount = known.inputAmount ∧
        (state.settlementMethod = .intraLedger → chain.recipient.usdPaymentAmount =
          known.recipientCents) := by
  obtain ⟨builder, isSent, received⟩ := map_eq_ok built
  obtain ⟨sent, rfl, chosen⟩ := bind_eq_ok received
  obtain ⟨facts, known, knows, holds, input, single⟩ := withSenderWallet_inversion isSent
  by_cases inside : sent.isIntraLedger = true
  · rw [if_pos inside] at chosen
    have method : sent.settlementMethod = .intraLedger := by
      simpa [LPFBWithSenderWalletState.isIntraLedger] using inside
    have inCents := inCents (facts.settlementMethod.symm.trans method)
    obtain ⟨different, combination, rfl⟩ := withRecipientWallet_inversion chosen
    refine ⟨⟨facts.hash, facts.settlementMethod, facts.uncheckedAmount, facts.senderWalletId,
      facts.senderWalletCurrency, facts.senderAccountId, facts.free⟩,
      ⟨fun _ => ⟨rfl, facts.senderWalletId ▸ different, rfl, rfl⟩, fun outside =>
        absurd method outside⟩, ?_⟩
    rw [facts.uncheckedAmount] at combination
    cases known with
    | both btc usd => exact absurd rfl (single btc usd)
    | cents usd =>
      obtain ⟨unchecked, positive, currency⟩ := knows
      rw [unchecked] at combination
      have none := no_recipient_cents inCents positive combination
      exact ⟨.cents usd, ⟨unchecked, positive, currency⟩,
        ⟨holds.1, by simpa [none] using holds.2.1, holds.2.2⟩, input, fun _ => none⟩
    | sats btc =>
      rcases knows with ⟨unchecked, positive, currency⟩ | ⟨unchecked, invoiceAmount⟩
      · rw [unchecked] at combination
        have none := no_recipient_cents inCents positive combination
        exact ⟨.sats btc, .inl ⟨unchecked, positive, currency⟩,
          ⟨holds.1, by simpa [none] using holds.2.1, holds.2.2⟩, input, fun _ => none⟩
      · cases given : chain.recipient.usdPaymentAmount with
        | none =>
          exact ⟨.sats btc, .inr ⟨unchecked, invoiceAmount⟩,
            ⟨holds.1, by simpa using holds.2.1, holds.2.2⟩, input, fun _ => rfl⟩
        | some usd =>
          exact ⟨.both btc usd, ⟨unchecked, invoiceAmount, given,
            facts.settlementMethod.symm.trans method⟩, ⟨holds.1, rfl, facts.free method⟩,
              input, fun _ => rfl⟩
  · rw [if_neg inside] at chosen
    have method : sent.settlementMethod ≠ .intraLedger := by
      simpa [LPFBWithSenderWalletState.isIntraLedger] using inside
    unfold LPFBWithSenderWalletState.withoutRecipientWallet at chosen
    rw [if_neg method] at chosen
    cases chosen
    exact ⟨facts, ⟨fun free => absurd free method, fun _ => ⟨rfl, rfl, rfl, rfl, rfl⟩⟩, known,
      knows, holds, input, fun free => absurd free method⟩

end Steps

inductive QuoteSide where
  | hedgeBuyUsd
  | hedgeSellUsd
  | mid
  deriving DecidableEq, Repr

def WithConversionArgs.at (args : WithConversionArgs) : QuoteSide → ConversionFns
  | .hedgeBuyUsd => args.hedgeBuyUsd
  | .hedgeSellUsd => args.hedgeSellUsd
  | .mid => args.mid

namespace LPFBWithRecipientWalletState

variable (state : LPFBWithRecipientWalletState)

def quoteSide : QuoteSide :=
  if state.noConversionRequired then .mid
  else if state.senderWalletCurrency = .btc then .hedgeBuyUsd
  else .hedgeSellUsd

variable {state} {args : WithConversionArgs}

theorem converted_sats {btc : BtcPaymentAmount} (holds : state.Holds (.sats btc)) :
    state.converted args = updatedStateFromBtcPaymentAmount (args.at state.quoteSide).usdFromBtc btc
      (firstFee state.settlementMethod btc) := by
  obtain ⟨isBtc, noUsd, fee⟩ := holds
  unfold converted convertedAtMid convertedByDealer quoteSide
  rw [isBtc, noUsd, fee]
  split
  · rfl
  · split <;> rfl

theorem converted_cents {usd : UsdPaymentAmount} (holds : state.Holds (.cents usd)) :
    state.converted args = updatedStateFromUsdPaymentAmount (args.at state.quoteSide).btcFromUsd usd
      (firstFee state.settlementMethod usd) := by
  obtain ⟨noBtc, isUsd, fee⟩ := holds
  unfold converted convertedAtMid convertedByDealer quoteSide
  rw [noBtc, isUsd, fee]
  split
  · rfl
  · split <;> rfl

theorem converted_both {btc : BtcPaymentAmount} {usd : UsdPaymentAmount}
    (holds : state.Holds (.both btc usd)) (inUsd : state.recipientWalletCurrency = some .usd) :
    state.converted args = .ok ⟨btc, usd, ⟨0⟩, ⟨0⟩⟩ := by
  obtain ⟨isBtc, isUsd, btcFee, usdFee⟩ := holds
  unfold converted convertedAtMid convertedByDealer
  rw [isBtc, isUsd, btcFee, usdFee, inUsd]
  cases state.noConversionRequired <;> rfl

end LPFBWithRecipientWalletState

inductive Quoted (chain : BuilderChain) : KnownAmounts → Quote → Prop where
  | fromSats {btc : BtcPaymentAmount} {usd : UsdPaymentAmount} {side : QuoteSide}
    {ratio : PriceRatio} (asked : (chain.args.at side).usdFromBtc btc = .ok usd)
      (made : PriceRatio.make usd btc = .ok ratio) :
    Quoted chain (.sats btc) ⟨btc, usd, firstFee chain.settlement.settlementMethod btc,
      ratio.convertFromBtcToCeil (firstFee chain.settlement.settlementMethod btc)⟩
  | fromCents {btc : BtcPaymentAmount} {usd : UsdPaymentAmount} {side : QuoteSide}
    {ratio : PriceRatio} (asked : (chain.args.at side).btcFromUsd usd = .ok btc)
      (made : PriceRatio.make usd btc = .ok ratio) :
    Quoted chain (.cents usd) ⟨btc, usd,
      ratio.convertFromUsd (firstFee chain.settlement.settlementMethod usd),
      firstFee chain.settlement.settlementMethod usd⟩
  | known (btc : BtcPaymentAmount) (usd : UsdPaymentAmount) :
    Quoted chain (.both btc usd) ⟨btc, usd, ⟨0⟩, ⟨0⟩⟩

theorem withConversion_inversion {chain : BuilderChain} (inCents : chain.InCents)
    {state : LPFBWithConversionState} (built : chain.withConversion = .ok (.ok state)) :
    Sent chain state.toLPFBWithSenderWalletState ∧
      Addressed chain state.toLPFBWithRecipientWalletState ∧
      ∃ known, chain.Knows known ∧ state.inputAmount = known.inputAmount ∧
        Quoted chain known state.quote ∧
        (state.settlementMethod = .intraLedger → chain.recipient.usdPaymentAmount =
          known.recipientCents) := by
  obtain ⟨builder, isReceived, converted⟩ := map_eq_ok built
  obtain ⟨received, rfl, isConverted⟩ := bind_eq_ok converted
  obtain ⟨quote, isQuote, rfl⟩ := map_eq_ok isConverted
  obtain ⟨sent, addressed, known, knows, holds, input, cents⟩ :=
    withRecipient_inversion inCents isReceived
  refine ⟨sent, addressed, known, knows, input, ?_, cents⟩
  cases known with
  | sats btc =>
    rw [LPFBWithRecipientWalletState.converted_sats holds] at isQuote
    obtain ⟨usd, asked, rest⟩ := bind_eq_ok isQuote
    obtain ⟨ratio, made, same⟩ := bind_eq_ok rest
    cases same
    rw [sent.settlementMethod]
    exact .fromSats asked made
  | cents usd =>
    rw [LPFBWithRecipientWalletState.converted_cents holds] at isQuote
    obtain ⟨btc, asked, rest⟩ := bind_eq_ok isQuote
    obtain ⟨ratio, made, same⟩ := bind_eq_ok rest
    cases same
    rw [sent.settlementMethod]
    exact .fromCents asked made
  | both btc usd =>
    obtain ⟨_, _, given, inside⟩ := knows
    have currency := (addressed.inside (sent.settlementMethod.trans inside)).2.2.1
    rw [inCents inside (by rw [given]; rfl)] at currency
    rw [LPFBWithRecipientWalletState.converted_both holds currency] at isQuote
    cases isQuote
    exact .known btc usd

theorem withConversion_parties {chain : BuilderChain} {state : LPFBWithConversionState}
    (built : chain.withConversion = .ok (.ok state)) :
    state.settlementMethod = chain.settlement.settlementMethod ∧ state.hash = chain.start.hash ∧
      state.senderWalletCurrency = chain.senderWallet.currency ∧
      state.senderAccountId = chain.senderWallet.accountId ∧
      (state.settlementMethod ≠ .intraLedger → state.recipientAccountId = none) := by
  obtain ⟨builder, isReceived, converted⟩ := map_eq_ok built
  obtain ⟨received, rfl, isConverted⟩ := bind_eq_ok converted
  obtain ⟨quote, _, rfl⟩ := map_eq_ok isConverted
  obtain ⟨builder, isSent, rest⟩ := map_eq_ok isReceived
  obtain ⟨sent, rfl, chosen⟩ := bind_eq_ok rest
  obtain ⟨facts, _⟩ := withSenderWallet_inversion isSent
  split at chosen
  · rename_i inside
    obtain ⟨_, _, rfl⟩ := withRecipientWallet_inversion chosen
    refine ⟨facts.settlementMethod, facts.hash, facts.senderWalletCurrency, facts.senderAccountId,
      fun outside => ?_⟩
    exact absurd (of_decide_eq_true inside) outside
  · unfold LPFBWithSenderWalletState.withoutRecipientWallet at chosen
    split at chosen
    · cases chosen
    · cases chosen
      exact ⟨facts.settlementMethod, facts.hash, facts.senderWalletCurrency,
        facts.senderAccountId, fun _ => rfl⟩

section Construct

variable {answers : BuilderAnswers} {senderWallet : WalletDescriptor} {invoice : LnInvoice}
  {uncheckedAmount : Option ℚ}

def invoiceStart (invoice : LnInvoice) (uncheckedAmount : Option ℚ) : FlowStart :=
  match uncheckedAmount with
  | some amount => if amount ≠ 0 then .withNoAmountInvoice invoice amount else .withInvoice invoice
  | none => .withInvoice invoice

theorem builderWithInvoice_start (config : LightningPaymentFlowBuilderConfig) :
    builderWithInvoice invoice uncheckedAmount config =
      (invoiceStart invoice uncheckedAmount).builder config := by
  unfold builderWithInvoice invoiceStart
  cases uncheckedAmount with
  | none => rfl
  | some amount =>
    by_cases zero : amount ≠ 0
    · simp only [if_pos zero, FlowStart.builder]
    · simp only [if_neg zero, FlowStart.builder]

def noRecipient : RecipientDetails := ⟨"", .btc, "", none, none, none⟩

theorem recipientStep_chain {sent : LPFBWithSenderWalletState}
    {received : LPFBWithRecipientWalletState}
    (built : recipientStep answers (.ok sent) = .ok (.ok received)) :
    ∃ recipient, (if sent.isIntraLedger then sent.withRecipientWallet recipient
        else sent.withoutRecipientWallet) = .ok received ∧
      if sent.isIntraLedger then recipientDetailsFromInvoice answers = .ok recipient
      else recipient = noRecipient := by
  unfold recipientStep at built
  dsimp only at built
  by_cases inside : sent.isIntraLedger = true
  · rw [if_pos inside] at built
    obtain ⟨recipient, details, same⟩ := map_eq_ok built
    exact ⟨recipient, by rw [if_pos inside]; exact same, by rw [if_pos inside]; exact details⟩
  · rw [if_neg inside] at built
    exact ⟨noRecipient, by rw [if_neg inside]; exact Except.ok.inj built, by rw [if_neg inside]⟩

theorem constructPaymentFlowBuilder_chain {state : LPFBWithConversionState}
    (built : constructPaymentFlowBuilder answers senderWallet invoice uncheckedAmount =
      .ok (.ok (.ok state))) :
    ∃ chain : BuilderChain, chain.withConversion = .ok (.ok state) ∧
      chain.senderWallet = senderWallet ∧
      chain.start = invoiceStart invoice uncheckedAmount ∧
      chain.args = ⟨answers.hedgeBuyUsd, answers.hedgeSellUsd, answers.mid⟩ ∧
      if chain.settlement.settlementMethod = .intraLedger then
        recipientDetailsFromInvoice answers = .ok chain.recipient
      else chain.recipient = noRecipient := by
  unfold constructPaymentFlowBuilder at built
  split at built
  · cases built
  · rename_i localNodeIds _
    obtain ⟨withInvoice, isInvoice, rest⟩ := bind_eq_ok built
    obtain ⟨withSenderWallet, isSender, rest⟩ := bind_eq_ok rest
    obtain ⟨received, isRecipient, isConversion⟩ :=
      builderAfterSender_inversion (Except.ok.inj rest)
    obtain ⟨sent, rfl, _⟩ := recipientStep_key isRecipient
    obtain ⟨recipient, isReceived, details⟩ := recipientStep_chain isRecipient
    rw [builderWithInvoice_start] at isInvoice
    let chain : BuilderChain :=
      { config := ⟨localNodeIds, answers.pubkeysToSkipProbe⟩
        start := invoiceStart invoice uncheckedAmount
        senderWallet
        recipient
        args := ⟨answers.hedgeBuyUsd, answers.hedgeSellUsd, answers.mid⟩
        now := answers.now }
    have isSent : chain.withSenderWallet = .ok (.ok sent) := by
      unfold BuilderChain.withSenderWallet
      rw [isInvoice]
      exact isSender
    have isReceived : chain.withRecipient = .ok (.ok received) := by
      unfold BuilderChain.withRecipient
      rw [isSent]
      exact congrArg Except.ok isReceived
    refine ⟨chain, ?_, rfl, rfl, rfl, ?_⟩
    · unfold BuilderChain.withConversion
      rw [isReceived]
      exact congrArg Except.ok isConversion
    · obtain ⟨facts, _⟩ := withSenderWallet_inversion isSent
      simpa [LPFBWithSenderWalletState.isIntraLedger, facts.settlementMethod] using details

end Construct

end Galoy
