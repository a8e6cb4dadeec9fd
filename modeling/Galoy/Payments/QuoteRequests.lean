import Galoy.Interleave.Alone
import Galoy.Payments.FlowContract

set_option autoImplicit false

namespace Galoy

open Interleave Failing

inductive QuoteRequest where
  | usdFromBtc (side : QuoteSide) (amount : BtcPaymentAmount)
  | btcFromUsd (side : QuoteSide) (amount : UsdPaymentAmount)
  deriving DecidableEq, Repr

@[reducible] def QuoteReply : QuoteRequest → Type
  | .usdFromBtc _ _ => Except AppError UsdPaymentAmount
  | .btcFromUsd _ _ => Except AppError BtcPaymentAmount

namespace QuoteRequest

def side : QuoteRequest → QuoteSide
  | .usdFromBtc side _ | .btcFromUsd side _ => side

end QuoteRequest

def WithConversionArgs.reply (args : WithConversionArgs) : (request : QuoteRequest) →
    QuoteReply request
  | .usdFromBtc side amount => (args.at side).usdFromBtc amount
  | .btcFromUsd side amount => (args.at side).btcFromUsd amount

def WithConversionArgs.Fails (args : WithConversionArgs) : QuoteRequest → Prop
  | .usdFromBtc side amount => ∀ usd, (args.at side).usdFromBtc amount = .ok usd → usd.amount = 0
  | .btcFromUsd side amount => ∀ btc, (args.at side).btcFromUsd amount = .ok btc → btc.amount = 0

@[reducible] def quoteService : Service (List QuoteRequest) QuoteRequest QuoteReply where
  Answer := QuoteReply
  serve _ log request answer := some (answer, log ++ [request])

abbrev Quoting (α : Type) := ExceptT AppError (Prog QuoteRequest QuoteReply) α

def requestFromBtcPaymentAmount (side : QuoteSide)
    (btcPaymentAmount btcProtocolFee : BtcPaymentAmount) : Quoting Quote := do
  let convertedAmount ← fallible (Prog.request (QuoteRequest.usdFromBtc side btcPaymentAmount))
  let priceRatio ← ofResult (PriceRatio.make convertedAmount btcPaymentAmount)
  return {
    btcPaymentAmount
    usdPaymentAmount := convertedAmount
    btcProtocolFee
    usdProtocolFee := priceRatio.convertFromBtcToCeil btcProtocolFee }

def requestFromUsdPaymentAmount (side : QuoteSide)
    (usdPaymentAmount usdProtocolFee : UsdPaymentAmount) : Quoting Quote := do
  let convertedAmount ← fallible (Prog.request (QuoteRequest.btcFromUsd side usdPaymentAmount))
  let priceRatio ← ofResult (PriceRatio.make usdPaymentAmount convertedAmount)
  return {
    btcPaymentAmount := convertedAmount
    usdPaymentAmount
    btcProtocolFee := priceRatio.convertFromUsd usdProtocolFee
    usdProtocolFee }

namespace LPFBWithRecipientWalletState

variable (state : LPFBWithRecipientWalletState)

def requestedAtMid : Quoting Quote :=
  match state.btcPaymentAmount, state.btcProtocolFee, state.usdPaymentAmount,
    state.usdProtocolFee with
  | some btcPaymentAmount, some btcProtocolFee, some usdPaymentAmount, some usdProtocolFee =>
    return { btcPaymentAmount, usdPaymentAmount, btcProtocolFee, usdProtocolFee }
  | some btcPaymentAmount, some btcProtocolFee, _, _ =>
    requestFromBtcPaymentAmount .mid btcPaymentAmount btcProtocolFee
  | _, _, some usdPaymentAmount, some usdProtocolFee =>
    requestFromUsdPaymentAmount .mid usdPaymentAmount usdProtocolFee
  | _, _, _, _ =>
    throw
      { name := .InvalidLightningPaymentFlowBuilderStateError
        message := "withConversion - btcPaymentAmount || btcProtocolFee not set" }

def requestedFromDealer : Quoting Quote :=
  let dealer : QuoteSide := if state.senderWalletCurrency = .btc then .hedgeBuyUsd
    else .hedgeSellUsd
  match state.btcPaymentAmount, state.btcProtocolFee, state.usdPaymentAmount,
    state.usdProtocolFee with
  | some btcPaymentAmount, some btcProtocolFee, some usdPaymentAmount, some usdProtocolFee =>
    if state.recipientWalletCurrency = some .usd then
      return { btcPaymentAmount, usdPaymentAmount, btcProtocolFee, usdProtocolFee }
    else requestFromBtcPaymentAmount dealer btcPaymentAmount btcProtocolFee
  | some btcPaymentAmount, some btcProtocolFee, _, _ =>
    requestFromBtcPaymentAmount dealer btcPaymentAmount btcProtocolFee
  | _, _, some usdPaymentAmount, some usdProtocolFee =>
    requestFromUsdPaymentAmount dealer usdPaymentAmount usdProtocolFee
  | _, _, _, _ =>
    throw
      { name := .InvalidLightningPaymentFlowBuilderStateError
        message := "withConversion - impossible withConversion state" }

def requested : Quoting Quote :=
  if state.noConversionRequired then state.requestedAtMid else state.requestedFromDealer

end LPFBWithRecipientWalletState

section Runs

variable {args : WithConversionArgs}

def Asks (args : WithConversionArgs) (program : Quoting Quote) (result : Except AppError Quote)
    (asked : List QuoteRequest) : Prop :=
  eval quoteService 0 args.reply program.run [] = some (result, asked)

theorem Asks.of_ends {program : Quoting Quote} {result : Except AppError Quote}
    {asked : List QuoteRequest}
    (ends : EndsRun quoteService 0 args.reply program []
      (fun given log => given = result ∧ log = asked)) :
    Asks args program result asked := by
  obtain ⟨_, _, evaluated, rfl, rfl⟩ := ends
  exact evaluated

theorem Asks.unique {program : Quoting Quote} {first second : Except AppError Quote}
    {asked others : List QuoteRequest} (asks : Asks args program first asked)
    (asksToo : Asks args program second others) : asked = others :=
  (Prod.mk.inj (Option.some.inj (asks.symm.trans asksToo))).2

theorem requestFromBtc_asks (side : QuoteSide) (btc fee : BtcPaymentAmount) :
    Asks args (requestFromBtcPaymentAmount side btc fee)
      (updatedStateFromBtcPaymentAmount (args.at side).usdFromBtc btc fee)
      [.usdFromBtc side btc] := by
  refine Asks.of_ends (endsRun_bind.mpr ?_)
  refine ends_served (S := quoteService) rfl ?_
  unfold updatedStateFromBtcPaymentAmount
  dsimp only [WithConversionArgs.reply]
  cases (args.at side).usdFromBtc btc with
  | error error => exact ⟨rfl, rfl⟩
  | ok usd =>
    refine endsRun_bind.mpr (ends_pure.mpr ?_)
    cases made : PriceRatio.make usd btc with
    | error error => exact ⟨by simp [made, bind, Except.bind], rfl⟩
    | ok ratio => exact endsRun_pure.mpr ⟨by simp [made, bind, Except.bind, pure, Except.pure], rfl⟩

theorem requestFromUsd_asks (side : QuoteSide) (usd fee : UsdPaymentAmount) :
    Asks args (requestFromUsdPaymentAmount side usd fee)
      (updatedStateFromUsdPaymentAmount (args.at side).btcFromUsd usd fee)
      [.btcFromUsd side usd] := by
  refine Asks.of_ends (endsRun_bind.mpr ?_)
  refine ends_served (S := quoteService) rfl ?_
  unfold updatedStateFromUsdPaymentAmount
  dsimp only [WithConversionArgs.reply]
  cases (args.at side).btcFromUsd usd with
  | error error => exact ⟨rfl, rfl⟩
  | ok btc =>
    refine endsRun_bind.mpr (ends_pure.mpr ?_)
    cases made : PriceRatio.make usd btc with
    | error error => exact ⟨by simp [made, bind, Except.bind], rfl⟩
    | ok ratio => exact endsRun_pure.mpr ⟨by simp [made, bind, Except.bind, pure, Except.pure], rfl⟩

variable {state : LPFBWithRecipientWalletState}

theorem requested_refines (state : LPFBWithRecipientWalletState) (args : WithConversionArgs) :
    ∃ asked, Asks args state.requested (state.converted args) asked := by
  unfold LPFBWithRecipientWalletState.requested LPFBWithRecipientWalletState.converted
  by_cases same : state.noConversionRequired = true
  · rw [if_pos same, if_pos same]
    unfold LPFBWithRecipientWalletState.requestedAtMid LPFBWithRecipientWalletState.convertedAtMid
    rcases state.btcPaymentAmount with _ | btc <;> rcases state.btcProtocolFee with _ | btcFee <;>
      rcases state.usdPaymentAmount with _ | usd <;> rcases state.usdProtocolFee with _ | usdFee <;>
      first
        | exact ⟨[], rfl⟩
        | exact ⟨_, requestFromBtc_asks .mid _ _⟩
        | exact ⟨_, requestFromUsd_asks .mid _ _⟩
  · rw [if_neg same, if_neg same]
    unfold LPFBWithRecipientWalletState.requestedFromDealer
      LPFBWithRecipientWalletState.convertedByDealer
    have dealer : (if state.senderWalletCurrency = .btc then args.hedgeBuyUsd
        else args.hedgeSellUsd) =
        args.at (if state.senderWalletCurrency = .btc then .hedgeBuyUsd else .hedgeSellUsd) := by
      split <;> rfl
    rw [dealer]
    rcases state.btcPaymentAmount with _ | btc <;> rcases state.btcProtocolFee with _ | btcFee <;>
      rcases state.usdPaymentAmount with _ | usd <;> rcases state.usdProtocolFee with _ | usdFee <;>
      first
        | exact ⟨[], rfl⟩
        | exact ⟨_, requestFromBtc_asks _ _ _⟩
        | exact ⟨_, requestFromUsd_asks _ _ _⟩
        | skip
    by_cases inUsd : state.recipientWalletCurrency = some .usd
    · simp only [if_pos inUsd]
      exact ⟨[], rfl⟩
    · simp only [if_neg inUsd]
      exact ⟨_, requestFromBtc_asks _ _ _⟩

theorem requested_sats {btc : BtcPaymentAmount} (holds : state.Holds (.sats btc)) :
    Asks args state.requested (state.converted args) [.usdFromBtc state.quoteSide btc] := by
  have program : state.requested =
      requestFromBtcPaymentAmount state.quoteSide btc (firstFee state.settlementMethod btc) := by
    obtain ⟨isBtc, noUsd, fee⟩ := holds
    unfold LPFBWithRecipientWalletState.requested LPFBWithRecipientWalletState.requestedAtMid
      LPFBWithRecipientWalletState.requestedFromDealer LPFBWithRecipientWalletState.quoteSide
    rw [isBtc, noUsd, fee]
    split <;> rfl
  rw [program, LPFBWithRecipientWalletState.converted_sats holds]
  exact requestFromBtc_asks _ _ _

theorem requested_cents {usd : UsdPaymentAmount} (holds : state.Holds (.cents usd)) :
    Asks args state.requested (state.converted args) [.btcFromUsd state.quoteSide usd] := by
  have program : state.requested =
      requestFromUsdPaymentAmount state.quoteSide usd (firstFee state.settlementMethod usd) := by
    obtain ⟨noBtc, isUsd, fee⟩ := holds
    unfold LPFBWithRecipientWalletState.requested LPFBWithRecipientWalletState.requestedAtMid
      LPFBWithRecipientWalletState.requestedFromDealer LPFBWithRecipientWalletState.quoteSide
    rw [noBtc, isUsd, fee]
    split <;> rfl
  rw [program, LPFBWithRecipientWalletState.converted_cents holds]
  exact requestFromUsd_asks _ _ _

theorem requested_both {btc : BtcPaymentAmount} {usd : UsdPaymentAmount}
    (holds : state.Holds (.both btc usd)) (inUsd : state.recipientWalletCurrency = some .usd) :
    Asks args state.requested (state.converted args) [] := by
  have program : state.requested = pure ⟨btc, usd, ⟨0⟩, ⟨0⟩⟩ := by
    obtain ⟨isBtc, isUsd, btcFee, usdFee⟩ := holds
    unfold LPFBWithRecipientWalletState.requested LPFBWithRecipientWalletState.requestedAtMid
      LPFBWithRecipientWalletState.requestedFromDealer
    rw [isBtc, isUsd, btcFee, usdFee, inUsd]
    cases state.noConversionRequired <;> rfl
  rw [program, LPFBWithRecipientWalletState.converted_both holds inUsd]
  rfl

end Runs

namespace BuilderChain

variable (chain : BuilderChain)

def payeeCurrency : Option WalletCurrency :=
  if chain.settlement.settlementMethod = .intraLedger then some chain.recipient.currency else none

def Quotes : QuoteSide → Prop
  | .hedgeBuyUsd => chain.senderWallet.currency = .btc ∧ chain.payeeCurrency = some .usd
  | .hedgeSellUsd =>
    chain.senderWallet.currency = .usd ∧
      (chain.payeeCurrency = some .btc ∨ chain.payeeCurrency = none)
  | .mid =>
    chain.payeeCurrency = some chain.senderWallet.currency ∨
      (chain.senderWallet.currency = .btc ∧ chain.payeeCurrency = none)

end BuilderChain

section Sides

variable {chain : BuilderChain} {state : LPFBWithRecipientWalletState}

theorem Addressed.payeeCurrency (sent : Sent chain state.toLPFBWithSenderWalletState)
    (addressed : Addressed chain state) : state.recipientWalletCurrency = chain.payeeCurrency := by
  unfold BuilderChain.payeeCurrency
  rw [← sent.settlementMethod]
  by_cases inside : state.settlementMethod = .intraLedger
  · rw [if_pos inside, (addressed.inside inside).2.2.1]
  · rw [if_neg inside, (addressed.outside inside).2.1]

theorem payeeCurrency_lightning (chain : BuilderChain) :
    chain.settlement.settlementMethod = .lightning ↔ chain.payeeCurrency = none := by
  unfold BuilderChain.payeeCurrency
  rcases settlement_inside_or_lightning chain with inside | lightning
  · simp [inside]
  · simp [lightning]

theorem quoteSide_quotes (sent : Sent chain state.toLPFBWithSenderWalletState)
    (addressed : Addressed chain state) : chain.Quotes state.quoteSide := by
  have currency := sent.senderWalletCurrency
  have payee := addressed.payeeCurrency sent
  have lightning := payeeCurrency_lightning chain
  rw [← sent.settlementMethod] at lightning
  unfold LPFBWithRecipientWalletState.quoteSide LPFBWithRecipientWalletState.noConversionRequired
  simp only [payee, currency, lightning]
  unfold BuilderChain.Quotes
  rcases chain.senderWallet.currency with _ | _ <;> rcases chain.payeeCurrency
    with _ | _ | _ <;> simp

end Sides

section Failures

variable {chain : BuilderChain} {args : WithConversionArgs} {side : QuoteSide}
  {btc btcFee : BtcPaymentAmount} {usd usdFee : UsdPaymentAmount} {quote : Quote}

theorem updatedFromBtc_not_fails
    (updated : updatedStateFromBtcPaymentAmount (args.at side).usdFromBtc btc btcFee = .ok quote) :
    ¬args.Fails (.usdFromBtc side btc) := by
  obtain ⟨usd, asked, rest⟩ := bind_eq_ok updated
  obtain ⟨ratio, made, _⟩ := bind_eq_ok rest
  intro fails
  exact ratio.usd_ne ((PriceRatio.of_make made).1 ▸ fails usd asked)

theorem updatedFromUsd_not_fails
    (updated : updatedStateFromUsdPaymentAmount (args.at side).btcFromUsd usd usdFee = .ok quote) :
    ¬args.Fails (.btcFromUsd side usd) := by
  obtain ⟨btc, asked, rest⟩ := bind_eq_ok updated
  obtain ⟨ratio, made, _⟩ := bind_eq_ok rest
  intro fails
  exact ratio.btc_ne ((PriceRatio.of_make made).2 ▸ fails btc asked)

theorem converted_of_flow {state : LPFBWithRecipientWalletState}
    (reached : chain.withRecipient = .ok (.ok state))
    {finish : LPFBWithConversionState → Except AppError PaymentFlow} {flow : PaymentFlow}
    (built : chain.withConversion.map (fun builder => builder.bind finish) = .ok (.ok flow)) :
    ∃ quote, state.converted chain.args = .ok quote := by
  obtain ⟨builder, isConverted, rest⟩ := map_eq_ok built
  obtain ⟨converted, rfl, _⟩ := bind_eq_ok rest
  unfold BuilderChain.withConversion at isConverted
  rw [reached] at isConverted
  obtain ⟨quote, isQuote, _⟩ := map_eq_ok (Except.ok.inj isConverted)
  exact ⟨quote, isQuote⟩

end Failures

theorem right_quote_asked (chain : BuilderChain) (inCents : chain.InCents)
    (state : LPFBWithRecipientWalletState) (reached : chain.withRecipient = .ok (.ok state)) :
    ∃ asked, Asks chain.args state.requested (state.converted chain.args) asked ∧ asked.length ≤ 1 ∧
      (∀ request ∈ asked, chain.Quotes request.side) ∧
      (state.btcPaymentAmount.isSome → state.usdPaymentAmount.isSome → asked = []) ∧
      ∀ request ∈ asked, chain.args.Fails request → ∀ flow,
        chain.withoutRoute ≠ .ok (.ok flow) ∧ ∀ pubkey rawRoute, chain.withRoute pubkey rawRoute ≠
          .ok (.ok flow) := by
  obtain ⟨sent, addressed, known, knows, holds, _, _⟩ := withRecipient_inversion inCents reached
  have side := quoteSide_quotes sent addressed
  have unfailed {request : QuoteRequest}
      (converts : ∀ quote, state.converted chain.args = .ok quote → ¬chain.args.Fails request)
      (fails : chain.args.Fails request) (flow : PaymentFlow) :
      chain.withoutRoute ≠ .ok (.ok flow) ∧ ∀ pubkey rawRoute, chain.withRoute pubkey rawRoute ≠
        .ok (.ok flow) := by
    refine ⟨fun built => ?_, fun pubkey rawRoute built => ?_⟩ <;>
      obtain ⟨quote, isQuote⟩ := converted_of_flow reached built <;>
      exact converts quote isQuote fails
  cases known with
  | sats btc =>
    refine ⟨_, requested_sats holds, le_rfl, ?_, ?_, ?_⟩
    · simpa [QuoteRequest.side] using side
    · simp [holds.2.1]
    · rw [LPFBWithRecipientWalletState.converted_sats holds] at unfailed
      simpa using unfailed fun quote => updatedFromBtc_not_fails
  | cents usd =>
    refine ⟨_, requested_cents holds, le_rfl, ?_, ?_, ?_⟩
    · simpa [QuoteRequest.side] using side
    · simp [holds.1]
    · rw [LPFBWithRecipientWalletState.converted_cents holds] at unfailed
      simpa using unfailed fun quote => updatedFromUsd_not_fails
  | both btc usd =>
    obtain ⟨_, _, given, inside⟩ := knows
    have currency := (addressed.inside (sent.settlementMethod.trans inside)).2.2.1
    rw [inCents inside (by rw [given]; rfl)] at currency
    exact ⟨[], requested_both holds currency, by decide, nofun, fun _ _ => rfl, nofun⟩

theorem dealer_asked_to_sell :
    ∃ state, (outsideChain .usd 20 .withInvoice (some ⟨1000⟩)).withRecipient = .ok (.ok state) ∧
      Asks (outsideChain .usd 20 .withInvoice (some ⟨1000⟩)).args state.requested
        (.ok ⟨⟨1000⟩, ⟨50⟩, ⟨5⟩, ⟨1⟩⟩) [.usdFromBtc .hedgeSellUsd ⟨1000⟩] ∧
      (outsideChain .usd 20 .withInvoice (some ⟨1000⟩)).Quotes .hedgeSellUsd := by
  refine ⟨_, rfl, rfl, ?_⟩
  obtain ⟨asked, asks, _, quotes, _⟩ :=
    right_quote_asked (outsideChain .usd 20 .withInvoice (some ⟨1000⟩)) (fun _ => nofun) _ rfl
  have same : asked = [.usdFromBtc .hedgeSellUsd ⟨1000⟩] := asks.unique rfl
  exact quotes (.usdFromBtc .hedgeSellUsd ⟨1000⟩) (by simp [same])

end Galoy
