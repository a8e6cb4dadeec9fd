import Galoy.Payments.BuilderChains
import Galoy.Payments.FeeProbes
import Galoy.Payments.IntraledgerFailures
import Galoy.Payments.LimitVerdict
import Galoy.Shared.Rounding

set_option autoImplicit false

namespace Galoy

open Interleave App SendLightning

theorem newCheck_verdict {run : RunId} {answers : Answers} {w : World} (kind : LimitKind)
    (getAccountLimits : AccountLevel → AccountLimits) (amount : UsdPaymentAmount)
    (wallet : WalletDescriptor) (priceRatio : PriceRatio) :
    verdictAt run answers (kind.newCheck getAccountLimits amount wallet priceRatio) w =
      some (limitVerdict getAccountLimits answers kind.group kind.limit wallet
        priceRatio amount w) :=
  verdictAt_of_ends (newCheckLimits_alone _ _ _ _ _ _ fun _ => rfl)

section Estimate

variable (getAccountLimits : AccountLevel → AccountLimits) (senderWallet : WalletDescriptor)
  (state : LPFBWithConversionState)

def estimateLimits : App Unit := do
  let priceRatio ← ofResult (PriceRatio.make state.quote.usdPaymentAmount
    state.quote.btcPaymentAmount)
  if state.isTradeIntraAccount then
    newCheckTradeIntraAccountLimits getAccountLimits state.quote.usdPaymentAmount
      senderWallet priceRatio
  else if state.isIntraLedger then
    newCheckIntraledgerLimits getAccountLimits state.quote.usdPaymentAmount senderWallet priceRatio
  else newCheckWithdrawalLimits getAccountLimits state.quote.usdPaymentAmount senderWallet priceRatio

variable {getAccountLimits senderWallet state} {run : RunId} {answers : Answers} {w : World}

theorem estimateLimits_verdict {priceRatio : PriceRatio}
    (made : PriceRatio.make state.quote.usdPaymentAmount state.quote.btcPaymentAmount =
      .ok priceRatio) :
    verdictAt run answers (estimateLimits getAccountLimits senderWallet state) w =
      some (limitVerdict getAccountLimits answers
        state.limitKind.group state.limitKind.limit
        senderWallet priceRatio state.quote.usdPaymentAmount w) := by
  refine verdictAt_of_ends (endsRun_bind.mpr (alone_ofResult.mpr ?_))
  rw [made]
  unfold LPFBWithConversionState.limitKind
  change EndsAlone _ _ (if _ then _ else _) _ _
  split
  · exact newCheckLimits_alone _ _ _ _ _ _ fun _ => rfl
  · split
    · exact newCheckLimits_alone _ _ _ _ _ _ fun _ => rfl
    · exact newCheckLimits_alone _ _ _ _ _ _ fun _ => rfl

end Estimate

namespace FeeProbe

variable (probe : FeeProbe)

def ChecksIn (getAccountLimits : AccountLevel → AccountLimits) (senderWallet : WalletDescriptor)
    (run : RunId) (answers : Answers) (w : World) : Prop :=
  ∀ kind amount priceRatio,
    verdictAt run answers (kind.newCheck getAccountLimits amount senderWallet priceRatio) w =
      some (probe.newCheck kind amount priceRatio)

variable {probe} {getAccountLimits : AccountLevel → AccountLimits} {senderWallet : WalletDescriptor}
  {run : RunId} {answers : Answers} {w : World}

theorem estimateFrom_limits (checks : probe.ChecksIn getAccountLimits senderWallet run answers w)
    (builder : LPFBWithConversionState) :
    ∃ verdict, verdictAt run answers (estimateLimits getAccountLimits senderWallet builder) w =
      some verdict ∧
      probe.estimateFrom builder = verdict.bind fun _ => probe.flowFrom builder := by
  rw [estimateFrom_eq]
  cases made : PriceRatio.make builder.quote.usdPaymentAmount builder.quote.btcPaymentAmount with
  | error error =>
    refine ⟨.error error, verdictAt_of_ends (endsRun_bind.mpr (alone_ofResult.mpr ?_)), rfl⟩
    rw [made]
    rfl
  | ok priceRatio =>
    refine ⟨_, estimateLimits_verdict made, ?_⟩
    have checked := checks builder.limitKind builder.quote.usdPaymentAmount priceRatio
    rw [newCheck_verdict] at checked
    rw [Option.some.inj checked]
    rfl

end FeeProbe

section Execution

variable (getAccountLimits : AccountLevel → AccountLimits) (paymentFlow : PaymentFlow)
  (senderWallet : WalletDescriptor)

structure Payee where
  paymentHash : PaymentHash
  recipientWalletId : WalletId
  recipientWalletCurrency : WalletCurrency
  recipientPubkey : Pubkey
  recipientWallet : WalletDescriptor

-- The part of `executePaymentViaIntraledger` before its lock.
def intraledgerLimits : App Payee := do
  let priceRatioForLimits ← getPriceRatioForLimits paymentFlow
  let paymentHash ← ofResult paymentFlow.paymentHashForFlow
  match orUndefined paymentFlow.recipientWalletId, paymentFlow.recipientWalletCurrency,
    orUndefined paymentFlow.recipientPubkey with
  | some recipientWalletId, some recipientWalletCurrency, some recipientPubkey =>
    let recipientWallet ←
      fallible (ask (.findWalletById .executePaymentViaIntraledger recipientWalletId))
    checkLimitsFor getAccountLimits senderWallet recipientWallet paymentFlow.usdPaymentAmount
      senderWallet priceRatioForLimits
    return ⟨paymentHash, recipientWalletId, recipientWalletCurrency, recipientPubkey,
      recipientWallet⟩
  | _, _, _ =>
    throw
      { name := .InvalidLightningPaymentFlowBuilderStateError
        message := "Expected recipient details missing" }

-- The part of `executePaymentViaLn` before its lock.
def lightningLimits : App Unit := do
  let priceRatioForLimits ← getPriceRatioForLimits paymentFlow
  newCheckWithdrawalLimits getAccountLimits paymentFlow.usdPaymentAmount senderWallet
    priceRatioForLimits

def executionLimits : App Unit :=
  if paymentFlow.settlementMethod = .intraLedger then do
    let _ ← intraledgerLimits getAccountLimits paymentFlow senderWallet
    return ()
  else lightningLimits getAccountLimits paymentFlow senderWallet

theorem executePaymentViaLn_limits (decodedInvoice : LnInvoice) :
    executePaymentViaLn decodedInvoice paymentFlow senderWallet getAccountLimits = (do
      lightningLimits getAccountLimits paymentFlow senderWallet
      withLock (.wallet senderWallet.id)
        (executePaymentViaLnBehindLock decodedInvoice paymentFlow senderWallet)) :=
  (split_bind _ _ _).symm

theorem executePaymentViaIntraledger_limits (senderUsername : Option Username)
    (memo : Option String) :
    executePaymentViaIntraledger getAccountLimits paymentFlow senderWallet senderUsername memo = (do
      let payee ← intraledgerLimits getAccountLimits paymentFlow senderWallet
      withLock (.wallet senderWallet.id)
        (executePaymentViaIntraledgerBehindLock paymentFlow senderWallet payee.recipientWallet
          senderUsername memo payee.paymentHash payee.recipientPubkey payee.recipientWalletId
          payee.recipientWalletCurrency)) := by
  unfold executePaymentViaIntraledger intraledgerLimits
  rw [split_bind]
  refine congrArg (Bind.bind _) (funext fun priceRatio => ?_)
  rw [split_bind]
  refine congrArg (Bind.bind _) (funext fun paymentHash => ?_)
  cases orUndefined paymentFlow.recipientWalletId with
  | none => rfl
  | some recipientWalletId =>
    cases paymentFlow.recipientWalletCurrency with
    | none => rfl
    | some recipientWalletCurrency =>
      cases orUndefined paymentFlow.recipientPubkey with
      | none => rfl
      | some recipientPubkey =>
        dsimp only
        rw [split_bind]
        refine congrArg (Bind.bind _) (funext fun recipientWallet => ?_)
        rw [split_bind]
        rfl

end Execution

namespace PaymentFlow

variable (flow : PaymentFlow) (senderWallet recipient : WalletDescriptor)
  (midPriceRatio : PriceRatio)

def limitKind : LimitKind :=
  if flow.settlementMethod = .intraLedger then
    if senderWallet.accountId = recipient.accountId then .tradeIntraAccount else .intraledger
  else .withdrawal

structure PaysTo : Prop where
  recipientWalletId : flow.recipientWalletId = some recipient.id
  recipientWalletCurrency : flow.recipientWalletCurrency = some recipient.currency
  recipientAccountId : flow.recipientAccountId = some recipient.accountId
  recipientPubkey : ∃ pubkey, flow.recipientPubkey = some pubkey ∧ pubkey ≠ ""
  id_ne : recipient.id ≠ ""

structure Unchanged (answers : Answers) (w : World) : Prop where
  midPriceRatio : answers (.getMidPriceRatio .checkLimits) = .ok midPriceRatio
  recipient : flow.settlementMethod = .intraLedger →
    answers (.findWalletById .executePaymentViaIntraledger recipient.id) = none ∧
      w.wallets recipient.id = some recipient

end PaymentFlow

section Verdict

variable {getAccountLimits : AccountLevel → AccountLimits}
  {senderWallet recipient : WalletDescriptor} {midPriceRatio priceRatio : PriceRatio}
  {flow : PaymentFlow} {run : RunId} {answers : Answers} {w : World}

theorem checkLimitsFor_kind (inside : flow.settlementMethod = .intraLedger) :
    checkLimitsFor getAccountLimits senderWallet recipient =
      (flow.limitKind senderWallet recipient).newCheck getAccountLimits := by
  unfold checkLimitsFor PaymentFlow.limitKind
  rw [if_pos inside]
  split <;> rfl

theorem executionLimits_verdict (hashed : ∃ paymentHash, flow.paymentHashForFlow = .ok paymentHash)
    (pays : flow.settlementMethod = .intraLedger → flow.PaysTo recipient)
    (unchanged : flow.Unchanged recipient midPriceRatio answers w)
    (made : flow.priceRatioForLimits midPriceRatio = .ok priceRatio) :
    verdictAt run answers (executionLimits getAccountLimits (paymentFlowFromRaw flow) senderWallet)
      w =
      some (limitVerdict getAccountLimits answers (flow.limitKind senderWallet recipient).group
        (flow.limitKind senderWallet recipient).limit senderWallet priceRatio
        flow.usdPaymentAmount w) := by
  have priced : priceRatioAnswer answers (paymentFlowFromRaw flow) = .ok priceRatio := by
    unfold priceRatioAnswer
    rw [unchanged.midPriceRatio]
    exact made
  refine verdictAt_of_ends ?_
  unfold executionLimits
  by_cases inside : flow.settlementMethod = .intraLedger
  · rw [if_pos (show (paymentFlowFromRaw flow).settlementMethod = _ from inside)]
    obtain ⟨paymentHash, hashed⟩ := hashed
    obtain ⟨works, found⟩ := unchanged.recipient inside
    obtain ⟨pubkey, isPubkey, nonempty⟩ := (pays inside).recipientPubkey
    have isId : orUndefined (paymentFlowFromRaw flow).recipientWalletId = some recipient.id := by
      simp [paymentFlowFromRaw, (pays inside).recipientWalletId, orUndefined, (pays inside).id_ne]
    have isCurrency : (paymentFlowFromRaw flow).recipientWalletCurrency = some recipient.currency :=
      (pays inside).recipientWalletCurrency
    have isPubkey : orUndefined (paymentFlowFromRaw flow).recipientPubkey = some pubkey := by
      simp [paymentFlowFromRaw, isPubkey, orUndefined, nonempty]
    have served : serve run w (.findWalletById .executePaymentViaIntraledger recipient.id)
        (answers _) =
        some (.ok recipient, w) := by
      simp only [serve, Stores.readOr, Stores.answerOr, works, found, Stores.found]
    unfold intraledgerLimits
    refine endsRun_bind.mpr (endsRun_bind.mpr (priceRatio_alone ?_))
    rw [priced]
    refine endsRun_bind.mpr (alone_ofResult.mpr ?_)
    rw [show (paymentFlowFromRaw flow).paymentHashForFlow = .ok paymentHash from hashed]
    dsimp only [outcome_ok]
    rw [isId, isCurrency, isPubkey]
    refine endsRun_bind.mpr (alone_call served (endsRun_bind.mpr ?_))
    rw [checkLimitsFor_kind inside]
    refine newCheckLimits_alone _ _ _ _ _ _ fun clock => ?_
    change outcome _ _ (limitVerdict _ _ _ _ _ _ flow.usdPaymentAmount _) _
    generalize limitVerdict _ _ _ _ _ _ _ _ = verdict
    cases verdict with
    | error error => rfl
    | ok _ => exact endsRun_pure.mpr (endsRun_pure.mpr rfl)
  · rw [if_neg (show ¬(paymentFlowFromRaw flow).settlementMethod = _ from inside)]
    have outside : flow.limitKind senderWallet recipient = .withdrawal := if_neg inside
    refine endsRun_bind.mpr (priceRatio_alone ?_)
    rw [priced, outside]
    exact newCheckLimits_alone _ _ _ _ _ _ fun _ => rfl

end Verdict

section Spent

variable (kind : LimitKind) (wallet recipient : WalletDescriptor)
  (midPriceRatio : PriceRatio) (sats : Int)

def LimitKind.sentAs : LimitKind → LedgerTransactionType
  | .tradeIntraAccount => .lnTradeIntraAccount
  | .intraledger => .lnIntraLedger
  | .withdrawal => .payment

def spentEntry : Entry :=
  let metadata : TxMetadata := { type := kind.sentAs, pending := false }
  ((⟨"spent", []⟩ : Entry).debit (toLedgerAccountId wallet.id) sats .btc metadata).credit .lnd
    sats .btc metadata

def spentWorld : World :=
  { World.initial exampleBank with
    ledger := ({} : Ledger).commit 0 0 (spentEntry kind wallet sats)
    wallets := fun _ => some recipient
    accounts := fun accountId => some ⟨accountId, "user", none, .one⟩ }

def pricedAt : Outside := { sendOutside paymentTimeout .pending with midPriceRatio }

def oneLimit (limit : Int) : AccountLevel → AccountLimits := fun _ => ⟨limit, limit, limit⟩

theorem groupVolume_spent :
    groupVolume (pricedAt midPriceRatio).answers kind.group wallet
      (spentWorld kind wallet recipient sats) =
      .ok ⟨⟨sats⟩, ⟨0⟩⟩ := by
  have counted : kind.sentAs ∈ kind.group.types := by cases kind <;> decide
  have legs : ((spentWorld kind wallet recipient sats).ledger.volumeLegs kind.group wallet.id 0) =
      [⟨toLedgerAccountId wallet.id, sats, 0, .btc,
        { type := kind.sentAs, pending := false }⟩] := by
    simp [Ledger.volumeLegs, spentWorld, Ledger.commit, spentEntry, Entry.debit, Entry.credit,
      toLedgerAccountId, counted]
  have sent : ([(sats : ℚ)]).sum = sats := by simp
  have received : ([(0 : ℚ)]).sum = (0 : Int) := by simp
  have answer : (pricedAt midPriceRatio).answers (.volumeAmountSince kind.group wallet) = {} := rfl
  have begins : (spentWorld kind wallet recipient sats).clock + ({} : TimedAnswer).elapsed -
      oneDay = 0 :=
    Nat.zero_sub _
  unfold groupVolume
  rw [answer]
  dsimp only
  rw [begins]
  unfold Ledger.volumeAmountSince
  dsimp only
  rw [legs]
  simp only [List.map]
  rw [sent, received, paymentAmountFromNumber_int, paymentAmountFromNumber_int]
  rfl

theorem limitVerdict_spent (priceRatio : PriceRatio) (amount : UsdPaymentAmount) (limit : Int) :
    limitVerdict (oneLimit limit) (pricedAt midPriceRatio).answers kind.group kind.limit wallet
      priceRatio amount
        (spentWorld kind wallet recipient sats) = .ok () ↔
      ((⟨⟨sats⟩, ⟨0⟩⟩ : TxBaseVolumeAmount wallet.currency).outgoingInUsd priceRatio).amount +
        amount.amount ≤
        limit := by
  have account : accountAnswer (pricedAt midPriceRatio).answers wallet
      (spentWorld kind wallet recipient sats) =
      .ok ⟨wallet.accountId, "user", none, .one⟩ := rfl
  have limited : (kind.limit (oneLimit limit .one)).limitAmount = limit := by cases kind <;> rfl
  unfold limitVerdict verdictOf
  rw [groupVolume_spent, account]
  exact checkLimitBase_eq_ok.trans (by rw [limited])

end Spent

section Agreement

variable {senderWallet recipient : WalletDescriptor} {midPriceRatio own later : PriceRatio}
  {flow : PaymentFlow}

theorem spentWorld_unchanged (kind : LimitKind) (wallet : WalletDescriptor) (sats : Int) :
    flow.Unchanged recipient midPriceRatio (pricedAt midPriceRatio).answers
      (spentWorld kind wallet recipient sats) :=
  ⟨rfl, fun _ => ⟨rfl, rfl⟩⟩

theorem limitVerdict_congr {getAccountLimits : AccountLevel → AccountLimits} {answers : Answers}
    {kind : LimitKind} {amount : UsdPaymentAmount} {w : World}
    (same : ∀ volume : TxBaseVolumeAmount senderWallet.currency,
      volume.outgoingInUsd own = volume.outgoingInUsd later) :
    limitVerdict getAccountLimits answers kind.group kind.limit senderWallet own amount w =
      limitVerdict getAccountLimits answers kind.group kind.limit senderWallet later amount w := by
  unfold limitVerdict verdictOf checkLimitBase
  simp only [same]

def SameVerdicts (flow : PaymentFlow) (senderWallet recipient : WalletDescriptor) (kind : LimitKind)
    (amount : UsdPaymentAmount) (midPriceRatio own later : PriceRatio) : Prop :=
  ∀ getAccountLimits answers w, flow.Unchanged recipient midPriceRatio answers w →
    limitVerdict getAccountLimits answers kind.group kind.limit senderWallet own amount w =
      limitVerdict getAccountLimits answers kind.group kind.limit senderWallet later amount w

theorem sameVerdicts_iff {kind : LimitKind} {amount : UsdPaymentAmount}
    (ownPositive : 0 < own.btc.amount) (laterPositive : 0 < later.btc.amount) :
    SameVerdicts flow senderWallet recipient kind amount midPriceRatio own later ↔
      senderWallet.currency = .usd ∨ own.usd.amount * later.btc.amount =
        later.usd.amount * own.btc.amount := by
  obtain ⟨id, currency, accountId⟩ := senderWallet
  cases currency with
  | usd => exact iff_of_true (fun _ _ _ _ => limitVerdict_congr fun _ => rfl) (.inl rfl)
  | btc =>
    rw [← PriceRatio.convertFromBtc_eq_iff ownPositive laterPositive]
    constructor
    · intro agree
      refine .inr fun btc => ?_
      have fits (priceRatio : PriceRatio) (limit : Int) :
          _ ↔ (priceRatio.convertFromBtc btc).amount + amount.amount ≤ limit :=
        limitVerdict_spent kind ⟨id, .btc, accountId⟩ recipient midPriceRatio btc.amount
          priceRatio amount limit
      have bound (limit : Int) : (own.convertFromBtc btc).amount + amount.amount ≤ limit ↔
          (later.convertFromBtc btc).amount + amount.amount ≤ limit := by
        rw [← fits own, ← fits later, agree _ _ _ (spentWorld_unchanged kind _ btc.amount)]
      have below := (bound _).mp le_rfl
      have above := (bound _).mpr le_rfl
      have same : (own.convertFromBtc btc).amount = (later.convertFromBtc btc).amount := by omega
      exact congrArg Amount.mk same
    · intro either getAccountLimits answers w _
      exact limitVerdict_congr fun volume => (either.resolve_left nofun) volume.outgoingBaseAmount

theorem priceRatioForLimits_made (sats : 0 < flow.btcPaymentAmount.amount)
    (cents : 0 < flow.usdPaymentAmount.amount) (midPriceRatio : PriceRatio) :
    ∃ later : PriceRatio, flow.priceRatioForLimits midPriceRatio = .ok later ∧
      0 < later.btc.amount ∧
      (flow.usdPaymentAmount.amount * later.btc.amount = later.usd.amount *
        flow.btcPaymentAmount.amount ↔
        minSatsForPriceRatioPrecision.amount ≤ flow.btcPaymentAmount.amount ∨
          flow.usdPaymentAmount.amount * minSatsForPriceRatioPrecision.amount =
            (midPriceRatio.convertFromBtc minSatsForPriceRatioPrecision).amount *
            flow.btcPaymentAmount.amount) := by
  unfold PaymentFlow.priceRatioForLimits
  by_cases small : flow.btcPaymentAmount.amount < minSatsForPriceRatioPrecision.amount
  · have nonzero : (midPriceRatio.convertFromBtc minSatsForPriceRatioPrecision).amount ≠ 0 :=
      PriceRatio.convertFromBtc_ne_zero (by decide)
    rw [if_pos small]
    refine ⟨_, PriceRatio.make_of_ne nonzero (by decide), show (0 : Int) < 5000 by decide, ?_⟩
    rw [or_iff_right (not_le.mpr small)]
  · rw [if_neg small]
    refine ⟨_, PriceRatio.make_of_ne cents.ne' sats.ne', sats, ?_⟩
    exact iff_of_true rfl (.inl (not_lt.mp small))

structure MadeFrom (senderWallet recipient : WalletDescriptor) (state : LPFBWithConversionState)
    (flow : PaymentFlow) : Prop where
  senderAccountId : state.senderAccountId = senderWallet.accountId
  senderWalletCurrency : state.senderWalletCurrency = senderWallet.currency
  inside : state.settlementMethod = .intraLedger →
    state.recipientAccountId = some recipient.accountId ∧
      state.recipientWalletCurrency = some recipient.currency
  outside : state.settlementMethod ≠ .intraLedger → state.recipientAccountId = none
  settlementMethod : flow.settlementMethod = state.settlementMethod
  btcPaymentAmount : flow.btcPaymentAmount = state.quote.btcPaymentAmount
  usdPaymentAmount : flow.usdPaymentAmount = state.quote.usdPaymentAmount
  paymentHash : ∃ paymentHash, flow.paymentHashForFlow = .ok paymentHash

theorem FeeProbe.madeFrom {probe : FeeProbe} {state : LPFBWithConversionState} {estimate : Estimate}
    (built : constructPaymentFlowBuilder probe.answers senderWallet probe.invoice
      probe.uncheckedAmount =
      .ok (.ok (.ok state)))
    (made : probe.flowFrom state = .ok estimate)
    (pays : estimate.paymentFlow.settlementMethod = .intraLedger →
      estimate.paymentFlow.PaysTo recipient) :
    MadeFrom senderWallet recipient state estimate.paymentFlow := by
  obtain ⟨chain, isConverted, rfl, start, _⟩ := constructPaymentFlowBuilder_chain built
  obtain ⟨_, hash, currency, accountId, outside⟩ := withConversion_parties isConverted
  obtain ⟨quote, pubkey, rawRoute, isFlow, sats, cents⟩ := FeeProbe.flowFrom_built made
  obtain ⟨nonempty, _, isFlow⟩ := paymentFromState_inversion isFlow
  have isHash : state.hash = .paymentHash probe.invoice.paymentHash := by
    rw [hash, start]
    unfold invoiceStart
    split
    · split <;> rfl
    · rfl
  rw [isFlow] at pays ⊢
  refine ⟨accountId, currency, fun inside => ?_, outside, rfl, sats, cents,
    probe.invoice.paymentHash, ?_⟩
  · exact ⟨(pays inside).recipientAccountId, (pays inside).recipientWalletCurrency⟩
  · rw [isHash] at nonempty
    unfold PaymentFlow.paymentHashForFlow
    rw [isHash]
    exact if_neg fun empty => nonempty (congrArg FlowHash.paymentHash empty)

structure LimitsAgree (senderWallet recipient : WalletDescriptor) (midPriceRatio : PriceRatio)
    (state : LPFBWithConversionState) (flow : PaymentFlow) : Prop where
  limit : state.limitKind = flow.limitKind senderWallet recipient
  verdict : ∀ getAccountLimits run answers w, flow.Unchanged recipient midPriceRatio answers w →
    verdictAt run answers (estimateLimits getAccountLimits senderWallet state) w =
      verdictAt run answers (executionLimits getAccountLimits (paymentFlowFromRaw flow)
        senderWallet) w

namespace MadeFrom

variable {state : LPFBWithConversionState} (isMade : MadeFrom senderWallet recipient state flow)

include isMade

theorem limitKind_eq_iff :
    state.limitKind = flow.limitKind senderWallet recipient ↔
      ¬(flow.settlementMethod = .intraLedger ∧ senderWallet.accountId = recipient.accountId ∧
        senderWallet.currency = recipient.currency) := by
  unfold LPFBWithConversionState.limitKind PaymentFlow.limitKind
    LPFBWithConversionState.isTradeIntraAccount LPFBWithConversionState.isIntraLedger
  rw [isMade.senderAccountId, isMade.senderWalletCurrency, isMade.settlementMethod]
  by_cases free : state.settlementMethod = .intraLedger
  · obtain ⟨isAccount, isCurrency⟩ := isMade.inside free
    rw [isAccount, isCurrency]
    by_cases sameAccount : senderWallet.accountId = recipient.accountId <;>
      by_cases sameCurrency : senderWallet.currency = recipient.currency <;>
      simp [free, sameAccount, sameCurrency]
  · rw [isMade.outside free]
    simp [free]

theorem agree_iff (pays : flow.settlementMethod = .intraLedger → flow.PaysTo recipient)
    (sats : 0 < flow.btcPaymentAmount.amount) (cents : 0 < flow.usdPaymentAmount.amount) :
    LimitsAgree senderWallet recipient midPriceRatio state flow ↔
      ¬(flow.settlementMethod = .intraLedger ∧ senderWallet.accountId = recipient.accountId ∧
        senderWallet.currency = recipient.currency) ∧
      (senderWallet.currency = .usd ∨
        minSatsForPriceRatioPrecision.amount ≤ flow.btcPaymentAmount.amount ∨
        flow.usdPaymentAmount.amount * minSatsForPriceRatioPrecision.amount =
          (midPriceRatio.convertFromBtc minSatsForPriceRatioPrecision).amount *
          flow.btcPaymentAmount.amount) := by
  let own : PriceRatio := ⟨flow.usdPaymentAmount, flow.btcPaymentAmount, cents.ne', sats.ne'⟩
  have ownMade : PriceRatio.make state.quote.usdPaymentAmount state.quote.btcPaymentAmount =
      .ok own := by
    rw [← isMade.btcPaymentAmount, ← isMade.usdPaymentAmount]
    exact PriceRatio.make_of_ne cents.ne' sats.ne'
  obtain ⟨later, laterMade, positive, sameRate⟩ := priceRatioForLimits_made sats cents midPriceRatio
  rw [← sameRate, ← isMade.limitKind_eq_iff]
  have rates (kind : LimitKind) :
      SameVerdicts flow senderWallet recipient kind flow.usdPaymentAmount midPriceRatio own later ↔
        senderWallet.currency = .usd ∨
          flow.usdPaymentAmount.amount * later.btc.amount =
            later.usd.amount * flow.btcPaymentAmount.amount :=
    sameVerdicts_iff sats positive
  constructor
  · intro agree
    refine ⟨agree.limit, (rates state.limitKind).mp fun getAccountLimits answers w unchanged => ?_⟩
    have verdict := agree.verdict getAccountLimits 0 answers w unchanged
    rw [estimateLimits_verdict ownMade, executionLimits_verdict isMade.paymentHash pays
      unchanged laterMade, ← agree.limit, ← isMade.usdPaymentAmount] at verdict
    exact Option.some.inj verdict
  · rintro ⟨limit, same⟩
    refine ⟨limit, fun getAccountLimits run answers w unchanged => ?_⟩
    rw [estimateLimits_verdict ownMade, executionLimits_verdict isMade.paymentHash pays
      unchanged laterMade, ← limit, ← isMade.usdPaymentAmount]
    exact congrArg some ((rates state.limitKind).mpr same getAccountLimits answers w unchanged)

end MadeFrom

theorem limit_checks_agree_iff (probe : FeeProbe) (senderWallet recipient : WalletDescriptor)
    (midPriceRatio : PriceRatio) (state : LPFBWithConversionState) (estimate : Estimate)
    (built : constructPaymentFlowBuilder probe.answers senderWallet probe.invoice
      probe.uncheckedAmount =
      .ok (.ok (.ok state)))
    (made : probe.flowFrom state = .ok estimate)
    (pays : estimate.paymentFlow.settlementMethod = .intraLedger →
      estimate.paymentFlow.PaysTo recipient)
    (sats : 0 < estimate.paymentFlow.btcPaymentAmount.amount)
    (cents : 0 < estimate.paymentFlow.usdPaymentAmount.amount) :
    LimitsAgree senderWallet recipient midPriceRatio state estimate.paymentFlow ↔
      ¬(estimate.paymentFlow.settlementMethod = .intraLedger ∧
        senderWallet.accountId = recipient.accountId ∧
        senderWallet.currency = recipient.currency) ∧
      (senderWallet.currency = .usd ∨
        minSatsForPriceRatioPrecision.amount ≤ estimate.paymentFlow.btcPaymentAmount.amount ∨
        estimate.paymentFlow.usdPaymentAmount.amount * minSatsForPriceRatioPrecision.amount =
          (midPriceRatio.convertFromBtc minSatsForPriceRatioPrecision).amount *
            estimate.paymentFlow.btcPaymentAmount.amount) := by
  exact (FeeProbe.madeFrom built made pays).agree_iff pays sats cents

end Agreement

section Example

def pricedProbe (sats : Int) : FeeProbe :=
  { routedProbe 1 with
    invoice := { probeRequest.invoice with paymentAmount := some ⟨sats⟩ }
    answers :=
      { probeRequest.answers with
        mid :=
          { usdFromBtc := fun amount => .ok (centsPerSat.convertFromBtc amount)
            btcFromUsd := fun amount => .ok (centsPerSat.convertFromUsd amount) } } }

def pricedState (quote : Quote) : LPFBWithConversionState where
  settlementMethod := .lightning
  btcProtocolFee := some quote.btcProtocolFee
  usdProtocolFee := none
  hash := .paymentHash "hash"
  paymentInitiationMethod := .lightning
  descriptionFromInvoice := ""
  skipProbeForDestination := false
  btcPaymentAmount := some quote.btcPaymentAmount
  inputAmount := quote.btcPaymentAmount.amount
  senderWalletId := probeWallet.id
  senderWalletCurrency := .btc
  senderAccountId := "account"
  quote := quote
  createdAt := 0

def pricedFlow (sats cents : Int) : PaymentFlow where
  hash := .paymentHash "hash"
  senderWalletId := probeWallet.id
  senderWalletCurrency := .btc
  senderAccountId := "account"
  settlementMethod := .lightning
  paymentInitiationMethod := .lightning
  descriptionFromInvoice := ""
  btcPaymentAmount := ⟨sats⟩
  usdPaymentAmount := ⟨cents⟩
  inputAmount := sats
  btcProtocolFee := ⟨1⟩
  usdProtocolFee := ⟨1⟩
  outgoingNodePubkey := some "node"
  cachedRoute := some { totalMtokens := sats * 1000, fee := 1 }

theorem thousand_sats_limits_agree :
    LimitsAgree probeWallet probeWallet centsPerSat (pricedState ⟨⟨1000⟩, ⟨50⟩, ⟨5⟩, ⟨1⟩⟩)
      (pricedFlow 1000 50) :=
  (limit_checks_agree_iff (pricedProbe 1000) probeWallet probeWallet centsPerSat
    (pricedState ⟨⟨1000⟩, ⟨50⟩, ⟨5⟩, ⟨1⟩⟩) ⟨pricedFlow 1000 50, none⟩ (by rfl)
    (by decide +kernel) nofun (by decide)
    (by decide)).mpr ⟨by decide, by decide⟩

theorem one_sat_limits_differ :
    constructPaymentFlowBuilder (pricedProbe 1).answers probeWallet (pricedProbe 1).invoice none =
        .ok (.ok (.ok (pricedState ⟨⟨1⟩, ⟨1⟩, ⟨1⟩, ⟨1⟩⟩))) ∧
      (pricedProbe 1).flowFrom (pricedState ⟨⟨1⟩, ⟨1⟩, ⟨1⟩, ⟨1⟩⟩) = .ok ⟨pricedFlow 1 1, none⟩ ∧
      (pricedFlow 1 1).Unchanged probeWallet centsPerSat (pricedAt centsPerSat).answers
        (spentWorld .withdrawal probeWallet probeWallet 1000) ∧
      verdictAt 1 (pricedAt centsPerSat).answers
          (estimateLimits (oneLimit 100) probeWallet (pricedState ⟨⟨1⟩, ⟨1⟩, ⟨1⟩, ⟨1⟩⟩))
          (spentWorld .withdrawal probeWallet probeWallet 1000) =
        some (.error ⟨.WithdrawalLimitsExceededError, "Cannot transfer more than 100 cents in 24 hours"⟩) ∧
      verdictAt 1 (pricedAt centsPerSat).answers
          (executionLimits (oneLimit 100) (paymentFlowFromRaw (pricedFlow 1 1)) probeWallet)
          (spentWorld .withdrawal probeWallet probeWallet 1000) = some (.ok ()) :=
  ⟨by rfl, by decide +kernel, ⟨rfl, fun _ => ⟨rfl, rfl⟩⟩, by decide +kernel, by decide +kernel⟩

def twinWallet : WalletDescriptor := ⟨"twin", .btc, "account"⟩

def twinProbe : FeeProbe :=
  { pricedProbe 10000 with
    invoice := { (pricedProbe 10000).invoice with destination := "node" }
    answers :=
      { (pricedProbe 10000).answers with
        findByPaymentHash := .ok ⟨"hash", "secret", true, "node", none, ⟨"twin", .btc⟩, false⟩
        findWalletById := .ok twinWallet
        findAccountById := .ok ⟨"account", "user", none, .one⟩ } }

example : ∃ state estimate,
    constructPaymentFlowBuilder twinProbe.answers probeWallet twinProbe.invoice none =
      .ok (.ok (.ok state)) ∧
      twinProbe.flowFrom state = .ok estimate ∧ state.limitKind = .intraledger ∧
      estimate.paymentFlow.limitKind probeWallet twinWallet = .tradeIntraAccount :=
  ⟨_, _, by rfl, by rfl, by rfl, by rfl⟩

end Example

end Galoy
