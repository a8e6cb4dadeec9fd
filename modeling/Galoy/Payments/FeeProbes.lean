import Galoy.Payments.FlowStore
import Galoy.Payments.Limits

set_option autoImplicit false

namespace Galoy

open Interleave

structure FlowRequest where
  uncheckedSenderWalletId : WalletId
  invoice : LnInvoice
  uncheckedAmount : Option ℚ := none
  findById : Except AppError WalletDescriptor
  findById_id : ∀ wallet, findById = .ok wallet → wallet.id = uncheckedSenderWalletId
  answers : BuilderAnswers

namespace FlowRequest

variable (request : FlowRequest)

def index : PaymentFlowStateIndex where
  paymentHash := request.invoice.paymentHash
  walletId := request.uncheckedSenderWalletId
  inputAmount := inputAmountOf request.invoice request.uncheckedAmount

end FlowRequest

structure FeeProbe extends FlowRequest where
  newCheckTradeIntraAccountLimits : UsdPaymentAmount → PriceRatio → Except AppError Unit
  newCheckIntraledgerLimits : UsdPaymentAmount → PriceRatio → Except AppError Unit
  newCheckWithdrawalLimits : UsdPaymentAmount → PriceRatio → Except AppError Unit
  lndService : Except AppError Unit
  findRouteForInvoice : BtcPaymentAmount → Except AppError (Pubkey × RawRoute)
  persistFault : Option RepositoryFault := none

structure Estimate where
  paymentFlow : PaymentFlow
  routeError : Option AppError := none
  deriving DecidableEq

def LPFBWithConversionState.limitKind (state : LPFBWithConversionState) : LimitKind :=
  if state.isTradeIntraAccount then .tradeIntraAccount
  else if state.isIntraLedger then .intraledger
  else .withdrawal

namespace FeeProbe

variable (probe : FeeProbe)

def newCheck : LimitKind → UsdPaymentAmount → PriceRatio → Except AppError Unit
  | .tradeIntraAccount => probe.newCheckTradeIntraAccountLimits
  | .intraledger => probe.newCheckIntraledgerLimits
  | .withdrawal => probe.newCheckWithdrawalLimits

def estimateFrom (builder : LPFBWithConversionState) : Except AppError Estimate := do
  let usdPaymentAmount := builder.quote.usdPaymentAmount
  let btcPaymentAmount := builder.quote.btcPaymentAmount
  let priceRatio ← PriceRatio.make usdPaymentAmount btcPaymentAmount
  if builder.isTradeIntraAccount then
    probe.newCheckTradeIntraAccountLimits usdPaymentAmount priceRatio
    return { paymentFlow := ← builder.withoutRoute }
  else if builder.isIntraLedger then
    probe.newCheckIntraledgerLimits usdPaymentAmount priceRatio
    return { paymentFlow := ← builder.withoutRoute }
  else
    probe.newCheckWithdrawalLimits usdPaymentAmount priceRatio
    probe.lndService
    let routeResult :=
      if builder.skipProbeForDestination then .error { name := .SkipProbeForPubkeyError }
      else probe.findRouteForInvoice btcPaymentAmount
    match routeResult with
    | .error routeError =>
      return { paymentFlow := ← builder.withoutRoute, routeError := some routeError }
    | .ok (pubkey, rawRoute) => return { paymentFlow := ← builder.withRoute pubkey rawRoute }

def flowFrom (builder : LPFBWithConversionState) : Except AppError Estimate :=
  if builder.isTradeIntraAccount then do
    return { paymentFlow := ← builder.withoutRoute }
  else if builder.isIntraLedger then do
    return { paymentFlow := ← builder.withoutRoute }
  else do
    probe.lndService
    let routeResult :=
      if builder.skipProbeForDestination then .error { name := .SkipProbeForPubkeyError }
      else probe.findRouteForInvoice builder.quote.btcPaymentAmount
    match routeResult with
    | .error routeError =>
      return { paymentFlow := ← builder.withoutRoute, routeError := some routeError }
    | .ok (pubkey, rawRoute) => return { paymentFlow := ← builder.withRoute pubkey rawRoute }

theorem estimateFrom_eq (builder : LPFBWithConversionState) :
    probe.estimateFrom builder = (do
      let priceRatio ← PriceRatio.make builder.quote.usdPaymentAmount builder.quote.btcPaymentAmount
      probe.newCheck builder.limitKind builder.quote.usdPaymentAmount priceRatio
      probe.flowFrom builder) := by
  unfold estimateFrom flowFrom LPFBWithConversionState.limitKind
  refine congrArg (Bind.bind _) (funext fun priceRatio => ?_)
  by_cases trade : builder.isTradeIntraAccount = true
  · simp only [if_pos trade, newCheck]
  · by_cases inside : builder.isIntraLedger = true
    · simp only [if_neg trade, if_pos inside, newCheck]
    · simp only [if_neg trade, if_neg inside, newCheck]

def estimate : Except Thrown (Except AppError Estimate) :=
  match checkedToWalletId probe.uncheckedSenderWalletId, probe.findById with
  | .error error, _ => .ok (.error error)
  | .ok _, .error error => .ok (.error error)
  | .ok _, .ok senderWallet =>
    (constructPaymentFlowBuilder probe.answers senderWallet probe.invoice
        probe.uncheckedAmount).map fun
      | .error error => .error error
      | .ok builder => builder.bind probe.estimateFrom

end FeeProbe

def estimateLightningFee (probe : FeeProbe) (store : FlowStore) :
    Except Thrown (PartialResult Int) × FlowStore :=
  match probe.estimate with
  | .error thrown => (.error thrown, store)
  | .ok (.error error) => (.ok (.err error), store)
  | .ok (.ok { paymentFlow, routeError := some routeError }) =>
    let fee := paymentFlow.protocolFeeInSenderWalletCurrency
    (.ok (if routeError.name = .SkipProbeForPubkeyError then .ok fee else .partly fee routeError),
      { store with unawaited := store.unawaited ++ [.persistNew paymentFlow] })
  | .ok (.ok { paymentFlow, routeError := none }) =>
    match store.persistNew paymentFlow probe.persistFault with
    | (.error error, store) =>
      (.ok (.partly paymentFlow.protocolFeeInSenderWalletCurrency error), store)
    | (.ok persistedPayment, store) =>
      (.ok (.ok persistedPayment.protocolFeeInSenderWalletCurrency), store)

structure InvoicePayment extends FlowRequest where
  validateWalletForAccount : WalletDescriptor → Except AppError Unit
  findFault : Option RepositoryFault := none
  persistFault : Option RepositoryFault := none

structure PaymentInputs where
  senderWallet : WalletDescriptor
  inputPaymentAmount : Int

def checkedAmount (currency : WalletCurrency) (amount : ℚ) : Except AppError Int :=
  match currency with
  | .btc => (checkedToBtcPaymentAmount (some amount)).map (·.amount)
  | .usd => (checkedToUsdPaymentAmount (some amount)).map (·.amount)

namespace InvoicePayment

variable (payment : InvoicePayment)

def validateInvoicePaymentInputs : Except AppError PaymentInputs := do
  let _ ← checkedToWalletId payment.uncheckedSenderWalletId
  match payment.invoice.paymentAmount.filter (·.amount > 0) with
  | none => .error { name := .LnPaymentRequestNonZeroAmountRequiredError }
  | some lnInvoiceAmount =>
    let senderWallet ← payment.findById
    payment.validateWalletForAccount senderWallet
    return ⟨senderWallet, lnInvoiceAmount.amount⟩

def validateNoAmountInvoicePaymentInputs (amount : ℚ) : Except AppError PaymentInputs := do
  let _ ← checkedToWalletId payment.uncheckedSenderWalletId
  match payment.invoice.paymentAmount.filter (·.amount > 0) with
  | some _ => .error { name := .LnPaymentRequestZeroAmountRequiredError }
  | none =>
    let senderWallet ← payment.findById
    payment.validateWalletForAccount senderWallet
    return ⟨senderWallet, ← checkedAmount senderWallet.currency amount⟩

def inputs : Except AppError PaymentInputs :=
  match payment.uncheckedAmount with
  | none => payment.validateInvoicePaymentInputs
  | some amount => payment.validateNoAmountInvoicePaymentInputs amount

def find (expiryTime : Nat) (inputs : PaymentInputs) (store : FlowStore) :
    Except AppError PaymentFlow × FlowStore :=
  store.findLightningPaymentFlow expiryTime payment.answers.now
    { paymentHash := payment.invoice.paymentHash
      walletId := inputs.senderWallet.id
      inputAmount := inputs.inputPaymentAmount } payment.findFault

def flowWithoutRoute (senderWallet : WalletDescriptor) : Except Thrown
    (Except AppError PaymentFlow) :=
  (constructPaymentFlowBuilder payment.answers senderWallet payment.invoice
    payment.uncheckedAmount).map fun
    | .error error => .error error
    | .ok builder => builder.bind fun state => state.withoutRoute

def getPaymentFlow (expiryTime : Nat) (inputs : PaymentInputs) (store : FlowStore) :
    Except Thrown (Except AppError PaymentFlow) × FlowStore :=
  match payment.find expiryTime inputs store with
  | (.ok paymentFlow, store) => (.ok (.ok paymentFlow), store)
  | (.error error, store) =>
    if error.name ≠ .CouldNotFindLightningPaymentFlowError then (.ok (.error error), store)
    else
      match payment.flowWithoutRoute inputs.senderWallet with
      | .error thrown => (.error thrown, store)
      | .ok (.error error) => (.ok (.error error), store)
      | .ok (.ok paymentFlow) =>
        match store.persistNew paymentFlow payment.persistFault with
        | (.error error, store) => (.ok (.error error), store)
        | (.ok _, store) => (.ok (.ok paymentFlow), store)

def paymentFlow (expiryTime : Nat) (store : FlowStore) :
    Except Thrown (Except AppError PaymentFlow) × FlowStore :=
  match payment.inputs with
  | .error error => (.ok (.error error), store)
  | .ok inputs => payment.getPaymentFlow expiryTime inputs store

end InvoicePayment

inductive FlowEvent where
  | estimate (probe : FeeProbe)
  | pay (payment : InvoicePayment)
  | serve (run : RunId) (call : Call) (answer : Answer call)
  | deleteExpired (now : Nat) (fault : Option RepositoryFault)
  | complete (position : Nat) (fault : Option RepositoryFault)

section Runs

variable (expiryTime : Nat)

def FlowStore.step (store : FlowStore) : FlowEvent → FlowStore
  | .estimate probe => (estimateLightningFee probe store).2
  | .pay payment => (payment.paymentFlow expiryTime store).2
  | .serve run call answer =>
    match Galoy.serve run store.world call answer with
    | none => store
    | some (_, world) => { store with world }
  | .deleteExpired now fault => (store.deleteExpiredLightningPaymentFlows expiryTime now fault).2
  | .complete position fault => store.complete position fault

def FlowStore.run (events : List FlowEvent) (store : FlowStore) : FlowStore :=
  events.foldl (FlowStore.step expiryTime) store

-- The probes of the key begin when the store has no flow of it, and nothing else makes one.
def FlowEvent.Fresh (key : PaymentFlowStateIndex) (store : FlowStore) : FlowEvent → Prop
  | .estimate probe => probe.index = key → store.All fun flow => key.selects flow = false
  | .pay payment => payment.index ≠ key
  | .serve _ (.updateLightningPaymentFlow flow) _ => key.selects flow = false
  | _ => True

def FreshRun (key : PaymentFlowStateIndex) : List FlowEvent → FlowStore → Prop
  | [], _ => True
  | event :: rest, store => event.Fresh key store ∧ FreshRun key rest (store.step expiryTime event)

end Runs

def FlowEvent.probeOf (key : PaymentFlowStateIndex) : FlowEvent → Option FeeProbe
  | .estimate probe => if probe.index = key then some probe else none
  | _ => none

def lastProbe (key : PaymentFlowStateIndex) : List FlowEvent → Option FeeProbe
  | [] => none
  | event :: rest => (lastProbe key rest).or (event.probeOf key)

section Keys

theorem FeeProbe.flowFrom_built {probe : FeeProbe} {builder : LPFBWithConversionState}
    {estimate : Estimate} (made : probe.flowFrom builder = .ok estimate) :
    ∃ quote pubkey rawRoute, builder.paymentFromState quote pubkey rawRoute =
      .ok estimate.paymentFlow ∧
      quote.btcPaymentAmount = builder.quote.btcPaymentAmount ∧
      quote.usdPaymentAmount = builder.quote.usdPaymentAmount := by
  have unrouted {routeError : Option AppError}
      (built : (builder.withoutRoute >>= fun paymentFlow => pure { paymentFlow, routeError }) =
        .ok estimate) :
      ∃ quote pubkey rawRoute, builder.paymentFromState quote pubkey rawRoute =
        .ok estimate.paymentFlow ∧
        quote.btcPaymentAmount = builder.quote.btcPaymentAmount ∧
        quote.usdPaymentAmount = builder.quote.usdPaymentAmount := by
    obtain ⟨paymentFlow, isFlow, same⟩ := bind_eq_ok built
    cases same
    exact ⟨_, _, _, isFlow, rfl, rfl⟩
  unfold FeeProbe.flowFrom at made
  split at made
  · exact unrouted made
  · split at made
    · exact unrouted made
    · obtain ⟨_, _, made⟩ := bind_eq_ok made
      dsimp only at made
      split at made
      · exact unrouted made
      · obtain ⟨paymentFlow, isFlow, same⟩ := bind_eq_ok made
        cases same
        obtain ⟨_, _, isFlow⟩ := bind_eq_ok isFlow
        obtain ⟨_, _, isFlow⟩ := bind_eq_ok isFlow
        exact ⟨_, _, _, isFlow, rfl, rfl⟩

theorem FeeProbe.estimateFrom_built {probe : FeeProbe} {builder : LPFBWithConversionState}
    {estimate : Estimate} (estimated : probe.estimateFrom builder = .ok estimate) :
    ∃ quote pubkey rawRoute, builder.paymentFromState quote pubkey rawRoute =
      .ok estimate.paymentFlow := by
  rw [estimateFrom_eq] at estimated
  obtain ⟨_, _, estimated⟩ := bind_eq_ok estimated
  obtain ⟨_, _, made⟩ := bind_eq_ok estimated
  obtain ⟨quote, pubkey, rawRoute, built, _⟩ := flowFrom_built made
  exact ⟨quote, pubkey, rawRoute, built⟩

theorem FlowRequest.index_selects {request : FlowRequest} {wallet : WalletDescriptor}
    {state : LPFBWithConversionState} {quote : Quote} {pubkey : Option Pubkey}
    {rawRoute : Option RawRoute} {flow : PaymentFlow} (found : request.findById = .ok wallet)
    (built : constructPaymentFlowBuilder request.answers wallet request.invoice
      request.uncheckedAmount =
      .ok (.ok (.ok state)))
    (isFlow : state.paymentFromState quote pubkey rawRoute = .ok flow) :
    request.index.selects flow = true := by
  obtain ⟨hash, walletId, inputAmount⟩ := constructPaymentFlowBuilder_key built
  obtain ⟨_, _, rfl⟩ := paymentFromState_inversion isFlow
  simp [PaymentFlowStateIndex.selects, FlowRequest.index, hash, walletId,
    request.findById_id wallet found, inputAmount]

theorem FeeProbe.estimate_index {probe : FeeProbe} {estimate : Estimate}
    (estimated : probe.estimate = .ok (.ok estimate)) :
    probe.index.selects estimate.paymentFlow = true := by
  unfold FeeProbe.estimate at estimated
  split at estimated
  · cases estimated
  · cases estimated
  · rename_i senderWallet _ found
    obtain ⟨result, built, estimated⟩ := map_eq_ok estimated
    split at estimated
    · cases estimated
    · rename_i builder
      obtain ⟨state, rfl, estimated⟩ := bind_eq_ok estimated
      obtain ⟨quote, pubkey, rawRoute, isFlow⟩ := FeeProbe.estimateFrom_built estimated
      exact FlowRequest.index_selects found built isFlow

theorem InvoicePayment.flowWithoutRoute_index {payment : InvoicePayment}
    {senderWallet : WalletDescriptor} {flow : PaymentFlow}
    (found : payment.findById = .ok senderWallet)
    (made : payment.flowWithoutRoute senderWallet = .ok (.ok flow)) :
    payment.index.selects flow = true := by
  unfold InvoicePayment.flowWithoutRoute at made
  obtain ⟨result, built, made⟩ := map_eq_ok made
  split at made
  · cases made
  · rename_i builder
    obtain ⟨state, rfl, isFlow⟩ := bind_eq_ok made
    exact FlowRequest.index_selects found built isFlow

theorem checkedToPaymentAmount_positive {currency : WalletCurrency} {max checked : Amount currency}
    {tooLarge invalid : ErrorName} {amount : ℚ}
    (isOk : checkedToPaymentAmount currency max tooLarge invalid (some amount) = .ok checked) :
    0 < amount := by
  obtain ⟨exact, positive⟩ := checkedToPaymentAmount_exact isOk
  rw [← exact]
  exact_mod_cast positive

theorem checkedAmount_chosen {currency : WalletCurrency} {amount : ℚ} {inputAmount : Int}
    {invoice : LnInvoice} (checked : checkedAmount currency amount = .ok inputAmount) :
    inputAmount = inputAmountOf invoice (some amount) := by
  cases currency with
  | btc =>
    obtain ⟨paymentAmount, isAmount, rfl⟩ := map_eq_ok checked
    have positive := checkedToPaymentAmount_positive isAmount
    simp [inputAmountOf, positive.ne', checkedToPaymentAmount_floor isAmount]
  | usd =>
    obtain ⟨paymentAmount, isAmount, rfl⟩ := map_eq_ok checked
    have positive := checkedToPaymentAmount_positive isAmount
    simp [inputAmountOf, positive.ne', checkedToPaymentAmount_floor isAmount]

theorem InvoicePayment.inputs_key {payment : InvoicePayment} {inputs : PaymentInputs}
    (valid : payment.inputs = .ok inputs) :
    payment.findById = .ok inputs.senderWallet ∧
      inputs.inputPaymentAmount = inputAmountOf payment.invoice payment.uncheckedAmount := by
  unfold InvoicePayment.inputs at valid
  split at valid
  · rename_i noAmount
    unfold InvoicePayment.validateInvoicePaymentInputs at valid
    obtain ⟨_, _, valid⟩ := bind_eq_ok valid
    split at valid
    · cases valid
    · rename_i lnInvoiceAmount isAmount
      obtain ⟨senderWallet, found, valid⟩ := bind_eq_ok valid
      obtain ⟨_, _, same⟩ := bind_eq_ok valid
      cases same
      have invoiceAmount : payment.invoice.paymentAmount = some lnInvoiceAmount :=
        (Option.filter_eq_some_iff.mp isAmount).1
      exact ⟨found, by simp [inputAmountOf, noAmount, invoiceAmount]⟩
  · rename_i amount isAmount
    unfold InvoicePayment.validateNoAmountInvoicePaymentInputs at valid
    obtain ⟨_, _, valid⟩ := bind_eq_ok valid
    split at valid
    · cases valid
    · obtain ⟨senderWallet, found, valid⟩ := bind_eq_ok valid
      obtain ⟨_, _, valid⟩ := bind_eq_ok valid
      obtain ⟨inputAmount, checked, same⟩ := bind_eq_ok valid
      cases same
      exact ⟨found, isAmount ▸ checkedAmount_chosen checked⟩

theorem InvoicePayment.find_index {payment : InvoicePayment} {inputs : PaymentInputs}
    {expiryTime : Nat} {store : FlowStore} (valid : payment.inputs = .ok inputs) :
    payment.find expiryTime inputs store =
      store.findLightningPaymentFlow expiryTime payment.answers.now payment.index
        payment.findFault := by
  obtain ⟨found, amount⟩ := InvoicePayment.inputs_key valid
  unfold InvoicePayment.find
  rw [payment.findById_id _ found, amount]
  rfl

end Keys

section Steps

variable {expiryTime : Nat} {key : PaymentFlowStateIndex} {store : FlowStore}
  {holds : PaymentFlow → Prop}

theorem estimateLightningFee_all {probe : FeeProbe} (all : store.All holds)
    (new : ∀ estimate, probe.estimate = .ok (.ok estimate) → holds estimate.paymentFlow) :
    (estimateLightningFee probe store).2.All holds := by
  unfold estimateLightningFee
  split
  · exact all
  · exact all
  · rename_i paymentFlow routeError estimated
    refine all.unawaited fun flow member => ?_
    rcases List.mem_append.mp member with old | isNew
    · exact all.arrives old
    · cases List.mem_singleton.mp isNew
      exact new _ estimated
  · rename_i paymentFlow estimated
    have kept : (store.persistNew paymentFlow probe.persistFault).2.All holds :=
      all.persistNew (new _ estimated)
    split <;> rename_i persisted <;> rw [persisted] at kept <;> exact kept

theorem InvoicePayment.paymentFlow_all {payment : InvoicePayment} (all : store.All holds)
    (new : ∀ flow, payment.index.selects flow = true → holds flow) :
    (payment.paymentFlow expiryTime store).2.All holds := by
  unfold InvoicePayment.paymentFlow
  split
  · exact all
  · rename_i inputs valid
    have looked : (payment.find expiryTime inputs store).2.All holds := all.findLightningPaymentFlow
    unfold InvoicePayment.getPaymentFlow
    split
    · rename_i found
      rwa [found] at looked
    · rename_i error rest missing
      rw [missing] at looked
      split
      · exact looked
      · split
        · exact looked
        · exact looked
        · rename_i flow made
          have isNew := InvoicePayment.flowWithoutRoute_index
            (InvoicePayment.inputs_key valid).1 made
          have kept : (rest.persistNew flow payment.persistFault).2.All holds :=
            looked.persistNew (new _ isNew)
          split <;> rename_i persisted <;> rw [persisted] at kept <;> exact kept

theorem serve_all {run : RunId} {call : Call} {answer : Answer call} {reply : Reply call}
    {world : World} (all : ∀ flow ∈ store.world.flows, holds flow)
    (marked : ∀ flow, holds flow → holds { flow with paymentSentAndPending := false })
    (updated : ∀ flow, call = .updateLightningPaymentFlow flow → holds flow)
    (served : serve run store.world call answer = some (reply, world)) :
    ∀ flow ∈ world.flows, holds flow := by
  by_cases part : call.part = .flows
  · cases call
    case updateLightningPaymentFlow flow =>
      obtain rfl | ⟨_, _, changed, rfl⟩ := World.updateLightningPaymentFlow_inversion served
      · exact all
      · exact (World.updateFirst_all all (fun _ _ => updated flow rfl) changed).2
    case markLightningPaymentFlowNotPending index =>
      obtain ⟨_, rfl, _⟩ | ⟨_, _, changed, _, rfl⟩ :=
        World.markLightningPaymentFlowNotPending_inversion served
      · exact all
      · exact (World.updateFirst_all all (fun flow member => marked flow (all flow member))
          changed).2
    all_goals cases part
  · rw [(serve_frame served).flows part]
    exact all

def Charges (key : PaymentFlowStateIndex) (quote : Quote) (flow : PaymentFlow) : Prop :=
  key.selects flow = true → flow.quote = quote

theorem All.mono {others : PaymentFlow → Prop} (all : store.All holds)
    (weaker : ∀ flow, holds flow → others flow) :
    store.All others :=
  ⟨fun flow member => weaker flow (all.1 flow member), fun flow member =>
    weaker flow (all.2 flow member)⟩

theorem selects_index {index : PaymentFlowStateIndex} {flow : PaymentFlow}
    (selected : index.selects flow = true) (same : key.selects flow = true) : index = key := by
  obtain ⟨hash, wallet, amount⟩ := of_decide_eq_true selected
  obtain ⟨sameHash, sameWallet, sameAmount⟩ := of_decide_eq_true same
  cases index
  cases key
  simp_all

theorem probe_charges {probe : FeeProbe} {estimate : Estimate}
    (fresh : store.All fun flow => key.selects flow = false)
    (estimated : probe.estimate = .ok (.ok estimate)) :
    (store.step expiryTime (.estimate probe)).All (Charges key estimate.paymentFlow.quote) := by
  refine estimateLightningFee_all (All.mono fresh fun flow other selected => ?_)
    fun again same => ?_
  · rw [other] at selected
    cases selected
  · cases estimated.symm.trans same
    exact fun _ => rfl

theorem step_charges {event : FlowEvent} {quote : Quote} (fresh : event.Fresh key store)
    (noProbe : event.probeOf key = none) (all : store.All (Charges key quote)) :
    (store.step expiryTime event).All (Charges key quote) := by
  cases event with
  | estimate probe =>
    have other : probe.index ≠ key := by
      intro same
      simp [FlowEvent.probeOf, same] at noProbe
    refine estimateLightningFee_all all fun estimate estimated selected => ?_
    exact absurd (selects_index (FeeProbe.estimate_index estimated) selected) other
  | pay payment =>
    refine InvoicePayment.paymentFlow_all all fun flow ofPayment selected => ?_
    exact absurd (selects_index ofPayment selected) fresh
  | serve run call answer =>
    unfold FlowStore.step
    dsimp only
    split
    · exact all
    · rename_i reply world served
      refine ⟨serve_all all.1 (fun flow charges => charges) (fun flow isUpdate selected => ?_)
        served, all.2⟩
      subst isUpdate
      rw [show key.selects flow = false from fresh] at selected
      cases selected
  | deleteExpired now fault => exact all.deleteExpiredLightningPaymentFlows
  | complete position fault => exact all.complete

theorem run_keeps {events : List FlowEvent} {quote : Quote}
    (fresh : FreshRun expiryTime key events store) (noProbe : lastProbe key events = none)
    (all : store.All (Charges key quote)) :
    (store.run expiryTime events).All (Charges key quote) := by
  induction events generalizing store with
  | nil => exact all
  | cons event rest ih =>
    obtain ⟨later, first⟩ := Option.or_eq_none_iff.mp noProbe
    exact ih fresh.2 later (step_charges fresh.1 first all)

theorem run_charges {events : List FlowEvent} {probe : FeeProbe} {estimate : Estimate}
    (fresh : FreshRun expiryTime key events store) (last : lastProbe key events = some probe)
    (estimated : probe.estimate = .ok (.ok estimate)) :
    (store.run expiryTime events).All (Charges key estimate.paymentFlow.quote) := by
  induction events generalizing store with
  | nil => cases last
  | cons event rest ih =>
    cases later : lastProbe key rest with
    | some other =>
      have same : other = probe := by simpa [lastProbe, later] using last
      exact ih fresh.2 (same ▸ later)
    | none =>
      have isProbe : event.probeOf key = some probe := by simpa [lastProbe, later] using last
      cases event with
      | estimate first =>
        simp only [FlowEvent.probeOf, Option.ite_none_right_eq_some, Option.some.injEq] at isProbe
        obtain ⟨ofKey, rfl⟩ := isProbe
        have kept := run_keeps fresh.2 later (probe_charges (fresh.1 ofKey) estimated)
        exact kept
      | pay | serve | deleteExpired | complete => cases isProbe

end Steps

theorem last_probe_charged (expiryTime : Nat) (key : PaymentFlowStateIndex) (start : FlowStore)
    (events : List FlowEvent) (fresh : FreshRun expiryTime key events start) (probe : FeeProbe)
    (last : lastProbe key events = some probe) (estimate : Estimate)
    (returned : probe.estimate = .ok (.ok estimate)) (payment : InvoicePayment)
    (ofKey : payment.index = key) (inputs : PaymentInputs) (valid : payment.inputs = .ok inputs)
    (stored : PaymentFlow)
    (uses : (payment.find expiryTime inputs (start.run expiryTime events)).1 = .ok stored) :
    (payment.paymentFlow expiryTime (start.run expiryTime events)).1 = .ok (.ok stored) ∧
      stored.quote = estimate.paymentFlow.quote := by
  constructor
  · unfold InvoicePayment.paymentFlow InvoicePayment.getPaymentFlow
    rw [valid]
    dsimp only
    split
    · rename_i found
      rw [found] at uses
      rw [Except.ok.inj uses]
    · rename_i missing
      rw [missing] at uses
      cases uses
  · rw [InvoicePayment.find_index valid, ofKey] at uses
    obtain ⟨flow, member, selected, rfl⟩ := FlowStore.findLightningPaymentFlow_stored uses
    exact (run_charges fresh last returned).1 flow member selected

def probeWallet : WalletDescriptor := ⟨"8b3f4c2a-1d5e-4f60-9a7b-0c1d2e3f4a5b", .btc, "account"⟩

def probeRequest : FlowRequest where
  uncheckedSenderWalletId := probeWallet.id
  invoice :=
    { paymentHash := "hash"
      paymentRequest := "lnbc"
      destination := "outside"
      paymentAmount := some ⟨10000⟩ }
  findById := .ok probeWallet
  findById_id wallet found := by rw [← Except.ok.inj found]
  answers :=
    let quotes : ConversionFns :=
      { usdFromBtc := fun amount => .ok ⟨amount.amount / 20⟩
        btcFromUsd := fun amount => .ok ⟨amount.amount * 20⟩ }
    { listAllPubkeys := .ok ["node"]
      pubkeysToSkipProbe := []
      findByPaymentHash := .error { name := .CouldNotFindWalletInvoiceError }
      findWalletById := .error { name := .CouldNotFindWalletFromIdError }
      findAccountById := .error { name := .CouldNotFindError }
      mid := quotes
      hedgeBuyUsd := quotes
      hedgeSellUsd := quotes
      now := 0 }

def routedProbe (fee : ℚ) : FeeProbe where
  toFlowRequest := probeRequest
  newCheckTradeIntraAccountLimits _ _ := .ok ()
  newCheckIntraledgerLimits _ _ := .ok ()
  newCheckWithdrawalLimits _ _ := .ok ()
  lndService := .ok ()
  findRouteForInvoice amount := .ok ("node", { totalMtokens := amount.amount * 1000, fee })

def probedPayment : InvoicePayment where
  toFlowRequest := probeRequest
  validateWalletForAccount _ := .ok ()

def probeStore : FlowStore where
  world := World.initial exampleBank

def probedFlow (fee : Int) : PaymentFlow where
  hash := .paymentHash "hash"
  senderWalletId := probeWallet.id
  senderWalletCurrency := .btc
  senderAccountId := "account"
  settlementMethod := .lightning
  paymentInitiationMethod := .lightning
  descriptionFromInvoice := ""
  btcPaymentAmount := ⟨10000⟩
  usdPaymentAmount := ⟨500⟩
  inputAmount := 10000
  btcProtocolFee := ⟨fee⟩
  usdProtocolFee := ⟨1⟩
  outgoingNodePubkey := some "node"
  cachedRoute := some { totalMtokens := 10000000, fee }

def lateProbe : FeeProbe :=
  { routedProbe 5 with answers := { probeRequest.answers with now := 310 } }

def latePayment : InvoicePayment :=
  { probedPayment with answers := { probeRequest.answers with now := 320 } }

def lateFlow : PaymentFlow := { probedFlow 5 with createdAt := 310 }

def probedTwice : List FlowEvent :=
  [.estimate (routedProbe 12), .deleteExpired 300 none, .estimate lateProbe]

theorem probedTwice_fresh : FreshRun 300 probeRequest.index probedTwice probeStore := by
  have deleted : (probeStore.run 300 [.estimate (routedProbe 12), .deleteExpired 300 none]).All
      fun flow => probeRequest.index.selects flow = false := by
    unfold FlowStore.All
    decide +kernel
  have empty : probeStore.All fun flow => probeRequest.index.selects flow = false :=
    ⟨List.forall_mem_nil _, List.forall_mem_nil _⟩
  exact ⟨fun _ => empty, trivial, fun _ => deleted, trivial⟩

theorem second_probe_charged_after_expiry :
    (latePayment.paymentFlow 300 (probeStore.run 300 probedTwice)).1 =
        .ok (.ok (paymentFlowFromRaw lateFlow)) ∧
      (paymentFlowFromRaw lateFlow).quote = ⟨⟨10000⟩, ⟨500⟩, ⟨5⟩, ⟨1⟩⟩ :=
  last_probe_charged 300 probeRequest.index probeStore probedTwice probedTwice_fresh lateProbe
    (by rfl) ⟨lateFlow, none⟩ (by decide +kernel) latePayment rfl ⟨probeWallet, 10000⟩ (by rfl)
    (paymentFlowFromRaw lateFlow) (by decide +kernel)

theorem first_probe_charged_instead :
    (routedProbe 5).estimate = .ok (.ok ⟨probedFlow 5, none⟩) ∧
      (probedPayment.paymentFlow 300
        (probeStore.run 300 [.estimate (routedProbe 12), .estimate (routedProbe 5)])).1 =
        .ok (.ok (paymentFlowFromRaw (probedFlow 12))) ∧
      (probedFlow 12).quote ≠ (probedFlow 5).quote := by
  decide +kernel

end Galoy
