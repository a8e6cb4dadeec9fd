import Galoy.App.World
import Galoy.Ledger.Balance
import Mathlib.Data.Rat.Floor

set_option autoImplicit false

namespace Galoy

open AmountCalculator

structure Thrown where
  message : String
  deriving DecidableEq, Repr

def maxCents : UsdPaymentAmount := ⟨10000000000000⟩

-- The two functions differ in the bound and the errors.
def checkedToPaymentAmount (currency : WalletCurrency) (max : Amount currency)
    (tooLarge invalid : ErrorName) (amount : Option ℚ) : Except AppError (Amount currency) :=
  match amount with
  | none => .error { name := invalid }
  | some amount =>
    if amount > max.amount then .error { name := tooLarge }
    else if (⌊amount⌋ : ℚ) ≠ amount then .error { name := invalid }
    else if ¬ amount > 0 then .error { name := invalid }
    else paymentAmountFromNumber currency amount

def checkedToBtcPaymentAmount :=
  checkedToPaymentAmount .btc maxSats .BtcAmountTooLargeError .InvalidBtcPaymentAmountError

def checkedToUsdPaymentAmount :=
  checkedToPaymentAmount .usd maxCents .UsdAmountTooLargeError .InvalidUsdPaymentAmountError

namespace LnFees

def feeCapBasisPoints : Int := 50

def maxProtocolFee {currency : WalletCurrency} (amount : Amount currency) : Amount currency :=
  if amount.amount = 0 then amount
  else
    let maxFee := mulBasisPoints amount feeCapBasisPoints
    if maxFee.amount = 0 then ⟨1⟩ else maxFee

def intraLedgerFees : Amounts := ⟨zeroSats, zeroCents⟩

def feeFromRawRoute (rawRoute : RawRoute) : Except AppError BtcPaymentAmount :=
  paymentAmountFromNumber .btc ⌈rawRoute.fee⌉

end LnFees

def parseFinalHop (route : List Pubkey) : Except Thrown Pubkey :=
  let lastIdx := route.length - 1
  let penUltIndex := if route.length > 1 then lastIdx - 1 else lastIdx
  match route[penUltIndex]? with
  | some nodePubkey => .ok nodePubkey
  | none => .error ⟨"Cannot read properties of undefined (reading 'nodePubkey')"⟩

def parseFinalHopsFromInvoice (invoice : LnInvoice) : Except Thrown (List Pubkey) :=
  (invoice.routeHints.mapM parseFinalHop).map List.dedup

structure ConversionFns where
  usdFromBtc : BtcPaymentAmount → Except AppError UsdPaymentAmount
  btcFromUsd : UsdPaymentAmount → Except AppError BtcPaymentAmount

structure WithConversionArgs where
  hedgeBuyUsd : ConversionFns
  hedgeSellUsd : ConversionFns
  mid : ConversionFns

structure Quote where
  btcPaymentAmount : BtcPaymentAmount
  usdPaymentAmount : UsdPaymentAmount
  btcProtocolFee : BtcPaymentAmount
  usdProtocolFee : UsdPaymentAmount
  deriving DecidableEq, Repr

def PaymentFlow.quote (flow : PaymentFlow) : Quote where
  btcPaymentAmount := flow.btcPaymentAmount
  usdPaymentAmount := flow.usdPaymentAmount
  btcProtocolFee := flow.btcProtocolFee
  usdProtocolFee := flow.usdProtocolFee

structure LightningPaymentFlowBuilderConfig where
  localNodeIds : List Pubkey
  flaggedPubkeys : List Pubkey

structure Settlement where
  settlementMethod : SettlementMethod
  btcProtocolFee : Option BtcPaymentAmount
  usdProtocolFee : Option UsdPaymentAmount

structure InvoiceState extends Settlement where
  hash : FlowHash
  paymentInitiationMethod : PaymentInitiationMethod
  descriptionFromInvoice : String
  skipProbeForDestination : Bool
  btcPaymentAmount : Option BtcPaymentAmount := none
  uncheckedAmount : Option ℚ := none

structure LPFBWithInvoiceState extends InvoiceState where
  inputAmount : Option Int := none

structure LPFBWithSenderWalletState extends InvoiceState where
  inputAmount : Int
  senderWalletId : WalletId
  senderWalletCurrency : WalletCurrency
  senderAccountId : AccountId
  usdPaymentAmount : Option UsdPaymentAmount := none

structure LPFBWithRecipientWalletState extends LPFBWithSenderWalletState where
  recipientWalletId : Option WalletId := none
  recipientWalletCurrency : Option WalletCurrency := none
  recipientPubkey : Option Pubkey := none
  recipientUsername : Option Username := none
  recipientAccountId : Option AccountId := none

structure LPFBWithConversionState extends LPFBWithRecipientWalletState where
  quote : Quote
  createdAt : Nat

structure RecipientDetails where
  id : WalletId
  currency : WalletCurrency
  accountId : AccountId
  pubkey : Option Pubkey
  usdPaymentAmount : Option UsdPaymentAmount
  username : Option Username

-- A number is truthy when it is not zero.
def truthy (amount : Option ℚ) : Bool := amount.any (· ≠ 0)

namespace LightningPaymentFlowBuilder

variable (config : LightningPaymentFlowBuilderConfig)

def settlementMethodFromDestination (destination : Option Pubkey) : Settlement :=
  let settlementMethod :=
    match destination with
    | none => .intraLedger
    | some destination =>
      if destination ∈ config.localNodeIds then .intraLedger else .lightning
  let fees := if settlementMethod = .intraLedger then some LnFees.intraLedgerFees else none
  { settlementMethod, btcProtocolFee := fees.map (·.btc), usdProtocolFee := fees.map (·.usd) }

def skipProbeFromInvoice (invoice : LnInvoice) : Except Thrown Bool := do
  let invoicePubkeySet ← parseFinalHopsFromInvoice invoice
  return !(invoicePubkeySet.filter (· ∈ config.flaggedPubkeys)).isEmpty

def withInvoice (invoice : LnInvoice) : Except Thrown (Except AppError LPFBWithInvoiceState) :=
  match invoice.paymentAmount with
  | none =>
    .ok (.error
      { name := .InvalidLightningPaymentFlowBuilderStateError
        message := "withInvoice - paymentAmount missing" })
  | some paymentAmount => do
    let skipProbeForDestination ← skipProbeFromInvoice config invoice
    return .ok
      { toSettlement := settlementMethodFromDestination config (some invoice.destination)
        paymentInitiationMethod := .lightning
        hash := .paymentHash invoice.paymentHash
        btcPaymentAmount := some paymentAmount
        inputAmount := some paymentAmount.amount
        descriptionFromInvoice := invoice.description
        skipProbeForDestination }

def withNoAmountInvoice (invoice : LnInvoice) (uncheckedAmount : ℚ) :
    Except Thrown (Except AppError LPFBWithInvoiceState) := do
  let skipProbeForDestination ← skipProbeFromInvoice config invoice
  return .ok
    { toSettlement := settlementMethodFromDestination config (some invoice.destination)
      paymentInitiationMethod := .lightning
      hash := .paymentHash invoice.paymentHash
      uncheckedAmount := some uncheckedAmount
      descriptionFromInvoice := invoice.description
      skipProbeForDestination }

def withoutInvoice (intraLedgerHash : String) (uncheckedAmount : ℚ) (description : String) :
    LPFBWithInvoiceState where
  toSettlement := settlementMethodFromDestination config none
  paymentInitiationMethod := .intraLedger
  hash := .intraLedgerHash intraLedgerHash
  uncheckedAmount := some uncheckedAmount
  descriptionFromInvoice := description
  skipProbeForDestination := false

end LightningPaymentFlowBuilder

namespace LPFBWithInvoiceState

def withSenderWallet (state : LPFBWithInvoiceState) (senderWallet : WalletDescriptor) :
    Except Thrown (Except AppError LPFBWithSenderWalletState) :=
  let sent (invoice : InvoiceState) (inputAmount : Int)
    (usdPaymentAmount : Option UsdPaymentAmount) : LPFBWithSenderWalletState :=
    { invoice with
      inputAmount
      usdPaymentAmount
      senderWalletId := senderWallet.id
      senderWalletCurrency := senderWallet.currency
      senderAccountId := senderWallet.accountId }
  match state.uncheckedAmount, senderWallet.currency with
  | some uncheckedAmount, .btc =>
    .ok ((checkedToBtcPaymentAmount (some uncheckedAmount)).map fun paymentAmount =>
      sent
        { state.toInvoiceState with
          btcPaymentAmount := some paymentAmount
          btcProtocolFee := some (state.btcProtocolFee.getD (LnFees.maxProtocolFee paymentAmount)) }
        paymentAmount.amount none)
  | some uncheckedAmount, .usd =>
    .ok ((checkedToUsdPaymentAmount (some uncheckedAmount)).map fun paymentAmount =>
      sent
        { state.toInvoiceState with
          usdProtocolFee := some (state.usdProtocolFee.getD (LnFees.maxProtocolFee paymentAmount)) }
        paymentAmount.amount (some paymentAmount))
  | none, _ =>
    match state.inputAmount, state.btcPaymentAmount with
    | some inputAmount, some btcPaymentAmount =>
      if inputAmount = 0 then .error ⟨"withSenderWallet impossible"⟩
      else
        .ok (.ok (sent
          { state.toInvoiceState with
            btcProtocolFee :=
              some (state.btcProtocolFee.getD (LnFees.maxProtocolFee btcPaymentAmount)) }
          inputAmount none))
    | _, _ => .error ⟨"withSenderWallet impossible"⟩

end LPFBWithInvoiceState

namespace LPFBWithSenderWalletState

variable (state : LPFBWithSenderWalletState)

def isIntraLedger : Bool := state.settlementMethod = .intraLedger

def withoutRecipientWallet : Except AppError LPFBWithRecipientWalletState :=
  if state.settlementMethod = .intraLedger then
    .error
      { name := .InvalidLightningPaymentFlowBuilderStateError
        message := "withoutRecipientWallet called but settlementMethod is IntraLedger" }
  else .ok { state with }

def withRecipientWallet (recipient : RecipientDetails) :
    Except AppError LPFBWithRecipientWalletState :=
  if recipient.id = state.senderWalletId then .error { name := .SelfPaymentError }
  else if recipient.currency = .usd ∧ recipient.usdPaymentAmount.isSome =
    truthy state.uncheckedAmount then .error
      { name := .InvalidLightningPaymentFlowBuilderStateError
        message :=
          "withRecipientWallet incorrect combination of usdPaymentAmount and uncheckedAmount" }
  else
    .ok
      { state with
        recipientWalletId := some recipient.id
        recipientWalletCurrency := some recipient.currency
        recipientPubkey := recipient.pubkey
        recipientAccountId := some recipient.accountId
        recipientUsername := recipient.username
        usdPaymentAmount := recipient.usdPaymentAmount.or state.usdPaymentAmount }

end LPFBWithSenderWalletState

def updatedStateFromBtcPaymentAmount (usdFromBtc : BtcPaymentAmount →
    Except AppError UsdPaymentAmount)
    (btcPaymentAmount btcProtocolFee : BtcPaymentAmount) : Except AppError Quote := do
  let convertedAmount ← usdFromBtc btcPaymentAmount
  let priceRatio ← PriceRatio.make convertedAmount btcPaymentAmount
  return {
    btcPaymentAmount
    usdPaymentAmount := convertedAmount
    btcProtocolFee
    usdProtocolFee := priceRatio.convertFromBtcToCeil btcProtocolFee }

def updatedStateFromUsdPaymentAmount (btcFromUsd : UsdPaymentAmount →
    Except AppError BtcPaymentAmount)
    (usdPaymentAmount usdProtocolFee : UsdPaymentAmount) : Except AppError Quote := do
  let convertedAmount ← btcFromUsd usdPaymentAmount
  let priceRatio ← PriceRatio.make usdPaymentAmount convertedAmount
  return {
    btcPaymentAmount := convertedAmount
    usdPaymentAmount
    btcProtocolFee := priceRatio.convertFromUsd usdProtocolFee
    usdProtocolFee }

namespace LPFBWithRecipientWalletState

variable (state : LPFBWithRecipientWalletState)

def noConversionRequired : Bool :=
  (state.senderWalletCurrency = .btc ∧ state.settlementMethod = .lightning) ∨
    some state.senderWalletCurrency = state.recipientWalletCurrency

def convertedAtMid (mid : ConversionFns) : Except AppError Quote :=
  match state.btcPaymentAmount, state.btcProtocolFee, state.usdPaymentAmount,
    state.usdProtocolFee with
  | some btcPaymentAmount, some btcProtocolFee, some usdPaymentAmount, some usdProtocolFee =>
    .ok { btcPaymentAmount, usdPaymentAmount, btcProtocolFee, usdProtocolFee }
  | some btcPaymentAmount, some btcProtocolFee, _, _ =>
    updatedStateFromBtcPaymentAmount mid.usdFromBtc btcPaymentAmount btcProtocolFee
  | _, _, some usdPaymentAmount, some usdProtocolFee =>
    updatedStateFromUsdPaymentAmount mid.btcFromUsd usdPaymentAmount usdProtocolFee
  | _, _, _, _ =>
    .error
      { name := .InvalidLightningPaymentFlowBuilderStateError
        message := "withConversion - btcPaymentAmount || btcProtocolFee not set" }

def convertedByDealer (hedgeBuyUsd hedgeSellUsd : ConversionFns) : Except AppError Quote :=
  let dealer := if state.senderWalletCurrency = .btc then hedgeBuyUsd else hedgeSellUsd
  match state.btcPaymentAmount, state.btcProtocolFee, state.usdPaymentAmount,
    state.usdProtocolFee with
  | some btcPaymentAmount, some btcProtocolFee, some usdPaymentAmount, some usdProtocolFee =>
    if state.recipientWalletCurrency = some .usd then
      .ok { btcPaymentAmount, usdPaymentAmount, btcProtocolFee, usdProtocolFee }
    else updatedStateFromBtcPaymentAmount dealer.usdFromBtc btcPaymentAmount btcProtocolFee
  | some btcPaymentAmount, some btcProtocolFee, _, _ =>
    updatedStateFromBtcPaymentAmount dealer.usdFromBtc btcPaymentAmount btcProtocolFee
  | _, _, some usdPaymentAmount, some usdProtocolFee =>
    updatedStateFromUsdPaymentAmount dealer.btcFromUsd usdPaymentAmount usdProtocolFee
  | _, _, _, _ =>
    .error
      { name := .InvalidLightningPaymentFlowBuilderStateError
        message := "withConversion - impossible withConversion state" }

def converted (args : WithConversionArgs) : Except AppError Quote :=
  if state.noConversionRequired then state.convertedAtMid args.mid
  else state.convertedByDealer args.hedgeBuyUsd args.hedgeSellUsd

def withConversion (args : WithConversionArgs) (now : Nat) :
    Except AppError LPFBWithConversionState :=
  (state.converted args).map fun quote => { state with quote, createdAt := now }

end LPFBWithRecipientWalletState

namespace LPFBWithConversionState

variable (state : LPFBWithConversionState)

def paymentFromState (quote : Quote) (outgoingNodePubkey : Option Pubkey)
    (checkedRoute : Option RawRoute) : Except AppError PaymentFlow :=
  match state.hash with
  | .paymentHash "" | .intraLedgerHash "" =>
    .error { name := .InvalidLightningPaymentFlowStateError }
  | hash =>
    .ok
      { hash
        senderWalletId := state.senderWalletId
        senderWalletCurrency := state.senderWalletCurrency
        senderAccountId := state.senderAccountId
        recipientWalletId := state.recipientWalletId
        recipientWalletCurrency := state.recipientWalletCurrency
        recipientAccountId := state.recipientAccountId
        recipientPubkey := state.recipientPubkey
        recipientUsername := state.recipientUsername
        descriptionFromInvoice := state.descriptionFromInvoice
        skipProbeForDestination := state.skipProbeForDestination
        btcPaymentAmount := quote.btcPaymentAmount
        usdPaymentAmount := quote.usdPaymentAmount
        inputAmount := state.inputAmount
        createdAt := state.createdAt
        paymentSentAndPending := false
        settlementMethod := state.settlementMethod
        paymentInitiationMethod := state.paymentInitiationMethod
        btcProtocolFee := quote.btcProtocolFee
        usdProtocolFee := quote.usdProtocolFee
        outgoingNodePubkey
        cachedRoute := checkedRoute }

def withoutRoute : Except AppError PaymentFlow := state.paymentFromState state.quote none none

def withRoute (pubkey : Pubkey) (rawRoute : RawRoute) : Except AppError PaymentFlow := do
  let priceRatio ← PriceRatio.make state.quote.usdPaymentAmount state.quote.btcPaymentAmount
  let btcProtocolFee ← LnFees.feeFromRawRoute rawRoute
  let usdProtocolFee := priceRatio.convertFromBtcToCeil btcProtocolFee
  state.paymentFromState { state.quote with btcProtocolFee, usdProtocolFee } (some pubkey)
    (some rawRoute)

def isIntraLedger : Bool := state.settlementMethod = .intraLedger

def isTradeIntraAccount : Bool :=
  some state.senderAccountId = state.recipientAccountId ∧
    some state.senderWalletCurrency ≠ state.recipientWalletCurrency

end LPFBWithConversionState

structure BuilderAnswers where
  listAllPubkeys : Except AppError (List Pubkey)
  pubkeysToSkipProbe : List Pubkey
  findByPaymentHash : Except AppError WalletInvoice
  findWalletById : Except AppError WalletDescriptor
  findAccountById : Except AppError Account
  mid : ConversionFns
  hedgeBuyUsd : ConversionFns
  hedgeSellUsd : ConversionFns
  now : Nat

def recipientDetailsFromInvoice (answers : BuilderAnswers) : Except AppError RecipientDetails := do
  let walletInvoice ← answers.findByPaymentHash
  if walletInvoice.paid then
    throw { name := .AlreadyPaidError, message := walletInvoice.paymentHash }
  let _ ← answers.findWalletById
  let recipientAccount ← answers.findAccountById
  return {
    id := walletInvoice.recipientWalletDescriptor.id
    currency := walletInvoice.recipientWalletDescriptor.currency
    accountId := recipientAccount.id
    pubkey := some walletInvoice.pubkey
    usdPaymentAmount := walletInvoice.usdAmount
    username := recipientAccount.username }

section Construct

variable (answers : BuilderAnswers) (senderWallet : WalletDescriptor) (invoice : LnInvoice)
  (uncheckedAmount : Option ℚ)

def builderWithInvoice (config : LightningPaymentFlowBuilderConfig) :
    Except Thrown (Except AppError LPFBWithInvoiceState) :=
  match uncheckedAmount with
  | some amount =>
    if amount ≠ 0 then LightningPaymentFlowBuilder.withNoAmountInvoice config invoice amount
    else LightningPaymentFlowBuilder.withInvoice config invoice
  | none => LightningPaymentFlowBuilder.withInvoice config invoice

def senderStep (builder : Except AppError LPFBWithInvoiceState) :
    Except Thrown (Except AppError LPFBWithSenderWalletState) :=
  match builder with
  | .error error => .ok (.error error)
  | .ok state => state.withSenderWallet senderWallet

-- `isIntraLedger` of `LPFBWithError` is a promise, which counts as true.
def recipientStep (builder : Except AppError LPFBWithSenderWalletState) :
    Except AppError (Except AppError LPFBWithRecipientWalletState) :=
  match builder with
  | .error error => (recipientDetailsFromInvoice answers).map fun _ => .error error
  | .ok state =>
    if state.isIntraLedger then (recipientDetailsFromInvoice answers).map state.withRecipientWallet
    else .ok state.withoutRecipientWallet

def conversionStep (builder : Except AppError LPFBWithRecipientWalletState) :
    Except AppError LPFBWithConversionState :=
  builder.bind fun state =>
    state.withConversion ⟨answers.hedgeBuyUsd, answers.hedgeSellUsd, answers.mid⟩ answers.now

-- The promise is not `=== true`.
def isZeroForUsdRecipient (builder : Except AppError LPFBWithSenderWalletState)
    (converted : Except AppError LPFBWithConversionState) : Bool :=
  match builder, converted with
  | .ok state, .error check =>
    check.name = .InvalidZeroAmountPriceRatioInputError ∧ state.isIntraLedger
  | _, _ => false

def builderAfterSender (withSenderWallet : Except AppError LPFBWithSenderWalletState) :
    Except AppError (Except AppError LPFBWithConversionState) :=
  match recipientStep answers withSenderWallet with
  | .error error => .error error
  | .ok afterRecipientStep =>
    let withConversion := conversionStep answers afterRecipientStep
    if isZeroForUsdRecipient withSenderWallet withConversion then
      .error { name := .ZeroAmountForUsdRecipientError }
    else .ok withConversion

/-- The inner result is the builder that is returned; what it holds is seen when it is asked. -/
def constructPaymentFlowBuilder :
    Except Thrown (Except AppError (Except AppError LPFBWithConversionState)) :=
  match answers.listAllPubkeys with
  | .error error => .ok (.error error)
  | .ok localNodeIds => do
    let withInvoice ←
      builderWithInvoice invoice uncheckedAmount ⟨localNodeIds, answers.pubkeysToSkipProbe⟩
    let withSenderWallet ← senderStep senderWallet withInvoice
    return builderAfterSender answers withSenderWallet

end Construct

section Key

variable {config : LightningPaymentFlowBuilderConfig} {answers : BuilderAnswers}
  {senderWallet : WalletDescriptor} {invoice : LnInvoice} {uncheckedAmount : Option ℚ}

theorem checkedToPaymentAmount_exact {currency : WalletCurrency} {max checked : Amount currency}
    {tooLarge invalid : ErrorName} {amount : ℚ}
    (isOk : checkedToPaymentAmount currency max tooLarge invalid (some amount) = .ok checked) :
    (checked.amount : ℚ) = amount ∧ 0 < checked.amount := by
  unfold checkedToPaymentAmount at isOk
  dsimp only at isOk
  split at isOk
  · cases isOk
  · split at isOk
    · cases isOk
    · split at isOk
      · cases isOk
      · rename_i positive
        have exact := paymentAmountFromNumber_exact isOk
        refine ⟨exact, ?_⟩
        rw [← exact] at positive
        exact_mod_cast not_not.mp positive

theorem checkedToPaymentAmount_floor {currency : WalletCurrency} {max checked : Amount currency}
    {tooLarge invalid : ErrorName} {amount : ℚ}
    (isOk : checkedToPaymentAmount currency max tooLarge invalid (some amount) = .ok checked) :
    checked.amount = ⌊amount⌋ := by
  obtain ⟨exact, _⟩ := checkedToPaymentAmount_exact isOk
  rw [← exact, Int.floor_intCast]

def inputAmountOf (invoice : LnInvoice) (uncheckedAmount : Option ℚ) : Int :=
  let invoiceAmount := (invoice.paymentAmount.map (·.amount)).getD 0
  match uncheckedAmount with
  | some amount => if amount ≠ 0 then ⌊amount⌋ else invoiceAmount
  | none => invoiceAmount

def LPFBWithInvoiceState.chosenAmount (state : LPFBWithInvoiceState) : Int :=
  match state.uncheckedAmount with
  | some amount => ⌊amount⌋
  | none => state.inputAmount.getD 0

theorem withInvoice_key {state : LPFBWithInvoiceState}
    (built : LightningPaymentFlowBuilder.withInvoice config invoice = .ok (.ok state)) :
    state.hash = .paymentHash invoice.paymentHash ∧
      state.chosenAmount = (invoice.paymentAmount.map (·.amount)).getD 0 := by
  unfold LightningPaymentFlowBuilder.withInvoice at built
  cases amount : invoice.paymentAmount with
  | none =>
    rw [amount] at built
    cases built
  | some paymentAmount =>
    rw [amount] at built
    obtain ⟨_, _, same⟩ := bind_eq_ok built
    cases same
    exact ⟨rfl, rfl⟩

theorem builderWithInvoice_key {state : LPFBWithInvoiceState}
    (built : builderWithInvoice invoice uncheckedAmount config = .ok (.ok state)) :
    state.hash = .paymentHash invoice.paymentHash ∧ state.chosenAmount =
      inputAmountOf invoice uncheckedAmount := by
  unfold builderWithInvoice at built
  cases uncheckedAmount with
  | none => exact withInvoice_key built
  | some amount =>
    by_cases zero : amount = 0
    · simp only [zero, ne_eq, not_true, if_false] at built
      simpa [inputAmountOf, zero] using withInvoice_key built
    · simp only [ne_eq, zero, not_false_eq_true, if_true] at built
      obtain ⟨_, _, same⟩ := bind_eq_ok built
      cases same
      simp [inputAmountOf, LPFBWithInvoiceState.chosenAmount, zero]

theorem withSenderWallet_key {state : LPFBWithInvoiceState} {sent : LPFBWithSenderWalletState}
    (built : state.withSenderWallet senderWallet = .ok (.ok sent)) :
    sent.hash = state.hash ∧ sent.senderWalletId = senderWallet.id ∧
      sent.inputAmount = state.chosenAmount := by
  unfold LPFBWithInvoiceState.withSenderWallet at built
  unfold LPFBWithInvoiceState.chosenAmount
  dsimp only at built
  split at built
  · rename_i amount _ chosen _
    obtain ⟨paymentAmount, checked, rfl⟩ := map_eq_ok (Except.ok.inj built)
    rw [chosen]
    exact ⟨rfl, rfl, checkedToPaymentAmount_floor checked⟩
  · rename_i amount _ chosen _
    obtain ⟨paymentAmount, checked, rfl⟩ := map_eq_ok (Except.ok.inj built)
    rw [chosen]
    exact ⟨rfl, rfl, checkedToPaymentAmount_floor checked⟩
  · rename_i _ _ fixed
    split at built
    · rename_i inputAmount _ isInput _
      split at built
      · cases built
      · cases built
        rw [fixed, isInput]
        exact ⟨rfl, rfl, rfl⟩
    · cases built

theorem recipientStep_key {builder : Except AppError LPFBWithSenderWalletState}
    {received : LPFBWithRecipientWalletState}
    (built : recipientStep answers builder = .ok (.ok received)) :
    ∃ sent, builder = .ok sent ∧ received.hash = sent.hash ∧
      received.senderWalletId = sent.senderWalletId ∧
      received.inputAmount = sent.inputAmount := by
  cases builder with
  | error error =>
    obtain ⟨_, _, same⟩ := map_eq_ok built
    cases same
  | ok sent =>
    refine ⟨sent, rfl, ?_⟩
    unfold recipientStep at built
    dsimp only at built
    split at built
    · obtain ⟨recipient, _, same⟩ := map_eq_ok built
      unfold LPFBWithSenderWalletState.withRecipientWallet at same
      split at same
      · cases same
      · split at same
        · cases same
        · cases same
          exact ⟨rfl, rfl, rfl⟩
    · have same := Except.ok.inj built
      unfold LPFBWithSenderWalletState.withoutRecipientWallet at same
      split at same
      · cases same
      · cases same
        exact ⟨rfl, rfl, rfl⟩

theorem withConversion_key {state : LPFBWithRecipientWalletState}
    {args : WithConversionArgs} {now : Nat} {converted : LPFBWithConversionState}
    (built : state.withConversion args now = .ok converted) :
    converted.toLPFBWithRecipientWalletState = state := by
  obtain ⟨quote, _, rfl⟩ := map_eq_ok built
  rfl

theorem paymentFromState_inversion {state : LPFBWithConversionState} {quote : Quote}
    {outgoingNodePubkey : Option Pubkey} {checkedRoute : Option RawRoute} {flow : PaymentFlow}
    (built : state.paymentFromState quote outgoingNodePubkey checkedRoute = .ok flow) :
    state.hash ≠ .paymentHash "" ∧ state.hash ≠ .intraLedgerHash "" ∧
      flow =
        { hash := state.hash
          senderWalletId := state.senderWalletId
          senderWalletCurrency := state.senderWalletCurrency
          senderAccountId := state.senderAccountId
          recipientWalletId := state.recipientWalletId
          recipientWalletCurrency := state.recipientWalletCurrency
          recipientAccountId := state.recipientAccountId
          recipientPubkey := state.recipientPubkey
          recipientUsername := state.recipientUsername
          descriptionFromInvoice := state.descriptionFromInvoice
          skipProbeForDestination := state.skipProbeForDestination
          btcPaymentAmount := quote.btcPaymentAmount
          usdPaymentAmount := quote.usdPaymentAmount
          inputAmount := state.inputAmount
          createdAt := state.createdAt
          paymentSentAndPending := false
          settlementMethod := state.settlementMethod
          paymentInitiationMethod := state.paymentInitiationMethod
          btcProtocolFee := quote.btcProtocolFee
          usdProtocolFee := quote.usdProtocolFee
          outgoingNodePubkey
          cachedRoute := checkedRoute } := by
  unfold LPFBWithConversionState.paymentFromState at built
  split at built
  · cases built
  · cases built
  · rename_i notPayment notIntraLedger
    exact ⟨notPayment, notIntraLedger, (Except.ok.inj built).symm⟩

theorem builderAfterSender_inversion {withSenderWallet : Except AppError LPFBWithSenderWalletState}
    {state : LPFBWithConversionState}
    (built : builderAfterSender answers withSenderWallet = .ok (.ok state)) :
    ∃ received, recipientStep answers withSenderWallet = .ok (.ok received) ∧
      received.withConversion ⟨answers.hedgeBuyUsd, answers.hedgeSellUsd, answers.mid⟩ answers.now =
        .ok state := by
  unfold builderAfterSender at built
  split at built
  · cases built
  · rename_i afterRecipientStep isRecipient
    dsimp only at built
    split at built
    · cases built
    · obtain ⟨received, rfl, converted⟩ := bind_eq_ok (Except.ok.inj built)
      exact ⟨received, isRecipient, converted⟩

theorem constructPaymentFlowBuilder_key {state : LPFBWithConversionState}
    (built : constructPaymentFlowBuilder answers senderWallet invoice uncheckedAmount =
      .ok (.ok (.ok state))) :
    state.hash = .paymentHash invoice.paymentHash ∧ state.senderWalletId = senderWallet.id ∧
      state.inputAmount = inputAmountOf invoice uncheckedAmount := by
  unfold constructPaymentFlowBuilder at built
  split at built
  · cases built
  · obtain ⟨withInvoice, isInvoice, built⟩ := bind_eq_ok built
    obtain ⟨withSenderWallet, isSender, built⟩ := bind_eq_ok built
    obtain ⟨received, isRecipient, isConversion⟩ :=
      builderAfterSender_inversion (Except.ok.inj built)
    obtain ⟨sent, rfl, sameHash, sameWallet, sameAmount⟩ := recipientStep_key isRecipient
    cases withInvoice with
    | error error => cases isSender
    | ok invoiceState =>
      obtain ⟨hash, chosen⟩ := builderWithInvoice_key isInvoice
      obtain ⟨sentHash, wallet, amount⟩ := withSenderWallet_key isSender
      have same := withConversion_key isConversion
      subst same
      exact ⟨sameHash.trans (sentHash.trans hash), sameWallet.trans wallet,
        sameAmount.trans (amount.trans chosen)⟩

end Key

end Galoy
