import Galoy.Payments.FlowStore
import Galoy.Shared.Number
import Galoy.Ledger.Balance

set_option autoImplicit false

namespace Galoy

structure FlowKey where
  hash : FlowHash
  walletId : WalletId
  inputAmount : Int
  deriving DecidableEq, Repr

def FlowKey.selects (key : FlowKey) (flow : PaymentFlow) : Bool :=
  flow.hash = key.hash ∧ flow.senderWalletId = key.walletId ∧ flow.inputAmount = key.inputAmount

def PaymentFlow.key (flow : PaymentFlow) : FlowKey :=
  ⟨flow.hash, flow.senderWalletId, flow.inputAmount⟩

def PaymentFlowStateIndex.key (index : PaymentFlowStateIndex) : FlowKey :=
  ⟨.paymentHash index.paymentHash, index.walletId, index.inputAmount⟩

namespace FlowHash

def valid : FlowHash → Bool
  | .paymentHash hash => hash ≠ ""
  | .intraLedgerHash hash => hash ≠ ""

def asPaymentHash : FlowHash → Option String
  | .paymentHash hash => some hash
  | .intraLedgerHash _ => none

def asIntraLedgerHash : FlowHash → Option String
  | .paymentHash _ => none
  | .intraLedgerHash hash => some hash

end FlowHash

namespace FlowRecords

structure Document where
  senderWalletId : String
  senderWalletCurrency : WalletCurrency
  senderAccountId : String
  settlementMethod : SettlementMethod
  paymentInitiationMethod : PaymentInitiationMethod
  paymentHash : Option String
  intraLedgerHash : Option String
  createdAt : Nat
  paymentSentAndPending : Bool
  descriptionFromInvoice : String
  btcPaymentAmount : ℚ
  usdPaymentAmount : ℚ
  inputAmount : ℚ
  btcProtocolFee : ℚ
  usdProtocolFee : ℚ
  recipientWalletId : Option String
  recipientWalletCurrency : Option WalletCurrency
  recipientAccountId : Option String
  recipientPubkey : Option String
  recipientUsername : Option String
  outgoingNodePubkey : Option String
  cachedRoute : Option RawRoute
  deriving DecidableEq, Repr

structure PaymentFlowStateRecordPartial extends Document where
  skipProbeForDestination : Option Bool

def Document.skipProbeForDestination (_ : Document) : Option Bool := none

def missingHash : AppError where
  name := .InvalidLightningPaymentFlowStateError
  message := "Missing valid 'paymentHash' or 'intraLedgerHash'"

def documentOf (paymentFlow : PaymentFlow) : Document where
  paymentHash := paymentFlow.hash.asPaymentHash
  intraLedgerHash := paymentFlow.hash.asIntraLedgerHash
  senderWalletId := paymentFlow.senderWalletId
  senderWalletCurrency := paymentFlow.senderWalletCurrency
  senderAccountId := paymentFlow.senderAccountId
  settlementMethod := paymentFlow.settlementMethod
  paymentInitiationMethod := paymentFlow.paymentInitiationMethod
  descriptionFromInvoice := paymentFlow.descriptionFromInvoice
  createdAt := paymentFlow.createdAt
  paymentSentAndPending := paymentFlow.paymentSentAndPending
  btcPaymentAmount := toNumber paymentFlow.btcPaymentAmount.amount
  usdPaymentAmount := toNumber paymentFlow.usdPaymentAmount.amount
  inputAmount := toNumber paymentFlow.inputAmount
  btcProtocolFee := toNumber paymentFlow.btcProtocolFee.amount
  usdProtocolFee := toNumber paymentFlow.usdProtocolFee.amount
  recipientWalletId := paymentFlow.recipientWalletId
  recipientWalletCurrency := paymentFlow.recipientWalletCurrency
  recipientAccountId := paymentFlow.recipientAccountId
  recipientPubkey := paymentFlow.recipientPubkey
  recipientUsername := paymentFlow.recipientUsername
  outgoingNodePubkey := paymentFlow.outgoingNodePubkey
  cachedRoute := paymentFlow.cachedRoute

def rawFromPaymentFlow (paymentFlow : PaymentFlow) :
    Except AppError PaymentFlowStateRecordPartial :=
  if paymentFlow.hash.valid then
    .ok
      { documentOf paymentFlow with
        skipProbeForDestination := paymentFlow.skipProbeForDestination }
  else .error missingHash

def save (raw : PaymentFlowStateRecordPartial) (fault : Option RepositoryFault) :
    Except AppError Document :=
  match fault with
  | some fault => .error fault.error
  | none =>
    if raw.senderWalletId = "" ∨ raw.senderAccountId = "" then
      .error (RepositoryFault.unknown "validation failed").error
    else .ok raw.toDocument

def hashFromRaw (paymentHash intraLedgerHash : Option String) : Except AppError FlowHash :=
  match orUndefined paymentHash, orUndefined intraLedgerHash with
  | some hash, _ => .ok (.paymentHash hash)
  | none, some hash => .ok (.intraLedgerHash hash)
  | none, none => .error missingHash

def paymentFlowFromRaw (paymentFlowState : Document) : Except AppError PaymentFlow := do
  let inputAmount ← safeBigInt paymentFlowState.inputAmount
  let hash ← hashFromRaw paymentFlowState.paymentHash paymentFlowState.intraLedgerHash
  let btcPaymentAmount ← paymentAmountFromNumber .btc paymentFlowState.btcPaymentAmount
  let usdPaymentAmount ← paymentAmountFromNumber .usd paymentFlowState.usdPaymentAmount
  let btcProtocolFee ← paymentAmountFromNumber .btc paymentFlowState.btcProtocolFee
  let usdProtocolFee ← paymentAmountFromNumber .usd paymentFlowState.usdProtocolFee
  return {
    hash
    senderWalletId := paymentFlowState.senderWalletId
    senderWalletCurrency := paymentFlowState.senderWalletCurrency
    senderAccountId := paymentFlowState.senderAccountId
    settlementMethod := paymentFlowState.settlementMethod
    paymentInitiationMethod := paymentFlowState.paymentInitiationMethod
    descriptionFromInvoice := paymentFlowState.descriptionFromInvoice
    skipProbeForDestination := paymentFlowState.skipProbeForDestination
    createdAt := paymentFlowState.createdAt
    paymentSentAndPending := paymentFlowState.paymentSentAndPending
    btcPaymentAmount
    usdPaymentAmount
    inputAmount
    btcProtocolFee
    usdProtocolFee
    recipientWalletId := orUndefined paymentFlowState.recipientWalletId
    recipientWalletCurrency := paymentFlowState.recipientWalletCurrency
    recipientAccountId := orUndefined paymentFlowState.recipientAccountId
    recipientPubkey := orUndefined paymentFlowState.recipientPubkey
    recipientUsername := orUndefined paymentFlowState.recipientUsername
    outgoingNodePubkey := orUndefined paymentFlowState.outgoingNodePubkey
    cachedRoute := paymentFlowState.cachedRoute }

def persistNew (documents : List Document) (paymentFlow : PaymentFlow)
    (fault : Option RepositoryFault) :
    Except AppError PaymentFlow × List Document :=
  match rawFromPaymentFlow paymentFlow with
  | .error error => (.error error, documents)
  | .ok raw =>
    match save raw fault with
    | .error error => (.error error, documents)
    | .ok document => (paymentFlowFromRaw document, documents ++ [document])

def Document.hasHash (document : Document) : FlowHash → Bool
  | .paymentHash hash => document.paymentHash = some hash
  | .intraLedgerHash hash => document.intraLedgerHash = some hash

def Document.selected (key : FlowKey) (document : Document) : Bool :=
  document.hasHash key.hash ∧ document.senderWalletId = key.walletId ∧
    document.inputAmount = toNumber key.inputAmount

/-- What is found, and the key of the flow whose deletion is not awaited. Without a hash the message
of the error is made of the arguments, and a bigint has no JSON. -/
def findLightningPaymentFlow (expiryTime now : Nat) (documents : List Document) (args : FlowKey)
    (fault : Option RepositoryFault) : Except Thrown
      (Except AppError PaymentFlow × Option FlowKey) :=
  if ¬args.hash.valid then .error ⟨"Do not know how to serialize a BigInt"⟩
  else
    match fault, documents.find? (·.selected args) with
    | some fault, _ => .ok (.error fault.error, none)
    | none, none => .ok (.error { name := .CouldNotFindLightningPaymentFlowError }, none)
    | none, some result =>
      match paymentFlowFromRaw result with
      | .error error => .ok (.error error, none)
      | .ok paymentFlow =>
        if isExpired expiryTime now paymentFlow then
          .ok (.error { name := .CouldNotFindLightningPaymentFlowError }, some args)
        else .ok (.ok paymentFlow, none)

end FlowRecords

structure PaymentFlow.SmallAmounts (flow : PaymentFlow) : Prop where
  btcPaymentAmount : flow.btcPaymentAmount.amount.natAbs < 2 ^ 53
  usdPaymentAmount : flow.usdPaymentAmount.amount.natAbs < 2 ^ 53
  inputAmount : flow.inputAmount.natAbs < 2 ^ 53
  btcProtocolFee : flow.btcProtocolFee.amount.natAbs < 2 ^ 53
  usdProtocolFee : flow.usdProtocolFee.amount.natAbs < 2 ^ 53

namespace FlowRecords

section Stages

variable {flow : PaymentFlow}

theorem hashFromRaw_of_valid {hash : FlowHash} (valid : hash.valid = true) :
    hashFromRaw hash.asPaymentHash hash.asIntraLedgerHash = .ok hash := by
  cases hash with
  | paymentHash hash =>
    have nonempty : hash ≠ "" := by simpa [FlowHash.valid] using valid
    simp [hashFromRaw, FlowHash.asPaymentHash, orUndefined, nonempty]
  | intraLedgerHash hash =>
    have nonempty : hash ≠ "" := by simpa [FlowHash.valid] using valid
    simp [hashFromRaw, FlowHash.asPaymentHash, FlowHash.asIntraLedgerHash, orUndefined, nonempty]

theorem safeBigInt_toNumber {amount : Int} (small : amount.natAbs < 2 ^ 53) :
    safeBigInt (toNumber amount) = .ok amount := by
  rw [toNumber_exact small]
  simp [safeBigInt]

theorem paymentAmountFromNumber_toNumber {currency : WalletCurrency} {amount : Amount currency}
    (small : amount.amount.natAbs < 2 ^ 53) :
    paymentAmountFromNumber currency (toNumber amount.amount) = .ok amount := by
  rw [toNumber_exact small, paymentAmountFromNumber_int]

theorem paymentFlowFromRaw_documentOf (small : flow.SmallAmounts) (valid : flow.hash.valid = true) :
    paymentFlowFromRaw (documentOf flow) = .ok (Galoy.paymentFlowFromRaw flow) := by
  unfold paymentFlowFromRaw documentOf
  dsimp only
  rw [safeBigInt_toNumber small.inputAmount, hashFromRaw_of_valid valid,
    paymentAmountFromNumber_toNumber small.btcPaymentAmount,
    paymentAmountFromNumber_toNumber small.usdPaymentAmount,
    paymentAmountFromNumber_toNumber small.btcProtocolFee,
    paymentAmountFromNumber_toNumber small.usdProtocolFee]
  rfl

theorem paymentFlowFromRaw_skipProbe {document : Document}
    (isFlow : paymentFlowFromRaw document = .ok flow) : flow.skipProbeForDestination = none := by
  unfold paymentFlowFromRaw at isFlow
  obtain ⟨_, _, isFlow⟩ := bind_eq_ok isFlow
  obtain ⟨_, _, isFlow⟩ := bind_eq_ok isFlow
  obtain ⟨_, _, isFlow⟩ := bind_eq_ok isFlow
  obtain ⟨_, _, isFlow⟩ := bind_eq_ok isFlow
  obtain ⟨_, _, isFlow⟩ := bind_eq_ok isFlow
  obtain ⟨_, _, isFlow⟩ := bind_eq_ok isFlow
  cases isFlow
  rfl

theorem selected_documentOf {key : FlowKey} (flowSmall : flow.inputAmount.natAbs < 2 ^ 53)
    (keySmall : key.inputAmount.natAbs < 2 ^ 53) :
    (documentOf flow).selected key = key.selects flow := by
  have sameHash : (documentOf flow).hasHash key.hash = decide (flow.hash = key.hash) := by
    unfold documentOf Document.hasHash
    cases flow.hash <;> cases key.hash <;> simp [FlowHash.asPaymentHash, FlowHash.asIntraLedgerHash]
  have sameAmount : toNumber flow.inputAmount = toNumber key.inputAmount ↔
      flow.inputAmount = key.inputAmount := by
    rw [toNumber_exact flowSmall, toNumber_exact keySmall, Int.cast_inj]
  unfold Document.selected FlowKey.selects
  rw [sameHash]
  simp [documentOf, sameAmount]

theorem find_documentOf {flows : List PaymentFlow} {key : FlowKey}
    (small : ∀ flow ∈ flows, flow.inputAmount.natAbs < 2 ^ 53)
    (keySmall : key.inputAmount.natAbs < 2 ^ 53) :
    (flows.map documentOf).find? (·.selected key) = (flows.find? key.selects).map documentOf := by
  induction flows with
  | nil => rfl
  | cons flow flows ih =>
    have rest := ih fun other member => small other (List.mem_cons_of_mem _ member)
    have first := selected_documentOf (small flow List.mem_cons_self) keySmall
    rw [List.map_cons, List.find?_cons, List.find?_cons, first]
    cases key.selects flow with
    | false => exact rest
    | true => rfl

theorem find_skipProbe {expiryTime now : Nat} {documents : List Document} {key : FlowKey}
    {fault : Option RepositoryFault} {deletion : Option FlowKey}
    (found : findLightningPaymentFlow expiryTime now documents key fault =
      .ok (.ok flow, deletion)) :
    flow.skipProbeForDestination = none := by
  unfold findLightningPaymentFlow at found
  split at found
  · cases found
  · split at found
    · cases found
    · cases found
    · split at found
      · cases found
      · rename_i isFlow
        split at found
        · cases found
        · cases found
          exact paymentFlowFromRaw_skipProbe isFlow

end Stages

section Refinement

variable (store : FlowStore)

theorem rawFromPaymentFlow_valid (flow : PaymentFlow) :
    Galoy.rawFromPaymentFlow flow = if flow.hash.valid then .ok flow else .error missingHash := by
  unfold Galoy.rawFromPaymentFlow FlowHash.valid
  split
  · rename_i empty
    simp [empty, missingHash]
  · rename_i empty
    simp [empty, missingHash]
  · rename_i payment intraLedger
    cases isHash : flow.hash with
    | paymentHash hash =>
      have nonempty : hash ≠ "" := fun empty => payment (by rw [isHash, empty])
      simp [nonempty]
    | intraLedgerHash hash =>
      have nonempty : hash ≠ "" := fun empty => intraLedger (by rw [isHash, empty])
      simp [nonempty]

theorem persistNew_refines {flow : PaymentFlow} (small : flow.SmallAmounts)
    (fault : Option RepositoryFault) :
    persistNew (store.world.flows.map documentOf) flow fault =
      ((store.persistNew flow fault).1, (store.persistNew flow fault).2.world.flows.map
        documentOf) := by
  unfold persistNew FlowStore.persistNew rawFromPaymentFlow
  rw [rawFromPaymentFlow_valid]
  by_cases valid : flow.hash.valid = true
  · simp only [valid, if_true]
    cases fault with
    | some fault => rfl
    | none =>
      unfold save
      dsimp only
      by_cases missing : flow.senderWalletId = "" ∨ flow.senderAccountId = ""
      · have alsoMissing : (documentOf flow).senderWalletId = "" ∨ (documentOf flow).senderAccountId = "" := missing
        rw [if_pos missing, if_pos alsoMissing]
      · have notMissing : ¬((documentOf flow).senderWalletId = "" ∨ (documentOf flow).senderAccountId = "") := missing
        rw [if_neg missing, if_neg notMissing]
        dsimp only
        rw [paymentFlowFromRaw_documentOf small valid]
        simp [FlowStore.withFlows]
  · simp only [valid]
    rfl

theorem findLightningPaymentFlow_refines (expiryTime now : Nat) {index : PaymentFlowStateIndex}
    (nonempty : index.paymentHash ≠ "") (small : index.inputAmount.natAbs < 2 ^ 53)
    (flows : ∀ flow ∈ store.world.flows, flow.SmallAmounts ∧ flow.hash.valid = true)
    (fault : Option RepositoryFault) :
    ∃ deletion,
      findLightningPaymentFlow expiryTime now (store.world.flows.map documentOf) index.key fault =
        .ok ((store.findLightningPaymentFlow expiryTime now index fault).1, deletion) ∧
      (store.findLightningPaymentFlow expiryTime now index fault).2.unawaited =
        store.unawaited ++ (deletion.map fun _ => .deleteLightningPaymentFlow index).toList := by
  have valid : index.key.hash.valid = true := by
    simpa [PaymentFlowStateIndex.key, FlowHash.valid] using nonempty
  have amounts (flow : PaymentFlow) (member : flow ∈ store.world.flows) :
      flow.inputAmount.natAbs < 2 ^ 53 :=
    (flows flow member).1.inputAmount
  have stored : (store.world.flows.map documentOf).find? (·.selected index.key) =
      (store.world.flows.find? index.key.selects).map documentOf := find_documentOf amounts small
  have selects : index.key.selects = index.selects := rfl
  unfold findLightningPaymentFlow FlowStore.findLightningPaymentFlow
  rw [stored, selects, if_neg (by simp [valid]), if_neg nonempty]
  cases fault with
  | some fault => exact ⟨none, rfl, by simp⟩
  | none =>
    cases found : store.world.flows.find? index.selects with
    | none => exact ⟨none, rfl, by simp⟩
    | some flow =>
      obtain ⟨flowSmall, flowValid⟩ := flows flow (List.mem_of_find?_eq_some found)
      dsimp only [Option.map_some]
      rw [paymentFlowFromRaw_documentOf flowSmall flowValid]
      dsimp only
      cases isExpired expiryTime now (Galoy.paymentFlowFromRaw flow) with
      | true => exact ⟨some index.key, rfl, rfl⟩
      | false => exact ⟨none, rfl, by simp⟩

end Refinement

end FlowRecords

def LPFBWithConversionState.Makes (state : LPFBWithConversionState) (flow : PaymentFlow) : Prop :=
  state.withoutRoute = .ok flow ∨ ∃ pubkey rawRoute, state.withRoute pubkey rawRoute = .ok flow

theorem LPFBWithConversionState.Makes.fields {state : LPFBWithConversionState} {flow : PaymentFlow}
    (made : state.Makes flow) :
    flow.hash.valid = true ∧ flow.skipProbeForDestination = some state.skipProbeForDestination := by
  have ofState {quote : Quote} {outgoing : Option Pubkey} {route : Option RawRoute}
      (built : state.paymentFromState quote outgoing route = .ok flow) :
      flow.hash.valid = true ∧ flow.skipProbeForDestination =
        some state.skipProbeForDestination := by
    obtain ⟨notPayment, notIntraLedger, rfl⟩ := paymentFromState_inversion built
    refine ⟨?_, rfl⟩
    dsimp only
    cases isHash : state.hash with
    | paymentHash hash =>
      rw [isHash] at notPayment
      simpa [FlowHash.valid] using notPayment
    | intraLedgerHash hash =>
      rw [isHash] at notIntraLedger
      simpa [FlowHash.valid] using notIntraLedger
  rcases made with without | ⟨pubkey, rawRoute, routed⟩
  · exact ofState without
  · unfold LPFBWithConversionState.withRoute at routed
    obtain ⟨_, _, routed⟩ := bind_eq_ok routed
    obtain ⟨_, _, routed⟩ := bind_eq_ok routed
    exact ofState routed

structure PaymentFlow.Storable (flow : PaymentFlow) : Prop extends flow.SmallAmounts where
  senderWalletId : flow.senderWalletId ≠ ""
  senderAccountId : flow.senderAccountId ≠ ""
  recipientWalletId : flow.recipientWalletId ≠ some ""
  recipientAccountId : flow.recipientAccountId ≠ some ""
  recipientPubkey : flow.recipientPubkey ≠ some ""
  recipientUsername : flow.recipientUsername ≠ some ""
  outgoingNodePubkey : flow.outgoingNodePubkey ≠ some ""

theorem orUndefined_of_ne {text : Option String} (nonempty : text ≠ some "") :
    orUndefined text = text := by
  unfold orUndefined
  split
  · contradiction
  · rfl

theorem paymentFlowFromRaw_of_storable {flow : PaymentFlow} (storable : flow.Storable) :
    paymentFlowFromRaw flow = { flow with skipProbeForDestination := none } := by
  unfold paymentFlowFromRaw
  rw [orUndefined_of_ne storable.recipientWalletId, orUndefined_of_ne storable.recipientAccountId,
    orUndefined_of_ne storable.recipientPubkey, orUndefined_of_ne storable.recipientUsername,
    orUndefined_of_ne storable.outgoingNodePubkey]

namespace FlowRecords

section RoundTrip

variable {flow : PaymentFlow} (documents : List Document)

theorem persistNew_of_storable (storable : flow.Storable) (valid : flow.hash.valid = true) :
    persistNew documents flow none =
      (.ok { flow with skipProbeForDestination := none }, documents ++ [documentOf flow]) := by
  have required : ¬((documentOf flow).senderWalletId = "" ∨
      (documentOf flow).senderAccountId = "") :=
    not_or.mpr ⟨storable.senderWalletId, storable.senderAccountId⟩
  unfold persistNew rawFromPaymentFlow save
  rw [if_pos valid]
  dsimp only
  rw [if_neg required]
  dsimp only
  rw [paymentFlowFromRaw_documentOf storable.toSmallAmounts valid,
    paymentFlowFromRaw_of_storable storable]

theorem find_appended (storable : flow.Storable)
    (others : ∀ document ∈ documents, document.selected flow.key = false) :
    (documents ++ [documentOf flow]).find? (·.selected flow.key) = some (documentOf flow) := by
  have notFound : documents.find? (·.selected flow.key) = none := by
    rw [List.find?_eq_none]
    intro document member
    simp [others document member]
  have own : (documentOf flow).selected flow.key = true := by
    rw [selected_documentOf storable.inputAmount storable.inputAmount]
    simp [FlowKey.selects, PaymentFlow.key]
  rw [List.find?_append, notFound, List.find?_singleton, own]
  rfl

theorem find_of_storable (storable : flow.Storable) (valid : flow.hash.valid = true)
    (others : ∀ document ∈ documents, document.selected flow.key = false) {expiryTime now : Nat}
    (unexpired : isExpired expiryTime now flow = false) :
    findLightningPaymentFlow expiryTime now (documents ++ [documentOf flow]) flow.key none =
      .ok (.ok { flow with skipProbeForDestination := none }, none) := by
  have sameExpiry : isExpired expiryTime now { flow with skipProbeForDestination := none } =
      false := unexpired
  have validKey : flow.key.hash.valid = true := valid
  unfold findLightningPaymentFlow
  rw [if_neg (by simp [validKey]), find_appended documents storable others]
  dsimp only
  rw [paymentFlowFromRaw_documentOf storable.toSmallAmounts valid,
    paymentFlowFromRaw_of_storable storable]
  dsimp only
  rw [sameExpiry]
  rfl

end RoundTrip

/-- A flow of the builder is never read back as it was stored: the store keeps everything but
`skipProbeForDestination`, which the builder always sets. -/
theorem stored_flow_without_skip_probe {state : LPFBWithConversionState} {flow : PaymentFlow}
    (made : state.Makes flow) (documents : List Document) (expiryTime now : Nat) :
    (∀ (persistFault findFault : Option RepositoryFault) (deletion : Option FlowKey),
      findLightningPaymentFlow expiryTime now (persistNew documents flow persistFault).2
      flow.key findFault ≠
        .ok (.ok flow, deletion)) ∧
    (flow.Storable → (∀ document ∈ documents, document.selected flow.key = false) →
      isExpired expiryTime now flow = false →
      (persistNew documents flow none).1 = .ok { flow with skipProbeForDestination := none } ∧
      findLightningPaymentFlow expiryTime now (persistNew documents flow none).2 flow.key none =
        .ok (.ok { flow with skipProbeForDestination := none }, none)) := by
  obtain ⟨valid, skipProbe⟩ := made.fields
  constructor
  · intro persistFault findFault deletion found
    have lost := find_skipProbe found
    rw [skipProbe] at lost
    cases lost
  · intro storable others unexpired
    rw [persistNew_of_storable documents storable valid]
    exact ⟨rfl, find_of_storable documents storable valid others unexpired⟩

def unprobedState : LPFBWithConversionState where
  settlementMethod := .lightning
  btcProtocolFee := some ⟨12⟩
  usdProtocolFee := none
  hash := .paymentHash "hash"
  paymentInitiationMethod := .lightning
  descriptionFromInvoice := "coffee"
  skipProbeForDestination := true
  btcPaymentAmount := some ⟨10000⟩
  inputAmount := 10000
  senderWalletId := "wallet"
  senderWalletCurrency := .btc
  senderAccountId := "account"
  quote := ⟨⟨10000⟩, ⟨500⟩, ⟨12⟩, ⟨1⟩⟩
  createdAt := 0

def unprobedFlow : PaymentFlow where
  hash := .paymentHash "hash"
  senderWalletId := "wallet"
  senderWalletCurrency := .btc
  senderAccountId := "account"
  settlementMethod := .lightning
  paymentInitiationMethod := .lightning
  descriptionFromInvoice := "coffee"
  skipProbeForDestination := some true
  btcPaymentAmount := ⟨10000⟩
  usdPaymentAmount := ⟨500⟩
  inputAmount := 10000
  btcProtocolFee := ⟨12⟩
  usdProtocolFee := ⟨1⟩

theorem stored_flow_without_skip_probe_unprobed :
    unprobedState.Makes unprobedFlow ∧
      findLightningPaymentFlow 300 5 (persistNew [] unprobedFlow none).2 unprobedFlow.key none =
        .ok (.ok { unprobedFlow with skipProbeForDestination := none }, none) := by
  have made : unprobedState.Makes unprobedFlow := .inl rfl
  have storable : unprobedFlow.Storable := by
    constructor
    · constructor <;> decide
    all_goals decide
  exact ⟨made, ((stored_flow_without_skip_probe made [] 300 5).2 storable
    (fun _ member => nomatch member) rfl).2⟩

theorem stored_skip_probe_undefined :
    unprobedState.withoutRoute = .ok unprobedFlow ∧
      unprobedFlow.skipProbeForDestination = some true ∧
      ∃ found, findLightningPaymentFlow 300 5 (persistNew [] unprobedFlow none).2
        unprobedFlow.key none =
        .ok (.ok found, none) ∧ found.skipProbeForDestination = none ∧ found ≠ unprobedFlow := by
  refine ⟨rfl, rfl, { unprobedFlow with skipProbeForDestination := none }, ?_, rfl, by decide⟩
  decide +kernel

end FlowRecords

end Galoy
