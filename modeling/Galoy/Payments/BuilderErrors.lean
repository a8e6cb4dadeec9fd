import Galoy.Payments.FlowBuilder

set_option autoImplicit false

namespace Galoy

inductive Raised where
  | returned (error : AppError)
  | thrown (thrown : Thrown)
  deriving DecidableEq, Repr

inductive RepositoryLookup where
  | findByPaymentHash (paymentHash : PaymentHash)
  | findWalletById (walletId : WalletId)
  | findAccountById (accountId : AccountId)
  deriving DecidableEq, Repr

inductive ChainEvent where
  | raised (raised : Raised)
  | lookup (lookup : RepositoryLookup)
  deriving DecidableEq, Repr

structure Traced (α : Type) where
  value : α
  events : List ChainEvent

instance : Monad Traced where
  pure value := ⟨value, []⟩
  bind traced next := ⟨(next traced.value).value, traced.events ++ (next traced.value).events⟩

namespace Traced

variable {α β : Type}

def log (event : ChainEvent) : Traced Unit := ⟨(), [event]⟩

@[simp] theorem pure_value (value : α) : (pure value : Traced α).value = value := rfl

@[simp] theorem pure_events (value : α) : (pure value : Traced α).events = [] := rfl

@[simp] theorem bind_value (traced : Traced α) (next : α → Traced β) :
    (traced >>= next).value = (next traced.value).value := rfl

@[simp] theorem bind_events (traced : Traced α) (next : α → Traced β) :
    (traced >>= next).events = traced.events ++ (next traced.value).events := rfl

@[simp] theorem log_events (event : ChainEvent) : (log event).events = [event] := rfl

end Traced

-- `LPFBWithError` passes its error on, which raises nothing new.
def logStep {α β : Type} (before : Except AppError α) (after : Except AppError β) : Traced Unit :=
  match before, after with
  | .ok _, .error error => Traced.log (.raised (.returned error))
  | _, _ => pure ()

section Traces

variable (answers : BuilderAnswers) (senderWallet : WalletDescriptor) (invoice : LnInvoice)
  (uncheckedAmount : Option ℚ)

def tracedRecipientDetails : Traced (Except AppError RecipientDetails) := do
  Traced.log (.lookup (.findByPaymentHash invoice.paymentHash))
  match answers.findByPaymentHash with
  | .error error => return .error error
  | .ok walletInvoice =>
    if walletInvoice.paid then
      return .error { name := .AlreadyPaidError, message := walletInvoice.paymentHash }
    else
      Traced.log (.lookup (.findWalletById walletInvoice.recipientWalletDescriptor.id))
      match answers.findWalletById with
      | .error error => return .error error
      | .ok recipientWallet =>
        Traced.log (.lookup (.findAccountById recipientWallet.accountId))
        match answers.findAccountById with
        | .error error => return .error error
        | .ok recipientAccount =>
          return .ok {
            id := walletInvoice.recipientWalletDescriptor.id
            currency := walletInvoice.recipientWalletDescriptor.currency
            accountId := recipientAccount.id
            pubkey := some walletInvoice.pubkey
            usdPaymentAmount := walletInvoice.usdAmount
            username := recipientAccount.username }

def tracedWithRecipient (builder : Except AppError LPFBWithSenderWalletState) :
    Traced (Except AppError (Except AppError LPFBWithRecipientWalletState)) := do
  match ← tracedRecipientDetails answers invoice with
  | .error error =>
    Traced.log (.raised (.returned error))
    return .error error
  | .ok recipientDetails =>
    let afterRecipientStep := builder.bind fun state => state.withRecipientWallet recipientDetails
    logStep builder afterRecipientStep
    return .ok afterRecipientStep

def tracedRecipientStep (builder : Except AppError LPFBWithSenderWalletState) :
    Traced (Except AppError (Except AppError LPFBWithRecipientWalletState)) :=
  match builder with
  | .error error => tracedWithRecipient answers invoice (.error error)
  | .ok state =>
    if state.isIntraLedger then tracedWithRecipient answers invoice (.ok state)
    else do
      logStep builder state.withoutRecipientWallet
      return .ok state.withoutRecipientWallet

def tracedAfterSender (withSenderWallet : Except AppError LPFBWithSenderWalletState) :
    Traced (Except AppError (Except AppError LPFBWithConversionState)) := do
  match ← tracedRecipientStep answers invoice withSenderWallet with
  | .error error => return .error error
  | .ok afterRecipientStep =>
    let withConversion := conversionStep answers afterRecipientStep
    logStep afterRecipientStep withConversion
    if isZeroForUsdRecipient withSenderWallet withConversion then
      return .error { name := .ZeroAmountForUsdRecipientError }
    else return .ok withConversion

def tracedPaymentFlowBuilder :
    Traced (Except Thrown (Except AppError (Except AppError LPFBWithConversionState))) :=
  match answers.listAllPubkeys with
  | .error error => do
    Traced.log (.raised (.returned error))
    return .ok (.error error)
  | .ok localNodeIds =>
    match builderWithInvoice invoice uncheckedAmount ⟨localNodeIds, answers.pubkeysToSkipProbe⟩ with
    | .error thrown => do
      Traced.log (.raised (.thrown thrown))
      return .error thrown
    | .ok withInvoice => do
      logStep (.ok ()) withInvoice
      match senderStep senderWallet withInvoice with
      | .error thrown =>
        Traced.log (.raised (.thrown thrown))
        return .error thrown
      | .ok withSenderWallet =>
        logStep withInvoice withSenderWallet
        let built ← tracedAfterSender answers invoice withSenderWallet
        return .ok built

end Traces

section Values

variable {answers : BuilderAnswers} {senderWallet : WalletDescriptor} {invoice : LnInvoice}
  {uncheckedAmount : Option ℚ}

@[simp] theorem tracedRecipientDetails_value :
    (tracedRecipientDetails answers invoice).value = recipientDetailsFromInvoice answers := by
  unfold tracedRecipientDetails recipientDetailsFromInvoice
  cases answers.findByPaymentHash with
  | error error => rfl
  | ok walletInvoice =>
    by_cases paid : walletInvoice.paid
    · simp [paid, bind, Except.bind]
      rfl
    · cases answers.findWalletById <;> cases answers.findAccountById <;>
        simp [paid, bind, Except.bind, pure, Except.pure]

theorem tracedRecipientStep_value (builder : Except AppError LPFBWithSenderWalletState) :
    (tracedRecipientStep answers invoice builder).value = recipientStep answers builder := by
  unfold tracedRecipientStep recipientStep tracedWithRecipient
  cases builder with
  | error error =>
    cases details : recipientDetailsFromInvoice answers <;> simp [details, Except.map, Except.bind]
  | ok state =>
    by_cases inside : state.isIntraLedger
    · cases details : recipientDetailsFromInvoice answers <;>
        simp [inside, details, Except.map, Except.bind]
    · simp [inside]

theorem tracedAfterSender_value (withSenderWallet : Except AppError LPFBWithSenderWalletState) :
    (tracedAfterSender answers invoice withSenderWallet).value =
      builderAfterSender answers withSenderWallet := by
  unfold tracedAfterSender builderAfterSender
  rw [Traced.bind_value, tracedRecipientStep_value]
  cases recipientStep answers withSenderWallet with
  | error error => rfl
  | ok afterRecipientStep =>
    dsimp only [Traced.bind_value]
    split <;> rfl

theorem tracedPaymentFlowBuilder_value :
    (tracedPaymentFlowBuilder answers senderWallet invoice uncheckedAmount).value =
      constructPaymentFlowBuilder answers senderWallet invoice uncheckedAmount := by
  unfold tracedPaymentFlowBuilder constructPaymentFlowBuilder
  cases answers.listAllPubkeys with
  | error error => rfl
  | ok localNodeIds =>
    dsimp only
    cases builderWithInvoice invoice uncheckedAmount ⟨localNodeIds, answers.pubkeysToSkipProbe⟩ with
    | error thrown => rfl
    | ok withInvoice =>
      dsimp only [Traced.bind_value]
      cases sent : senderStep senderWallet withInvoice with
      | error thrown => simp [sent, bind, Except.bind]
      | ok withSenderWallet =>
        simp only [Traced.bind_value, tracedAfterSender_value, Traced.pure_value]
        simp [sent, bind, Except.bind, pure, Except.pure]

end Values

def afterFirstRaised : List ChainEvent → Option (Raised × List ChainEvent)
  | [] => none
  | .raised first :: later => some (first, later)
  | .lookup _ :: rest => afterFirstRaised rest

@[simp] theorem afterFirstRaised_lookups (lookups : List RepositoryLookup)
    (events : List ChainEvent) :
    afterFirstRaised (lookups.map .lookup ++ events) = afterFirstRaised events := by
  induction lookups with
  | nil => rfl
  | cons lookup rest ih => simpa [afterFirstRaised] using ih

section Seen

variable (answers : BuilderAnswers) (senderWallet : WalletDescriptor) (invoice : LnInvoice)
  (uncheckedAmount : Option ℚ)

def MappedZero (error first : AppError) : Prop :=
  error.name = .ZeroAmountForUsdRecipientError ∧
    first.name = .InvalidZeroAmountPriceRatioInputError ∧
    ∃ localNodeIds, answers.listAllPubkeys = .ok localNodeIds ∧ invoice.destination ∈ localNodeIds

def Sees : Except Thrown (Except AppError (Except AppError LPFBWithConversionState)) → Raised → Prop
  | .error thrown, .thrown first => thrown = first
  | .ok (.error error), .returned first => error = first ∨ MappedZero answers invoice error first
  | .ok (.ok builder), .returned first =>
    builder.map (fun state => state.quote.usdPaymentAmount) = .error first ∧
      builder.map (fun state => state.quote.btcPaymentAmount) = .error first ∧
      builder.bind LPFBWithConversionState.withoutRoute = .error first
  | _, _ => False

def FirstErrorSeen : Prop :=
  ∀ first later,
    afterFirstRaised (tracedPaymentFlowBuilder answers senderWallet invoice
      uncheckedAmount).events =
      some (first, later) →
    Sees answers invoice (constructPaymentFlowBuilder answers senderWallet invoice uncheckedAmount)
      first ∧
      ∀ lookup, .lookup lookup ∉ later

def AcceptedAmount : Prop :=
  match senderWallet.currency with
  | .btc => ∃ amount, checkedToBtcPaymentAmount uncheckedAmount = .ok amount
  | .usd => ∃ amount, checkedToUsdPaymentAmount uncheckedAmount = .ok amount

end Seen

section Events

variable {answers : BuilderAnswers} {senderWallet : WalletDescriptor} {invoice : LnInvoice}
  {uncheckedAmount : Option ℚ}

theorem tracedRecipientDetails_events (answers : BuilderAnswers) (invoice : LnInvoice) :
    ∃ lookups, (tracedRecipientDetails answers invoice).events =
      ((.findByPaymentHash invoice.paymentHash :: lookups).map .lookup) := by
  unfold tracedRecipientDetails
  cases answers.findByPaymentHash with
  | error error => exact ⟨[], rfl⟩
  | ok walletInvoice =>
    by_cases paid : walletInvoice.paid
    · exact ⟨[], by simp [paid]⟩
    · cases wallet : answers.findWalletById with
      | error error => exact ⟨[_], by simp [paid]; rfl⟩
      | ok recipientWallet =>
        cases answers.findAccountById <;> exact ⟨[_, _], by simp [paid]; exact ⟨rfl, rfl⟩⟩

theorem tracedAfterSender_error (answers : BuilderAnswers) (invoice : LnInvoice)
    (error : AppError) :
    .lookup (.findByPaymentHash invoice.paymentHash) ∈
      (tracedAfterSender answers invoice (.error error)).events := by
  obtain ⟨lookups, isLookups⟩ := tracedRecipientDetails_events answers invoice
  simp [tracedAfterSender, tracedRecipientStep, tracedWithRecipient, isLookups]

def raisedBy {α : Type} : Except AppError (Except AppError α) → List ChainEvent
  | .error error => [.raised (.returned error)]
  | .ok (.error error) => [.raised (.returned error)]
  | .ok (.ok _) => []

theorem tracedRecipientStep_ok (answers : BuilderAnswers) (invoice : LnInvoice)
    (state : LPFBWithSenderWalletState) :
    ∃ lookups : List RepositoryLookup, (tracedRecipientStep answers invoice (.ok state)).events =
      lookups.map .lookup ++ raisedBy (recipientStep answers (.ok state)) := by
  unfold tracedRecipientStep recipientStep tracedWithRecipient
  by_cases inside : state.isIntraLedger
  · obtain ⟨lookups, isLookups⟩ := tracedRecipientDetails_events answers invoice
    refine ⟨.findByPaymentHash invoice.paymentHash :: lookups, ?_⟩
    cases details : recipientDetailsFromInvoice answers with
    | error error => simp [inside, isLookups, details, Except.map, raisedBy]
    | ok recipient =>
      cases received : state.withRecipientWallet recipient <;>
        simp [inside, isLookups, details, received, logStep, Except.map, Except.bind, raisedBy]
  · refine ⟨[], ?_⟩
    cases received : state.withoutRecipientWallet <;> simp [inside, logStep, received, raisedBy]

theorem withRecipient_not_zero {state : LPFBWithSenderWalletState} {error : AppError}
    (refused : recipientStep answers (.ok state) = .ok (.error error)) :
    error.name ≠ .InvalidZeroAmountPriceRatioInputError := by
  unfold recipientStep at refused
  dsimp only at refused
  split at refused
  · obtain ⟨recipient, _, received⟩ := map_eq_ok refused
    unfold LPFBWithSenderWalletState.withRecipientWallet at received
    split at received
    · cases received
      decide
    · split at received
      · cases received
        decide
      · cases received
  · have received := Except.ok.inj refused
    unfold LPFBWithSenderWalletState.withoutRecipientWallet at received
    split at received
    · cases received
      decide
    · cases received

theorem tracedAfterSender_ok {state : LPFBWithSenderWalletState} {first : Raised}
    {later : List ChainEvent}
    (isFirst : afterFirstRaised (tracedAfterSender answers invoice (.ok state)).events =
      some (first, later)) :
    later = [] ∧ ∃ error, first = .returned error ∧
      (builderAfterSender answers (.ok state) = .error error ∨
        builderAfterSender answers (.ok state) = .ok (.error error) ∨
        builderAfterSender answers (.ok state) = .error { name :=
          .ZeroAmountForUsdRecipientError } ∧
          error.name = .InvalidZeroAmountPriceRatioInputError ∧ state.isIntraLedger) := by
  obtain ⟨lookups, isLookups⟩ := tracedRecipientStep_ok answers invoice state
  unfold tracedAfterSender at isFirst
  rw [Traced.bind_events, isLookups, List.append_assoc, afterFirstRaised_lookups, tracedRecipientStep_value] at isFirst
  unfold builderAfterSender
  cases received : recipientStep answers (.ok state) with
  | error error =>
    simp [received, raisedBy, afterFirstRaised] at isFirst
    obtain ⟨rfl, rfl⟩ := isFirst
    exact ⟨rfl, error, rfl, .inl rfl⟩
  | ok builder =>
    cases builder with
    | error error =>
      have notZero := withRecipient_not_zero received
      simp [received, raisedBy, afterFirstRaised, conversionStep, Except.bind, logStep, isZeroForUsdRecipient,
        notZero] at isFirst
      obtain ⟨rfl, rfl⟩ := isFirst
      refine ⟨rfl, error, rfl, .inr (.inl ?_)⟩
      simp [conversionStep, Except.bind, isZeroForUsdRecipient, notZero]
    | ok recipient =>
      cases converted : conversionStep answers (.ok recipient) with
      | error error =>
        by_cases zero : error.name = .InvalidZeroAmountPriceRatioInputError ∧ state.isIntraLedger
        · simp [received, raisedBy, afterFirstRaised, converted, logStep, isZeroForUsdRecipient, zero] at isFirst
          obtain ⟨rfl, rfl⟩ := isFirst
          refine ⟨rfl, error, rfl, .inr (.inr ⟨?_, zero⟩)⟩
          simp [converted, isZeroForUsdRecipient, zero]
        · simp [received, raisedBy, afterFirstRaised, converted, logStep, isZeroForUsdRecipient, zero] at isFirst
          obtain ⟨rfl, rfl⟩ := isFirst
          refine ⟨rfl, error, rfl, .inr (.inl ?_)⟩
          simp [converted, isZeroForUsdRecipient, zero]
      | ok built =>
        simp [received, raisedBy, afterFirstRaised, converted, logStep,
          isZeroForUsdRecipient] at isFirst

end Events

section Chain

variable {answers : BuilderAnswers} {senderWallet : WalletDescriptor} {invoice : LnInvoice}
  {uncheckedAmount : Option ℚ} {localNodeIds : List Pubkey}

def RefusedBeforeRecipient (answers : BuilderAnswers) (senderWallet : WalletDescriptor)
    (invoice : LnInvoice) (uncheckedAmount : Option ℚ) : Prop :=
  ∃ localNodeIds withInvoice error, answers.listAllPubkeys = .ok localNodeIds ∧
    builderWithInvoice invoice uncheckedAmount ⟨localNodeIds, answers.pubkeysToSkipProbe⟩ =
      .ok withInvoice ∧
    senderStep senderWallet withInvoice = .ok (.error error)

theorem events_of_sender_step {withInvoice : Except AppError LPFBWithInvoiceState}
    {withSenderWallet : Except AppError LPFBWithSenderWalletState}
    (isLocal : answers.listAllPubkeys = .ok localNodeIds)
    (isInvoice : builderWithInvoice invoice uncheckedAmount ⟨localNodeIds,
      answers.pubkeysToSkipProbe⟩ =
      .ok withInvoice)
    (isSender : senderStep senderWallet withInvoice = .ok withSenderWallet) :
    (tracedPaymentFlowBuilder answers senderWallet invoice uncheckedAmount).events =
      raisedBy (.ok withSenderWallet) ++
        (tracedAfterSender answers invoice withSenderWallet).events := by
  simp only [tracedPaymentFlowBuilder, isLocal, isInvoice, isSender, Traced.bind_events,
    Traced.pure_events, List.append_nil]
  cases withInvoice with
  | error error =>
    cases isSender
    rfl
  | ok state => cases withSenderWallet <;> rfl

theorem not_first_error_seen (refused : RefusedBeforeRecipient answers senderWallet invoice
    uncheckedAmount) :
    ¬FirstErrorSeen answers senderWallet invoice uncheckedAmount := by
  obtain ⟨localNodeIds, withInvoice, error, isLocal, isInvoice, isSender⟩ := refused
  intro seen
  have after : afterFirstRaised (tracedPaymentFlowBuilder answers senderWallet invoice
      uncheckedAmount).events =
      some (.returned error, (tracedAfterSender answers invoice (.error error)).events) := by
    rw [events_of_sender_step isLocal isInvoice isSender]
    rfl
  exact (seen _ _ after).2 _ (tracedAfterSender_error answers invoice error)

theorem builderWithInvoice_settlement {config : LightningPaymentFlowBuilderConfig}
    {state : LPFBWithInvoiceState} (isInvoice : builderWithInvoice invoice uncheckedAmount config =
      .ok (.ok state)) :
    state.toSettlement =
      LightningPaymentFlowBuilder.settlementMethodFromDestination config
        (some invoice.destination) := by
  have ofInvoice (built : LightningPaymentFlowBuilder.withInvoice config invoice =
      .ok (.ok state)) :
      state.toSettlement =
        LightningPaymentFlowBuilder.settlementMethodFromDestination config
          (some invoice.destination) := by
    unfold LightningPaymentFlowBuilder.withInvoice at built
    split at built
    · cases built
    · obtain ⟨_, _, same⟩ := bind_eq_ok built
      cases same
      rfl
  unfold builderWithInvoice at isInvoice
  split at isInvoice
  · split at isInvoice
    · obtain ⟨_, _, same⟩ := bind_eq_ok isInvoice
      cases same
      rfl
    · exact ofInvoice isInvoice
  · exact ofInvoice isInvoice

theorem withSenderWallet_settlement {state : LPFBWithInvoiceState}
    {sent : LPFBWithSenderWalletState}
    (isSender : state.withSenderWallet senderWallet = .ok (.ok sent)) :
    sent.settlementMethod = state.settlementMethod := by
  unfold LPFBWithInvoiceState.withSenderWallet at isSender
  dsimp only at isSender
  split at isSender
  · obtain ⟨_, _, rfl⟩ := map_eq_ok (Except.ok.inj isSender)
    rfl
  · obtain ⟨_, _, rfl⟩ := map_eq_ok (Except.ok.inj isSender)
    rfl
  · split at isSender
    · split at isSender
      · cases isSender
      · cases isSender
        rfl
    · cases isSender

theorem destination_is_local {state : LPFBWithInvoiceState} {sent : LPFBWithSenderWalletState}
    (isInvoice : builderWithInvoice invoice uncheckedAmount ⟨localNodeIds,
      answers.pubkeysToSkipProbe⟩ =
      .ok (.ok state))
    (isSender : state.withSenderWallet senderWallet = .ok (.ok sent))
    (inside : sent.isIntraLedger) :
    invoice.destination ∈ localNodeIds := by
  have method : state.settlementMethod = .intraLedger := by
    rw [← withSenderWallet_settlement isSender]
    simpa [LPFBWithSenderWalletState.isIntraLedger] using inside
  rw [builderWithInvoice_settlement isInvoice] at method
  simpa [LightningPaymentFlowBuilder.settlementMethodFromDestination] using method

theorem first_error_seen (accepted : ¬RefusedBeforeRecipient answers senderWallet invoice
    uncheckedAmount) :
    FirstErrorSeen answers senderWallet invoice uncheckedAmount := by
  intro first later isFirst
  cases isLocal : answers.listAllPubkeys with
  | error error =>
    simp only [tracedPaymentFlowBuilder, isLocal] at isFirst
    cases isFirst
    simp [constructPaymentFlowBuilder, isLocal, Sees]
  | ok localNodeIds =>
    cases isInvoice : builderWithInvoice invoice uncheckedAmount
      ⟨localNodeIds, answers.pubkeysToSkipProbe⟩ with
    | error thrown =>
      simp only [tracedPaymentFlowBuilder, isLocal, isInvoice] at isFirst
      cases isFirst
      simp [constructPaymentFlowBuilder, isLocal, isInvoice, bind, Except.bind, Sees]
    | ok withInvoice =>
      cases isSender : senderStep senderWallet withInvoice with
      | error thrown =>
        have nothing : (logStep (.ok ()) withInvoice).events = [] := by
          cases withInvoice with
          | error error => cases isSender
          | ok state => rfl
        simp only [tracedPaymentFlowBuilder, isLocal, isInvoice, isSender, Traced.bind_events,
          nothing] at isFirst
        cases isFirst
        simp [constructPaymentFlowBuilder, isLocal, isInvoice, isSender, bind, Except.bind, Sees]
      | ok withSenderWallet =>
        cases withSenderWallet with
        | error error =>
          exact absurd ⟨localNodeIds, withInvoice, error, isLocal, isInvoice, isSender⟩ accepted
        | ok sent =>
          cases withInvoice with
          | error error => cases isSender
          | ok state =>
            rw [events_of_sender_step isLocal isInvoice isSender] at isFirst
            obtain ⟨rfl, error, rfl, cases⟩ := tracedAfterSender_ok isFirst
            refine ⟨?_, by simp⟩
            have built : constructPaymentFlowBuilder answers senderWallet invoice uncheckedAmount =
                .ok (builderAfterSender answers (.ok sent)) := by
              simp [constructPaymentFlowBuilder, isLocal, isInvoice, isSender, bind, Except.bind,
                pure, Except.pure]
            rw [built]
            rcases cases with direct | passed | ⟨mapped, zero, inside⟩
            · rw [direct]
              exact .inl rfl
            · rw [passed]
              exact ⟨rfl, rfl, rfl⟩
            · rw [mapped]
              exact .inr ⟨rfl, zero, localNodeIds, isLocal,
                destination_is_local isInvoice isSender inside⟩

theorem skipProbeFromInvoice_ok (config : LightningPaymentFlowBuilderConfig) :
    (∃ skip, LightningPaymentFlowBuilder.skipProbeFromInvoice config invoice = .ok skip) ↔
      ∃ hops, parseFinalHopsFromInvoice invoice = .ok hops := by
  unfold LightningPaymentFlowBuilder.skipProbeFromInvoice
  cases parseFinalHopsFromInvoice invoice with
  | error thrown => simp [bind, Except.bind]
  | ok hops => exact ⟨fun _ => ⟨hops, rfl⟩, fun _ => ⟨_, rfl⟩⟩

theorem withSenderWallet_refuses {state : LPFBWithInvoiceState} {amount : ℚ}
    (chosen : state.uncheckedAmount = some amount) :
    (∃ error, state.withSenderWallet senderWallet = .ok (.error error)) ↔
      ¬AcceptedAmount senderWallet (some amount) := by
  unfold LPFBWithInvoiceState.withSenderWallet AcceptedAmount
  rw [chosen]
  cases senderWallet.currency with
  | btc => cases checked : checkedToBtcPaymentAmount (some amount) <;> simp [checked, Except.map]
  | usd => cases checked : checkedToUsdPaymentAmount (some amount) <;> simp [checked, Except.map]

theorem chosen_amount_refused (config : LightningPaymentFlowBuilderConfig) (amount : ℚ) :
    (∃ withInvoice error, LightningPaymentFlowBuilder.withNoAmountInvoice config invoice amount =
      .ok withInvoice ∧
        senderStep senderWallet withInvoice = .ok (.error error)) ↔
      (∃ hops, parseFinalHopsFromInvoice invoice = .ok hops) ∧
        ¬AcceptedAmount senderWallet (some amount) := by
  rw [← skipProbeFromInvoice_ok config]
  unfold LightningPaymentFlowBuilder.withNoAmountInvoice
  cases LightningPaymentFlowBuilder.skipProbeFromInvoice config invoice with
  | error thrown => simp [bind, Except.bind]
  | ok skip =>
    constructor
    · rintro ⟨_, error, built, isSender⟩
      cases built
      exact ⟨⟨skip, rfl⟩, (withSenderWallet_refuses rfl).mp ⟨error, isSender⟩⟩
    · rintro ⟨_, refused⟩
      have refuses (state : LPFBWithInvoiceState) (chosen : state.uncheckedAmount = some amount) :
          ∃ error, senderStep senderWallet (.ok state) = .ok (.error error) :=
        (withSenderWallet_refuses chosen).mpr refused
      exact ⟨_, _, rfl, (refuses _ rfl).choose_spec⟩

theorem invoice_amount_refused (config : LightningPaymentFlowBuilderConfig) :
    (∃ withInvoice error, LightningPaymentFlowBuilder.withInvoice config invoice = .ok withInvoice ∧
        senderStep senderWallet withInvoice = .ok (.error error)) ↔
    invoice.paymentAmount = none := by
  unfold LightningPaymentFlowBuilder.withInvoice
  cases invoice.paymentAmount with
  | none => simp [senderStep]
  | some amount =>
    cases LightningPaymentFlowBuilder.skipProbeFromInvoice config invoice with
    | error thrown => simp [bind, Except.bind]
    | ok skip =>
      by_cases zero : amount.amount = 0 <;>
        simp [bind, Except.bind, pure, Except.pure, senderStep,
          LPFBWithInvoiceState.withSenderWallet, zero]

theorem refusedBeforeRecipient_iff :
    RefusedBeforeRecipient answers senderWallet invoice uncheckedAmount ↔
      (∃ localNodeIds, answers.listAllPubkeys = .ok localNodeIds) ∧
        (truthy uncheckedAmount ∧ (∃ hops, parseFinalHopsFromInvoice invoice = .ok hops) ∧
            ¬AcceptedAmount senderWallet uncheckedAmount ∨
          ¬truthy uncheckedAmount ∧ invoice.paymentAmount = none) := by
  unfold RefusedBeforeRecipient builderWithInvoice
  cases answers.listAllPubkeys with
  | error error => simp
  | ok localNodeIds =>
    rcases uncheckedAmount with _ | amount
    · simpa [truthy] using invoice_amount_refused ⟨localNodeIds, answers.pubkeysToSkipProbe⟩
    · by_cases zero : amount = 0
      · simpa [truthy, zero] using invoice_amount_refused ⟨localNodeIds, answers.pubkeysToSkipProbe⟩
      · simpa [truthy, zero] using chosen_amount_refused ⟨localNodeIds, answers.pubkeysToSkipProbe⟩
          amount

end Chain

theorem first_error_seen_iff (answers : BuilderAnswers) (senderWallet : WalletDescriptor)
    (invoice : LnInvoice) (uncheckedAmount : Option ℚ) :
    FirstErrorSeen answers senderWallet invoice uncheckedAmount ↔
      ∀ localNodeIds, answers.listAllPubkeys = .ok localNodeIds →
        (truthy uncheckedAmount → ∀ hops, parseFinalHopsFromInvoice invoice = .ok hops →
          AcceptedAmount senderWallet uncheckedAmount) ∧
        (¬truthy uncheckedAmount → invoice.paymentAmount ≠ none) := by
  have seen : FirstErrorSeen answers senderWallet invoice uncheckedAmount ↔
      ¬RefusedBeforeRecipient answers senderWallet invoice uncheckedAmount :=
    ⟨fun isSeen refused => not_first_error_seen refused isSeen, first_error_seen⟩
  rw [seen, refusedBeforeRecipient_iff]
  constructor
  · intro accepted localNodeIds isLocal
    constructor
    · intro chosen hops isHops
      by_contra refused
      exact accepted ⟨⟨localNodeIds, isLocal⟩, .inl ⟨chosen, ⟨hops, isHops⟩, refused⟩⟩
    · intro unchosen missing
      exact accepted ⟨⟨localNodeIds, isLocal⟩, .inr ⟨unchosen, missing⟩⟩
  · rintro given ⟨⟨localNodeIds, isLocal⟩, ⟨chosen, ⟨hops, isHops⟩, refused⟩ | ⟨unchosen, missing⟩⟩
    · exact refused ((given localNodeIds isLocal).1 chosen hops isHops)
    · exact (given localNodeIds isLocal).2 unchosen missing

def noPrices : ConversionFns where
  usdFromBtc _ := .error { name := .DealerPriceServiceError }
  btcFromUsd _ := .error { name := .DealerPriceServiceError }

def outsideAnswers : BuilderAnswers where
  listAllPubkeys := .ok ["bank"]
  pubkeysToSkipProbe := []
  findByPaymentHash := .error { name := .CouldNotFindWalletInvoiceError }
  findWalletById := .error { name := .CouldNotFindWalletFromIdError }
  findAccountById := .error { name := .CouldNotFindError }
  mid := noPrices
  hedgeBuyUsd := noPrices
  hedgeSellUsd := noPrices
  now := 0

def outsideInvoice : LnInvoice where
  paymentHash := "hash"
  paymentRequest := "lnbc"
  destination := "outside"

theorem amount_too_large_hidden_by_lookup :
    afterFirstRaised (tracedPaymentFlowBuilder outsideAnswers ⟨"wallet", .btc, "account"⟩
        outsideInvoice (some (maxSats.amount + 1))).events =
      some (.returned { name := .BtcAmountTooLargeError },
        [.lookup (.findByPaymentHash "hash"), .raised
          (.returned { name := .CouldNotFindWalletInvoiceError })]) ∧
    constructPaymentFlowBuilder outsideAnswers ⟨"wallet", .btc, "account"⟩ outsideInvoice
        (some (maxSats.amount + 1)) =
      .ok (.error { name := .CouldNotFindWalletInvoiceError }) := by
  have nonzero : (maxSats.amount : ℚ) + 1 ≠ 0 := by decide +kernel
  have tooLarge : checkedToBtcPaymentAmount (some (maxSats.amount + 1)) =
      .error { name := .BtcAmountTooLargeError } := by
    decide +kernel
  constructor
  · decide +kernel
  · simp only [constructPaymentFlowBuilder, outsideAnswers, builderWithInvoice, nonzero, ne_eq, not_false_eq_true, if_true]
    simp [LightningPaymentFlowBuilder.withNoAmountInvoice, LightningPaymentFlowBuilder.skipProbeFromInvoice,
      parseFinalHopsFromInvoice, outsideInvoice, bind, Except.bind, pure, Except.pure,
      Except.map, senderStep,
      LPFBWithInvoiceState.withSenderWallet, tooLarge, builderAfterSender, recipientStep,
      recipientDetailsFromInvoice]

end Galoy
