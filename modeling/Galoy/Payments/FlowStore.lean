import Galoy.App.Effects
import Galoy.Payments.FlowBuilder

set_option autoImplicit false

namespace Galoy

def rawFromPaymentFlow (flow : PaymentFlow) : Except AppError PaymentFlow :=
  match flow.hash with
  | .paymentHash "" | .intraLedgerHash "" =>
    .error
      { name := .InvalidLightningPaymentFlowStateError
        message := "Missing valid 'paymentHash' or 'intraLedgerHash'" }
  | _ => .ok flow

theorem rawFromPaymentFlow_eq {flow raw : PaymentFlow}
    (encoded : rawFromPaymentFlow flow = .ok raw) : raw = flow := by
  unfold rawFromPaymentFlow at encoded
  split at encoded <;> cases encoded
  rfl

@[simp] theorem paymentFlowFromRaw_quote (stored : PaymentFlow) :
    (paymentFlowFromRaw stored).quote = stored.quote := rfl

-- The times of the flows and the expiry time are in one unit.
def isExpired (expiryTime now : Nat) (paymentFlow : PaymentFlow) : Bool :=
  if paymentFlow.paymentSentAndPending then false
  else decide (now - paymentFlow.createdAt > expiryTime)

inductive Unawaited where
  | persistNew (paymentFlow : PaymentFlow)
  | deleteLightningPaymentFlow (index : PaymentFlowStateIndex)
  deriving DecidableEq, Repr

structure FlowStore where
  world : World
  unawaited : List Unawaited := []

namespace FlowStore

variable (store : FlowStore)

def withFlows (flows : List PaymentFlow) : FlowStore :=
  { store with world := { store.world with flows } }

def persistNew (paymentFlow : PaymentFlow) (fault : Option RepositoryFault) :
    Except AppError PaymentFlow × FlowStore :=
  match rawFromPaymentFlow paymentFlow, fault with
  | .error error, _ => (.error error, store)
  | .ok _, some fault => (.error fault.error, store)
  | .ok raw, none =>
    if raw.senderWalletId = "" ∨ raw.senderAccountId = "" then
      (.error (RepositoryFault.unknown "validation failed").error, store)
    else (.ok (paymentFlowFromRaw raw), store.withFlows (store.world.flows ++ [raw]))

def deleteLightningPaymentFlow (index : PaymentFlowStateIndex) (fault : Option RepositoryFault) :
    Except AppError Unit × FlowStore :=
  match fault with
  | some fault =>
    (.error { name := .UnknownRepositoryError, message := fault.error.message }, store)
  | none =>
    if store.world.flows.any index.selects then
      (.ok (), store.withFlows (store.world.flows.eraseP index.selects))
    else
      (.error { name := .CouldNotFindLightningPaymentFlowError, message := index.paymentHash },
        store)

def findLightningPaymentFlow (expiryTime now : Nat) (index : PaymentFlowStateIndex)
    (fault : Option RepositoryFault) : Except AppError PaymentFlow × FlowStore :=
  if index.paymentHash = "" then (.error { name := .BadInputsForFindError }, store)
  else
    match fault, store.world.flows.find? index.selects with
    | some fault, _ => (.error fault.error, store)
    | none, none => (.error { name := .CouldNotFindLightningPaymentFlowError }, store)
    | none, some result =>
      let paymentFlow := paymentFlowFromRaw result
      if isExpired expiryTime now paymentFlow then
        (.error { name := .CouldNotFindLightningPaymentFlowError },
          { store with unawaited := store.unawaited ++ [.deleteLightningPaymentFlow index] })
      else (.ok paymentFlow, store)

def deleteExpiredLightningPaymentFlows (expiryTime now : Nat) (fault : Option RepositoryFault) :
    Except AppError Nat × FlowStore :=
  let expired (flow : PaymentFlow) : Bool :=
    flow.createdAt + expiryTime ≤ now && !flow.paymentSentAndPending
  match fault, store.world.flows.countP expired with
  | some fault, _ =>
    (.error { name := .UnknownRepositoryError, message := fault.error.message }, store)
  | none, 0 => (.error { name := .NoExpiredLightningPaymentFlowsError }, store)
  | none, deletedCount =>
    (.ok deletedCount, store.withFlows (store.world.flows.filter (!expired ·)))

def complete (position : Nat) (fault : Option RepositoryFault) : FlowStore :=
  match store.unawaited[position]? with
  | none => store
  | some call =>
    let rest := { store with unawaited := store.unawaited.eraseIdx position }
    match call with
    | .persistNew paymentFlow => (rest.persistNew paymentFlow fault).2
    | .deleteLightningPaymentFlow index => (rest.deleteLightningPaymentFlow index fault).2

def arriving : List PaymentFlow :=
  store.unawaited.filterMap fun
    | .persistNew paymentFlow => some paymentFlow
    | .deleteLightningPaymentFlow _ => none

def All (holds : PaymentFlow → Prop) : Prop :=
  (∀ flow ∈ store.world.flows, holds flow) ∧ ∀ flow ∈ store.arriving, holds flow

section All

variable {store} {holds : PaymentFlow → Prop}

theorem All.withFlows {flows : List PaymentFlow} (all : store.All holds)
    (each : ∀ flow ∈ flows, holds flow) :
    (store.withFlows flows).All holds :=
  ⟨each, all.2⟩

theorem All.unawaited {unawaited : List Unawaited} (all : store.All holds)
    (each : ∀ flow, .persistNew flow ∈ unawaited → holds flow) :
    FlowStore.All { store with unawaited } holds := by
  refine ⟨all.1, fun flow member => each flow ?_⟩
  obtain ⟨call, inCalls, arrives⟩ := List.mem_filterMap.mp member
  cases call with
  | persistNew paymentFlow =>
    cases arrives
    exact inCalls
  | deleteLightningPaymentFlow index => cases arrives

theorem All.arrives (all : store.All holds) {flow : PaymentFlow}
    (member : .persistNew flow ∈ store.unawaited) :
    holds flow :=
  all.2 flow (List.mem_filterMap.mpr ⟨_, member, rfl⟩)

theorem All.persistNew {paymentFlow : PaymentFlow} {fault : Option RepositoryFault}
    (all : store.All holds) (new : holds paymentFlow) :
    (store.persistNew paymentFlow fault).2.All holds := by
  unfold FlowStore.persistNew
  split
  · exact all
  · exact all
  · rename_i raw encoded
    split
    · exact all
    · refine all.withFlows fun flow member => ?_
      rcases List.mem_append.mp member with old | isNew
      · exact all.1 flow old
      · rw [List.mem_singleton.mp isNew, rawFromPaymentFlow_eq encoded]
        exact new

theorem All.deleteLightningPaymentFlow {index : PaymentFlowStateIndex}
    {fault : Option RepositoryFault} (all : store.All holds) :
    (store.deleteLightningPaymentFlow index fault).2.All holds := by
  unfold FlowStore.deleteLightningPaymentFlow
  split
  · exact all
  · split
    · exact all.withFlows fun flow member => all.1 flow (List.mem_of_mem_eraseP member)
    · exact all

theorem All.findLightningPaymentFlow {expiryTime now : Nat} {index : PaymentFlowStateIndex}
    {fault : Option RepositoryFault} (all : store.All holds) :
    (store.findLightningPaymentFlow expiryTime now index fault).2.All holds := by
  unfold FlowStore.findLightningPaymentFlow
  split
  · exact all
  · split
    · exact all
    · exact all
    · dsimp only
      split
      · exact all.unawaited fun flow member => all.arrives (by simpa using member)
      · exact all

theorem All.deleteExpiredLightningPaymentFlows {expiryTime now : Nat}
    {fault : Option RepositoryFault} (all : store.All holds) :
    (store.deleteExpiredLightningPaymentFlows expiryTime now fault).2.All holds := by
  unfold FlowStore.deleteExpiredLightningPaymentFlows
  dsimp only
  split
  · exact all
  · exact all
  · exact all.withFlows fun flow member => all.1 flow (List.mem_of_mem_filter member)

theorem All.complete {position : Nat} {fault : Option RepositoryFault} (all : store.All holds) :
    (store.complete position fault).All holds := by
  unfold FlowStore.complete
  split
  · exact all
  · rename_i call found
    have rest : FlowStore.All { store with unawaited := store.unawaited.eraseIdx position } holds :=
      all.unawaited fun flow member => all.arrives (List.mem_of_mem_eraseIdx member)
    cases call with
    | persistNew paymentFlow => exact rest.persistNew (all.arrives (List.mem_of_getElem? found))
    | deleteLightningPaymentFlow index => exact rest.deleteLightningPaymentFlow

theorem findLightningPaymentFlow_stored {expiryTime now : Nat} {index : PaymentFlowStateIndex}
    {fault : Option RepositoryFault} {paymentFlow : PaymentFlow}
    (found : (store.findLightningPaymentFlow expiryTime now index fault).1 = .ok paymentFlow) :
    ∃ stored ∈ store.world.flows, index.selects stored = true ∧
      paymentFlow = paymentFlowFromRaw stored := by
  unfold FlowStore.findLightningPaymentFlow at found
  split at found
  · cases found
  · split at found
    · cases found
    · cases found
    · rename_i stored isFirst
      dsimp only at found
      split at found
      · cases found
      · cases found
        exact ⟨stored, List.mem_of_find?_eq_some isFirst, List.find?_some isFirst, rfl⟩

end All

end FlowStore

end Galoy
