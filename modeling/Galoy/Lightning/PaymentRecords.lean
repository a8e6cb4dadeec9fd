import Galoy.Interleave.Alone
import Galoy.App.World
import Mathlib.Data.List.Nodup

set_option autoImplicit false

namespace Galoy.LnPayments

open Interleave Interleave.Failing

structure ListedPayment extends LnPaymentLookup where
  paymentHash : PaymentHash
  createdAt : Nat
  milliSatsAmount : Nat
  roundedUpAmount : Nat
  attempts : Option (List String) := none
  deriving DecidableEq, Repr

structure PersistedLnPaymentLookup where
  paymentHash : PaymentHash
  sentFromPubkey : Pubkey
  paymentRequest : Option String := none
  createdAt : Option Nat := none
  status : Option PaymentStatus := none
  milliSatsAmount : Option Nat := none
  roundedUpAmount : Option Nat := none
  confirmedDetails : Option LnPaymentConfirmedDetails := none
  attempts : Option (List String) := none
  isCompleteRecord : Bool := false
  deriving DecidableEq, Repr

/-- The hashes have a unique index. -/
structure LnPaymentCollection where
  records : List PersistedLnPaymentLookup
  unique : (records.map PersistedLnPaymentLookup.paymentHash).Nodup
  deriving DecidableEq

inductive ListFn where
  | listSettledPayments
  | listFailedPayments
  deriving DecidableEq, Repr

/-- `undefined`, a token of lnd, or `false`. -/
inductive PagingToken where
  | start
  | next (token : String)
  | stop
  deriving DecidableEq, Repr

def PagingToken.token : PagingToken → Option String
  | .next token => some token
  | _ => none

structure GetPaymentsResult where
  payments : List ListedPayment
  next : Option String
  deriving DecidableEq, Repr

structure ListLnPaymentsResult where
  lnPayments : List ListedPayment
  endCursor : PagingToken
  deriving DecidableEq, Repr

def endCursorOf (next : Option String) : PagingToken :=
  match orUndefined next with
  | some token => .next token
  | none => .stop

def translatePayments (listFn : ListFn) : Result GetPaymentsResult → Result ListLnPaymentsResult
  | .error error => .error error
  | .ok result =>
    match listFn with
    | .listSettledPayments => .ok ⟨result.payments, endCursorOf result.next⟩
    | .listFailedPayments =>
      .ok ⟨result.payments.map fun payment => { payment with status := .failed },
        endCursorOf result.next⟩

def PersistedLnPaymentLookup.complete (persisted : PersistedLnPaymentLookup)
    (payment : ListedPayment) : PersistedLnPaymentLookup :=
  { persisted with
    createdAt := some payment.createdAt
    status := some payment.status
    milliSatsAmount := some payment.milliSatsAmount
    roundedUpAmount := some payment.roundedUpAmount
    confirmedDetails := payment.confirmedDetails
    attempts := payment.attempts
    isCompleteRecord := true }

-- What is `undefined` in the update stays as it is stored.
def PersistedLnPaymentLookup.overwrite (stored payment : PersistedLnPaymentLookup) :
    PersistedLnPaymentLookup where
  paymentHash := stored.paymentHash
  sentFromPubkey := payment.sentFromPubkey
  paymentRequest := payment.paymentRequest.or stored.paymentRequest
  createdAt := payment.createdAt.or stored.createdAt
  status := payment.status.or stored.status
  milliSatsAmount := payment.milliSatsAmount.or stored.milliSatsAmount
  roundedUpAmount := payment.roundedUpAmount.or stored.roundedUpAmount
  confirmedDetails := payment.confirmedDetails.or stored.confirmedDetails
  attempts := payment.attempts.or stored.attempts
  isCompleteRecord := payment.isCompleteRecord

def overwriteAt (payment stored : PersistedLnPaymentLookup) : PersistedLnPaymentLookup :=
  if stored.paymentHash = payment.paymentHash then stored.overwrite payment else stored

@[simp] theorem overwriteAt_hash (payment stored : PersistedLnPaymentLookup) :
    (overwriteAt payment stored).paymentHash = stored.paymentHash := by
  unfold overwriteAt
  split <;> rfl

namespace LnPaymentCollection

def incomplete (collection : LnPaymentCollection) : List PersistedLnPaymentLookup :=
  collection.records.filter fun payment => !payment.isCompleteRecord

def update (collection : LnPaymentCollection) (payment : PersistedLnPaymentLookup) :
    Result LnPaymentCollection :=
  if payment.paymentHash ∈ collection.records.map PersistedLnPaymentLookup.paymentHash then
    .ok {
      records := collection.records.map (overwriteAt payment)
      unique := by simpa [Function.comp_def] using collection.unique }
  else .error { name := .CouldNotFindLnPaymentFromHashError }

end LnPaymentCollection

inductive PaymentDetails where
  | payment (paymentRequest : Option String)
  | failed
  deriving DecidableEq, Repr

structure Deletion where
  run : RunId
  pubkey : Pubkey
  paymentHash : PaymentHash
  deriving DecidableEq, Repr

structure World where
  collection : LnPaymentCollection
  listed : List (Pubkey × ListedPayment) := []
  deletions : List Deletion := []
  deriving DecidableEq

structure LnPaymentPartial where
  paymentHash : PaymentHash
  paymentRequest : Option String
  sentFromPubkey : Pubkey
  deriving DecidableEq, Repr

inductive Call where
  | listIncomplete
  | findByPaymentHash (paymentHash : PaymentHash)
  | persistNew (payment : LnPaymentPartial)
  | update (payment : PersistedLnPaymentLookup)
  | lndService
  | listActivePubkeys
  | list (listFn : ListFn) (pubkey : Pubkey) (after : Option String)
  | lookupPayment (pubkey : Pubkey) (paymentHash : PaymentHash)
  | deletePaymentByHash (pubkey : Pubkey) (paymentHash : PaymentHash)
  -- A loop that would make more passes than its bound.
  | outOfPasses
  deriving DecidableEq, Repr

-- The deletion is not awaited, so nothing is known about its result.
@[reducible] def Reply : Call → Type
  | .listIncomplete => Result (List PersistedLnPaymentLookup)
  | .findByPaymentHash _ => Result PersistedLnPaymentLookup
  | .persistNew _ | .update _ | .lndService => Result Unit
  | .listActivePubkeys => List Pubkey
  | .list _ _ _ => Result ListLnPaymentsResult
  | .lookupPayment _ _ => Result PaymentDetails
  | .deletePaymentByHash _ _ | .outOfPasses => Unit

/-- The reply to a write can get lost after the write was applied. -/
structure WriteAnswer where
  fault : Option RepositoryFault := none
  applied : Bool := true
  now : Nat := 0
  deriving DecidableEq, Repr

@[reducible] def Answer : Call → Type
  | .listIncomplete | .findByPaymentHash _ => Option RepositoryFault
  | .persistNew _ | .update _ => WriteAnswer
  | .lndService => Result Unit
  | .listActivePubkeys => List Pubkey
  | .list _ _ _ => Result GetPaymentsResult
  | .lookupPayment _ _ => Result PaymentDetails
  | .deletePaymentByHash _ _ | .outOfPasses => Unit

def renew (payment : LnPaymentPartial) (stored : PersistedLnPaymentLookup) :
    PersistedLnPaymentLookup :=
  if stored.paymentHash = payment.paymentHash then
    { stored with
      sentFromPubkey := payment.sentFromPubkey
      paymentRequest := payment.paymentRequest.or stored.paymentRequest }
  else stored

@[simp] theorem renew_hash (payment : LnPaymentPartial) (stored : PersistedLnPaymentLookup) :
    (renew payment stored).paymentHash = stored.paymentHash := by
  unfold renew
  split <;> rfl

def newRecord (payment : LnPaymentPartial) (now : Nat) : PersistedLnPaymentLookup where
  paymentHash := payment.paymentHash
  sentFromPubkey := payment.sentFromPubkey
  paymentRequest := payment.paymentRequest
  createdAt := some now
  attempts := some []

def persistNew (collection : LnPaymentCollection) (payment : LnPaymentPartial) (now : Nat) :
    LnPaymentCollection :=
  if stored : payment.paymentHash ∈ collection.records.map PersistedLnPaymentLookup.paymentHash then
    { records := collection.records.map (renew payment)
      unique := by simpa [Function.comp_def] using collection.unique }
  else
    { records := collection.records ++ [newRecord payment now]
      unique := by
        rw [List.map_append, List.map_singleton, ← List.concat_eq_append]
        exact collection.unique.concat stored }

def WriteAnswer.apply (answer : WriteAnswer) (w written : World) : World :=
  if answer.fault = none ∨ answer.applied then written else w

def findByPaymentHash (collection : LnPaymentCollection) (paymentHash : PaymentHash) :
    Result PersistedLnPaymentLookup :=
  match collection.records.find? fun payment => payment.paymentHash = paymentHash with
  | none => .error { name := .CouldNotFindLnPaymentFromHashError, message := paymentHash }
  | some payment => .ok payment

def updated (collection : LnPaymentCollection) (payment : PersistedLnPaymentLookup) :
    LnPaymentCollection :=
  match collection.update payment with
  | .error _ => collection
  | .ok collection => collection

def serve (run : RunId) (w : World) : (c : Call) → Answer c → Option (Reply c × World)
  | .listIncomplete, fault => Stores.read w fault (.ok w.collection.incomplete)
  | .findByPaymentHash paymentHash, fault =>
    Stores.read w fault (findByPaymentHash w.collection paymentHash)
  | .persistNew payment, answer =>
    some (Stores.answer answer.fault (.ok ()),
      answer.apply w { w with collection := persistNew w.collection payment answer.now })
  | .update payment, answer =>
    some (Stores.answer answer.fault ((w.collection.update payment).map fun _ => ()),
      answer.apply w { w with collection := updated w.collection payment })
  | .lndService, answer => some (answer, w)
  | .listActivePubkeys, pubkeys => some (pubkeys, w)
  | .list listFn pubkey _, answer =>
    match translatePayments listFn answer with
    | .error error => some (.error error, w)
    | .ok result =>
      some (.ok result, { w with listed := w.listed ++ result.lnPayments.map fun payment =>
        (pubkey, payment) })
  | .lookupPayment _ _, answer => some (answer, w)
  | .deletePaymentByHash pubkey paymentHash, () =>
    some ((), { w with deletions := w.deletions ++ [⟨run, pubkey, paymentHash⟩] })
  | .outOfPasses, () => none

@[reducible] def services : Service World Call Reply where
  Answer := Answer
  serve := serve

abbrev App (α : Type) := ExceptT AppError (Prog Call Reply) α

def ask (c : Call) : Prog Call Reply (Reply c) := Prog.request c

structure Nodes where
  listActivePubkeys : List Pubkey
  getPayments : ListFn → Pubkey → Option String → Result GetPaymentsResult
  lookupPayment : Pubkey → PaymentHash → Result PaymentDetails

def Nodes.answers (nodes : Nodes) : (c : Call) → Answer c
  | .listIncomplete | .findByPaymentHash _ => none
  | .persistNew _ | .update _ => {}
  | .lndService => .ok ()
  | .listActivePubkeys => nodes.listActivePubkeys
  | .list listFn pubkey after => nodes.getPayments listFn pubkey after
  | .lookupPayment pubkey paymentHash => nodes.lookupPayment pubkey paymentHash
  | .deletePaymentByHash _ _ | .outOfPasses => ()

def Nodes.list (nodes : Nodes) (listFn : ListFn) (pubkey : Pubkey) (after : Option String) :
    Result ListLnPaymentsResult :=
  translatePayments listFn (nodes.getPayments listFn pubkey after)

def Completed (collection : LnPaymentCollection) (paymentHash : PaymentHash) : Prop :=
  ∃ payment ∈ collection.records, payment.paymentHash = paymentHash ∧ payment.isCompleteRecord

theorem completed_update {collection updated : LnPaymentCollection}
    {payment : PersistedLnPaymentLookup} (complete : payment.isCompleteRecord)
    (isUpdated : collection.update payment = .ok updated) (paymentHash : PaymentHash) :
    Completed updated paymentHash ↔ Completed collection paymentHash ∨
      paymentHash = payment.paymentHash := by
  unfold LnPaymentCollection.update at isUpdated
  split at isUpdated
  · rename_i stored
    cases isUpdated
    obtain ⟨record, isRecord, same⟩ := List.mem_map.mp stored
    simp only [Completed, List.mem_map, exists_exists_and_eq_and, overwriteAt_hash]
    constructor
    · rintro ⟨found, isFound, rfl, isComplete⟩
      by_cases here : found.paymentHash = payment.paymentHash
      · exact .inr here
      · exact .inl ⟨found, isFound, rfl, by simpa [overwriteAt, here] using isComplete⟩
    · rintro (⟨found, isFound, rfl, isComplete⟩ | rfl)
      · refine ⟨found, isFound, rfl, ?_⟩
        unfold overwriteAt
        split
        · exact complete
        · exact isComplete
      · refine ⟨record, isRecord, same, ?_⟩
        rw [overwriteAt, if_pos same]
        exact complete
  · cases isUpdated

theorem update_hashes {collection updated : LnPaymentCollection}
    {payment : PersistedLnPaymentLookup} (isUpdated : collection.update payment = .ok updated) :
    updated.records.map PersistedLnPaymentLookup.paymentHash =
      collection.records.map PersistedLnPaymentLookup.paymentHash := by
  unfold LnPaymentCollection.update at isUpdated
  split at isUpdated
  · cases isUpdated
    simp [Function.comp_def]
  · cases isUpdated

theorem completed_of_incomplete {collection : LnPaymentCollection}
    {payment : PersistedLnPaymentLookup} (isStored : payment ∈ collection.records)
    (incomplete : payment.isCompleteRecord = false) :
    ¬Completed collection payment.paymentHash := by
  rintro ⟨other, isOther, same, complete⟩
  have equal := List.inj_on_of_nodup_map collection.unique isOther isStored same
  rw [equal, incomplete] at complete
  cases complete

end Galoy.LnPayments
