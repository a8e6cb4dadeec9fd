import Galoy.App.World
import Galoy.Interleave.Failing
import Galoy.Interleave.Serial
import Galoy.Ledger.Services

set_option autoImplicit false

namespace Galoy.Swap

open Interleave Interleave.Failing

abbrev SwapId := String
abbrev SwapHash := String

inductive SwapType where
  | swapOut
  | unknown
  deriving DecidableEq, Repr

inductive SwapState where
  | initiated
  | preimageRevealed
  | htlcPublished
  | success
  | failed
  | invoiceSettled
  deriving DecidableEq, Repr

structure SwapStatusResult where
  id : SwapId
  amt : Int
  state : SwapState
  htlcAddress : OnChainAddress
  serviceProviderFee : Int
  onchainMinerFee : Int
  offchainRoutingFee : Int
  swapType : SwapType
  deriving DecidableEq, Repr

inductive SwapProvider where
  | loop
  deriving DecidableEq, Repr

structure SwapTransactionMetadata where
  hash : SwapHash
  swapId : SwapId
  swapAmount : ℚ
  htlcAddress : OnChainAddress
  onchainMinerFee : ℚ
  offchainRoutingFee : ℚ
  serviceProviderFee : ℚ
  serviceProvider : SwapProvider := .loop
  currency : WalletCurrency := .btc
  type : LedgerTransactionType := .fee
  deriving DecidableEq, Repr

structure LedgerTransactionId where
  journalId : LedgerJournalId
  leg : Nat
  deriving DecidableEq, Repr

structure LedgerTransactionMetadata where
  id : LedgerTransactionId
  hash : SwapHash
  swap : Option SwapTransactionMetadata := none
  deriving DecidableEq, Repr

structure LedgerJournal where
  journalId : LedgerJournalId
  transactionIds : List LedgerTransactionId
  deriving DecidableEq, Repr

def translateToLedgerJournal (id : LedgerJournalId) (entry : Entry) : LedgerJournal where
  journalId := id
  transactionIds := (List.range entry.transactions.length).map fun leg => ⟨id, leg⟩

structure World where
  bank : BankWallets
  ledger : Ledger := {}
  metadata : List LedgerTransactionMetadata := []
  clock : Nat := 0

inductive Call where
  | findByHash (hash : SwapHash)
  | getBankOwnerWalletId
  | commit (entry : Entry)
  | persistAll (ledgerTxsMetadata : List LedgerTransactionMetadata)
  deriving DecidableEq

@[reducible] def Reply : Call → Type
  | .findByHash _ => Result LedgerTransactionMetadata
  | .getBankOwnerWalletId => Result WalletId
  | .commit _ => Result LedgerJournal
  | .persistAll _ => Result (List LedgerTransactionMetadata)

/-- A failed insert can have written the first of its records. -/
structure PersistAnswer where
  fault : Option RepositoryFault := none
  inserted : Nat := 0

@[reducible] def Answer : Call → Type
  | .findByHash _ | .getBankOwnerWalletId | .commit _ => Option String
  | .persistAll _ => PersistAnswer

def World.findByHash (w : World) (hash : SwapHash) : Result LedgerTransactionMetadata :=
  match w.metadata.find? (·.hash = hash) with
  | none => .error { name := .CouldNotFindTransactionMetadataError }
  | some record => .ok record

def serve (run : RunId) (w : World) : (c : Call) → Answer c → Option (Reply c × World)
  | .findByHash _, some message => some (.error { name := .UnknownRepositoryError, message }, w)
  | .findByHash hash, none => some (w.findByHash hash, w)
  | .getBankOwnerWalletId, some message => some (.error (unknownLedgerError message), w)
  | .getBankOwnerWalletId, none => some (.ok w.bank.bankOwner, w)
  | .commit _, some message => some (.error (unknownLedgerError message), w)
  | .commit entry, none =>
    some (.ok (translateToLedgerJournal w.ledger.journals.length entry),
      { w with ledger := w.ledger.commit run w.clock entry })
  | .persistAll records, { fault := none, .. } =>
    some (.ok records, { w with metadata := w.metadata ++ records })
  | .persistAll records, { fault := some fault, inserted } =>
    some (.error fault.error, { w with metadata := w.metadata ++ records.take inserted })

@[reducible] def services : Service World Call Reply where
  Answer := Answer
  serve := serve

abbrev App (α : Type) := ExceptT AppError (Prog Call Reply) α

def ask (c : Call) : Prog Call Reply (Reply c) := Prog.request c

def SwapStatusResult.fees (swapResult : SwapStatusResult) : LedgerAdmin.SwapResult where
  id := swapResult.id
  onchainMinerFee := swapResult.onchainMinerFee
  offchainRoutingFee := swapResult.offchainRoutingFee
  serviceProviderFee := swapResult.serviceProviderFee

section Programs

variable (sha256 : SwapId → SwapHash) (bank : BankWallets)

def SwapStatusResult.metadata (swapResult : SwapStatusResult) : SwapTransactionMetadata where
  hash := sha256 swapResult.id
  swapId := swapResult.id
  swapAmount := swapResult.amt
  htlcAddress := swapResult.htlcAddress
  onchainMinerFee := swapResult.onchainMinerFee
  offchainRoutingFee := swapResult.offchainRoutingFee
  serviceProviderFee := swapResult.serviceProviderFee

def addSwapFeeTxSend (swapResult : SwapStatusResult) : App LedgerJournal := do
  let swapFeeMetadata := swapResult.metadata sha256
  let found ← attempt (fallible (ask (.findByHash swapFeeMetadata.hash)))
  match found with
  | .error { name := .CouldNotFindTransactionMetadataError, message } =>
    let bankOwner ← fallible (ask .getBankOwnerWalletId)
    let entry ← ofResult (LedgerAdmin.addSwapFeeTxSend { bank with bankOwner } swapResult.fees
      (.error { name := .CouldNotFindTransactionMetadataError, message }))
    let journalEntry ← fallible (ask (.commit entry))
    let txsMetadataToPersist := journalEntry.transactionIds.map fun id =>
      { id, hash := swapFeeMetadata.hash, swap := some swapFeeMetadata }
    let _metadataResults ← fallible (ask (.persistAll txsMetadataToPersist))
    return journalEntry
  | _ => throw { name := .DuplicateError }

def handleSwapOutCompleted (parsedSwapData : Option SwapStatusResult) : App Unit :=
  match parsedSwapData with
  | none => return ()
  | some swapResult => do
    let totalFees :=
      swapResult.onchainMinerFee + swapResult.offchainRoutingFee + swapResult.serviceProviderFee
    if swapResult.swapType = .swapOut ∧ swapResult.state = .success ∧ totalFees > 0 then
      let _journalResponse ← attempt (addSwapFeeTxSend sha256 bank swapResult)
      return ()

inductive SwapCall where
  | fee (swapResult : SwapStatusResult)
  | notification (swapResult : SwapStatusResult)

def SwapCall.swapResult : SwapCall → SwapStatusResult
  | .fee swapResult | .notification swapResult => swapResult

def SwapCall.prog : SwapCall → App Unit
  | .fee swapResult => do
    let _journal ← addSwapFeeTxSend sha256 bank swapResult
    return ()
  | .notification swapResult => handleSwapOutCompleted sha256 bank (some swapResult)

end Programs

def swapFees (ledger : Ledger) (swapId : SwapId) : Nat :=
  ledger.journals.countP (·.description = "Swap out fee for swapId " ++ swapId)

def metadataPersisted : Permit services := fun _ _ c a =>
  match c, a with
  | .persistAll _, answer => answer.fault = none
  | _, _ => True

section Serial

variable {sha256 : SwapId → SwapHash} {bank : BankWallets} {swapId : SwapId} {run : RunId}

def ChargedOnce (swapId : SwapId) (w : World) : Prop := swapFees w.ledger swapId ≤ 1

def Recorded (sha256 : SwapId → SwapHash) (swapId : SwapId) (w : World) : Prop :=
  swapFees w.ledger swapId = 0 ∨ ∃ record, w.findByHash (sha256 swapId) = .ok record

abbrev SwapSpec {α : Type} (swapId : SwapId) (run : RunId) (pre : World → Prop) (x : App α)
    (ok : α → World → Prop) (err : AppError → World → Prop) : Prop :=
  Spec services metadataPersisted (.alone (ChargedOnce swapId) run) run pre x ok err

theorem ask_triple {c : Call} {pre : World → Prop} {post : Reply c → World → Prop}
    (h : ∀ before a reply after, ChargedOnce swapId before → pre before →
      metadataPersisted run before c a → serve run before c a = some (reply, after) →
      ChargedOnce swapId after ∧ post reply after) :
    Triple services metadataPersisted (.alone (ChargedOnce swapId) run) run pre (ask c) post := by
  refine Triple.request (alone_stable _) fun before a reply after good holds allowed served => ?_
  obtain ⟨kept, done⟩ := h before a reply after good holds allowed served
  exact ⟨alone_guaranteed kept, done⟩

theorem swapFees_commit (ledger : Ledger) (run : RunId) (clock : Nat) {entry : Entry}
    (fee : entry.description = "Swap out fee for swapId " ++ swapId) :
    swapFees (ledger.commit run clock entry) swapId = swapFees ledger swapId + 1 := by
  simp [swapFees, Ledger.commit, fee]

-- A lookup that finds nothing tells that nothing has been charged.
def LookedUp (sha256 : SwapId → SwapHash) (swapId : SwapId) (error : AppError) (w : World) : Prop :=
  Recorded sha256 swapId w ∧
    (error.name = .CouldNotFindTransactionMetadataError → swapFees w.ledger swapId = 0)

theorem findByHash_spec :
    SwapSpec swapId run (Recorded sha256 swapId) (fallible (ask (.findByHash (sha256 swapId))))
      (fun _ => Recorded sha256 swapId) (LookedUp sha256 swapId) := by
  refine fallible_spec (ask_triple ?_)
  intro before fault reply after good recorded _ served
  cases fault with
  | some message =>
    cases served
    exact ⟨good, recorded, fun impossible => by cases impossible⟩
  | none =>
    cases served
    refine ⟨good, ?_⟩
    cases found : before.findByHash (sha256 swapId) with
    | ok record => exact recorded
    | error error =>
      refine ⟨recorded, fun _ => recorded.resolve_right ?_⟩
      rintro ⟨record, isRecord⟩
      rw [found] at isRecord
      cases isRecord

theorem getBankOwnerWalletId_spec :
    SwapSpec swapId run (fun w => swapFees w.ledger swapId = 0)
      (fallible (ask .getBankOwnerWalletId)) (fun _ w => swapFees w.ledger swapId = 0)
      (fun _ => Recorded sha256 swapId) := by
  refine fallible_spec (ask_triple ?_)
  intro before fault reply after good unpaid _ served
  cases fault with
  | some message =>
    cases served
    exact ⟨good, .inl unpaid⟩
  | none =>
    cases served
    exact ⟨good, unpaid⟩

theorem commit_spec {entry : Entry}
    (fee : entry.description = "Swap out fee for swapId " ++ swapId) :
    SwapSpec swapId run (fun w => swapFees w.ledger swapId = 0) (fallible (ask (.commit entry)))
      (fun journal _ => journal.transactionIds.length = entry.transactions.length)
      (fun _ => Recorded sha256 swapId) := by
  refine fallible_spec (ask_triple ?_)
  intro before fault reply after _ unpaid _ served
  cases fault with
  | some message =>
    cases served
    exact ⟨by simp [ChargedOnce, unpaid], .inl unpaid⟩
  | none =>
    cases served
    refine ⟨?_, by simp [translateToLedgerJournal]⟩
    rw [ChargedOnce, swapFees_commit _ _ _ fee, unpaid]

theorem persistAll_spec {records : List LedgerTransactionMetadata} (nonempty : records ≠ [])
    (hashed : ∀ record ∈ records, record.hash = sha256 swapId) :
    SwapSpec swapId run (fun _ => True) (fallible (ask (.persistAll records)))
      (fun _ => Recorded sha256 swapId) (fun _ => Recorded sha256 swapId) := by
  refine fallible_spec (ask_triple ?_)
  rintro before ⟨fault, inserted⟩ reply after good _ worked served
  obtain rfl : fault = none := worked
  cases served
  refine ⟨good, .inr ?_⟩
  obtain ⟨record, member⟩ := List.exists_mem_of_ne_nil records nonempty
  have found : ((before.metadata ++ records).find? (·.hash = sha256 swapId)).isSome := by
    rw [List.find?_isSome]
    exact ⟨record, by simp [member], by simpa using hashed record member⟩
  obtain ⟨first, isFirst⟩ := Option.isSome_iff_exists.mp found
  exact ⟨first, by simp only [World.findByHash, isFirst]⟩

theorem addSwapFeeTxSend_spec {swapResult : SwapStatusResult} (isSwap : swapResult.id = swapId) :
    SwapSpec swapId run (Recorded sha256 swapId) (addSwapFeeTxSend sha256 bank swapResult)
      (fun _ => Recorded sha256 swapId) (fun _ => Recorded sha256 swapId) := by
  subst isSwap
  unfold addSwapFeeTxSend
  refine (attempt_spec findByHash_spec).bind fun found => ?_
  split
  · rename_i message
    have unpaid (w : World) (_ : ChargedOnce swapResult.id w) :
        LookedUp sha256 swapResult.id ⟨.CouldNotFindTransactionMetadataError, message⟩ w →
          swapFees w.ledger swapResult.id = 0 := fun lookedUp => lookedUp.2 rfl
    refine Spec.strengthen_pre ?_ unpaid
    refine getBankOwnerWalletId_spec.bind fun bankOwner => (commit_spec rfl).bind fun journal => ?_
    refine Spec.of_fact fun both => ?_
    have nonempty : journal.transactionIds ≠ [] :=
      List.ne_nil_of_length_pos (both ▸ Nat.zero_lt_two)
    refine (persistAll_spec (by simpa using nonempty) ?_).bind fun _ =>
      Spec.pure fun _ _ holds => holds
    intro record member
    obtain ⟨id, _, rfl⟩ := List.mem_map.mp member
    rfl
  · refine Spec.throw fun w _ lookedUp => ?_
    cases found with
    | ok record => exact lookedUp
    | error error => exact lookedUp.1

theorem swapCall_spec {call : SwapCall} (isSwap : call.swapResult.id = swapId) :
    SwapSpec swapId run (Recorded sha256 swapId) (call.prog sha256 bank)
      (fun _ => Recorded sha256 swapId) (fun _ => Recorded sha256 swapId) := by
  cases call with
  | fee swapResult =>
    exact (addSwapFeeTxSend_spec isSwap).bind fun _ => Spec.pure fun _ _ holds => holds
  | notification swapResult =>
    simp only [SwapCall.prog, handleSwapOutCompleted]
    split
    · refine (attempt_keeps (addSwapFeeTxSend_spec isSwap)).bind fun _ => ?_
      exact Spec.pure fun _ _ holds => holds
    · exact Spec.pure fun _ _ holds => holds

end Serial

theorem swap_fee_charged_once (sha256 : SwapId → SwapHash) (bank : BankWallets)
    (calls : RunId → SwapCall) (swapId : SwapId)
    (sameSwap : ∀ run, (calls run).swapResult.id = swapId) (start : World)
    (uncharged : swapFees start.ledger swapId = 0) {after : Config World Call Reply (Result Unit)}
    (reach : SerialReach services metadataPersisted
      ⟨start, fun run => ((calls run).prog sha256 bank).run⟩ after) :
    swapFees after.world.ledger swapId ≤ 1 := by
  have runs (run : RunId) (w : World) (once : ChargedOnce swapId w)
      (recorded : Recorded sha256 swapId w) :
      wp services metadataPersisted (.alone (ChargedOnce swapId) run) run
        ((calls run).prog sha256 bank).run (fun _ => Recorded sha256 swapId) w := by
    refine wp_mono (fun result w _ holds => ?_) once (swapCall_spec (sameSwap run) w once recorded)
    cases result <;> exact holds
  have once : ChargedOnce swapId start := by simp [ChargedOnce, uncharged]
  exact serial_inv_rest (Recorded sha256 swapId) runs once (.inl uncharged) reach

section Example

def loopSwap : SwapStatusResult where
  id := "swap"
  amt := 500000
  state := .success
  htlcAddress := "address"
  serviceProviderFee := 1000
  onchainMinerFee := 2000
  offchainRoutingFee := 30
  swapType := .swapOut

def swapWorld : World := { bank := ⟨"owner", "dealerBtc", "dealerUsd", "funder"⟩ }

def swapStart : Config World Call Reply (Result Unit) :=
  ⟨swapWorld, fun _ => ((SwapCall.notification loopSwap).prog id swapWorld.bank).run⟩

def swapAnswers : (c : Call) → Answer c
  | .findByHash _ | .getBankOwnerWalletId | .commit _ => none
  | .persistAll _ => {}

instance (run : RunId) (w : World) (c : Call) (a : services.Answer c) :
    Decidable (metadataPersisted run w c a) := by
  cases c with
  | findByHash hash => exact inferInstanceAs (Decidable True)
  | getBankOwnerWalletId => exact inferInstanceAs (Decidable True)
  | commit entry => exact inferInstanceAs (Decidable True)
  | persistAll records => exact inferInstanceAs (Decidable (_ = _))

theorem second_notification_is_a_duplicate :
    ∃ after, SerialReach services metadataPersisted swapStart after ∧
      swapFees after.world.ledger "swap" = 1 ∧ swapFees after.world.ledger "swap" ≤ 1 := by
  have played : (playTurns services metadataPersisted (fun _ => swapAnswers) [(0, 4), (1, 1)]
      swapStart).map (swapFees ·.world.ledger "swap") = some 1 := by
    decide +kernel
  obtain ⟨after, turns, once⟩ := Option.map_eq_some_iff.mp played
  have reach := playTurns_serial turns
  exact ⟨after, reach, once, swap_fee_charged_once id swapWorld.bank
    (fun _ => .notification loopSwap) "swap" (fun _ => rfl) swapWorld rfl reach⟩

theorem two_notifications_charge_twice :
    swapFees swapWorld.ledger "swap" = 0 ∧
      ∃ after, Reach services (anyStep services) swapStart after ∧
        swapFees after.world.ledger "swap" = 2 := by
  have played : (play services (anyStep services) (fun _ => swapAnswers) [0, 1, 0, 0, 1, 1]
      swapStart).map (swapFees ·.world.ledger "swap") = some 2 := by
    decide +kernel
  obtain ⟨after, run, twice⟩ := Option.map_eq_some_iff.mp played
  exact ⟨rfl, after, play_reach _ _ _ _ _ _ run, twice⟩

def unpersistedAnswers : (c : Call) → Answer c
  | .findByHash _ | .getBankOwnerWalletId | .commit _ => none
  | .persistAll _ => { fault := some .cannotConnectToDb }

example : (playTurns services (anyStep services) (fun _ => unpersistedAnswers) [(0, 4), (1, 4)]
    swapStart).map (swapFees ·.world.ledger "swap") = some 2 := by
  decide +kernel

end Example

end Galoy.Swap
