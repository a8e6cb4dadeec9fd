import Galoy.Payments.LnSendEntry
import Galoy.Payments.Requests

set_option autoImplicit false

namespace Galoy

open Interleave App SendLightning

structure LnAttempt extends LnSend where
  run : RunId
  answers : (c : Call) → Answer c

namespace LnAttempt

variable (attempt : LnAttempt)

def perform (getAccountLimits : AccountLevel → AccountLimits) (w : World) :
    Option (Result PaymentSendStatus × World) :=
  eval services attempt.run attempt.answers (attempt.prog getAccountLimits).run w

def race : PaymentRace :=
  match attempt.paymentFlow.routeDetails.rawRoute with
  | some rawRoute => attempt.answers (.payViaRoutes rawRoute attempt.decodedInvoice.paymentHash)
  | none =>
    attempt.answers (.payViaPaymentDetails attempt.decodedInvoice
      attempt.paymentFlow.btcPaymentAmount attempt.paymentFlow.btcProtocolFee)

def timesOut : Prop := ∃ err : LndError, attempt.race = .rejected err ∧ err.message = some "Timeout"

-- A route goes out through the node of the flow, which may be offline.
def lndOffline : Bool :=
  attempt.paymentFlow.routeDetails.rawRoute.isSome &&
    !attempt.answers (.getLndFromPubkey attempt.paymentFlow.routeDetails.outgoingNodePubkey)

def payResult (defaultPubkey : Pubkey) : Result PayInvoiceResult :=
  let pubkey := attempt.paymentFlow.routeDetails.outgoingNodePubkey
  if attempt.lndOffline then
    .error
      { name := .NoValidNodeForPubkeyError
        message := "lnd with pubkey:" ++ pubkey.getD "undefined" ++ " is offline" }
  else
    attempt.race.result attempt.decodedInvoice.paymentHash
      (if attempt.paymentFlow.routeDetails.rawRoute.isSome then pubkey else some defaultPubkey)

end LnAttempt

section Pay

variable {attempt : LnAttempt}

theorem payInvoice_spec {keep : World → Prop} (defaultPubkey : Pubkey) :
    SoloSpec attempt.run attempt.answers keep
      (payInvoice attempt.decodedInvoice attempt.paymentFlow defaultPubkey)
      (fun result w => keep w ∧ attempt.payResult defaultPubkey = .ok result)
      (fun error w => keep w ∧ attempt.payResult defaultPubkey = .error error) := by
  have raced : ∀ (race : PaymentRace) (pubkey : Option Pubkey),
      attempt.payResult defaultPubkey = race.result attempt.decodedInvoice.paymentHash pubkey →
      SoloSpec attempt.run attempt.answers keep
        (ofResult (race.result attempt.decodedInvoice.paymentHash pubkey))
        (fun result w => keep w ∧ attempt.payResult defaultPubkey = .ok result)
        (fun error w => keep w ∧ attempt.payResult defaultPubkey = .error error) := by
    intro race pubkey same
    refine ofResult_spec fun w _ holds => ?_
    cases ended : race.result attempt.decodedInvoice.paymentHash pubkey with
    | ok result => exact ⟨holds, same.trans ended⟩
    | error error => exact ⟨holds, same.trans ended⟩
  unfold payInvoice
  cases route : attempt.paymentFlow.routeDetails.rawRoute with
  | some rawRoute =>
    refine Spec.seq (fun _ w => keep w ∧ attempt.lndOffline = false)
      (fallible_spec (solo_ask ?_)) fun _ => Spec.pre_fact fun online => ?_
    · intro before reply after holds served
      cases served
      cases answer : attempt.answers
          (.getLndFromPubkey attempt.paymentFlow.routeDetails.outgoingNodePubkey)
      · exact ⟨holds, by simp [LnAttempt.payResult, LnAttempt.lndOffline, route, answer]⟩
      · exact ⟨holds, by simp [LnAttempt.lndOffline, answer]⟩
    · refine Spec.seq (fun race w => keep w ∧ race = attempt.race) (total_spec (solo_ask ?_))
        fun race => Spec.pre_fact fun same => raced race _ ?_
      · intro before reply after holds served
        cases served
        exact ⟨holds, by simp [LnAttempt.race, route]⟩
      · simp [LnAttempt.payResult, online, route, same]
  | none =>
    refine Spec.seq (fun race w => keep w ∧ race = attempt.race) (total_spec (solo_ask ?_))
      fun race => Spec.pre_fact fun same => raced race _ ?_
    · intro before reply after holds served
      cases served
      exact ⟨holds, by simp [LnAttempt.race, route]⟩
    · simp [LnAttempt.payResult, LnAttempt.lndOffline, route, same]

theorem payInvoice_attempted {keep : World → Prop} (defaultPubkey : Pubkey)
    {err : AppError → World → Prop} :
    SoloSpec attempt.run attempt.answers keep
      (App.attempt (payInvoice attempt.decodedInvoice attempt.paymentFlow defaultPubkey))
      (fun payResult w => keep w ∧ attempt.payResult defaultPubkey = payResult) err := by
  refine Spec.weaken_ok (attempt_spec (payInvoice_spec defaultPubkey)) ?_
  intro payResult w _ holds
  cases payResult <;> exact holds

theorem payResult_pending {defaultPubkey : Pubkey} {error : AppError}
    (failed : attempt.payResult defaultPubkey = .error error)
    (pending : error.name = .LnPaymentPendingError) : attempt.timesOut := by
  unfold LnAttempt.payResult at failed
  dsimp only at failed
  split at failed
  · rw [← Except.error.inj failed] at pending
    cases pending
  · exact PaymentRace.pending_timeout failed pending

end Pay

section Record

variable {attempt : LnAttempt} {keep failed : World → Prop}
  (kept : ∀ before after : World, Frame .nothing before after → keep before → keep after)
  (early : ∀ w, keep w → failed w)

include kept early

theorem prog_rule {getAccountLimits : AccountLevel → AccountLimits}
    {ok : PaymentSendStatus → World → Prop} (inside : SoloSpec attempt.run attempt.answers keep
      (withLock (.wallet attempt.senderWallet.id)
        (executePaymentViaLnBehindLock attempt.decodedInvoice attempt.paymentFlow
          attempt.senderWallet))
      ok (fun _ => failed)) :
    SoloSpec attempt.run attempt.answers keep (attempt.prog getAccountLimits) ok
      (fun _ => failed) := by
  refine Spec.bind (solo_reads_or kept early (getPriceRatioForLimits_only (fun _ h => h) _))
    fun _ => ?_
  exact Spec.bind (solo_reads_or kept early (newCheckLimits_only (fun _ h => h) _ _ _ _ _ _))
    fun _ => inside

theorem recordLnSend_rule {sent : LedgerJournalId × Pubkey → World → Prop}
    (commits : ∀ defaultPubkey priceRatio before now,
      PriceRatio.make attempt.paymentFlow.usdPaymentAmount attempt.paymentFlow.btcPaymentAmount =
      .ok priceRatio →
      keep before →
      sent (before.ledger.journals.length, defaultPubkey)
        { before with
          clock := now
          ledger := before.ledger.commit attempt.run now
            (lnSendEntry before.bank attempt.decodedInvoice attempt.paymentFlow defaultPubkey) }) :
    SoloSpec attempt.run attempt.answers keep
      (recordLnSend attempt.decodedInvoice attempt.paymentFlow attempt.senderWallet)
      sent (fun _ => failed) := by
  have reading {α : Type} {x : App α} (only : OnlyRun Call.reads x) :
      SoloSpec attempt.run attempt.answers keep x (fun _ => keep) (fun _ => failed) :=
    solo_reads_or kept early only
  refine Spec.bind (reading (checkNotInTransit_only (fun _ h => h) _)) fun _ => ?_
  refine Spec.bind (reading (checkBalance_only (fun _ h => h) _ _)) fun _ => ?_
  refine Spec.bind (reading (only_fallible (only_ask rfl))) fun defaultPubkey => ?_
  refine ofResult_bind_spec ?_ (fun _ w _ _ holds => early w holds)
  intro priceRatio made
  refine Spec.bind (reading (checkNotAborted_only (fun _ h => h) _)) fun _ => ?_
  refine Spec.bind (fallible_spec (solo_ask ?_)) fun journalId => Spec.pure fun _ _ h => h
  intro before reply after holds served
  obtain ⟨_, ⟨error, rfl⟩, rfl⟩ | ⟨rfl, now, rfl⟩ := World.commit_inversion served
  · exact early _ holds
  · exact commits defaultPubkey priceRatio before now made holds

end Record

section Example

def sendAttempt (run : RunId) (payment : PaymentRace) : LnAttempt where
  toLnSend := sendOf "alice"
  run := run
  answers := (sendOutside payment .pending).answers

end Example

end Galoy
