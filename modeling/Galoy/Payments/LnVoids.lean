import Galoy.Payments.LnAttempt

set_option autoImplicit false

namespace Galoy

open Interleave App SendLightning

def knownSendErrors : List KnownLndErrorDetails :=
  [.invoiceAlreadyPaid, .unableToFindRoute, .unknownNextPeer, .paymentRejectedByDestination,
    .unknownPaymentHash, .paymentAttemptsTimedOut, .paymentInTransition, .temporaryChannelFailure,
    .insufficientBalanceToAttemptPayment, .connectionDropped, .noConnectionEstablished]

def LndError.mayStillSettle (err : LndError) : Bool :=
  err.shows .paymentInTransition || err.shows .connectionDropped || !knownSendErrors.any err.shows

namespace LnAttempt

variable (attempt : LnAttempt)

def lndAnswer : Option PaymentRace :=
  if attempt.lndOffline then none else some attempt.race

def mayStillComplete : Prop :=
  ∃ err, attempt.lndAnswer = some (.rejected err) ∧
    (err.message = some "Timeout" ∨ err.mayStillSettle = true)

def LeftPending (w : World) : Prop :=
  ∃ id journal, attempt.Sent [] attempt.decodedInvoice.paymentHash id
    (w.ledger.writtenBy attempt.run) journal

def Resolution (w : World) : Prop :=
  w.ledger.writtenBy attempt.run = [] ∨
    ∀ err, attempt.lndAnswer = some (.rejected err) →
      if err.message = some "Timeout" then attempt.LeftPending w
      else ∃ journal ∈ w.ledger.writtenBy attempt.run, journal.voided = true

end LnAttempt

namespace LnVoid

variable {attempt : LnAttempt} {id : LedgerJournalId}

def Unsent (attempt : LnAttempt) (w : World) : Prop :=
  w.ledger.Numbered ∧ w.ledger.writtenBy attempt.run = []

def Sent (attempt : LnAttempt) (id : LedgerJournalId) (w : World) : Prop :=
  w.ledger.Numbered ∧ ∃ journal, attempt.Sent [] attempt.decodedInvoice.paymentHash id
    (w.ledger.writtenBy attempt.run) journal

def Settled (attempt : LnAttempt) (id : LedgerJournalId) (w : World) : Prop :=
  w.ledger.Numbered ∧ ∃ journal, LnSend.Settled [] attempt.decodedInvoice.paymentHash id
    (w.ledger.writtenBy attempt.run) journal

theorem Unsent.moved {before after : World} (same : after.ledger = before.ledger)
    (unsent : Unsent attempt before) : Unsent attempt after := by
  unfold Unsent
  rw [same]
  exact unsent

theorem Sent.moved {before after : World} (same : after.ledger = before.ledger)
    (sent : Sent attempt id before) : Sent attempt id after := by
  unfold Sent
  rw [same]
  exact sent

theorem resolution_moved {before after : World} (same : after.ledger = before.ledger)
    (resolution : attempt.Resolution before) : attempt.Resolution after := by
  unfold LnAttempt.Resolution LnAttempt.LeftPending
  rw [same]
  exact resolution

theorem recordLnSend_spec (nonneg : attempt.paymentFlow.Nonneg) :
    SoloSpec attempt.run attempt.answers (Unsent attempt)
      (recordLnSend attempt.decodedInvoice attempt.paymentFlow attempt.senderWallet)
      (fun recorded => Sent attempt recorded.1) (fun _ => attempt.Resolution) := by
  refine recordLnSend_rule (fun _ _ frame h => h.moved (frame.ledger (by simp)))
    (fun _ unsent => .inl unsent.2) ?_
  intro defaultPubkey priceRatio before now made unsent
  have positive := ne_of_gt
    (nonneg.totalSendAmount_pos made attempt.paymentFlow.senderWalletCurrency)
  exact ⟨unsent.1.commit _ _ _, LnSend.Sent.ofCommit unsent.2 rfl positive _ _ _⟩

theorem payResult_rejected {defaultPubkey : Pubkey} {err : LndError}
    (answered : attempt.lndAnswer = some (.rejected err)) :
    ∃ error, attempt.payResult defaultPubkey = .error error ∧
      (error.name = .LnPaymentPendingError ↔ err.message = some "Timeout") := by
  unfold LnAttempt.lndAnswer at answered
  split at answered
  · cases answered
  rename_i online
  have rejected := Option.some.inj answered
  unfold LnAttempt.payResult
  rw [if_neg online, rejected]
  unfold PaymentRace.result
  dsimp only
  split
  · rename_i timeout
    exact ⟨_, rfl, fun _ => timeout, fun _ => rfl⟩
  · rename_i noTimeout
    refine ⟨_, rfl, fun pending => ?_, fun timeout => absurd timeout noTimeout⟩
    exact absurd pending (handleSendPaymentLndErrors_not_pending err _)

theorem settle_spec (works : ∀ c : Call, c.ledgerWorks (attempt.answers c))
    {err : AppError → World → Prop} :
    SoloSpec attempt.run attempt.answers (Sent attempt id)
      (fallible (ask (.settlePendingLnSend attempt.decodedInvoice.paymentHash)))
      (fun _ => Settled attempt id) err := by
  refine fallible_spec (solo_ask fun before reply after holds served => ?_)
  obtain ⟨numbered, journal, sent⟩ := holds
  obtain ⟨fault, _⟩ | ⟨rfl, ⟨rfl, _⟩ | ⟨_, zero⟩⟩ := World.settle_inversion served
  · exact absurd (works (.settlePendingLnSend _)) fault
  · have settled := sent.settlePending (fun _ member => by cases member) attempt.run
    exact ⟨numbered.settlePending _ _, _, settled⟩
  · have positive := sent.settles
    omega

theorem revert_spec (works : ∀ c : Call, c.ledgerWorks (attempt.answers c))
    {err : AppError → World → Prop} :
    SoloSpec attempt.run attempt.answers (Settled attempt id)
      (fallible (ask (.recordLnSendRevert id)))
      (fun _ w => ∃ journal ∈ w.ledger.writtenBy attempt.run, journal.voided = true) err := by
  refine fallible_spec (solo_ask fun before reply after holds served => ?_)
  obtain ⟨numbered, journal, settled⟩ := holds
  obtain ⟨_, _, fault | missing⟩ | ⟨rfl, clock, ledger, voided, rfl⟩ := World.void_inversion served
  · exact absurd (works (.recordLnSendRevert _)) fault
  · exact absurd missing (settled.voids numbered _ _)
  · obtain ⟨reversal, _, journals⟩ := settled.void numbered voided
    refine ⟨journal.markVoided id, ?_, ?_⟩
    · show _ ∈ ledger.writtenBy attempt.run
      rw [journals]
      simp
    · simp [Journal.markVoided, settled.isId]

theorem resolve_spec (works : ∀ c : Call, c.ledgerWorks (attempt.answers c))
    {defaultPubkey : Pubkey} {payResult : Result PayInvoiceResult}
    (paid : attempt.payResult defaultPubkey = payResult) :
    SoloSpec attempt.run attempt.answers (Sent attempt id)
      (resolveLnSend attempt.decodedInvoice attempt.paymentFlow id payResult)
      (fun _ => attempt.Resolution) (fun _ => attempt.Resolution) := by
  have rejection : ∀ err, attempt.lndAnswer = some (.rejected err) → ∃ error,
      payResult = .error error ∧
        (error.name = .LnPaymentPendingError ↔ err.message = some "Timeout") := by
    intro err answered
    rw [← paid]
    exact payResult_rejected answered
  cases payResult with
  | ok result =>
    have confirmed : ∀ w, attempt.Resolution w := by
      refine fun w => .inr fun err answered => ?_
      obtain ⟨error, failed, _⟩ := rejection err answered
      cases failed
    refine Triple.conseq (solo_keeps (fun _ => True) fun _ _ _ _ _ _ => trivial)
      (fun _ _ _ => trivial) fun result w _ _ => ?_
    cases result <;> exact confirmed w
  | error error =>
    have isTimeout : ∀ err, attempt.lndAnswer = some (.rejected err) →
        (error.name = .LnPaymentPendingError ↔ err.message = some "Timeout") := by
      intro err answered
      obtain ⟨_, same, iff⟩ := rejection err answered
      rw [Except.error.inj same]
      exact iff
    unfold resolveLnSend
    dsimp only
    by_cases pending : error.name = .LnPaymentPendingError
    · rw [if_pos pending]
      refine Spec.seq (fun _ => Sent attempt id) (total_spec (solo_ask ?_)) fun _ => ?_
      · intro before reply after sent served
        exact sent.moved ((serve_frame served).ledger (by simp [Call.part]))
      · refine Spec.pure fun w _ sent => .inr fun err answered => ?_
        obtain ⟨_, journal, sent⟩ := sent
        rw [if_pos ((isTimeout err answered).mp pending)]
        exact ⟨id, journal, sent⟩
    · rw [if_neg pending]
      have resolved : ∀ w, (∃ journal ∈ w.ledger.writtenBy attempt.run, journal.voided = true) →
          attempt.Resolution w := by
        refine fun w voided => .inr fun err answered => ?_
        rw [if_neg fun timeout => pending ((isTimeout err answered).mpr timeout)]
        exact voided
      refine Spec.bind (settle_spec works) fun _ => Spec.bind (revert_spec works) fun _ => ?_
      split
      · exact Spec.pure fun w _ voided => resolved w voided
      · exact Spec.throw fun w _ voided => resolved w voided

theorem prog_spec (getAccountLimits : AccountLevel → AccountLimits)
    (nonneg : attempt.paymentFlow.Nonneg) (works : ∀ c : Call, c.ledgerWorks (attempt.answers c)) :
    SoloSpec attempt.run attempt.answers (Unsent attempt) (attempt.prog getAccountLimits)
      (fun _ => attempt.Resolution) (fun _ => attempt.Resolution) := by
  refine prog_rule (fun _ _ frame h => h.moved (frame.ledger (by simp)))
    (fun _ unsent => .inl unsent.2) ?_
  refine solo_withLock (fun _ _ h => h.moved rfl) (fun _ _ _ h => resolution_moved rfl h)
    (fun _ _ h => resolution_moved rfl h) (fun _ unsent => .inl unsent.2) (fun _ _ h => h) ?_
  refine Spec.bind (recordLnSend_spec nonneg) fun recorded => ?_
  refine Spec.bind (payInvoice_attempted recorded.2) fun payResult => Spec.pre_fact fun paid => ?_
  refine Spec.bind (persistLnPayment_spec (fun c reads =>
    solo_read (fun _ _ frame h => h.moved (frame.ledger (by simp))) reads) _ _ _ _) fun _ => ?_
  exact resolve_spec works paid

end LnVoid

theorem send_left_pending_iff {getAccountLimits : AccountLevel → AccountLimits}
    {attempt : LnAttempt} {start after : World} {result : Result PaymentSendStatus}
    (numbered : start.ledger.Numbered) (fresh : start.ledger.writtenBy attempt.run = [])
    (nonneg : attempt.paymentFlow.Nonneg) (works : ∀ c : Call, c.ledgerWorks (attempt.answers c))
    (performed : attempt.perform getAccountLimits start = some (result, after))
    (committed : after.ledger.writtenBy attempt.run ≠ []) :
    (attempt.mayStillComplete → attempt.LeftPending after) ↔
      ∀ err, attempt.lndAnswer = some (.rejected err) →
        err.message = some "Timeout" ∨ err.mayStillSettle = false := by
  have resolution : attempt.Resolution after := by
    have ended := solo_sound (LnVoid.prog_spec getAccountLimits nonneg works) ⟨numbered, fresh⟩
      performed
    cases result <;> exact ended
  have resolved := resolution.resolve_left committed
  constructor
  · intro leaves err answered
    by_contra wrong
    obtain ⟨noTimeout, maySettle⟩ := not_or.mp wrong
    have voided := resolved err answered
    rw [if_neg noTimeout] at voided
    obtain ⟨journal, member, isVoided⟩ := voided
    obtain ⟨id, only, sent⟩ := leaves ⟨err, answered, .inr (by simpa using maySettle)⟩
    rw [sent.last] at member
    rw [List.mem_singleton.mp member, sent.active] at isVoided
    cases isVoided
  · rintro final ⟨err, answered, maySettle⟩
    have leaves := resolved err answered
    have timeout : err.message = some "Timeout" := by
      rcases final err answered with timeout | settled
      · exact timeout
      · exact maySettle.resolve_right (by simp [settled])
    rw [if_pos timeout] at leaves
    exact leaves

section Example

def paymentDropped : PaymentRace := .rejected { details := some "Connection dropped" }

theorem timed_out_send_is_left_pending :
    ∃ result after, (sendAttempt 0 paymentTimeout).perform sendLimits sendWorld =
      some (result, after) ∧
      (sendAttempt 0 paymentTimeout).LeftPending after := by
  have played : ((sendAttempt 0 paymentTimeout).perform sendLimits sendWorld).map
      (fun ended => (ended.2.ledger.writtenBy 0).length) = some 1 := by
    decide +kernel
  obtain ⟨⟨result, after⟩, performed, one⟩ := Option.map_eq_some_iff.mp played
  have committed : after.ledger.writtenBy (sendAttempt 0 paymentTimeout).run ≠ [] := by
    intro empty
    rw [show after.ledger.writtenBy 0 = [] from empty] at one
    cases one
  have leaves := send_left_pending_iff sendWorld_numbered (by decide +kernel)
    (sendFlow_nonneg "alice") (Outside.ledgerWorks _) performed committed
  refine ⟨result, after, performed, leaves.mpr ?_ ⟨_, rfl, .inl rfl⟩⟩
  rintro err answered
  cases answered
  exact .inl rfl

theorem dropped_connection_voids_send :
    (sendAttempt 0 paymentDropped).mayStillComplete ∧
      ∃ result after,
        (sendAttempt 0 paymentDropped).perform sendLimits sendWorld = some (result, after) ∧
        (∃ journal ∈ after.ledger.writtenBy 0, journal.voided = true) ∧
        after.ledger.balance (toLedgerAccountId "alice") =
          sendWorld.ledger.balance (toLedgerAccountId "alice") ∧
        ¬(sendAttempt 0 paymentDropped).LeftPending after := by
  have played : ((sendAttempt 0 paymentDropped).perform sendLimits sendWorld).map
      (fun ended => ((ended.2.ledger.writtenBy 0).any (·.voided),
        ended.2.ledger.balance (toLedgerAccountId "alice"))) = some (true, 10000) := by
    decide +kernel
  obtain ⟨⟨result, after⟩, performed, shown⟩ := Option.map_eq_some_iff.mp played
  obtain ⟨voided, balance⟩ := Prod.mk.inj shown
  obtain ⟨journal, member, isVoided⟩ := List.any_eq_true.mp voided
  have initial : sendWorld.ledger.balance (toLedgerAccountId "alice") = 10000 := by decide +kernel
  refine ⟨⟨_, rfl, .inr (by decide +kernel)⟩, result, after, performed, ⟨journal, member, isVoided⟩,
    balance.trans initial.symm, ?_⟩
  rintro ⟨id, only, sent⟩
  have last : after.ledger.writtenBy 0 = [] ++ [only] := sent.last
  rw [last] at member
  rw [List.mem_singleton.mp member, sent.active] at isVoided
  cases isVoided

end Example

end Galoy
