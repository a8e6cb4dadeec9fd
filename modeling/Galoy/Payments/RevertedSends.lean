import Galoy.Payments.LimitVerdict
import Galoy.Payments.LnAttempt

set_option autoImplicit false

namespace Galoy

open Interleave App SendLightning

namespace RevertedSend

section Ledger

variable (attempt : LnAttempt) (start : World)

def sentLedger (defaultPubkey : Pubkey) (sentAt : Nat) : Ledger :=
  start.ledger.commit attempt.run sentAt
    (lnSendEntry start.bank attempt.decodedInvoice attempt.paymentFlow defaultPubkey)

def settledLedger (defaultPubkey : Pubkey) (sentAt : Nat) : Ledger :=
  (sentLedger attempt start defaultPubkey sentAt).settlePending attempt.run
    attempt.decodedInvoice.paymentHash

def AsBefore (w : World) : Prop := w.ledger = start.ledger ∧ w.bank = start.bank

def Sent (id : LedgerJournalId) (w : World) : Prop :=
  id = start.ledger.journals.length ∧
    ∃ defaultPubkey sentAt, w.ledger = sentLedger attempt start defaultPubkey sentAt

def Settled (id : LedgerJournalId) (w : World) : Prop :=
  id = start.ledger.journals.length ∧
    ∃ defaultPubkey sentAt, w.ledger = settledLedger attempt start defaultPubkey sentAt

def Reverted (w : World) : Prop :=
  ∃ defaultPubkey sentAt revertedAt,
    (settledLedger attempt start defaultPubkey sentAt).void attempt.run revertedAt
      start.ledger.journals.length "Payment canceled" = some w.ledger

def Unvoided (w : World) : Prop :=
  ∀ journal ∈ w.ledger.writtenBy attempt.run, journal.voided = false

end Ledger

section Run

variable {attempt : LnAttempt} {start : World} {id : LedgerJournalId}

theorem asBefore_unvoided (fresh : start.ledger.writtenBy attempt.run = []) {w : World}
    (before : AsBefore start w) : Unvoided attempt w := by
  intro journal member
  rw [before.1, fresh] at member
  cases member

theorem sentLedger_unvoided (fresh : start.ledger.writtenBy attempt.run = [])
    (defaultPubkey : Pubkey) (sentAt : Nat) :
    ∀ journal ∈ (sentLedger attempt start defaultPubkey sentAt).writtenBy attempt.run,
      journal.voided = false := by
  intro journal member
  rw [sentLedger, Ledger.writtenBy_commit, fresh] at member
  rw [List.mem_singleton.mp member]
  rfl

theorem unvoided_settlePending {ledger : Ledger} {settler : RunId} {hash : PaymentHash}
    (unvoided : ∀ journal ∈ ledger.writtenBy attempt.run, journal.voided = false) :
    ∀ journal ∈ (ledger.settlePending settler hash).writtenBy attempt.run,
      journal.voided = false := by
  intro journal member
  rw [Ledger.writtenBy_settlePending] at member
  obtain ⟨original, inLedger, rfl⟩ := List.mem_map.mp member
  exact unvoided original inLedger

theorem sent_unvoided (fresh : start.ledger.writtenBy attempt.run = []) {w : World}
    (sent : Sent attempt start id w) : Unvoided attempt w := by
  obtain ⟨_, defaultPubkey, sentAt, ledger⟩ := sent
  unfold Unvoided
  rw [ledger]
  exact sentLedger_unvoided fresh defaultPubkey sentAt

theorem settled_unvoided (fresh : start.ledger.writtenBy attempt.run = []) {w : World}
    (settled : Settled attempt start id w) : Unvoided attempt w := by
  obtain ⟨_, defaultPubkey, sentAt, ledger⟩ := settled
  unfold Unvoided
  rw [ledger]
  exact unvoided_settlePending (sentLedger_unvoided fresh defaultPubkey sentAt)

def Ended (attempt : LnAttempt) (start w : World) : Prop :=
  Reverted attempt start w ∨ Unvoided attempt w

theorem AsBefore.moved {before after : World} {part : Part} (frame : Frame part before after)
    (quiet : part ≠ .ledger) (holds : AsBefore start before) : AsBefore start after :=
  ⟨(frame.ledger quiet).trans holds.1, frame.bank.trans holds.2⟩

theorem Sent.moved {before after : World} (same : after.ledger = before.ledger)
    (sent : Sent attempt start id before) : Sent attempt start id after := by
  unfold Sent
  rw [same]
  exact sent

theorem record_spec (fresh : start.ledger.writtenBy attempt.run = []) :
    SoloSpec attempt.run attempt.answers (AsBefore start)
      (recordLnSend attempt.decodedInvoice attempt.paymentFlow attempt.senderWallet)
      (fun recorded => Sent attempt start recorded.1) (fun _ => Ended attempt start) := by
  refine recordLnSend_rule (fun _ _ frame h => h.moved frame (by simp))
    (fun _ before => .inr (asBefore_unvoided fresh before)) ?_
  intro defaultPubkey priceRatio before sentAt _ asBefore
  obtain ⟨ledger, bank⟩ := asBefore
  refine ⟨by rw [ledger], defaultPubkey, sentAt, ?_⟩
  simp only [sentLedger, ledger, bank]

theorem revert_spec (fresh : start.ledger.writtenBy attempt.run = []) (error : AppError) :
    SoloSpec attempt.run attempt.answers (Sent attempt start id)
      (settleAndRevert attempt.decodedInvoice.paymentHash id error)
      (fun _ => Ended attempt start) (fun _ => Ended attempt start) := by
  refine Spec.seq (fun _ => Settled attempt start id) (fallible_spec (solo_ask ?_)) fun _ => ?_
  · intro before reply after sent served
    obtain ⟨_, ⟨error, rfl⟩, rfl⟩ | ⟨rfl, replied⟩ := World.settle_inversion served
    · exact .inr (sent_unvoided fresh sent)
    · have settled : Settled attempt start id { before with
          ledger :=
            before.ledger.settlePending attempt.run attempt.decodedInvoice.paymentHash } := by
        obtain ⟨isId, defaultPubkey, sentAt, ledger⟩ := sent
        exact ⟨isId, defaultPubkey, sentAt, by rw [ledger]; rfl⟩
      cases reply with
      | ok _ => exact settled
      | error error => exact .inr (settled_unvoided fresh settled)
  refine Spec.seq (fun _ => Ended attempt start) (fallible_spec (solo_ask ?_)) fun _ => ?_
  · intro before reply after settled served
    obtain ⟨⟨error, rfl⟩, rfl, _⟩ | ⟨rfl, revertedAt, ledger, voided, rfl⟩ :=
      World.void_inversion served
    · exact .inr (settled_unvoided fresh settled)
    · obtain ⟨rfl, defaultPubkey, sentAt, same⟩ := settled
      rw [same] at voided
      exact .inl ⟨defaultPubkey, sentAt, revertedAt, voided⟩
  · split
    · exact Spec.pure fun _ _ ended => ended
    · exact Spec.throw fun _ _ ended => ended

def appends : Call → Bool
  | .recordLnSendRevert _ | .revertLightningPayment _ => false
  | _ => true

theorem serve_unvoided {before after : World} {c : Call} {a : Answer c} {reply : Reply c}
    (served : serve attempt.run before c a = some (reply, after)) (keeps : appends c = true)
    (unvoided : Unvoided attempt before) : Unvoided attempt after := by
  by_cases part : c.part = .ledger
  · cases c
    case recordSend | recordReceive | recordIntraledger =>
      obtain ⟨_, _, rfl⟩ | ⟨_, now, rfl⟩ := World.commit_inversion served
      · exact unvoided
      · intro journal member
        rw [Ledger.writtenBy_commit] at member
        rcases List.mem_append.mp member with old | new
        · exact unvoided journal old
        · rw [List.mem_singleton.mp new]
          rfl
    case settlePendingLnSend | settlePendingLnPayment =>
      obtain ⟨_, _, rfl⟩ | ⟨rfl, _⟩ := World.settle_inversion served
      · exact unvoided
      · exact unvoided_settlePending unvoided
    case recordLnSendRevert | revertLightningPayment => cases keeps
    all_goals cases part
  · unfold Unvoided
    rw [(serve_frame served).ledger part]
    exact unvoided

theorem reimburse_spec (result : PayInvoiceResult) :
    SoloSpec attempt.run attempt.answers (Unvoided attempt)
      (settleAndReimburse attempt.decodedInvoice attempt.paymentFlow id result)
      (fun _ => Unvoided attempt) (fun _ => Unvoided attempt) := by
  have only : OnlyRun (fun c => appends c = true)
      (settleAndReimburse attempt.decodedInvoice attempt.paymentFlow id result) := by
    refine OnlyRun.bind (only_fallible (only_ask rfl)) fun _ => ?_
    split
    · exact OnlyRun.pure _
    · refine OnlyRun.bind (reimburseFee_only _ _ _ fun _ _ _ _ _ _ => rfl) fun _ => OnlyRun.pure _
  refine Spec.ofOnly (solo_stable _) ?_ only
  intro c keeps before a reply after _ unvoided _ served
  exact ⟨solo_guaranteed before after, serve_unvoided served keeps unvoided⟩

theorem prog_spec (getAccountLimits : AccountLevel → AccountLimits)
    (fresh : start.ledger.writtenBy attempt.run = []) :
    SoloSpec attempt.run attempt.answers (AsBefore start) (attempt.prog getAccountLimits)
      (fun _ => Ended attempt start) (fun _ => Ended attempt start) := by
  refine prog_rule (fun _ _ frame h => h.moved frame (by simp))
    (fun _ before => .inr (asBefore_unvoided fresh before)) ?_
  refine solo_withLock (fun _ _ h => h) (fun _ _ _ h => h) (fun _ _ h => h)
    (fun _ before => .inr (asBefore_unvoided fresh before)) (fun _ _ h => h) ?_
  refine Spec.bind (record_spec fresh) fun recorded => ?_
  have sent {α : Type} {x : App α} (only : OnlyRun Call.reads x) :
      SoloSpec attempt.run attempt.answers (Sent attempt start recorded.1) x
        (fun _ => Sent attempt start recorded.1) (fun _ => Sent attempt start recorded.1) :=
    solo_reads (fun _ _ frame h => h.moved (frame.ledger (by simp))) only
  refine Spec.bind (attempt_keeps (sent (payInvoice_only (fun _ h => h) _ _ _))) fun payResult => ?_
  refine Spec.bind (persistLnPayment_spec (fun c reads =>
    solo_read (fun _ _ frame h => h.moved (frame.ledger (by simp))) reads) _ _ _ _) fun _ => ?_
  cases payResult with
  | ok result =>
    exact Spec.conseq (reimburse_spec result) (fun _ _ h => sent_unvoided fresh h)
      (fun _ _ _ h => .inr h) (fun _ _ _ h => .inr h)
  | error error =>
    unfold resolveLnSend
    dsimp only
    split
    · refine Spec.seq (fun _ => Sent attempt start recorded.1) (total_spec (solo_ask ?_)) fun _ =>
        ?_
      · intro before reply after now served
        exact now.moved ((serve_frame served).ledger (by simp [Call.part]))
      · exact Spec.pure fun _ _ now => .inr (sent_unvoided fresh now)
    · exact revert_spec fresh error

end Run

section Sums

variable {attempt : LnAttempt} {start : World} {defaultPubkey : Pubkey} {sentAt revertedAt : Nat}
  {ledger : Ledger} (numbered : start.ledger.Numbered)
  (voided : (settledLedger attempt start defaultPubkey sentAt).void attempt.run revertedAt
    start.ledger.journals.length "Payment canceled" = some ledger)

def sentJournal (attempt : LnAttempt) (start : World) (defaultPubkey : Pubkey)
    (sentAt : Nat) : Journal :=
  (start.ledger.newJournal attempt.run sentAt (lnSendEntry start.bank attempt.decodedInvoice
    attempt.paymentFlow defaultPubkey)).settleFor attempt.decodedInvoice.paymentHash

def reversalJournal (attempt : LnAttempt) (start : World) (defaultPubkey : Pubkey)
    (sentAt revertedAt : Nat) : Journal where
  id := start.ledger.journals.length + 1
  description := "Payment canceled"
  legs := (sentJournal attempt start defaultPubkey sentAt).legs.map Leg.reversed
  timestamp := revertedAt
  originalJournal := some start.ledger.journals.length
  writtenBy := attempt.run

include numbered voided

theorem reverted_journals :
    ledger.journals =
      (start.ledger.journals.map (Journal.settleFor attempt.decodedInvoice.paymentHash) ++
        [sentJournal attempt start defaultPubkey sentAt]).map
          (Journal.markVoided start.ledger.journals.length) ++
        [reversalJournal attempt start defaultPubkey sentAt revertedAt] := by
  have settled : (settledLedger attempt start defaultPubkey sentAt).journals =
      start.ledger.journals.map (Journal.settleFor attempt.decodedInvoice.paymentHash) ++
        [sentJournal attempt start defaultPubkey sentAt] := by
    simp [settledLedger, sentLedger, Ledger.settlePending, Ledger.journals_commit, sentJournal]
  have settledNumbered : (settledLedger attempt start defaultPubkey sentAt).Numbered :=
    (numbered.commit _ _ _).settlePending _ _
  have member : sentJournal attempt start defaultPubkey sentAt ∈
      (settledLedger attempt start defaultPubkey sentAt).journals := by
    rw [settled]
    simp
  obtain ⟨original, found, _, _, journals⟩ := Ledger.void_inversion voided
  obtain rfl : sentJournal attempt start defaultPubkey sentAt = original :=
    Option.some.inj ((Ledger.journal?_of_mem settledNumbered member).symm.trans found)
  rw [journals, settled]
  simp [reversalJournal]

omit numbered voided in
theorem legSum_settleFor {side : Leg → ℚ} {group : TxnGroup} {walletId : WalletId}
    {hash : PaymentHash} (kept : ∀ leg, side (Leg.settleFor hash leg) = side leg)
    (legs : List Leg) :
    legSum side (group.counts walletId) (legs.map (Leg.settleFor hash)) =
      legSum side (group.counts walletId) legs := by
  refine legSum_map (fun leg => ⟨?_, kept leg⟩) legs
  unfold Leg.settleFor
  split <;> rfl

theorem reverted_sum {side other : Leg → ℚ} {group : TxnGroup} {walletId : WalletId}
    (kept : ∀ hash leg, side (Leg.settleFor hash leg) = side leg)
    (otherKept : ∀ hash leg, other (Leg.settleFor hash leg) = other leg)
    (swapped : ∀ leg : Leg, side leg.reversed = other leg) (window : Nat → Bool) :
    journalSum side (group.counts walletId) window ledger.journals =
      journalSum side (group.counts walletId) window start.ledger.journals +
        (if window sentAt then legSum side (group.counts walletId) (lnSendEntry start.bank
          attempt.decodedInvoice attempt.paymentFlow defaultPubkey).transactions else 0) +
        (if window revertedAt then legSum other (group.counts walletId) (lnSendEntry start.bank
          attempt.decodedInvoice attempt.paymentFlow defaultPubkey).transactions else 0) := by
  have settle (journal : Journal) :
      (journal.settleFor attempt.decodedInvoice.paymentHash).timestamp = journal.timestamp ∧
      legSum side (group.counts walletId)
        (journal.settleFor attempt.decodedInvoice.paymentHash).legs =
        legSum side (group.counts walletId) journal.legs :=
    ⟨rfl, legSum_settleFor (kept _) journal.legs⟩
  have mark (journal : Journal) :
      (journal.markVoided start.ledger.journals.length).timestamp = journal.timestamp ∧
      legSum side (group.counts walletId) (journal.markVoided start.ledger.journals.length).legs =
        legSum side (group.counts walletId) journal.legs := by
    unfold Journal.markVoided
    split <;> exact ⟨rfl, rfl⟩
  have reversed : legSum side (group.counts walletId)
      (reversalJournal attempt start defaultPubkey sentAt revertedAt).legs =
      legSum other (group.counts walletId)
        (sentJournal attempt start defaultPubkey sentAt).legs := by
    have swap (leg : Leg) : group.counts walletId leg.reversed = group.counts walletId leg ∧
        side leg.reversed = other leg := ⟨rfl, swapped leg⟩
    exact legSum_map swap _
  rw [reverted_journals numbered voided, journalSum_append, journalSum_map mark, journalSum_append,
    journalSum_map settle, journalSum_singleton, journalSum_singleton, reversed]
  simp only [sentJournal, reversalJournal, Journal.settleFor, Ledger.newJournal,
    legSum_settleFor (kept _), legSum_settleFor (otherKept _)]

theorem outgoingWithin_reverted (group : TxnGroup) (walletId : WalletId) (window : Nat → Bool) :
    ledger.outgoingWithin group walletId window =
      start.ledger.outgoingWithin group walletId window +
        (if window sentAt then outgoing (group.counts walletId) (lnSendEntry start.bank
          attempt.decodedInvoice attempt.paymentFlow defaultPubkey).transactions else 0) +
        (if window revertedAt then incoming (group.counts walletId) (lnSendEntry start.bank
          attempt.decodedInvoice attempt.paymentFlow defaultPubkey).transactions else 0) :=
  reverted_sum numbered voided (fun hash leg => by unfold Leg.settleFor; split <;> rfl)
    (fun hash leg => by unfold Leg.settleFor; split <;> rfl) (fun _ => rfl) window

theorem incomingWithin_reverted (group : TxnGroup) (walletId : WalletId) (window : Nat → Bool) :
    ledger.incomingWithin group walletId window =
      start.ledger.incomingWithin group walletId window +
        (if window sentAt then incoming (group.counts walletId) (lnSendEntry start.bank
          attempt.decodedInvoice attempt.paymentFlow defaultPubkey).transactions else 0) +
        (if window revertedAt then outgoing (group.counts walletId) (lnSendEntry start.bank
          attempt.decodedInvoice attempt.paymentFlow defaultPubkey).transactions else 0) :=
  reverted_sum numbered voided (fun hash leg => by unfold Leg.settleFor; split <;> rfl)
    (fun hash leg => by unfold Leg.settleFor; split <;> rfl) (fun _ => rfl) window

theorem reverted_writtenBy (fresh : start.ledger.writtenBy attempt.run = []) :
    ledger.writtenBy attempt.run =
      [(sentJournal attempt start defaultPubkey sentAt).markVoided start.ledger.journals.length,
        reversalJournal attempt start defaultPubkey sentAt revertedAt] := by
  have none :
      (start.ledger.journals.map (Journal.settleFor attempt.decodedInvoice.paymentHash)).filter
        (·.writtenBy = attempt.run) = [] := by
    have settled :
        (start.ledger.settlePending attempt.run attempt.decodedInvoice.paymentHash).writtenBy
          attempt.run = [] := by
      rw [Ledger.writtenBy_settlePending, fresh, List.map_nil]
    exact settled
  unfold Ledger.writtenBy
  rw [reverted_journals numbered voided, List.filter_append, Ledger.writtenBy_map_markVoided,
    List.filter_append, none]
  simp [sentJournal, reversalJournal, Journal.settleFor, Ledger.newJournal]

end Sums

section Entry

variable (bank : BankWallets) (attempt : LnAttempt) (defaultPubkey : Pubkey)

def total (attempt : LnAttempt) : Int :=
  attempt.paymentFlow.totalSendAmount attempt.paymentFlow.senderWalletCurrency

-- The conversion of a payment in dollars credits the dealer's own wallet in dollars.
def creditsSender : Prop :=
  attempt.paymentFlow.senderWalletCurrency = .usd ∧
    bank.dealerUsd = attempt.paymentFlow.senderWalletId

instance : Decidable (creditsSender bank attempt) := inferInstanceAs (Decidable (_ ∧ _))

theorem lnSendArgs_type :
    (lnSendArgs attempt.decodedInvoice attempt.paymentFlow defaultPubkey).metadata.type ∈
      TxnGroup.types .externalPaymentVolumeSince :=
  List.mem_cons_self

theorem outgoing_lnSendEntry (wellFormed : attempt.paymentFlow.senderWalletCurrency = .usd →
      bank.dealerBtc ≠ attempt.paymentFlow.senderWalletId) :
    outgoing (TxnGroup.counts .externalPaymentVolumeSince attempt.paymentFlow.senderWalletId)
      (lnSendEntry bank attempt.decodedInvoice attempt.paymentFlow defaultPubkey).transactions =
      total attempt := by
  have sent := outgoing_recordSend bank _ (lnSendArgs_type attempt defaultPubkey) rfl wellFormed
  rw [lnSendArgs_amount] at sent
  exact sent

theorem incoming_lnSendEntry :
    incoming (TxnGroup.counts .externalPaymentVolumeSince attempt.paymentFlow.senderWalletId)
      (lnSendEntry bank attempt.decodedInvoice attempt.paymentFlow defaultPubkey).transactions =
      if creditsSender bank attempt then (total attempt : ℚ) else 0 := by
  have received := incoming_recordSend bank _ (lnSendArgs_type attempt defaultPubkey) rfl
  rw [lnSendArgs_amount] at received
  exact received

end Entry

def counted (bank : BankWallets) (attempt : LnAttempt) (sentAt revertedAt begins : Nat) : Int :=
  (if begins ≤ sentAt then total attempt else 0) +
    if creditsSender bank attempt ∧ begins ≤ revertedAt then total attempt else 0

def followedBy (w : World) (ledger : Ledger) (later : List Journal) (now : Nat) : World :=
  { w with clock := now, ledger := { ledger with journals := ledger.journals ++ later } }

section Volume

variable {attempt : LnAttempt} {start : World} {defaultPubkey : Pubkey} {sentAt revertedAt : Nat}
  {ledger : Ledger} (numbered : start.ledger.Numbered)
  (voided : (settledLedger attempt start defaultPubkey sentAt).void attempt.run revertedAt
    start.ledger.journals.length "Payment canceled" = some ledger)
  (wellFormed : attempt.paymentFlow.senderWalletCurrency = .usd →
    start.bank.dealerBtc ≠ attempt.paymentFlow.senderWalletId)

include numbered voided wellFormed

theorem outgoing_added (begins : Nat) :
    ledger.outgoingWithin .externalPaymentVolumeSince attempt.paymentFlow.senderWalletId
        (Ledger.since begins) =
      start.ledger.outgoingWithin .externalPaymentVolumeSince attempt.paymentFlow.senderWalletId
        (Ledger.since begins) + counted start.bank attempt sentAt revertedAt begins := by
  rw [outgoingWithin_reverted numbered voided, outgoing_lnSendEntry _ _ _ wellFormed,
    incoming_lnSendEntry, add_assoc, counted]
  congr 1
  simp only [Ledger.since, decide_eq_true_eq]
  split_ifs <;> simp_all

theorem incoming_added (begins : Nat) : ∃ added : Int,
    ledger.incomingWithin .externalPaymentVolumeSince attempt.paymentFlow.senderWalletId
        (Ledger.since begins) =
      start.ledger.incomingWithin .externalPaymentVolumeSince attempt.paymentFlow.senderWalletId
        (Ledger.since begins) + added := by
  rw [incomingWithin_reverted numbered voided, outgoing_lnSendEntry _ _ _ wellFormed,
    incoming_lnSendEntry, add_assoc]
  refine ⟨(if Ledger.since begins sentAt then
      if creditsSender start.bank attempt then total attempt else 0 else 0) +
    if Ledger.since begins revertedAt then total attempt else 0, ?_⟩
  push_cast
  rfl

theorem volume_reverted (ofSender : attempt.paymentFlow.senderWalletDescriptor =
    attempt.senderWallet)
    (answers : Answers) (w : World) (later : List Journal) (now : Nat) :
    ∃ incoming, groupVolume answers .externalPaymentVolumeSince attempt.senderWallet
      (followedBy w ledger later now) =
      (groupVolume answers .externalPaymentVolumeSince attempt.senderWallet
        (followedBy w start.ledger later now)).map
        (·.plus (counted start.bank attempt sentAt revertedAt (now + (answers (.volumeAmountSince
          .externalPaymentVolumeSince attempt.senderWallet)).elapsed - oneDay)) incoming) := by
  rw [← ofSender]
  generalize answered : answers (.volumeAmountSince .externalPaymentVolumeSince
    attempt.paymentFlow.senderWalletDescriptor) = answer
  have sent := outgoing_added numbered voided wellFormed (now + answer.elapsed - oneDay)
  obtain ⟨added, received⟩ := incoming_added numbered voided wellFormed
    (now + answer.elapsed - oneDay)
  refine ⟨added, ?_⟩
  unfold groupVolume
  dsimp only
  rw [answered]
  cases answer.fault with
  | some message => rfl
  | none =>
    refine volumeAmountSince_plus ?_ ?_
    · unfold Ledger.outgoingWithin at sent ⊢
      simp only [followedBy, journalSum_append]
      rw [PaymentFlow.senderWalletDescriptor, sent]
      ring
    · unfold Ledger.incomingWithin at received ⊢
      simp only [followedBy, journalSum_append]
      rw [PaymentFlow.senderWalletDescriptor, received]
      ring

end Volume

end RevertedSend

open RevertedSend in
/-- A send that is reverted still counts in the volume of its wallet, so a later check can give
another verdict. -/
theorem reverted_send_keeps_verdicts_iff {getAccountLimits : AccountLevel → AccountLimits}
    {attempt : LnAttempt} {start after : World} {result : Result PaymentSendStatus}
    (numbered : start.ledger.Numbered) (fresh : start.ledger.writtenBy attempt.run = [])
    (ofSender : attempt.paymentFlow.senderWalletDescriptor = attempt.senderWallet)
    (wellFormed : attempt.senderWallet.currency = .usd →
      start.bank.dealerBtc ≠ attempt.senderWallet.id)
    (performed : attempt.perform getAccountLimits start = some (result, after))
    {sent reversal : Journal} (written : after.ledger.writtenBy attempt.run = [sent, reversal])
    (voided : sent.voided = true) (run : RunId) (answers : Answers) (priceRatio : PriceRatio)
    (later : List Journal) (now : Nat) :
    (∀ amount,
      withdrawalVerdict getAccountLimits run answers attempt.senderWallet priceRatio
          (followedBy after after.ledger later now) amount =
        withdrawalVerdict getAccountLimits run answers attempt.senderWallet priceRatio
          (followedBy after start.ledger later now) amount) ↔
      ∀ walletVolume account,
        groupVolume answers .externalPaymentVolumeSince attempt.senderWallet
          (followedBy after start.ledger later now) =
          .ok walletVolume →
        accountAnswer answers attempt.senderWallet (followedBy after start.ledger later now) =
          .ok account →
        let added := counted start.bank attempt sent.timestamp reversal.timestamp
          (now + (answers (.volumeAmountSince .externalPaymentVolumeSince
            attempt.senderWallet)).elapsed - oneDay)
        added = 0 ∨ attempt.senderWallet.currency = .btc ∧
          priceRatio.convertFromBtc ⟨walletVolume.outgoingBaseAmount.amount + added⟩ =
            priceRatio.convertFromBtc ⟨walletVolume.outgoingBaseAmount.amount⟩ := by
  have ended : Ended attempt start after := by
    have outcome := solo_sound (prog_spec getAccountLimits fresh) ⟨rfl, rfl⟩ performed
    cases result <;> exact outcome
  have reverted : Reverted attempt start after := by
    refine ended.resolve_right fun unvoided => ?_
    have active := unvoided sent (by rw [written]; exact List.mem_cons_self)
    rw [voided] at active
    cases active
  obtain ⟨defaultPubkey, sentAt, revertedAt, isVoid⟩ := reverted
  have journals := written.symm.trans (reverted_writtenBy numbered isVoid fresh)
  simp only [List.cons.injEq, and_true] at journals
  obtain ⟨rfl, rfl⟩ := journals
  have times : ((sentJournal attempt start defaultPubkey sentAt).markVoided
      start.ledger.journals.length).timestamp = sentAt := by
    unfold Journal.markVoided
    split <;> rfl
  have sender : attempt.senderWallet.currency = attempt.paymentFlow.senderWalletCurrency ∧
      attempt.senderWallet.id = attempt.paymentFlow.senderWalletId := by
    rw [← ofSender]
    exact ⟨rfl, rfl⟩
  rw [sender.1, sender.2] at wellFormed
  obtain ⟨incoming, volume⟩ := volume_reverted numbered isVoid wellFormed ofSender answers
    after later now
  simp only [withdrawalVerdict_eq, Option.some.injEq, limitVerdict, times]
  rw [volume]
  exact verdictOf_plus_iff

section Example

def dollarLimits : AccountLevel → AccountLimits := fun _ => ⟨100000, 100, 100000⟩

def laterAnswers : Answers := (sendOutside paymentNoRoute .pending).answers

def aliceVerdict (w : World) (amount : UsdPaymentAmount) : Option (Result Unit) :=
  withdrawalVerdict dollarLimits 1 laterAnswers (sendWallet "alice") centsPerSat w amount

theorem reverted_send_forgotten_after_two_days :
    ∃ result after, (sendAttempt 0 paymentNoRoute).perform dollarLimits sendWorld =
      some (result, after) ∧
      (∃ sent reversal, after.ledger.writtenBy 0 = [sent, reversal] ∧ sent.voided = true) ∧
      ∀ amount, aliceVerdict (RevertedSend.followedBy after after.ledger [] (2 * oneDay)) amount =
        aliceVerdict (RevertedSend.followedBy after sendWorld.ledger [] (2 * oneDay)) amount := by
  have played : ((sendAttempt 0 paymentNoRoute).perform dollarLimits sendWorld).map
      (fun ended => (ended.2.ledger.writtenBy 0).map fun journal =>
        (journal.timestamp, journal.voided)) =
        some [(0, true), (0, false)] := by
    decide +kernel
  obtain ⟨⟨result, after⟩, performed, shown⟩ := Option.map_eq_some_iff.mp played
  obtain ⟨sent, rest, written, atSent, others⟩ := List.map_eq_cons_iff.mp shown
  obtain ⟨reversal, none, isRest, atReversal, empty⟩ := List.map_eq_cons_iff.mp others
  rw [List.map_eq_nil_iff.mp empty] at isRest
  rw [isRest] at written
  obtain ⟨sentAt, voided⟩ := Prod.mk.inj atSent
  obtain ⟨revertedAt, _⟩ := Prod.mk.inj atReversal
  refine ⟨result, after, performed, ⟨sent, reversal, written, voided⟩, ?_⟩
  refine (reverted_send_keeps_verdicts_iff sendWorld_numbered (by decide +kernel) rfl
    (fun usd => by cases usd) performed written voided 1 laterAnswers centsPerSat []
    (2 * oneDay)).mpr ?_
  intro walletVolume account _ _
  rw [sentAt, revertedAt]
  exact .inl (by decide)

theorem reverted_send_uses_up_limit :
    ∃ result after, (sendAttempt 0 paymentNoRoute).perform dollarLimits sendWorld =
      some (result, after) ∧
      after.ledger.balance (toLedgerAccountId "alice") = 10000 ∧
      aliceVerdict (RevertedSend.followedBy after sendWorld.ledger [] after.clock)
        ⟨60⟩ = some (.ok ()) ∧
      aliceVerdict (RevertedSend.followedBy after after.ledger [] after.clock) ⟨60⟩ =
        some (.error { name := .WithdrawalLimitsExceededError
                       message := "Cannot transfer more than 100 cents in 24 hours" }) := by
  have played : ((sendAttempt 0 paymentNoRoute).perform dollarLimits sendWorld).map (fun ended =>
      (ended.2.ledger.balance (toLedgerAccountId "alice"),
        aliceVerdict (RevertedSend.followedBy ended.2 sendWorld.ledger [] ended.2.clock) ⟨60⟩,
        aliceVerdict (RevertedSend.followedBy ended.2 ended.2.ledger [] ended.2.clock) ⟨60⟩)) =
      some (10000, some (.ok ()), some (.error { name := .WithdrawalLimitsExceededError
                                                 message :=
                                                   "Cannot transfer more than 100 cents in 24 hours"
                                                   })) := by
    decide +kernel
  obtain ⟨⟨result, after⟩, performed, shown⟩ := Option.map_eq_some_iff.mp played
  simp only [Prod.mk.injEq] at shown
  exact ⟨result, after, performed, shown⟩

end Example

end Galoy
