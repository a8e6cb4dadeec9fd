import Galoy.Payments.PendingResolution

set_option autoImplicit false

namespace Galoy

open Interleave App SendLightning

inductive UpdateHistory : List PendingUpdate → World → World → Prop
  | nil (w : World) : UpdateHistory [] w w
  | cons {update : PendingUpdate} {rest : List PendingUpdate} {before middle after : World}
      {result : Result Unit} (performed : update.perform before = some (result, middle))
      (later : UpdateHistory rest middle after) : UpdateHistory (update :: rest) before after

structure LnAttempt.Pays (attempt : LnAttempt) (paymentHash : PaymentHash)
    (start : World) : Prop where
  hash : attempt.decodedInvoice.paymentHash = paymentHash
  nonneg : attempt.paymentFlow.Nonneg
  ledgerWorks : ∀ c : Call, c.ledgerWorks (attempt.answers c)
  flows : FlowsAgree paymentHash attempt.paymentFlow start
  refundable : Refundable attempt.paymentFlow start

structure PendingUpdate.Follows (update : PendingUpdate) (paymentHash : PaymentHash)
    (final : PaymentStatus) (listedAt : World) : Prop where
  listed : update.pendingPayment ∈ listedAt.ledger.listPendingPayments update.walletId
  hash : update.pendingPayment.paymentHash = some paymentHash
  ledgerWorks : ∀ c : Call, c.ledgerWorks (update.answers c)
  repositoryWorks : ∀ c : Call, c.repositoryWorks (update.answers c)
  consistent : ∀ status, update.Reports status → status = .pending ∨ status = final

section History

variable {paymentHash : PaymentHash} {attempts : List LnAttempt} {attempt : LnAttempt}
  {journal : Journal} {update : PendingUpdate} {updates : List PendingUpdate}
  {final : PaymentStatus}

theorem LnHistory.wallets {getAccountLimits : AccountLevel → AccountLimits}
    {permit : LnAttempt → World → Prop} {before after : World}
    (history : LnHistory getAccountLimits permit attempts before after) :
    after.wallets = before.wallets ∧ after.walletsOfAccount = before.walletsOfAccount := by
  induction history with
  | nil w => exact ⟨rfl, rfl⟩
  | @cons attempt rest before middle after result permitted performed later ih =>
    let unchanged (w : World) : Prop :=
      w.wallets = before.wallets ∧ w.walletsOfAccount = before.walletsOfAccount
    have keeps : ∀ (c : Call) (now : World) (reply : Reply c) (next : World), unchanged now →
        serve attempt.run now c (attempt.answers c) = some (reply, next) → unchanged next := by
      intro c now reply next same served
      have frame := serve_frame served
      exact ⟨frame.wallets.trans same.1, frame.walletsOfAccount.trans same.2⟩
    have kept := solo_sound (solo_keeps unchanged keeps) ⟨rfl, rfl⟩ performed
    exact ⟨ih.1.trans kept.1, ih.2.trans kept.2⟩

theorem listed_pending {w : World} {walletId : WalletId} {tx : LedgerTransaction}
    (listed : tx ∈ w.ledger.listPendingPayments walletId)
    (hash : tx.paymentHash = some paymentHash) :
    paymentHash ≠ "" ∧ ∃ journal ∈ w.ledger.journals, ∃ leg ∈ journal.legs,
      leg.isPendingFor paymentHash = true ∧ leg.account = toLedgerAccountId walletId ∧
        tx = translateToLedgerTx journal leg := by
  obtain ⟨journal, inLedger, leg, inJournal, query, rfl⟩ := Ledger.mem_transactions.mp listed
  simp only [Bool.and_eq_true, decide_eq_true_eq] at query
  obtain ⟨ofHash, nonempty⟩ := Ledger.orUndefined_eq_some hash
  refine ⟨nonempty, journal, inLedger, leg, inJournal, ?_, query.1.1, rfl⟩
  simp [Leg.isPendingFor, Leg.ofHash, ofHash, query.2]

theorem Awaits.listed {w : World} (awaits : Awaits paymentHash attempt journal w)
    (follows : update.Follows paymentHash final w) : Listed paymentHash journal update := by
  obtain ⟨_, other, inLedger, leg, inOther, pending, account, shown⟩ :=
    listed_pending follows.listed follows.hash
  simp only [Leg.isPendingFor, Bool.and_eq_true] at pending
  have here := awaits.only inLedger inOther pending.1
  rw [here] at inOther shown
  exact ⟨⟨leg, inOther, account, shown⟩, follows.hash⟩

theorem phase_history {before after : World}
    (listed : ∀ update ∈ updates, Listed paymentHash journal update) (nonempty : paymentHash ≠ "")
    {listedAt : World} (follows : ∀ update ∈ updates, update.Follows paymentHash final listedAt)
    (history : UpdateHistory updates before after)
    (phase : Phase paymentHash attempt journal final before) :
    Phase paymentHash attempt journal final after := by
  induction history with
  | nil w => exact phase
  | @cons update rest before middle after result performed later ih =>
    have here := follows update (by simp)
    have ended := solo_sound (update_spec here.ledgerWorks here.repositoryWorks
      (listed update (by simp)) nonempty here.consistent) phase performed
    refine ih (fun other member => listed other (by simp [member]))
      (fun other member => follows other (by simp [member])) ?_
    cases result with
    | error error => exact ended
    | ok _ => exact ended.1

end History

theorem updated_payment_is_resolved {getAccountLimits : AccountLevel → AccountLimits}
    {paymentHash : PaymentHash} {attempts : List LnAttempt} {updates : List PendingUpdate}
    {update : PendingUpdate} {final : PaymentStatus} {start pendingAt before after : World}
    (numbered : start.ledger.Numbered) (noPending : start.ledger.NoPending paymentHash)
    (pays : ∀ attempt ∈ attempts, attempt.Pays paymentHash start)
    (history : LnHistory getAccountLimits timesOutUnrecorded attempts start pendingAt)
    (follow : ∀ other ∈ update :: updates, other.Follows paymentHash final pendingAt)
    (earlier : UpdateHistory updates pendingAt before)
    (returned : update.perform before = some (.ok (), after))
    (reports : update.Reports final) (finished : final ≠ .pending) :
    ∃ attempt ∈ attempts, ∃ journal ∈ after.ledger.journals,
      journal.id = update.pendingPayment.journalId ∧ journal.writtenBy = attempt.run ∧
      (∀ leg ∈ journal.legs, leg.metadata.pending = false) ∧
      (final = .failed → GivenBack attempt.paymentFlow journal after) := by
  have follows := follow update (by simp)
  obtain ⟨nonempty, other, inLedger, leg, inOther, pending, _⟩ :=
    listed_pending follows.listed follows.hash
  have between := between_history (fun attempt member => (pays attempt member).hash)
    (fun attempt member => (pays attempt member).nonneg)
    (fun attempt member => (pays attempt member).ledgerWorks) history (fun _ member => member)
    (.inl ⟨numbered, noPending, fun attempt member => (pays attempt member).flows⟩)
  rcases between with quiet | ⟨attempt, member, journal, awaits⟩
  · have settled := quiet.noPending leg (Ledger.mem_legs.mpr ⟨other, inLedger, inOther⟩)
    rw [settled] at pending
    cases pending
  have refundable : Refundable attempt.paymentFlow pendingAt := by
    unfold Refundable
    rw [history.wallets.1, history.wallets.2]
    exact (pays attempt member).refundable
  have listed : ∀ other ∈ update :: updates, Listed paymentHash journal other :=
    fun other inUpdates => awaits.listed (follow other inUpdates)
  -- By induction over the earlier updates: it still waits, or one of them has resolved it.
  have phase := phase_history (fun other inUpdates => listed other (by simp [inUpdates])) nonempty
    (fun other inUpdates => follow other (by simp [inUpdates])) earlier (.inl ⟨awaits, refundable⟩)
  have here := listed update (by simp)
  have ended := solo_sound (update_spec follows.ledgerWorks follows.repositoryWorks here nonempty
    follows.consistent) phase returned
  obtain ⟨settled, inAfter, same, writer, legs, givenBack⟩ := (ended.2 reports finished).journal
  obtain ⟨_, _, _, shown⟩ := here.leg
  refine ⟨attempt, member, settled, inAfter, ?_, writer, legs, givenBack⟩
  rw [same, shown]
  rfl

section Example

def failedUpdate (pendingPayment : LedgerTransaction) : PendingUpdate where
  run := 10
  answers := (sendOutside paymentTimeout .failed).answers
  walletId := "alice"
  pendingPayment := pendingPayment

theorem failedUpdate_follows {tx : LedgerTransaction} {w : World} {paymentHash : PaymentHash}
    (listed : tx ∈ w.ledger.listPendingPayments "alice")
    (hash : tx.paymentHash = some paymentHash) :
    (failedUpdate tx).Follows paymentHash .failed w := by
  refine ⟨listed, hash, Outside.ledgerWorks _, Outside.repositoryWorks _, ?_⟩
  rintro status ⟨_, _, lookup, _, _, answered, rfl⟩
  cases answered
  exact .inr rfl

theorem sendAttempt_pays (run : RunId) (payment : PaymentRace) :
    (sendAttempt run payment).Pays "hash" sendWorld := by
  refine ⟨rfl, sendFlow_nonneg "alice", Outside.ledgerWorks _, ?_, ?_⟩
  · intro stored member
    cases member
  · intro usd
    cases usd

theorem timed_out_payment_is_given_back :
    ∃ pendingAt tx after,
      LnHistory sendLimits timesOutUnrecorded [sendAttempt 0 paymentTimeout] sendWorld pendingAt ∧
      (failedUpdate tx).perform pendingAt = some (.ok (), after) ∧
      ∃ journal ∈ after.ledger.journals, journal.id = tx.journalId ∧
        (∀ leg ∈ journal.legs, leg.metadata.pending = false) ∧
        GivenBack (sendFlow "alice") journal after := by
  have played : (((sendAttempt 0 paymentTimeout).perform sendLimits sendWorld).bind fun ended =>
      (ended.2.ledger.listPendingPayments "alice").head?.bind fun tx =>
        ((failedUpdate tx).perform ended.2).map fun updated =>
          (tx.paymentHash, tx.pubkey, updated.1.isOk)) = some (some "hash", some "node", true) := by
    decide +kernel
  obtain ⟨⟨result, pendingAt⟩, performed, rest⟩ := Option.bind_eq_some_iff.mp played
  obtain ⟨tx, listed, updated⟩ := Option.bind_eq_some_iff.mp rest
  obtain ⟨⟨updateResult, after⟩, returned, shown⟩ := Option.map_eq_some_iff.mp updated
  simp only [Prod.mk.injEq] at shown
  obtain ⟨hash, pubkey, isOk⟩ := shown
  have history : LnHistory sendLimits timesOutUnrecorded [sendAttempt 0 paymentTimeout] sendWorld
      pendingAt := .cons (fun _ => by decide +kernel) performed (.nil _)
  cases updateResult with
  | error error => cases isOk
  | ok _ =>
    obtain ⟨attempt, member, journal, inLedger, same, _, legs, givenBack⟩ :=
      updated_payment_is_resolved sendWorld_numbered sendWorld_noPending
        (fun attempt member => by
          obtain rfl := List.mem_singleton.mp member
          exact sendAttempt_pays 0 paymentTimeout) history
        (fun other member => by
          obtain rfl := List.mem_singleton.mp member
          exact failedUpdate_follows (List.mem_of_head? listed) hash) (.nil _) returned
        ⟨"hash", "node", _, hash, pubkey, rfl, rfl⟩ (by decide)
    obtain rfl := List.mem_singleton.mp member
    exact ⟨pendingAt, tx, after, history, returned, journal, inLedger, same, legs, givenBack rfl⟩

theorem retried_payment_stays_pending :
    ∃ pendingAt tx after,
      LnHistory sendLimits (fun _ _ => True)
        [sendAttempt 0 paymentNoRoute, sendAttempt 1 paymentTimeout]
        sendWorld pendingAt ∧
      (sendAttempt 0 paymentNoRoute).Pays "hash" sendWorld ∧
      (sendAttempt 1 paymentTimeout).Pays "hash" sendWorld ∧
      (failedUpdate tx).Follows "hash" .failed pendingAt ∧ (failedUpdate tx).Reports .failed ∧
      (failedUpdate tx).perform pendingAt = some (.ok (), after) ∧
      ∃ journal ∈ after.ledger.journals, journal.id = tx.journalId ∧
        ∃ leg ∈ journal.legs, leg.metadata.pending = true := by
  have played : (((sendAttempt 0 paymentNoRoute).perform sendLimits sendWorld).bind fun first =>
      ((sendAttempt 1 paymentTimeout).perform sendLimits first.2).bind fun second =>
        (second.2.ledger.listPendingPayments "alice").head?.bind fun tx =>
          ((failedUpdate tx).perform second.2).map fun updated =>
            (tx.paymentHash, tx.pubkey, updated.1.isOk, updated.2.ledger.journals.any fun journal =>
              journal.id = tx.journalId && journal.legs.any (·.metadata.pending))) =
        some (some "hash", some "node", true, true) := by
    decide +kernel
  obtain ⟨⟨_, middle⟩, firstPerformed, rest⟩ := Option.bind_eq_some_iff.mp played
  obtain ⟨⟨_, pendingAt⟩, secondPerformed, rest⟩ := Option.bind_eq_some_iff.mp rest
  obtain ⟨tx, listed, updated⟩ := Option.bind_eq_some_iff.mp rest
  obtain ⟨⟨updateResult, after⟩, returned, shown⟩ := Option.map_eq_some_iff.mp updated
  simp only [Prod.mk.injEq, List.any_eq_true, Bool.and_eq_true, decide_eq_true_eq] at shown
  obtain ⟨hash, pubkey, isOk, stillPending⟩ := shown
  cases updateResult with
  | error error => cases isOk
  | ok _ =>
    exact ⟨pendingAt, tx, after, .cons trivial firstPerformed
      (.cons trivial secondPerformed (.nil _)), sendAttempt_pays 0 paymentNoRoute,
      sendAttempt_pays 1 paymentTimeout,
      failedUpdate_follows (List.mem_of_head? listed) hash,
      ⟨"hash", "node", _, hash, pubkey, rfl, rfl⟩, returned, stillPending⟩

end Example

end Galoy
