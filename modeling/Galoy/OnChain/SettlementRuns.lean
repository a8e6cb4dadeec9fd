import Galoy.OnChain.Settlement
import Galoy.OnChain.WithdrawalOverdraft

set_option autoImplicit false

namespace Galoy.ChainEvents

open Interleave Interleave.Failing
open Withdrawal (OnChainPayment)

def idle : Withdrawal.Call → Bool
  | .addOnChainTxSend _ | .payToAddress _ _ _ _ | .revertOnChainPayment
    _ | .setOnChainTxSendHash _ _ => false
  | _ => true

abbrev Idle (c : Withdrawal.Call) : Prop := idle c = true

section Idle

variable {run : RunId} {c : Withdrawal.Call}

theorem serve_idle {a : Withdrawal.Answer c} {reply : Withdrawal.Reply c}
    {w next : Withdrawal.World} (isIdle : Idle c)
    (served : Withdrawal.serve run w c a = some (reply, next)) :
    next.ledger = w.ledger ∧ requested run c a = [] := by
  cases c with
  | findWalletById | findByAddress =>
    obtain rfl := Stores.read_unchanged served
    exact ⟨rfl, rfl⟩
  | lightningTxBaseVolumeSince | onChainTxBaseVolumeSince =>
    obtain rfl := Stores.read_unchanged served
    exact ⟨rfl, rfl⟩
  | getWalletBalance asker walletId =>
    simp only [Withdrawal.serve, Withdrawal.World.getWalletBalance] at served
    split at served <;> cases served
    · exact ⟨rfl, rfl⟩
    · split <;> exact ⟨rfl, rfl⟩
  | getOnChainFeeEstimate => cases a <;> cases served <;> exact ⟨rfl, rfl⟩
  | acquire walletId =>
    simp only [Withdrawal.serve, Withdrawal.World.acquire, Stores.acquire] at served
    split at served
    · split at served <;> cases served
      exact ⟨rfl, rfl⟩
    · cases served
      exact ⟨rfl, rfl⟩
  | addOnChainTxSend | payToAddress | revertOnChainPayment | setOnChainTxSendHash => cases isIdle
  | onChainService | getCurrentPrice | checkWithdrawalLimits | getBalance | signalAborted | lookupOnChainFee
  | release =>
    cases served
    exact ⟨rfl, rfl⟩

theorem ask_idle (isIdle : Idle c) : (Withdrawal.ask c).Only Idle := Prog.only_request isIdle

theorem getSwapOutImbalance_only (config : Withdrawal.Config) (walletId : WalletId) :
    OnlyRun Idle (Withdrawal.getSwapOutImbalance config walletId) := by
  unfold Withdrawal.getSwapOutImbalance
  dsimp only
  split
  · exact OnlyRun.pure _
  · refine OnlyRun.bind (fallible_only (ask_idle rfl)) fun _ => ?_
    exact OnlyRun.bind (fallible_only (ask_idle rfl)) fun _ => OnlyRun.pure _

theorem getOnChainFee_only (config : Withdrawal.Config) (asker : Withdrawal.Asker)
    (walletId : WalletId) (account : Withdrawal.Account) (amount : ℚ) (address : OnChainAddress)
    (targetConfirmations : Int) :
    OnlyRun Idle
      (Withdrawal.getOnChainFee config asker walletId account amount address
        targetConfirmations) := by
  refine ofResult_bind_only fun _ _ => ofResult_bind_only fun _ _ =>
    ofResult_bind_only fun _ _ => ?_
  refine OnlyRun.bind (fallible_only (ask_idle rfl)) fun wallet => ?_
  refine OnlyRun.bind (total_only (ask_idle rfl)) fun payeeWallet => ?_
  split
  · exact OnlyRun.throw _
  · split
    · exact OnlyRun.throw _
    · refine OnlyRun.bind (fallible_only (ask_idle rfl)) fun balance => ?_
      split
      · exact OnlyRun.throw _
      · refine OnlyRun.bind (fallible_only (ask_idle rfl)) fun _ => ?_
        refine OnlyRun.bind (fallible_only (ask_idle rfl)) fun _ => ?_
        exact OnlyRun.bind (getSwapOutImbalance_only config walletId) fun _ => OnlyRun.pure _
  · exact OnlyRun.pure _

end Idle

namespace Setting

variable {S : Setting} {run : RunId} {before after : World} {payment : OnChainPayment} {amount : ℚ}
  {journalId : LedgerJournalId} {α : Type}

theorem unasked_stable : S.settlement.Stable run (fun w => w.Unasked run) :=
  fun _ _ between _ => between.unasked

theorem written_stable : S.settlement.Stable run (S.Written payment run amount journalId) :=
  fun _ _ between _ written => written.follow between.follows

theorem answered_stable {answer : Result OnChainTxHash} :
    S.settlement.Stable run (fun w => w.Answered run answer) :=
  fun _ _ between _ ⟨request, member, rest⟩ => ⟨request, between.requests request member, rest⟩

abbrev PayingSpec (S : Setting) (run : RunId) (pre : World → Prop) (x : Withdrawal.App α)
    (ok : α → World → Prop) : Prop :=
  Spec paying (anyStep paying) S.settlement run pre x ok (fun _ _ => True)

theorem idle_spec {keep : World → Prop} (stable : S.settlement.Stable run keep)
    (kept : ∀ before after : World, after.ledger = before.ledger →
      after.requests = before.requests →
      keep before → keep after) {x : Withdrawal.App α} (only : OnlyRun Idle x) :
    S.PayingSpec run keep x (fun _ => keep) := by
  refine Spec.weaken_err (Spec.ofOnly stable ?_ only) fun _ _ _ _ => trivial
  intro c isIdle before a reply after good holds _ served
  obtain ⟨⟨_, next⟩, within, equal⟩ := Option.map_eq_some_iff.mp served
  obtain ⟨-, rfl⟩ := Prod.mk.inj equal
  obtain ⟨ledger, none⟩ := serve_idle isIdle within
  have requests : before.requests ++ requested run c a = before.requests := by simp [none]
  exact ⟨quiet_guaranteed good ledger requests, kept before _ ledger requests holds⟩

theorem idle_unasked {x : Withdrawal.App α} (only : OnlyRun Idle x) :
    S.PayingSpec run (fun w => w.Unasked run) x (fun _ w => w.Unasked run) :=
  idle_spec unasked_stable (fun before after _ requests unasked => by rwa [World.Unasked, requests])
    only

theorem idle_last {x : Withdrawal.App α} (only : OnlyRun Idle x) :
    S.PayingSpec run (fun _ => True) x (fun _ _ => True) :=
  idle_spec (Discipline.stable_true _ run) (fun _ _ _ _ h => h) only

theorem commit_guaranteed (job : S.jobs run = .withdrawal payment)
    (btc : payment.senderWallet.currency = .btc) {fees : Withdrawal.OnChainWithdrawalFee}
    {displayCurrencyPerSat : ℚ} {entry : Entry} (clock : Nat) (good : S.Sound before)
    (built : LedgerService.addOnChainTxSend before.withdrawals.bank
      (payment.sendArgs amount fees displayCurrencyPerSat) = .ok entry)
    (next : after = { before with
      withdrawals :=
  { before.withdrawals with clock, ledger := before.ledger.commit run clock entry } }) :
    S.settlement.Guaranteed run before after ∧
      S.Written payment run amount before.ledger.journals.length after := by
  subst next
  have leg (leg : Leg) (member : leg ∈ entry.transactions) := addOnChainTxSend_leg btc built member
  refine ⟨guaranteed_of_shape (fun journal => journal)
    (some (before.ledger.newJournal run clock entry)) good ?_ .refl rfl (fun journal new => ?_)
    fun _ _ explained => explained, good.grown,
    before.ledger.newJournal run clock entry, List.getElem?_concat_length .., rfl, fees.totalFee,
    fun _ member => (leg _ member).2.2, Withdrawal.outgoing_addOnChainTxSend btc built rfl⟩
  · rw [List.map_id']
    rfl
  · obtain rfl := Option.some.inj new
    refine ⟨rfl, fun _ inEntry => ?_, fun _ inEntry isSettled =>
      ?_, fun isVoided => by cases isVoided⟩
    · exact ⟨_, (leg _ inEntry).1, .inl (S.temporary_hash run payment job)⟩
    · cases (leg _ inEntry).2.1.symm.trans isSettled

theorem addOnChainTxSend_spec (job : S.jobs run = .withdrawal payment)
    (btc : payment.senderWallet.currency = .btc) (fees : Withdrawal.OnChainWithdrawalFee)
    (displayCurrencyPerSat : ℚ) :
    S.PayingSpec run (fun w => w.Unasked run)
      (fallible (Withdrawal.ask
        (.addOnChainTxSend (payment.sendArgs amount fees displayCurrencyPerSat))))
      (fun journalId w => S.Written payment run amount journalId w ∧ w.Unasked run) := by
  refine fallible_spec (Triple.request unasked_stable ?_)
  intro before answer reply after good unasked _ served
  obtain ⟨⟨_, next⟩, within, equal⟩ := Option.map_eq_some_iff.mp served
  obtain ⟨rfl, rfl⟩ := Prod.mk.inj equal
  simp only [requested, List.append_nil]
  simp only [Withdrawal.serve, Withdrawal.World.addOnChainTxSend] at within
  split at within
  · cases within
    exact ⟨quiet_guaranteed good rfl rfl, trivial⟩
  · rename_i entry built
    split at within <;> cases within
    · exact ⟨quiet_guaranteed good rfl rfl, trivial⟩
    · obtain ⟨guaranteed, written⟩ := commit_guaranteed job btc (before.withdrawals.clock + answer.elapsed) good built rfl
      exact ⟨guaranteed, written, unasked⟩

theorem payToAddress_spec (job : S.jobs run = .withdrawal payment) (confirmations : Int)
    (description : String) :
    S.PayingSpec run (fun w => S.Written payment run amount journalId w ∧ w.Unasked run)
      (total (Withdrawal.ask (.payToAddress payment.address amount confirmations description)))
      (fun answer w => S.Written payment run amount journalId w ∧ w.Answered run answer) := by
  refine total_spec (Triple.request (written_stable.and unasked_stable) ?_)
  rintro before answer reply after good ⟨written, unasked⟩ _ served
  cases served
  refine ⟨request_guaranteed written good unasked job _, written, ?_⟩
  exact ⟨_, List.mem_append_right _ (List.mem_singleton.mpr rfl), rfl, rfl⟩

theorem revert_spec {error : AppError} (refusal : Refusal error) :
    S.PayingSpec run (fun w => S.Written payment run amount journalId w ∧
      w.Answered run (.error error))
      (fallible (Withdrawal.ask (.revertOnChainPayment journalId))) (fun _ _ => True) := by
  refine fallible_spec (Triple.request (written_stable.and answered_stable) ?_)
  rintro before answer reply after good ⟨written, answered⟩ _ served
  refine ⟨?_, by cases reply <;> trivial⟩
  obtain ⟨⟨_, next⟩, within, equal⟩ := Option.map_eq_some_iff.mp served
  obtain ⟨rfl, rfl⟩ := Prod.mk.inj equal
  simp only [requested, List.append_nil]
  have refused : before.Refused run := ⟨error, answered, refusal⟩
  have settled := settleJournal_guaranteed written good refused
  simp only [Withdrawal.serve, Withdrawal.World.revertOnChainPayment] at within
  split at within <;> cases within
  · exact quiet_guaranteed good rfl rfl
  · exact settled
  · unfold Ledger.revertOnChainPayment
    dsimp only
    split
    · rename_i reverted voided
      have still := written.follow (settled.2 (run + 1) (Nat.succ_ne_self run)).follows
      exact settled.trans (void_guaranteed still settled.1 refused voided)
    · exact settled.trans (quiet_guaranteed settled.1 rfl rfl)

theorem setHash_spec {hash : OnChainTxHash} :
    S.PayingSpec run (fun w => S.Written payment run amount journalId w ∧ w.Answered run (.ok hash))
      (fallible (Withdrawal.ask (.setOnChainTxSendHash journalId hash))) (fun _ _ => True) := by
  refine fallible_spec (Triple.request (written_stable.and answered_stable) ?_)
  rintro before fault reply after good ⟨written, paid⟩ _ served
  refine ⟨?_, by cases reply <;> trivial⟩
  obtain ⟨⟨_, next⟩, within, equal⟩ := Option.map_eq_some_iff.mp served
  obtain ⟨rfl, rfl⟩ := Prod.mk.inj equal
  simp only [requested, List.append_nil]
  simp only [Withdrawal.serve, Withdrawal.World.setOnChainTxSendHash] at within
  split at within <;> cases within
  · exact quiet_guaranteed good rfl rfl
  · exact setHash_guaranteed written good paid

theorem payAndSetHash_spec (job : S.jobs run = .withdrawal payment) :
    S.PayingSpec run (fun w => S.Written payment run amount journalId w ∧ w.Unasked run)
      (Withdrawal.payAndSetHash payment amount journalId) (fun _ _ => True) := by
  unfold Withdrawal.payAndSetHash
  refine Spec.bind (payToAddress_spec job _ _) fun answer => ?_
  cases answer with
  | error error =>
    dsimp only
    split
    · rename_i refusal
      exact Spec.bind (revert_spec refusal) fun _ => Spec.throw fun _ _ _ => trivial
    · exact Spec.throw fun _ _ _ => trivial
  | ok hash =>
    refine Spec.bind setHash_spec fun _ => ?_
    exact Spec.bind (idle_last (total_only (ask_idle rfl))) fun _ => Spec.pure fun _ _ _ => trivial

theorem withdrawUnderLock_spec (config : Withdrawal.Config) (job : S.jobs run = .withdrawal payment)
    (btc : payment.senderWallet.currency = .btc) (displayCurrencyPerSat : ℚ) :
    S.PayingSpec run (fun w => w.Unasked run)
      (Withdrawal.withdrawUnderLock config payment amount displayCurrencyPerSat)
      (fun _ _ => True) := by
  unfold Withdrawal.withdrawUnderLock
  refine Spec.bind (idle_unasked (fallible_only (ask_idle rfl))) fun balance => ?_
  refine Spec.bind (idle_unasked (getOnChainFee_only config _ _ _ _ _ _)) fun estimatedFee => ?_
  split
  · exact Spec.throw fun _ _ _ => trivial
  · refine Spec.bind (idle_unasked (total_only (ask_idle rfl))) fun aborted => ?_
    split
    · exact Spec.throw fun _ _ _ => trivial
    · refine Spec.bind (idle_unasked (getSwapOutImbalance_only config _)) fun imbalance => ?_
      refine Spec.bind (idle_unasked (fallible_only (ask_idle rfl))) fun minerFee => ?_
      exact Spec.bind (addOnChainTxSend_spec job btc _ _) fun _ => payAndSetHash_spec job

theorem executePaymentViaOnChain_spec (config : Withdrawal.Config)
    (job : S.jobs run = .withdrawal payment) :
    S.PayingSpec run (fun w => w.Unasked run) (Withdrawal.executePaymentViaOnChain config payment)
      (fun _ _ => True) := by
  unfold Withdrawal.executePaymentViaOnChain
  dsimp only
  split
  · exact Spec.throw fun _ _ _ => trivial
  · rename_i btc
    refine Spec.bind (idle_unasked (fallible_only (ask_idle rfl))) fun _ => ?_
    refine Spec.bind (idle_unasked (fallible_only (ask_idle rfl))) fun price => ?_
    refine Spec.bind (idle_unasked (fallible_only (ask_idle rfl))) fun _ => ?_
    refine Spec.bind (idle_unasked (fallible_only (ask_idle rfl))) fun available => ?_
    refine Spec.bind (idle_unasked (getOnChainFee_only config _ _ _ _ _ _)) fun estimatedFee => ?_
    generalize (if payment.sendAll then payment.amount - estimatedFee else payment.amount) =
      amountToSend
    split
    · exact Spec.throw fun _ _ _ => trivial
    · split
      · exact Spec.throw fun _ _ _ => trivial
      · refine bracket_spec (idle_unasked (fallible_only (ask_idle rfl)))
          (withdrawUnderLock_spec config job (not_not.mp btc) price) ?_ ?_
        · exact fun _ => idle_last (fallible_only (ask_idle rfl))
        · exact fun _ => idle_last (fallible_only (ask_idle rfl))

section Events

def steady : Call → Bool
  | .withdrawal _ | .settlePendingOnChainPayment _ => false
  | _ => true

abbrev Steady (c : Call) : Prop := steady c = true

theorem steady_spec {x : App α} (only : OnlyRun Steady x) :
    Spec services (anyStep services) S.settlement run (fun _ => True) x (fun _ _ => True)
      (fun _ _ => True) := by
  refine Spec.ofOnly (Discipline.stable_true _ run) ?_ only
  intro c isSteady before a reply after good _ _ served
  have same : after = before := by
    cases c with
    | withdrawal | settlePendingOnChainPayment => cases isSteady
    | findWalletById | listByAddresses | getWalletIdByTransactionHash =>
      cases a <;> cases served <;> rfl
    | _ =>
      cases served
      rfl
  rw [same]
  exact ⟨quiet_guaranteed good rfl rfl, trivial⟩

theorem ask_steady {c : Call} (isSteady : Steady c) : (ask c).Only Steady :=
  Prog.only_request isSteady

theorem userOf_only (wallet : OnChain.Wallet) : OnlyRun Steady (userOf wallet) :=
  OnlyRun.bind (fallible_only (ask_steady rfl)) fun _ => fallible_only (ask_steady rfl)

theorem event_spec {tx : ChainTransaction} (job : S.jobs run = .transactionEvent tx) :
    Spec services (anyStep services) S.settlement run (fun _ => True)
      (onchainTransactionEventHandler tx) (fun _ _ => True) (fun _ _ => True) := by
  unfold onchainTransactionEventHandler
  split
  · rename_i outgoing
    unfold outgoingTransactionHandler
    split
    · exact Spec.pure fun _ _ h => h
    · rename_i confirmed
      refine Spec.seq (fun _ _ => True)
        (fallible_spec (Triple.request (Discipline.stable_true _ run) ?_)) fun _ =>
        steady_spec ?_
      · intro before fault reply after good _ _ served
        refine ⟨?_, by cases reply <;> trivial⟩
        cases fault <;> cases served
        · exact confirm_guaranteed good (S.real_hash run tx job)
            ⟨run, tx, job, outgoing, by simpa using confirmed, rfl⟩
        · exact quiet_guaranteed good rfl rfl
      · refine OnlyRun.bind (fallible_only (ask_steady rfl)) fun _ => ?_
        refine OnlyRun.bind (total_only (ask_steady rfl)) fun _ => ?_
        refine OnlyRun.bind (fallible_only (ask_steady rfl)) fun wallet => ?_
        exact OnlyRun.bind (userOf_only wallet) fun _ => total_only (ask_steady rfl)
  · refine steady_spec (OnlyRun.bind (total_only (ask_steady rfl)) fun _ => ?_)
    refine OnlyRun.bind (fallible_only (ask_steady rfl)) fun wallets => ?_
    split
    · exact OnlyRun.pure _
    · refine OnlyRun.bind (total_only (ask_steady rfl)) fun _ => each_only fun wallet _ => ?_
      refine OnlyRun.bind (attempt_only ?_) fun _ => OnlyRun.pure _
      exact OnlyRun.bind (userOf_only wallet) fun _ => total_only (ask_steady rfl)

end Events

theorem withdrawal_within : withdrawalEmbedding.Within paying (anyStep paying) S.settlement services
    (anyStep services)
    S.settlement run id where
  inv _ good := good
  rely _ _ between := between
  step _ _ a _ _ _ _ served := ⟨a, trivial, served, fun kept => kept⟩

theorem job_wp (config : Withdrawal.Config) (good : S.Sound S.start) (run : RunId) :
    wp services (anyStep services) S.settlement run ((S.jobs run).prog config)
      (fun _ _ => True) S.start := by
  cases job : S.jobs run with
  | withdrawal payment =>
    refine Triple.discard (withdrawal_within.triple (executePaymentViaOnChain_spec config job))
      S.start good ?_
    intro request member
    rw [id, S.unasked] at member
    cases member
  | transactionEvent tx => exact Triple.discard (event_spec job) S.start good trivial

def runs (S : Setting) (config : Withdrawal.Config) : Interleave.Config World Call Reply Unit :=
  ⟨S.start, fun run => (S.jobs run).prog config⟩

theorem sound_start : S.Sound S.start := by
  refine ⟨S.numbered, le_rfl, fun journal member => ?_, by simp [S.unasked],
    fun request member => ?_⟩
  · rw [since, List.drop_length] at member
    cases member
  · rw [S.unasked] at member
    cases member

end Setting

/-- However withdrawals and transaction events interleave: no withdrawal asks lnd twice; a
transaction that lnd has made for one is covered by a journal of it that is not voided; a leg of a
withdrawal is settled only if its own transaction is confirmed or lnd has refused to make one; and a
journal is voided only if lnd has refused and made none. -/
theorem withdrawals_covered_and_settled (S : Setting) (config : Withdrawal.Config)
    {after : Config World Call Reply Unit}
    (reach : Reach services (anyStep services) (S.runs config) after) :
    (after.world.requests.map (·.run)).Nodup ∧
    (∀ request ∈ after.world.requests, ∀ hash, request.answer = .ok hash →
      ∃ payment, S.jobs request.run = .withdrawal payment ∧ request.address = payment.address ∧
        ∃ journal ∈ after.world.ledger.journals.drop S.since, journal.voided = false ∧
          Covers payment request.run request.amount journal) ∧
    ∀ journal ∈ after.world.ledger.journals.drop S.since,
      (∀ leg ∈ journal.legs, leg.metadata.pending = false → after.world.Refused journal.writtenBy ∨
        ∃ hash, S.Confirmed hash ∧ after.world.Answered journal.writtenBy (.ok hash)) ∧
      (journal.voided = true → after.world.Refused journal.writtenBy ∧
        ∀ hash, ¬after.world.Answered journal.writtenBy (.ok hash)) := by
  have good : S.settlement.inv S.start := S.sound_start
  have last : S.Sound after.world := reach_inv good (S.job_wp config good) reach
  have apart : ∀ run hash, after.world.Refused run → ¬after.world.Answered run (.ok hash) := by
    rintro run hash ⟨error, refused, _⟩ paid
    cases last.once_answered refused paid
  refine ⟨last.once, fun request member hash isOk => ?_, fun journal member =>
    ⟨fun leg inJournal settled => ?_, fun voided => ?_⟩⟩
  · obtain ⟨payment, id, job, address, above, journal, place, covers⟩ := last.covered request member
    have inLedger : journal ∈ after.world.ledger.journals.drop S.since := by
      refine List.mem_iff_getElem?.mpr ⟨id - S.since, ?_⟩
      rw [List.getElem?_drop, Nat.add_sub_cancel' above, place]
    refine ⟨payment, job, address, journal, inLedger, ?_, covers⟩
    by_contra voided
    refine apart _ hash ((last.explained journal inLedger).voided (by simpa using voided)) ?_
    exact ⟨request, member, covers.writer.symm, isOk⟩
  · exact (last.explained journal member).settled leg inJournal settled
  · have refused := (last.explained journal member).voided voided
    exact ⟨refused, fun hash => apart _ hash refused⟩

section Example

def confirmation : ChainTransaction := ⟨"transaction", true, true, 98000, none, []⟩

def sendAllSetting : Setting where
  jobs run := if run = 0 then .withdrawal Withdrawal.sendAllPayment
    else .transactionEvent confirmation
  start := { withdrawals := Withdrawal.payerWorld .notFound (fun _ => none) (fun _ => none) }
  temporary hash := decide (hash = "hash")
  temporary_hash run payment job := by
    split at job <;> cases job
    rfl
  real_hash run tx job := by
    split at job <;> cases job
    rfl
  numbered i journal at_ := by
    cases i <;> cases at_
    rfl
  unasked := rfl

def confirmedAnswers : (c : Call) → Answer c
  | .withdrawal (.payToAddress _ _ _ _) => .ok "transaction"
  | .withdrawal c => Withdrawal.payerAnswers .notFound c
  | .settlePendingOnChainPayment _ | .getWalletIdByTransactionHash _ => none
  | .getCurrentPrice => .ok 1
  | .findWalletById _ | .listByAddresses _ => none
  | .findAccountById _ => .error { name := .Error }
  | .findUserById _ => .error { name := .Error }
  | .onChainTxSent _ | .clearLastOnChainTransactions | .onChainTxReceivedPending _ => ()

theorem send_all_covered : ∃ after,
    Reach services (anyStep services) (sendAllSetting.runs (Withdrawal.payerConfig .notFound 2000))
      after ∧
    (∀ journal ∈ after.world.ledger.journals, ∀ leg ∈ journal.legs, leg.metadata.pending = false) ∧
    ∃ journal ∈ after.world.ledger.journals.drop 1, journal.voided = false ∧
      Covers Withdrawal.sendAllPayment 0 98000 journal := by
  have played : (play services (anyStep services) (fun _ => confirmedAnswers)
      (List.replicate 23 0 ++ [1])
      (sendAllSetting.runs (Withdrawal.payerConfig .notFound 2000))).map
        (fun after => (after.world.ledger.journals.all fun journal =>
          journal.legs.all (!·.metadata.pending), after.world.requests.map fun request =>
            (request.run, request.amount, request.answer))) =
      some (true, [(0, 98000, .ok "transaction")]) := by
    decide +kernel
  obtain ⟨after, run, ends⟩ := Option.map_eq_some_iff.mp played
  obtain ⟨settled, requests⟩ := Prod.mk.inj ends
  obtain ⟨request, isOnly, isRequest⟩ := List.map_eq_singleton_iff.mp requests
  simp only [Prod.mk.injEq] at isRequest
  obtain ⟨isRun, isAmount, isOk⟩ := isRequest
  have reach := play_reach _ _ _ _ _ _ run
  obtain ⟨payment, job, _, journal, member, intact, covers⟩ :=
    (withdrawals_covered_and_settled sendAllSetting _ reach).2.1 request
      (by simp [isOnly]) "transaction" isOk
  rw [isRun] at job covers
  cases job
  exact ⟨after, reach, by simpa using settled, journal, member, intact, isAmount ▸ covers⟩

end Example

end Galoy.ChainEvents
