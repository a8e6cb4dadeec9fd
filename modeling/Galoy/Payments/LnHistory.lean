import Galoy.Payments.LnAttempt

set_option autoImplicit false

namespace Galoy

open Interleave App SendLightning AmountCalculator

structure PaymentFlow.Matches (stored flow : PaymentFlow) : Prop where
  sender : stored.senderWalletId = flow.senderWalletId
  currency : stored.senderWalletCurrency = flow.senderWalletCurrency
  btc : stored.totalAmountsForPayment.btc = flow.totalAmountsForPayment.btc

def FlowsAgree (paymentHash : PaymentHash) (flow : PaymentFlow) (w : World) : Prop :=
  ∀ stored ∈ w.flows, stored.hash = .paymentHash paymentHash →
    stored.Matches flow ∨
      (stored.senderWalletId ∉ w.bank.getDealerWalletIds ∧
        ¬(stored.senderWalletId = flow.senderWalletId ∧
          stored.inputAmount = flow.amountInSenderCurrency))

structure Quiet (paymentHash : PaymentHash) (attempts : List LnAttempt) (w : World) : Prop where
  numbered : w.ledger.Numbered
  noPending : w.ledger.NoPending paymentHash
  flows : ∀ attempt ∈ attempts, FlowsAgree paymentHash attempt.paymentFlow w

structure Awaits (paymentHash : PaymentHash) (attempt : LnAttempt) (journal : Journal) (w : World) :
    Prop where
  numbered : w.ledger.Numbered
  stored : w.ledger.journals[journal.id]? = some journal
  active : journal.voided = false
  writer : journal.writtenBy = attempt.run
  hash : attempt.decodedInvoice.paymentHash = paymentHash
  positive : attempt.paymentFlow.totalSendAmount attempt.paymentFlow.senderWalletCurrency ≠ 0
  legs : ∃ pubkey, journal.legs =
    (lnSendEntry w.bank attempt.decodedInvoice attempt.paymentFlow pubkey).transactions
  onlyHere : ∀ other ∈ w.ledger.journals, other.id ≠ journal.id →
    ∀ leg ∈ other.legs, leg.ofHash paymentHash = false
  flows : FlowsAgree paymentHash attempt.paymentFlow w

section Frames

variable {paymentHash : PaymentHash} {attempts : List LnAttempt} {attempt : LnAttempt}
  {journal : Journal} {before after : World}

theorem Quiet.moved (quiet : Quiet paymentHash attempts before)
    (ledger : after.ledger = before.ledger) (flows : after.flows = before.flows)
    (bank : after.bank = before.bank) : Quiet paymentHash attempts after := by
  rcases quiet with ⟨numbered, noPending, agree⟩
  refine ⟨by rwa [ledger], by rwa [ledger], ?_⟩
  intro attempt member stored
  rw [flows, bank]
  exact agree attempt member stored

theorem Awaits.moved (awaits : Awaits paymentHash attempt journal before)
    (ledger : after.ledger = before.ledger) (flows : after.flows = before.flows)
    (bank : after.bank = before.bank) : Awaits paymentHash attempt journal after := by
  rcases awaits with ⟨numbered, stored, active, writer, hash, positive, legs, onlyHere, agree⟩
  refine ⟨by rwa [ledger], by rwa [ledger], active, writer, hash, positive, by rwa [bank],
    by rwa [ledger], ?_⟩
  intro other
  rw [flows, bank]
  exact agree other

theorem Awaits.pending (awaits : Awaits paymentHash attempt journal before) :
    ∀ leg ∈ journal.legs, leg.isPendingFor paymentHash = true := by
  obtain ⟨pubkey, legs⟩ := awaits.legs
  intro leg member
  rw [legs] at member
  rw [← awaits.hash]
  exact lnSendEntry_pending member

theorem Awaits.only (awaits : Awaits paymentHash attempt journal before) {other : Journal}
    (inLedger : other ∈ before.ledger.journals) {leg : Leg} (inOther : leg ∈ other.legs)
    (ofHash : leg.ofHash paymentHash = true) : other = journal := by
  by_cases same : other.id = journal.id
  · obtain ⟨i, at_⟩ := List.getElem?_of_mem inLedger
    have index := awaits.numbered i other at_
    rw [← index, same, awaits.stored] at at_
    exact (Option.some.inj at_).symm
  · rw [awaits.onlyHere other inLedger same leg inOther] at ofHash
    cases ofHash

theorem Awaits.sender (awaits : Awaits paymentHash attempt journal before) :
    ∃ pubkey, senderLeg attempt.decodedInvoice attempt.paymentFlow pubkey ∈ journal.legs := by
  obtain ⟨pubkey, legs⟩ := awaits.legs
  refine ⟨pubkey, ?_⟩
  rw [legs]
  exact senderLeg_mem awaits.positive

end Frames

section Attempts

variable {paymentHash : PaymentHash} {attempts : List LnAttempt} {attempt : LnAttempt}

structure Committed (paymentHash : PaymentHash) (attempts : List LnAttempt) (attempt : LnAttempt)
    (w : World) : Prop where
  numbered : w.ledger.Numbered
  flows : ∀ attempt ∈ attempts, FlowsAgree paymentHash attempt.paymentFlow w
  awaits : attempt.timesOut → ∃ journal, Awaits paymentHash attempt journal w

def Ready (paymentHash : PaymentHash) (attempts : List LnAttempt)
    (attempt : LnAttempt) (w : World) : Prop :=
  Quiet paymentHash attempts w ∧ (attempt.timesOut → w.ledger.isLnTxRecorded paymentHash = false)

theorem Ready.frame {before after : World} (frame : Frame .nothing before after)
    (ready : Ready paymentHash attempts attempt before) :
    Ready paymentHash attempts attempt after := by
  have ledger := frame.ledger (by simp)
  refine ⟨ready.1.moved ledger (frame.flows (by simp)) frame.bank, ?_⟩
  rw [ledger]
  exact ready.2

theorem Committed.frame {before after : World} (frame : Frame .nothing before after)
    (committed : Committed paymentHash attempts attempt before) :
    Committed paymentHash attempts attempt after := by
  have ledger := frame.ledger (by simp)
  have flows := frame.flows (by simp)
  refine ⟨by rw [ledger]; exact committed.numbered, ?_, ?_⟩
  · intro other member stored
    rw [flows, frame.bank]
    exact committed.flows other member stored
  · intro timesOut
    obtain ⟨journal, awaits⟩ := committed.awaits timesOut
    exact ⟨journal, awaits.moved ledger flows frame.bank⟩

theorem Awaits.ofCommit {w : World} {now : Nat} {pubkey : Pubkey}
    (hash : attempt.decodedInvoice.paymentHash = paymentHash)
    (positive : attempt.paymentFlow.totalSendAmount attempt.paymentFlow.senderWalletCurrency ≠ 0)
    (quiet : Quiet paymentHash attempts w) (member : attempt ∈ attempts)
    (unrecorded : w.ledger.isLnTxRecorded paymentHash = false) :
    ∃ journal, Awaits paymentHash attempt journal
      { w with
        clock := now
        ledger := w.ledger.commit attempt.run now
          (lnSendEntry w.bank attempt.decodedInvoice attempt.paymentFlow pubkey) } := by
  refine ⟨w.ledger.newJournal attempt.run now
    (lnSendEntry w.bank attempt.decodedInvoice attempt.paymentFlow pubkey),
    quiet.numbered.commit _ _ _, ?_, rfl, rfl, hash, positive, ⟨pubkey, rfl⟩, ?_,
    quiet.flows attempt member⟩
  · exact List.getElem?_concat_length
  · intro other inLedger different leg inOther
    rcases List.mem_append.mp inLedger with old | new
    · exact Ledger.no_legs_of_unrecorded quiet.noPending unrecorded leg
        (Ledger.mem_legs.mpr ⟨other, old, inOther⟩)
    · obtain rfl := List.mem_singleton.mp new
      exact absurd rfl different

theorem recordLnSend_spec (member : attempt ∈ attempts)
    (hash : attempt.decodedInvoice.paymentHash = paymentHash)
    (nonneg : attempt.paymentFlow.Nonneg) :
    SoloSpec attempt.run attempt.answers (Ready paymentHash attempts attempt)
      (recordLnSend attempt.decodedInvoice attempt.paymentFlow attempt.senderWallet)
      (fun _ => Committed paymentHash attempts attempt) (fun _ => Quiet paymentHash attempts) := by
  refine recordLnSend_rule (fun _ _ => Ready.frame) (fun _ ready => ready.1) ?_
  intro defaultPubkey priceRatio before now made ready
  have positive := ne_of_gt
    (nonneg.totalSendAmount_pos made attempt.paymentFlow.senderWalletCurrency)
  refine ⟨ready.1.numbered.commit _ _ _, ready.1.flows, fun timesOut => ?_⟩
  exact Awaits.ofCommit hash positive ready.1 member (ready.2 timesOut)

theorem settle_quiet {before after : World} {fault : Option String} {reply : Result Unit}
    {run : RunId} (works : fault = none) (numbered : before.ledger.Numbered)
    (flows : ∀ attempt ∈ attempts, FlowsAgree paymentHash attempt.paymentFlow before)
    (served : before.settle run paymentHash fault = some (reply, after)) :
    Quiet paymentHash attempts after := by
  obtain ⟨failed, _⟩ | ⟨rfl, _⟩ := World.settle_inversion served
  · exact absurd works failed
  · exact ⟨numbered.settlePending _ _, Ledger.noPending_settlePending _, flows⟩

def Settled (c : Call) : Prop :=
  c.reads ∨ (∃ journalId, c = .recordLnSendRevert journalId) ∨
    (∃ journalId, c = .revertLightningPayment journalId) ∨
    ∃ args, c = .recordReceive args ∧ args.metadata.pending = false

theorem Quiet.voided {before after : World} {run : RunId} {id : LedgerJournalId}
    {answer : TimedAnswer} {reply : Result Unit} (quiet : Quiet paymentHash attempts before)
    (served : before.void run id answer = some (reply, after)) :
    Quiet paymentHash attempts after := by
  obtain ⟨_, rfl, _⟩ | ⟨_, now, ledger, voided, rfl⟩ := World.void_inversion served
  · exact quiet
  · exact ⟨quiet.numbered.void _ _ voided, quiet.noPending.void voided, quiet.flows⟩

theorem settled_quiet {run : RunId} {answers : (c : Call) → Answer c} {α : Type} {x : App α}
    (only : OnlyRun Settled x) :
    SoloSpec run answers (Quiet paymentHash attempts) x (fun _ => Quiet paymentHash attempts)
      (fun _ => Quiet paymentHash attempts) := by
  refine Spec.ofOnly (solo_stable _) ?_ only
  intro c settled before a reply after _ quiet _ served
  refine ⟨solo_guaranteed before after, ?_⟩
  rcases settled with reads | ⟨journalId, rfl⟩ | ⟨journalId, rfl⟩ | ⟨args, rfl, notPending⟩
  · have frame := serve_frame served
    rw [reads] at frame
    exact quiet.moved (frame.ledger (by simp)) (frame.flows (by simp)) frame.bank
  · exact quiet.voided served
  · exact quiet.voided served
  · obtain ⟨_, _, rfl⟩ | ⟨_, now, rfl⟩ := World.commit_inversion served
    · exact quiet
    · exact ⟨quiet.numbered.commit _ _ _,
        quiet.noPending.commit _ _ (recordReceive_settled _ args notPending), quiet.flows⟩

theorem reimburseFee_settled (paymentFlow : PaymentFlow) (journalId : LedgerJournalId)
    (actualFee : Int) : OnlyRun Settled (reimburseFee paymentFlow journalId actualFee) :=
  reimburseFee_only paymentFlow journalId actualFee fun _ _ _ _ _ _ =>
    Or.inr (Or.inr (Or.inr ⟨_, rfl, rfl⟩))

theorem Awaits.persisted {journal : Journal} {before after : World}
    {fault : Option RepositoryFault} {reply : Unit}
    (awaits : Awaits paymentHash attempt journal before) (served : before.updateLightningPaymentFlow
      { attempt.paymentFlow with paymentSentAndPending := true } fault = some (reply, after)) :
    Awaits paymentHash attempt journal after := by
  obtain rfl | ⟨_, flows, updated, rfl⟩ := World.updateLightningPaymentFlow_inversion served
  · exact awaits
  · refine { awaits with flows := ?_ }
    intro stored member ofHash
    rcases (World.updateFirst_inversion updated).2 stored member with old | ⟨_, _, _, rfl⟩
    · exact awaits.flows stored old ofHash
    · exact .inl ⟨rfl, rfl, rfl⟩

def Between (paymentHash : PaymentHash) (attempts : List LnAttempt) (w : World) : Prop :=
  Quiet paymentHash attempts w ∨ ∃ attempt ∈ attempts, ∃ journal,
    Awaits paymentHash attempt journal w

theorem resolveLnSend_spec (member : attempt ∈ attempts)
    (hash : attempt.decodedInvoice.paymentHash = paymentHash)
    (works : ∀ c : Call, c.ledgerWorks (attempt.answers c)) (journalId : LedgerJournalId)
    (payResult : Result PayInvoiceResult)
    (timeout : ∀ error, payResult = .error error →
      error.name = .LnPaymentPendingError → attempt.timesOut) :
    SoloSpec attempt.run attempt.answers (Committed paymentHash attempts attempt)
      (resolveLnSend attempt.decodedInvoice attempt.paymentFlow journalId payResult)
      (fun _ => Between paymentHash attempts) (fun _ => Between paymentHash attempts) := by
  have settles : SoloSpec attempt.run attempt.answers (Committed paymentHash attempts attempt)
      (fallible (ask (.settlePendingLnSend attempt.decodedInvoice.paymentHash)))
      (fun _ => Quiet paymentHash attempts) (fun _ => Between paymentHash attempts) := by
    refine fallible_spec (solo_ask fun before reply after committed served => ?_)
    have quiet : Quiet paymentHash attempts after := by
      rw [hash] at served
      exact settle_quiet (works (.settlePendingLnSend paymentHash)) committed.numbered
        committed.flows served
    cases reply with
    | ok _ => exact quiet
    | error error => exact .inl quiet
  have afterwards : ∀ {x : App PaymentSendStatus}, OnlyRun Settled x →
      SoloSpec attempt.run attempt.answers (Quiet paymentHash attempts) x
        (fun _ => Between paymentHash attempts) (fun _ => Between paymentHash attempts) :=
    fun only => Spec.conseq (settled_quiet only) (fun _ _ h => h) (fun _ _ _ h => .inl h)
      (fun _ _ _ h => .inl h)
  cases payResult with
  | ok result =>
    refine Spec.bind settles fun _ => afterwards ?_
    split
    · exact OnlyRun.pure _
    · exact OnlyRun.bind (reimburseFee_settled _ _ _) fun _ => OnlyRun.pure _
  | error error =>
    unfold resolveLnSend
    dsimp only
    by_cases pending : error.name = .LnPaymentPendingError
    · rw [if_pos pending]
      have timesOut := timeout error rfl pending
      refine Spec.seq (fun _ => Between paymentHash attempts) (total_spec (solo_ask ?_))
        fun _ => Spec.pure fun _ _ h => h
      intro before reply after committed served
      obtain ⟨journal, awaits⟩ := committed.awaits timesOut
      exact .inr ⟨attempt, member, journal, awaits.persisted served⟩
    · rw [if_neg pending]
      refine Spec.bind settles fun _ => afterwards ?_
      refine OnlyRun.bind (only_fallible (only_ask (Or.inr (Or.inl ⟨_, rfl⟩)))) fun _ => ?_
      split
      · exact OnlyRun.pure _
      · exact OnlyRun.throw _

theorem Between.locks {w : World} (locks : LockKey → Option RunId)
    (between : Between paymentHash attempts w) : Between paymentHash attempts { w with locks } := by
  rcases between with quiet | ⟨attempt, member, journal, awaits⟩
  · exact .inl (quiet.moved rfl rfl rfl)
  · exact .inr ⟨attempt, member, journal, awaits.moved rfl rfl rfl⟩

theorem ready_attempt_spec (getAccountLimits : AccountLevel → AccountLimits)
    (member : attempt ∈ attempts) (hash : attempt.decodedInvoice.paymentHash = paymentHash)
    (nonneg : attempt.paymentFlow.Nonneg) (works : ∀ c : Call, c.ledgerWorks (attempt.answers c)) :
    SoloSpec attempt.run attempt.answers (Ready paymentHash attempts attempt)
      (attempt.prog getAccountLimits)
      (fun _ => Between paymentHash attempts) (fun _ => Between paymentHash attempts) := by
  refine prog_rule (fun _ _ => Ready.frame) (fun _ ready => .inl ready.1) ?_
  refine solo_withLock ?_ (fun _ _ locks h => h.locks locks) (fun _ locks h => h.locks locks)
    (fun _ ready => .inl ready.1) (fun _ _ h => h) ?_
  · exact fun w locks ready => ⟨ready.1.moved rfl rfl rfl, ready.2⟩
  refine Spec.bind (Spec.weaken_err (recordLnSend_spec member hash nonneg) (fun _ _ _ h => .inl h))
    fun recorded => ?_
  refine Spec.bind (payInvoice_attempted recorded.2)
    fun payResult => Spec.pre_fact fun paid => ?_
  refine Spec.bind (persistLnPayment_spec
    (fun c reads => solo_read (fun _ _ => Committed.frame) reads) _ _ _ _) fun _ => ?_
  refine resolveLnSend_spec member hash works recorded.1 payResult fun error failed pending => ?_
  exact payResult_pending (paid.trans failed) pending

theorem awaits_pending {journal : Journal} {w : World}
    (awaits : Awaits paymentHash attempt journal w) :
    (w.ledger.getTransactionsByHash paymentHash).any (·.pendingConfirmation) = true := by
  obtain ⟨pubkey, member⟩ := awaits.sender
  refine List.any_eq_true.mpr
    ⟨translateToLedgerTx journal
      (senderLeg attempt.decodedInvoice attempt.paymentFlow pubkey), ?_, ?_⟩
  · refine Ledger.mem_transactions.mpr
      ⟨journal, List.mem_of_getElem? awaits.stored, _, member, ?_, rfl⟩
    simp [senderLeg, Leg.ofHash, lnSendArgs, lnSendLedgerMetadata, awaits.hash, toLedgerAccountId,
      LedgerAccountId.mainAccount]
  · rfl

theorem awaiting_attempt_spec {blocked : LnAttempt} {journal : Journal}
    (getAccountLimits : AccountLevel → AccountLimits)
    (hash : blocked.decodedInvoice.paymentHash = paymentHash) :
    SoloSpec blocked.run blocked.answers (Awaits paymentHash attempt journal)
      (blocked.prog getAccountLimits)
      (fun _ => Awaits paymentHash attempt journal)
      (fun _ => Awaits paymentHash attempt journal) := by
  have kept : ∀ before after : World, Frame .nothing before after →
      Awaits paymentHash attempt journal before → Awaits paymentHash attempt journal after :=
    fun _ _ frame awaits => awaits.moved (frame.ledger (by simp)) (frame.flows (by simp)) frame.bank
  refine prog_rule kept (fun _ h => h) ?_
  refine solo_withLock (fun _ _ h => h.moved rfl rfl rfl) (fun _ _ _ h => h.moved rfl rfl rfl)
    (fun _ _ h => h.moved rfl rfl rfl) (fun _ h => h) (fun _ _ h => h) ?_
  have inTransit : SoloSpec blocked.run blocked.answers (Awaits paymentHash attempt journal)
      (checkNotInTransit blocked.decodedInvoice.paymentHash) (fun _ _ => False)
      (fun _ => Awaits paymentHash attempt journal) := by
    refine Spec.seq (fun transactions w => Awaits paymentHash attempt journal w ∧
      transactions.any (·.pendingConfirmation) = true) (fallible_spec (solo_ask ?_)) ?_
    · intro before reply after awaits served
      rw [hash] at served
      obtain rfl := Stores.read_unchanged served
      cases reply with
      | error error => exact awaits
      | ok transactions =>
        have read := Stores.read_ok served
        exact ⟨awaits, Except.ok.inj read ▸ awaits_pending awaits⟩
    · intro transactions
      refine Spec.pre_fact fun pending => ?_
      rw [if_pos pending]
      exact Spec.throw fun _ _ h => h
  exact Spec.seq (fun _ _ => False)
    (Spec.seq (fun _ _ => False) inTransit fun _ => Spec.unreachable) fun _ => Spec.unreachable

end Attempts

section History

variable (getAccountLimits : AccountLevel → AccountLimits) (permit : LnAttempt → World → Prop)

inductive LnHistory : List LnAttempt → World → World → Prop
  | nil (w : World) : LnHistory [] w w
  | cons {attempt : LnAttempt} {rest : List LnAttempt} {before middle after : World}
      {result : Result PaymentSendStatus} (permitted : permit attempt before)
      (performed : attempt.perform getAccountLimits before = some (result, middle))
      (later : LnHistory rest middle after) : LnHistory (attempt :: rest) before after

-- An attempt that times out starts from a ledger without a settled leg of its hash.
def timesOutUnrecorded (attempt : LnAttempt) (w : World) : Prop :=
  attempt.timesOut → w.ledger.isLnTxRecorded attempt.decodedInvoice.paymentHash = false

variable {getAccountLimits}

theorem between_history {paymentHash : PaymentHash} {attempts rest : List LnAttempt}
    {before after : World}
    (hashes : ∀ attempt ∈ attempts, attempt.decodedInvoice.paymentHash = paymentHash)
    (nonneg : ∀ attempt ∈ attempts, attempt.paymentFlow.Nonneg)
    (works : ∀ attempt ∈ attempts, ∀ c : Call, c.ledgerWorks (attempt.answers c))
    (history : LnHistory getAccountLimits timesOutUnrecorded rest before after)
    (included : ∀ attempt ∈ rest, attempt ∈ attempts)
    (between : Between paymentHash attempts before) :
    Between paymentHash attempts after := by
  induction history with
  | nil w => exact between
  | @cons attempt rest before middle after result permitted performed later ih =>
    have member := included attempt (by simp)
    have hash := hashes attempt member
    refine ih (fun other inRest => included other (by simp [inRest])) ?_
    rcases between with quiet | ⟨awaiting, inAttempts, journal, awaits⟩
    · have ready : Ready paymentHash attempts attempt before := by
        refine ⟨quiet, fun timesOut => ?_⟩
        rw [← hash]
        exact permitted timesOut
      have ended := solo_sound
        (ready_attempt_spec getAccountLimits member hash (nonneg attempt member)
          (works attempt member))
        ready performed
      cases result <;> exact ended
    · have ended := solo_sound (awaiting_attempt_spec getAccountLimits hash) awaits performed
      cases result <;> exact .inr ⟨awaiting, inAttempts, journal, ended⟩

end History

end Galoy
