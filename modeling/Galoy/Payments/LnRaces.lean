import Galoy.Payments.LnSendEntry
import Galoy.Payments.Requests

set_option autoImplicit false

namespace Galoy

open Interleave App SendLightning

def ownJournals (paymentHash : PaymentHash) : Discipline World where
  inv w := w.ledger.Numbered ∧ w.ledger.PendingOfOne paymentHash
  rely run before after := after.ledger.writtenBy run = before.ledger.writtenBy run
  rely_refl _ _ := rfl
  rely_trans _ _ _ _ first second := second.trans first

def Call.sends : Call → Bool
  | .recordSend _ => true
  | _ => false

-- At the commit of a send no leg of the hash is pending.
def commitsAlone (paymentHash : PaymentHash) : Permit services := fun run w c a =>
  ledgerAndReleasesWork run w c a ∧ (c.sends = true → w.ledger.NoPending paymentHash)

instance (paymentHash : PaymentHash) (run : RunId) (w : World) (c : Call) (a : services.Answer c) :
    Decidable (commitsAlone paymentHash run w c a) :=
  inferInstanceAs (Decidable (_ ∧ (_ → _)))

namespace OwnJournals

variable {paymentHash : PaymentHash} {run : RunId}

section Steps

variable {before after : World}

theorem quiet_guaranteed (good : (ownJournals paymentHash).inv before)
    (same : after.ledger = before.ledger) :
    (ownJournals paymentHash).Guaranteed run before after := by
  refine ⟨⟨?_, ?_⟩, fun other _ => congrArg (Ledger.writtenBy · other) same⟩
  · rw [same]
    exact good.1
  · rw [same]
    exact good.2

theorem commit_guaranteed (good : (ownJournals paymentHash).inv before) {clock : Nat}
    {entry : Entry} (one : (before.ledger.commit run clock entry).PendingOfOne paymentHash) :
    (ownJournals paymentHash).Guaranteed run before
      { before with clock, ledger := before.ledger.commit run clock entry } :=
  ⟨⟨good.1.commit _ _ _, one⟩, fun _ different => Ledger.writtenBy_commit_other different _ _⟩

theorem settle_guaranteed (good : (ownJournals paymentHash).inv before) {journal : Journal}
    (own : journal ∈ before.ledger.writtenBy run)
    (pending : Ledger.HasPending paymentHash journal) :
    (ownJournals paymentHash).Guaranteed run before
      { before with ledger := before.ledger.settlePending run paymentHash } := by
  refine ⟨⟨good.1.settlePending _ _, (Ledger.noPending_settlePending run).ofOne⟩, ?_⟩
  intro other different
  obtain ⟨inLedger, writer⟩ := Ledger.mem_writtenBy.mp own
  have unchanged : ∀ theirs ∈ before.ledger.writtenBy other, theirs.settleFor paymentHash =
      theirs := by
    intro theirs member
    obtain ⟨inTheirs, theirWriter⟩ := Ledger.mem_writtenBy.mp member
    refine Ledger.settleFor_of_not_pending fun alsoPending => different ?_
    rw [← theirWriter, ← writer]
    exact good.2 theirs inTheirs journal inLedger alsoPending pending
  show (before.ledger.settlePending run paymentHash).writtenBy other = _
  rw [Ledger.writtenBy_settlePending, List.map_congr_left unchanged, List.map_id']

theorem void_guaranteed (good : (ownJournals paymentHash).inv before)
    {journal : Journal} {clock : Nat} {ledger : Ledger}
    (own : journal ∈ before.ledger.writtenBy run) (settled : ¬Ledger.HasPending paymentHash journal)
    (voided : before.ledger.void run clock journal.id "Payment canceled" = some ledger) :
    (ownJournals paymentHash).Guaranteed run before { before with clock, ledger } := by
  obtain ⟨inLedger, writer⟩ := Ledger.mem_writtenBy.mp own
  obtain ⟨original, found, _, _, journals⟩ := Ledger.void_inversion voided
  have isOriginal := Ledger.journal?_of_mem good.1 inLedger
  rw [found] at isOriginal
  obtain rfl := Option.some.inj isOriginal
  refine ⟨⟨good.1.void _ _ voided, ?_⟩, ?_⟩
  · refine good.2.grow (fun theirs => ⟨Ledger.writtenBy_markVoided theirs _,
      Ledger.hasPending_markVoided⟩) ?_ journals
    rintro ⟨leg, member, pending⟩
    obtain ⟨mirrored, inOriginal, rfl⟩ := List.mem_map.mp member
    exact settled ⟨mirrored, inOriginal, pending⟩
  · intro other different
    have unchanged : ∀ theirs ∈ before.ledger.writtenBy other,
        theirs.markVoided original.id = theirs := by
      intro theirs member
      obtain ⟨inTheirs, theirWriter⟩ := Ledger.mem_writtenBy.mp member
      refine if_neg fun same => different ?_
      have again := Ledger.journal?_of_mem good.1 inTheirs
      rw [same, found] at again
      rw [← theirWriter, ← writer, Option.some.inj again]
    show ledger.writtenBy other = _
    unfold Ledger.writtenBy
    rw [journals, List.filter_append, Ledger.writtenBy_map_markVoided]
    have others := List.map_congr_left unchanged
    rw [List.map_id'] at others
    unfold Ledger.writtenBy at others
    rw [others]
    simp [different.symm]

end Steps

section Parts

variable {α : Type} {P : List Journal → Prop}

def Own (run : RunId) (P : List Journal → Prop) (w : World) : Prop := P (w.ledger.writtenBy run)

theorem own_stable : (ownJournals paymentHash).Stable run (Own run P) := by
  intro before after same _ holds
  unfold Own
  rw [show after.ledger.writtenBy run = before.ledger.writtenBy run from same]
  exact holds

theorem quiet_step {c : Call} {before after : World} {a : Answer c} {reply : Reply c}
    (quiet : c.part ≠ .ledger) (good : (ownJournals paymentHash).inv before)
    (holds : Own run P before) (served : serve run before c a = some (reply, after)) :
    (ownJournals paymentHash).Guaranteed run before after ∧ Own run P after := by
  have same := (serve_frame served).ledger quiet
  refine ⟨quiet_guaranteed good same, ?_⟩
  unfold Own
  rw [same]
  exact holds

theorem quiet_spec {x : App α} (only : OnlyRun (fun c => c.part ≠ .ledger) x) :
    Spec services (commitsAlone paymentHash) (ownJournals paymentHash) run (Own run P) x
      (fun _ => Own run P) (fun _ => Own run P) :=
  Spec.ofOnly own_stable (fun _ quiet _ _ _ _ good holds _ served =>
    quiet_step quiet good holds served) only

theorem reads_quiet (c : Call) (reads : c.reads) : c.part ≠ .ledger := by
  rw [show c.part = .nothing from reads]
  simp

theorem quiet_ask {c : Call} (quiet : c.part ≠ .ledger) :
    Triple services (commitsAlone paymentHash) (ownJournals paymentHash) run (Own run P) (ask c)
      (fun _ => Own run P) :=
  ask_triple own_stable fun _ _ _ _ good holds _ served => quiet_step quiet good holds served

end Parts

section Send

variable (send : LnSend) (base : List Journal)

def Unmoved (journals : List Journal) : Prop :=
  ∀ q, netOver q (journals.flatMap (·.legs)) = netOver q (base.flatMap (·.legs))

structure Pays (paymentHash : PaymentHash) : Prop where
  hash : send.decodedInvoice.paymentHash = paymentHash
  flow : send.paymentFlow.paymentHashForFlow = .ok paymentHash
  nonneg : send.paymentFlow.Nonneg

def Ended (paymentHash : PaymentHash) (status : PaymentSendStatus) (journals : List Journal) :
    Prop :=
  match status with
  | .success => True
  | .alreadyPaid => Unmoved base journals
  | .pending => ∃ id journal, send.Sent base paymentHash id journals journal

def EndedAs (paymentHash : PaymentHash) (result : Result PaymentSendStatus)
    (journals : List Journal) : Prop :=
  match result with
  | .error _ => Unmoved base journals
  | .ok status => Ended send base paymentHash status journals

variable {send base} {id : LedgerJournalId}

theorem recordSend_spec (pays : Pays send paymentHash) (defaultPubkey : Pubkey)
    (positive : send.paymentFlow.totalSendAmount send.paymentFlow.senderWalletCurrency ≠ 0)
    {err : AppError → World → Prop} :
    Spec services (commitsAlone paymentHash) (ownJournals paymentHash) run (Own run (· = base))
      (fallible (ask (.recordSend (lnSendArgs send.decodedInvoice send.paymentFlow defaultPubkey))))
      (fun id => Own run fun journals => ∃ journal, send.Sent base paymentHash id journals journal)
      err := by
  refine fallible_spec (ask_triple own_stable ?_)
  intro before a reply after good fresh permitted served
  obtain ⟨fault, _⟩ | ⟨rfl, clock, rfl⟩ := World.commit_inversion served
  · exact absurd permitted.1.1 fault
  · exact ⟨commit_guaranteed good (Ledger.PendingOfOne.commit (permitted.2 rfl) _ _),
      LnSend.Sent.ofCommit fresh pays.hash positive _ _ _⟩

theorem settlePendingLnSend_spec (settledBase : ∀ journal ∈ base,
    ¬Ledger.HasPending paymentHash journal)
    {err : AppError → World → Prop} :
    Spec services (commitsAlone paymentHash) (ownJournals paymentHash) run
      (Own run fun journals => ∃ journal, send.Sent base paymentHash id journals journal)
      (fallible (ask (.settlePendingLnSend paymentHash)))
      (fun _ => Own run fun journals => ∃ journal, LnSend.Settled base paymentHash id
        journals journal)
      err := by
  refine fallible_spec (ask_triple own_stable ?_)
  rintro before a reply after good ⟨journal, sent⟩ permitted served
  obtain ⟨fault, _⟩ | ⟨rfl, ⟨rfl, _⟩ | ⟨_, zero⟩⟩ := World.settle_inversion served
  · exact absurd permitted.1.1 fault
  · exact ⟨settle_guaranteed good sent.own sent.hasPending, _, sent.settlePending settledBase run⟩
  · have positive := sent.settles
    omega

theorem recordLnSendRevert_spec {err : AppError → World → Prop} :
    Spec services (commitsAlone paymentHash) (ownJournals paymentHash) run
      (Own run fun journals => ∃ journal, LnSend.Settled base paymentHash id journals journal)
      (fallible (ask (.recordLnSendRevert id))) (fun _ => Own run (Unmoved base)) err := by
  refine fallible_spec (ask_triple own_stable ?_)
  rintro before a reply after good ⟨journal, settled⟩ permitted served
  obtain ⟨_, _, fault | missing⟩ | ⟨rfl, clock, ledger, voided, rfl⟩ := World.void_inversion served
  · exact absurd permitted.1.1 fault
  · exact absurd missing (settled.voids good.1 _ _)
  · obtain ⟨reversal, mirrored, journals⟩ := settled.void good.1 voided
    rw [← settled.isId] at voided
    refine ⟨void_guaranteed good settled.own settled.settled voided, fun q => ?_⟩
    show netOver q ((ledger.writtenBy run).flatMap (·.legs)) = _
    rw [journals]
    simp [mirrored]

theorem reimburse_spec (pays : Pays send paymentHash) {priceRatio : PriceRatio}
    (made : PriceRatio.make send.paymentFlow.usdPaymentAmount send.paymentFlow.btcPaymentAmount =
      .ok priceRatio) (actualFee : Int) {err : AppError → World → Prop} :
    Spec services (commitsAlone paymentHash) (ownJournals paymentHash) run (Own run fun _ => True)
      (reimburseFee send.paymentFlow id actualFee) (fun _ => Own run fun _ => True) err := by
  refine reimburseFee_spec actualFee made pays.flow fun feeDifference => ?_
  refine fallible_spec (ask_triple own_stable ?_)
  intro before a reply after good _ permitted served
  obtain ⟨fault, _⟩ | ⟨rfl, clock, rfl⟩ := World.commit_inversion served
  · exact absurd permitted.1.1 fault
  exact ⟨commit_guaranteed good (good.2.commit_settled _ (recordReceive_settled _ _ rfl)), trivial⟩

theorem recordLnSend_own (pays : Pays send paymentHash) :
    Spec services (commitsAlone paymentHash) (ownJournals paymentHash) run (Own run (· = base))
      (recordLnSend send.decodedInvoice send.paymentFlow send.senderWallet)
      (fun recorded w =>
        Own run (fun journals => ∃ journal, send.Sent base paymentHash recorded.1 journals journal)
        w ∧
        ∃ priceRatio, PriceRatio.make send.paymentFlow.usdPaymentAmount
          send.paymentFlow.btcPaymentAmount = .ok priceRatio)
      (fun _ => Own run (· = base)) := by
  refine Spec.bind (quiet_spec (checkNotInTransit_only reads_quiet _)) fun _ => ?_
  refine Spec.bind (quiet_spec (checkBalance_only reads_quiet _ _)) fun _ => ?_
  refine Spec.bind (quiet_spec (only_fallible (only_ask (by simp [Call.part]))))
    fun defaultPubkey => ?_
  refine ofResult_bind_spec ?_ (fun _ _ _ _ fresh => fresh)
  intro priceRatio made
  have positive := ne_of_gt
    (pays.nonneg.totalSendAmount_pos made send.paymentFlow.senderWalletCurrency)
  refine Spec.bind (quiet_spec (checkNotAborted_only reads_quiet _)) fun _ => ?_
  refine Spec.bind (recordSend_spec pays defaultPubkey positive) fun id => ?_
  exact Spec.pure fun _ _ sent => ⟨sent, priceRatio, made⟩

theorem resolveLnSend_own (pays : Pays send paymentHash)
    (settledBase : ∀ journal ∈ base, ¬Ledger.HasPending paymentHash journal)
    {priceRatio : PriceRatio}
    (made : PriceRatio.make send.paymentFlow.usdPaymentAmount send.paymentFlow.btcPaymentAmount =
      .ok priceRatio) (payResult : Result PayInvoiceResult) :
    Spec services (commitsAlone paymentHash) (ownJournals paymentHash) run
      (Own run fun journals => ∃ journal, send.Sent base paymentHash id journals journal)
      (resolveLnSend send.decodedInvoice send.paymentFlow id payResult)
      (fun status => Own run (Ended send base paymentHash status))
      (fun _ => Own run (Unmoved base)) := by
  have settles {err : AppError → World → Prop} :
      Spec services (commitsAlone paymentHash) (ownJournals paymentHash) run
        (Own run fun journals => ∃ journal, send.Sent base paymentHash id journals journal)
        (fallible (ask (.settlePendingLnSend send.decodedInvoice.paymentHash)))
        (fun _ => Own run fun journals => ∃ journal, LnSend.Settled base paymentHash id journals
          journal) err := by
    rw [pays.hash]
    exact settlePendingLnSend_spec settledBase
  cases payResult with
  | ok result =>
    refine Spec.bind settles fun _ => ?_
    split
    · exact Spec.pure fun _ _ _ => trivial
    · refine Spec.seq (fun _ => Own run fun _ => True) ?_ fun _ => Spec.pure fun _ _ _ => trivial
      exact Spec.strengthen_pre (reimburse_spec pays made result.roundedUpFee)
        (fun _ _ _ => trivial)
  | error error =>
    unfold resolveLnSend
    dsimp only
    split
    · refine Spec.seq (fun _ => Own run fun journals =>
        ∃ journal, send.Sent base paymentHash id journals journal)
        (total_spec (quiet_ask (by simp [Call.part]))) fun _ => ?_
      exact Spec.pure fun _ _ sent => ⟨id, sent⟩
    · refine Spec.bind settles fun _ => Spec.bind recordLnSendRevert_spec fun _ => ?_
      split
      · exact Spec.pure fun _ _ unmoved => unmoved
      · exact Spec.throw fun _ _ unmoved => unmoved

theorem release_spec {key : LockKey} {P : List Journal → Prop} {err : AppError → World → Prop} :
    Spec services (commitsAlone paymentHash) (ownJournals paymentHash) run (Own run P)
      (fallible (ask (.release key))) (fun _ => Own run P) err := by
  refine fallible_spec (ask_triple own_stable ?_)
  intro before a reply after good holds permitted served
  have kept := quiet_step (by simp [Call.part]) good holds served
  have done : a = LockAnswer.done := permitted.1.2
  subst done
  cases served
  exact kept

theorem send_spec (getAccountLimits : AccountLevel → AccountLimits) (pays : Pays send paymentHash)
    (settledBase : ∀ journal ∈ base, ¬Ledger.HasPending paymentHash journal) :
    Spec services (commitsAlone paymentHash) (ownJournals paymentHash) run (Own run (· = base))
      (send.prog getAccountLimits) (fun status => Own run (Ended send base paymentHash status))
      (fun _ => Own run (Unmoved base)) := by
  have unmoved : ∀ w, Own run (· = base) w → Own run (Unmoved base) w := by
    intro w fresh q
    rw [show w.ledger.writtenBy run = base from fresh]
  have early {α : Type} {x : App α} {ok : α → World → Prop}
      (h : Spec services (commitsAlone paymentHash) (ownJournals paymentHash) run
        (Own run (· = base)) x ok (fun _ => Own run (· = base))) :
      Spec services (commitsAlone paymentHash) (ownJournals paymentHash) run (Own run (· = base))
        x ok (fun _ => Own run (Unmoved base)) :=
    Spec.weaken_err h (fun _ w _ fresh => unmoved w fresh)
  refine Spec.bind (early (quiet_spec (getPriceRatioForLimits_only reads_quiet _))) fun _ => ?_
  refine Spec.bind (early (quiet_spec (newCheckLimits_only reads_quiet _ _ _ _ _ _))) fun _ => ?_
  refine withLock_spec (early (quiet_spec (only_fallible (only_ask (by simp [Call.part])))))
    ?_ (fun _ => release_spec) (fun _ => release_spec)
  refine Spec.bind (early (recordLnSend_own pays)) fun recorded => Spec.pre_fact fun priced => ?_
  obtain ⟨priceRatio, made⟩ := priced
  refine Spec.bind (attempt_keeps (quiet_spec (payInvoice_only reads_quiet _ _ _)))
    fun payResult => ?_
  refine Spec.bind (persistLnPayment_spec (fun c reads => quiet_ask (reads_quiet c reads)) _ _ _ _)
    fun _ => ?_
  exact resolveLnSend_own pays settledBase made payResult

theorem send_triple (getAccountLimits : AccountLevel → AccountLimits) (pays : Pays send paymentHash)
    (settledBase : ∀ journal ∈ base, ¬Ledger.HasPending paymentHash journal) :
    Triple services (commitsAlone paymentHash) (ownJournals paymentHash) run (Own run (· = base))
      (send.prog getAccountLimits).run
        (fun result => Own run (EndedAs send base paymentHash result)) := by
  refine Triple.conseq (send_spec getAccountLimits pays settledBase) (fun _ _ h => h) ?_
  intro result w _ holds
  cases result <;> exact holds

end Send

end OwnJournals

theorem failed_send_moves_nothing {getAccountLimits : AccountLevel → AccountLimits}
    {paymentHash : PaymentHash} {start : World} (numbered : start.ledger.Numbered)
    (noPending : start.ledger.NoPending paymentHash) {sends : RunId → LnSend}
    (pays : ∀ run, OwnJournals.Pays (sends run) paymentHash)
    {after : Config World Call Reply (Result PaymentSendStatus)}
    (reach : Reach services (commitsAlone paymentHash)
      ⟨start, fun run => ((sends run).prog getAccountLimits).run⟩ after)
    (run : RunId) {result : Result PaymentSendStatus} (ended : after.pool run = .pure result) :
    ((∃ error, result = .error error) ∨ result = .ok .alreadyPaid →
      ∀ account, after.world.ledger.movedBy run account = start.ledger.movedBy run account) ∧
    (result = .ok .pending →
      ∃ journal pubkey, after.world.ledger.writtenBy run = start.ledger.writtenBy run ++ [journal] ∧
        senderLeg (sends run).decodedInvoice (sends run).paymentFlow pubkey ∈ journal.legs ∧
        ∀ leg ∈ journal.legs, leg.metadata.pending = true) := by
  have good : (ownJournals paymentHash).inv start := ⟨numbered, noPending.ofOne⟩
  have settledBase : ∀ run, ∀ journal ∈ start.ledger.writtenBy run,
      ¬Ledger.HasPending paymentHash journal := fun run journal member =>
    Ledger.noPending_iff.mp noPending journal (Ledger.mem_writtenBy.mp member).1
  have runs := fun run =>
    OwnJournals.send_triple getAccountLimits (pays run) (settledBase run) start good rfl
  have post := reach_post (fun _ _ => OwnJournals.own_stable) good runs reach ended
  refine ⟨?_, ?_⟩
  · rintro (⟨error, rfl⟩ | rfl) account
    · exact post _
    · exact post _
  · rintro rfl
    obtain ⟨id, journal, sent⟩ := post
    obtain ⟨pubkey, sender⟩ := sent.sender
    refine ⟨journal, pubkey, sent.last, sender, fun leg member => ?_⟩
    have pending := sent.pending leg member
    simp only [Leg.isPendingFor, Bool.and_eq_true] at pending
    exact pending.2

section Example

def raceSend (run : RunId) : LnSend := sendOf (if run = 0 then "alice" else "bob")

def raceStart : Config World Call Reply (Result PaymentSendStatus) :=
  ⟨sendWorld, fun run => ((raceSend run).prog sendLimits).run⟩

def raceOutside (run : RunId) : Outside :=
  sendOutside (if run = 0 then .confirmed 0 "preimage" else paymentNoRoute) .pending

theorem raceSend_pays (run : RunId) : OwnJournals.Pays (raceSend run) "hash" :=
  ⟨rfl, by simp [raceSend, sendOf, sendFlow, PaymentFlow.paymentHashForFlow], sendFlow_nonneg _⟩

theorem failed_send_beside_paid_send_moves_nothing :
    ∃ after, Reach services (commitsAlone "hash") raceStart after ∧
      (∃ error, after.pool 1 = .pure (.error error)) ∧
      after.world.ledger.movedBy 0 (toLedgerAccountId "alice") = -1000 ∧
      ∀ account, after.world.ledger.movedBy 1 account = sendWorld.ledger.movedBy 1 account := by
  have played : (play services (commitsAlone "hash") (fun run => (raceOutside run).answers)
      (List.replicate 6 0 ++ List.replicate 9 1 ++ [0, 0] ++ List.replicate 5 1 ++
        List.replicate 7 0)
      raceStart).map (fun after => ((after.pool 1).result?.map (·.isOk),
        after.world.ledger.movedBy 0 (toLedgerAccountId "alice"))) = some (some false, -1000) := by
    decide +kernel
  obtain ⟨after, run, shown⟩ := Option.map_eq_some_iff.mp played
  obtain ⟨result, paid⟩ := Prod.mk.inj shown
  obtain ⟨result, ended, failed⟩ := Option.map_eq_some_iff.mp result
  have reach := play_reach _ _ _ _ _ _ run
  have done := Prog.result?_eq_some.mp ended
  cases result with
  | ok status => cases failed
  | error error =>
    exact ⟨after, reach, ⟨error, done⟩, paid, (failed_send_moves_nothing sendWorld_numbered
      sendWorld_noPending raceSend_pays reach 1 done).1 (.inl ⟨error, rfl⟩)⟩

theorem failed_send_of_race_stays_debited :
    ∃ after, Reach services ledgerAndReleasesWork raceStart after ∧
      (∃ error, after.pool 1 = .pure (.error error)) ∧
      sendWorld.ledger.movedBy 1 (toLedgerAccountId "bob") = 0 ∧
      after.world.ledger.movedBy 1 (toLedgerAccountId "bob") = -1010 := by
  have played : (play services ledgerAndReleasesWork (fun run => (raceOutside run).answers)
      (List.replicate 8 0 ++ List.replicate 8 1 ++ [0, 1] ++ List.replicate 6 0 ++
        List.replicate 4 1)
      raceStart).map (fun after => ((after.pool 1).result?.map (·.isOk),
        after.world.ledger.movedBy 1 (toLedgerAccountId "bob"))) = some (some false, -1010) := by
    decide +kernel
  obtain ⟨after, run, shown⟩ := Option.map_eq_some_iff.mp played
  obtain ⟨result, debited⟩ := Prod.mk.inj shown
  obtain ⟨result, ended, failed⟩ := Option.map_eq_some_iff.mp result
  cases result with
  | ok status => cases failed
  | error error =>
    exact ⟨after, play_reach _ _ _ _ _ _ run, ⟨error, Prog.result?_eq_some.mp ended⟩,
      by decide +kernel, debited⟩

end Example

end Galoy
