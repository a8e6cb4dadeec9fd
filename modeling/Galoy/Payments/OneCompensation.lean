import Galoy.Ledger.Compensations
import Galoy.Payments.LnSendEntry
import Galoy.Payments.PendingRuns

set_option autoImplicit false

namespace Galoy

open Interleave App SendLightning

structure Watched where
  paymentHash : PaymentHash
  sender : RunId
  base : List RunId
  since : Nat

structure Once (watched : Watched) (w : World) : Prop where
  numbered : w.ledger.Numbered
  oneHash : w.ledger.OneHash watched.paymentHash
  referring : w.ledger.Referring watched.since
  phase : w.ledger.settlers watched.paymentHash = watched.base ∧
      w.ledger.compensations watched.since watched.paymentHash = 0 ∨
    ∃ settler, w.ledger.settlers watched.paymentHash = watched.base ++ [settler] ∧
      w.ledger.NoPending watched.paymentHash ∧
      w.ledger.compensations watched.since watched.paymentHash ≤ 1

def Unsent (watched : Watched) (w : World) : Prop :=
  w.ledger.settlers watched.paymentHash = watched.base ∧ w.ledger.NoPending watched.paymentHash

-- The run that has settled may rely on nobody else compensating.
def oneCompensation (watched : Watched) : Discipline World where
  inv := Once watched
  rely run before after := before.ledger.Grows after.ledger ∧
    (before.ledger.settlers watched.paymentHash = watched.base ++ [run] →
      after.ledger.settlers watched.paymentHash = watched.base ++ [run] ∧
        after.ledger.compensations watched.since watched.paymentHash =
          before.ledger.compensations watched.since watched.paymentHash) ∧
    (run = watched.sender → Unsent watched before → Unsent watched after)
  rely_refl _ _ := ⟨.refl _, fun settled => ⟨settled, rfl⟩, fun _ unsent => unsent⟩
  rely_trans _ _ _ _ first second := by
    refine ⟨first.1.trans second.1, fun settled => ?_, fun own unsent => ?_⟩
    · obtain ⟨still, same⟩ := first.2.1 settled
      obtain ⟨later, again⟩ := second.2.1 still
      exact ⟨later, again.trans same⟩
    · exact second.2.2 own (first.2.2 own unsent)

namespace OneCompensation

variable {watched : Watched} {run : RunId}

def Token (watched : Watched) (run : RunId) (w : World) : Prop :=
  w.ledger.settlers watched.paymentHash = watched.base ++ [run] ∧
    w.ledger.compensations watched.since watched.paymentHash = 0

def Apart (watched : Watched) (id : LedgerJournalId) (w : World) : Prop :=
  w.ledger.Has id (fun journal => journal.ofHash watched.paymentHash = false)

def Written (id : LedgerJournalId) (w : World) : Prop := w.ledger.Has id (fun _ => True)

theorem ne_append_singleton (base : List RunId) (run : RunId) : base ≠ base ++ [run] := by
  intro same
  have lengths := congrArg List.length same
  simp at lengths

section Stable

theorem token_stable : (oneCompensation watched).Stable run (Token watched run) := by
  rintro before after between _ ⟨settled, zero⟩
  obtain ⟨still, same⟩ := between.2.1 settled
  exact ⟨still, same.trans zero⟩

theorem unsent_stable : (oneCompensation watched).Stable watched.sender (Unsent watched) :=
  fun _ _ between _ unsent => between.2.2 rfl unsent

theorem apart_stable {id : LedgerJournalId} : (oneCompensation watched).Stable run
    (Apart watched id) :=
  fun _ _ between _ apart => apart.grow between.1 fun _ _ evolves none => evolves.ofHash.trans none

theorem written_grows {id : LedgerJournalId} {before after : World}
    (grows : before.ledger.Grows after.ledger) (written : Written id before) : Written id after :=
  written.grow grows fun _ _ _ _ => trivial

theorem written_stable {id : LedgerJournalId} : (oneCompensation watched).Stable run (Written id) :=
  fun _ _ between _ written => written_grows between.1 written

theorem tokenWritten_stable {id : LedgerJournalId} :
    (oneCompensation watched).Stable run (fun w => Token watched run w ∧ Written id w) :=
  fun before after between good holds => ⟨token_stable before after between good holds.1,
    written_stable before after between good holds.2⟩

end Stable

section Steps

variable {before after : World} {c : Call} {a : Answer c} {reply : Reply c}

theorem noPending_of_token (good : Once watched before) (token : Token watched run before) :
    before.ledger.NoPending watched.paymentHash := by
  rcases good.phase with ⟨none, _⟩ | ⟨_, _, quiet, _⟩
  · exact absurd (none.symm.trans token.1) (ne_append_singleton _ run)
  · exact quiet

structure Inert (watched : Watched) (before after : World) : Prop where
  oneHash : after.ledger.OneHash watched.paymentHash
  referring : after.ledger.Referring watched.since
  settlers : after.ledger.settlers watched.paymentHash = before.ledger.settlers watched.paymentHash
  compensations : after.ledger.compensations watched.since watched.paymentHash =
    before.ledger.compensations watched.since watched.paymentHash
  noPending : before.ledger.NoPending watched.paymentHash →
    after.ledger.NoPending watched.paymentHash

theorem Inert.same (good : Once watched before) (same : after.ledger = before.ledger) :
    Inert watched before after := by
  constructor <;> rw [same]
  · exact good.oneHash
  · exact good.referring
  · exact id

theorem Inert.once (inert : Inert watched before after) (good : Once watched before)
    (served : serve run before c a = some (reply, after)) : Once watched after := by
  refine ⟨serve_numbered served good.numbered, inert.oneHash, inert.referring, ?_⟩
  rw [inert.settlers, inert.compensations]
  rcases good.phase with ⟨none, zero⟩ | ⟨settler, settled, quiet, one⟩
  · exact .inl ⟨none, zero⟩
  · exact .inr ⟨settler, settled, inert.noPending quiet, one⟩

theorem Inert.rely (inert : Inert watched before after) (grows : before.ledger.Grows after.ledger)
    (run : RunId) : (oneCompensation watched).rely run before after := by
  refine ⟨grows, fun settled => ⟨inert.settlers.trans settled, inert.compensations⟩,
    fun _ unsent => ?_⟩
  exact ⟨inert.settlers.trans unsent.1, inert.noPending unsent.2⟩

theorem Inert.guaranteed (inert : Inert watched before after) (good : Once watched before)
    (served : serve run before c a = some (reply, after)) :
    (oneCompensation watched).Guaranteed run before after :=
  ⟨inert.once good served, fun other _ => inert.rely (serve_grows served) other⟩

theorem token_guaranteed (good : Once watched before) (token : Token watched run before)
    (served : serve run before c a = some (reply, after))
    (oneHash : after.ledger.OneHash watched.paymentHash)
    (referring : after.ledger.Referring watched.since)
    (settlers : after.ledger.settlers watched.paymentHash =
      before.ledger.settlers watched.paymentHash)
    (noPending : after.ledger.NoPending watched.paymentHash)
    (one : after.ledger.compensations watched.since watched.paymentHash ≤
      before.ledger.compensations watched.since watched.paymentHash + 1) :
    (oneCompensation watched).Guaranteed run before after := by
  rw [token.2] at one
  refine ⟨⟨serve_numbered served good.numbered, oneHash, referring,
    .inr ⟨run, settlers.trans token.1, noPending, one⟩⟩, fun other different =>
      ⟨serve_grows served, fun theirs => ?_, fun _ unsent => ?_⟩⟩
  · have same : watched.base ++ [other] = watched.base ++ [run] := theirs.symm.trans token.1
    simp only [List.append_cancel_left_eq, List.cons.injEq, and_true] at same
    exact absurd same different
  · exact absurd (unsent.1.symm.trans token.1) (ne_append_singleton _ run)

theorem settle_inert {settled : PaymentHash} (good : Once watched before)
    (quiet : settled = watched.paymentHash → before.ledger.NoPending watched.paymentHash) :
    Inert watched before { before with ledger := before.ledger.settlePending run settled } where
  oneHash := good.oneHash.settlePending
  referring := good.referring.settlePending
  settlers := Ledger.settlers_settlePending_quiet quiet
  compensations := Ledger.compensations_settlePending good.referring
  noPending noPending := noPending.settlePending

theorem settle_takes (good : Once watched before)
    (pending : ¬before.ledger.NoPending watched.paymentHash)
    (served : serve run before c a =
      some (reply, { before with ledger := before.ledger.settlePending run watched.paymentHash })) :
    (oneCompensation watched).Guaranteed run before
        { before with ledger := before.ledger.settlePending run watched.paymentHash } ∧
      Token watched run
        { before with ledger := before.ledger.settlePending run watched.paymentHash } := by
  obtain ⟨none, zero⟩ : before.ledger.settlers watched.paymentHash = watched.base ∧
      before.ledger.compensations watched.since watched.paymentHash = 0 := by
    rcases good.phase with first | ⟨_, _, quiet, _⟩
    · exact first
    · exact absurd quiet pending
  have settlers : (before.ledger.settlePending run watched.paymentHash).settlers
      watched.paymentHash =
      watched.base ++ [run] := by
    rw [Ledger.settlers_settlePending pending, none]
  have compensations : (before.ledger.settlePending run watched.paymentHash).compensations
      watched.since watched.paymentHash = 0 := by
    rw [Ledger.compensations_settlePending good.referring, zero]
  refine ⟨⟨⟨good.numbered.settlePending _ _, good.oneHash.settlePending,
    good.referring.settlePending,
    .inr ⟨run, settlers, Ledger.noPending_settlePending run, by dsimp only; omega⟩⟩, fun other _ =>
      ⟨serve_grows served, fun theirs => ?_, fun _ unsent => ?_⟩⟩, settlers, compensations⟩
  · exact absurd (none.symm.trans theirs) (ne_append_singleton _ other)
  · exact absurd unsent.2 pending

def Harmless (paymentHash : PaymentHash) : Call → Prop
  | .recordSend _ | .recordReceive _ | .recordIntraledger _ => False
  | .recordLnSendRevert _ | .revertLightningPayment _ => False
  | .settlePendingLnSend settled => settled ≠ paymentHash
  | .settlePendingLnPayment settled => settled ≠ paymentHash
  | _ => True

theorem reads_harmless {paymentHash : PaymentHash} (c : Call) (reads : c.reads) :
    Harmless paymentHash c := by
  cases c <;> trivial

theorem harmless_inert (good : Once watched before) (harmless : Harmless watched.paymentHash c)
    (served : serve run before c a = some (reply, after)) : Inert watched before after := by
  by_cases part : c.part = .ledger
  · cases c
    case settlePendingLnSend settled =>
      obtain ⟨_, _, rfl⟩ | ⟨rfl, _⟩ := World.settle_inversion served
      · exact .same good rfl
      · exact settle_inert good fun same => absurd same harmless
    case settlePendingLnPayment settled =>
      obtain ⟨_, _, rfl⟩ | ⟨rfl, _⟩ := World.settle_inversion served
      · exact .same good rfl
      · exact settle_inert good fun same => absurd same harmless
    all_goals first | exact False.elim harmless | cases part
  · exact .same good ((serve_frame served).ledger part)

theorem harmless_kept {keep : World → Prop} (stable : (oneCompensation watched).Stable run keep)
    (harmless : Harmless watched.paymentHash c) (good : Once watched before) (holds : keep before)
    (served : serve run before c a = some (reply, after)) :
    (oneCompensation watched).Guaranteed run before after ∧ keep after := by
  have inert := harmless_inert good harmless served
  exact ⟨inert.guaranteed good served,
    stable before after (inert.rely (serve_grows served) run) (inert.once good served) holds⟩

theorem settle_step {fault : Option String} {result : Result Unit} (good : Once watched before)
    (served : serve run before c a = some (reply, after))
    (settles : before.settle run watched.paymentHash fault = some (result, after)) :
    (oneCompensation watched).Guaranteed run before after ∧
      outcome (fun _ => Token watched run) (fun _ _ => True) result after := by
  obtain ⟨_, ⟨error, rfl⟩, rfl⟩ | ⟨rfl, ⟨rfl, positive⟩ | ⟨⟨error, rfl⟩, zero⟩⟩ :=
    World.settle_inversion settles
  · exact ⟨(Inert.same good rfl).guaranteed good served, trivial⟩
  · exact settle_takes good (Ledger.modifiedCount_pos.mp positive) served
  · exact ⟨(settle_inert good fun _ => Ledger.noPending_of_count zero).guaranteed good served,
      trivial⟩

variable {id : LedgerJournalId} {answer : TimedAnswer}

theorem settled_legs {entry : Entry} {metadata : TxMetadata} {paymentHash : PaymentHash}
    (tagged : entry.Tagged metadata) (settled : metadata.pending = false) :
    ∀ leg ∈ entry.transactions, leg.isPendingFor paymentHash = false := by
  intro leg member
  obtain ⟨additional, same⟩ := tagged leg member
  simp [Leg.isPendingFor, same, TxMetadata.override, settled]

section Receive

variable {args : RecordReceiveArgs} {result : Result LedgerJournalId}
  (settled : args.metadata.pending = false) (related : args.metadata.relatedJournal = some id)
  (good : Once watched before) (served : serve run before c a = some (reply, after))
  (records : before.commit run (LedgerFacade.recordReceive before.bank args) answer =
    some (result, after))

include settled related good served records

theorem token_receive (token : Token watched run before) (written : Written id before) :
    (oneCompensation watched).Guaranteed run before after := by
  obtain ⟨_, _, rfl⟩ | ⟨_, clock, rfl⟩ := World.commit_inversion records
  · exact (Inert.same good rfl).guaranteed good served
  · have tagged := recordReceive_tagged before.bank args
    refine token_guaranteed good token served (good.oneHash.commit tagged)
      (good.referring.commit tagged fun ref isRef => ?_) rfl
      ((noPending_of_token good token).commit _ _ (settled_legs tagged settled))
      (Ledger.compensations_commit_le good.referring)
    obtain rfl := Option.some.inj (related.symm.trans isRef)
    exact written.bound

theorem apart_receive (apart : Apart watched id before) :
    (oneCompensation watched).Guaranteed run before after := by
  obtain ⟨_, _, rfl⟩ | ⟨_, clock, rfl⟩ := World.commit_inversion records
  · exact (Inert.same good rfl).guaranteed good served
  · have tagged := recordReceive_tagged before.bank args
    have refers : ∀ ref, args.metadata.relatedJournal = some ref → Apart watched ref before := by
      intro ref isRef
      obtain rfl := Option.some.inj (related.symm.trans isRef)
      exact apart
    have inert : Inert watched before
        { before with clock, ledger := before.ledger.commit run clock _ } :=
      ⟨good.oneHash.commit tagged, good.referring.commit tagged fun ref isRef =>
        (refers ref isRef).bound, rfl, Ledger.compensations_commit_other tagged
        good.referring refers,
        fun quiet => quiet.commit _ _ (settled_legs tagged settled)⟩
    exact inert.guaranteed good served

end Receive

section Void

variable {result : Result Unit} (good : Once watched before)
  (served : serve run before c a = some (reply, after))
  (voids : before.void run id answer = some (result, after))

include good served voids

theorem token_void (token : Token watched run before) :
    (oneCompensation watched).Guaranteed run before after := by
  obtain ⟨_, rfl, _⟩ | ⟨_, clock, ledger, voided, rfl⟩ := World.void_inversion voids
  · exact (Inert.same good rfl).guaranteed good served
  · exact token_guaranteed good token served (good.oneHash.void voided)
      (good.referring.void good.numbered voided) (Ledger.settlers_void voided)
      ((noPending_of_token good token).void voided)
        (Ledger.compensations_void_le good.referring voided)

theorem apart_void (apart : Apart watched id before) :
    (oneCompensation watched).Guaranteed run before after := by
  obtain ⟨_, rfl, _⟩ | ⟨_, clock, ledger, voided, rfl⟩ := World.void_inversion voids
  · exact (Inert.same good rfl).guaranteed good served
  · have inert : Inert watched before { before with clock, ledger } :=
      ⟨good.oneHash.void voided, good.referring.void good.numbered voided,
        Ledger.settlers_void voided, Ledger.compensations_void_other good.referring apart voided,
        fun quiet => quiet.void voided⟩
    exact inert.guaranteed good served

end Void

end Steps

section Parts

variable {α : Type}

theorem harmless_spec {keep : World → Prop} {x : App α}
    (stable : (oneCompensation watched).Stable run keep)
    (only : OnlyRun (Harmless watched.paymentHash) x) :
    Spec services (anyStep services) (oneCompensation watched) run keep x (fun _ => keep)
      (fun _ _ => True) :=
  Spec.weaken_err (Spec.ofOnly stable (fun _ harmless _ _ _ _ good holds _ served =>
    harmless_kept stable harmless good holds served) only) (fun _ _ _ _ => trivial)

theorem last_spec {pre : World → Prop} {x : App α}
    (only : OnlyRun (Harmless watched.paymentHash) x) :
    Spec services (anyStep services) (oneCompensation watched) run pre x (fun _ _ => True)
      (fun _ _ => True) :=
  Spec.strengthen_pre (harmless_spec (Discipline.stable_true _ run) only) (fun _ _ _ => trivial)

theorem withLock_keeps {key : LockKey} {keep : World → Prop} {x : App α}
    (stable : (oneCompensation watched).Stable run keep)
    (inside : Spec services (anyStep services) (oneCompensation watched) run keep x
      (fun _ _ => True) (fun _ _ => True)) :
    Spec services (anyStep services) (oneCompensation watched) run keep (withLock key x)
      (fun _ _ => True) (fun _ _ => True) :=
  withLock_spec (harmless_spec stable (only_fallible (only_ask trivial))) inside
    (fun _ => last_spec (only_fallible (only_ask trivial)))
    (fun _ => last_spec (only_fallible (only_ask trivial)))

theorem takes_token {id : LedgerJournalId} {x : App α}
    (settles : Spec services (anyStep services) (oneCompensation watched) run (fun _ => True) x
      (fun _ => Token watched run) (fun _ _ => True)) :
    Spec services (anyStep services) (oneCompensation watched) run (Written id) x
      (fun _ w => Token watched run w ∧ Written id w) (fun _ _ => True) :=
  Spec.conseq (Spec.frame written_stable (fun _ _ _ _ _ written served =>
    written_grows (serve_grows served) written) settles)
    (fun _ _ written => ⟨trivial, written⟩) (fun _ _ _ h => h) (fun _ _ _ _ => trivial)

theorem settle_token {p : Prog Call Reply (Result Unit)} (settles : Settles watched.paymentHash p) :
    Spec services (anyStep services) (oneCompensation watched) run (fun _ => True) (fallible p)
      (fun _ => Token watched run) (fun _ _ => True) := by
  cases settles
  all_goals
    refine fallible_spec (ask_triple (Discipline.stable_true _ run) ?_)
    intro before a reply after good _ _ served
    exact settle_step good served served

end Parts

section Compensation

variable {id : LedgerJournalId} {pre : World → Prop}

structure MayCompensate (watched : Watched) (run : RunId) (id : LedgerJournalId)
    (pre : World → Prop) : Prop where
  stable : (oneCompensation watched).Stable run pre
  receive : ∀ args : RecordReceiveArgs, args.metadata.pending = false →
    args.metadata.relatedJournal = some id →
    Spec services (anyStep services) (oneCompensation watched) run pre
      (fallible (ask (.recordReceive args))) (fun _ _ => True) (fun _ _ => True)
  revert : Spec services (anyStep services) (oneCompensation watched) run pre
    (fallible (ask (.recordLnSendRevert id))) (fun _ _ => True) (fun _ _ => True)
  void : Spec services (anyStep services) (oneCompensation watched) run pre
    (fallible (ask (.revertLightningPayment id))) (fun _ _ => True) (fun _ _ => True)

theorem mayCompensate_token :
    MayCompensate watched run id (fun w => Token watched run w ∧ Written id w) := by
  refine ⟨tokenWritten_stable, fun args settled related => ?_, ?_, ?_⟩
  all_goals
    refine fallible_spec (ask_triple tokenWritten_stable ?_)
    intro before a reply after good holds _ served
    refine ⟨?_, by cases reply <;> trivial⟩
  · exact token_receive settled related good served served holds.1 holds.2
  · exact token_void good served served holds.1
  · exact token_void good served served holds.1

theorem mayCompensate_apart : MayCompensate watched run id (Apart watched id) := by
  refine ⟨apart_stable, fun args settled related => ?_, ?_, ?_⟩
  all_goals
    refine fallible_spec (ask_triple apart_stable ?_)
    intro before a reply after good apart _ served
    refine ⟨?_, by cases reply <;> trivial⟩
  · exact apart_receive settled related good served served apart
  · exact apart_void good served served apart
  · exact apart_void good served served apart

variable (may : MayCompensate watched run id pre) {paymentFlow : PaymentFlow}

include may

theorem reimburseFee_once (actualFee : Int) :
    Spec services (anyStep services) (oneCompensation watched) run pre
      (reimburseFee paymentFlow id actualFee) (fun _ _ => True) (fun _ _ => True) := by
  unfold reimburseFee
  refine ofResult_bind_spec (fun _ _ => ?_) (fun _ _ _ _ _ => trivial)
  refine ofResult_bind_spec (fun _ _ => ?_) (fun _ _ _ _ _ => trivial)
  split
  · exact Spec.pure fun _ _ _ => trivial
  · split
    · exact Spec.pure fun _ _ _ => trivial
    · refine ofResult_bind_spec (fun _ _ => ?_) (fun _ _ _ _ _ => trivial)
      exact Spec.bind (may.receive _ rfl rfl) fun _ => Spec.pure fun _ _ _ => trivial

theorem reimburseFailedUsdPayment_once :
    Spec services (anyStep services) (oneCompensation watched) run pre
      (reimburseFailedUsdPayment paymentFlow id) (fun _ _ => True) (fun _ _ => True) := by
  refine ofResult_bind_spec (fun _ _ => ?_) (fun _ _ _ _ _ => trivial)
  refine Spec.bind (harmless_spec may.stable (only_fallible (only_ask trivial))) fun wallet => ?_
  refine Spec.bind (harmless_spec may.stable (recipientBtcWallet_only reads_harmless wallet))
    fun _ => ?_
  exact Spec.bind (may.receive _ rfl rfl) fun _ => Spec.pure fun _ _ _ => trivial

end Compensation

section Send

variable {send : LnSend}

theorem recordSend_unsent (defaultPubkey : Pubkey) :
    Spec services (anyStep services) (oneCompensation watched) watched.sender (Unsent watched)
      (fallible (ask (.recordSend (lnSendArgs send.decodedInvoice send.paymentFlow defaultPubkey))))
      (fun id => Written id) (fun _ _ => True) := by
  refine fallible_spec (ask_triple unsent_stable ?_)
  intro before a reply after good unsent _ served
  obtain ⟨_, ⟨error, rfl⟩, rfl⟩ | ⟨rfl, clock, rfl⟩ := World.commit_inversion served
  · exact ⟨(Inert.same good rfl).guaranteed good served, trivial⟩
  have tagged := recordSend_tagged before.bank
    (lnSendArgs send.decodedInvoice send.paymentFlow defaultPubkey)
  have zero : before.ledger.compensations watched.since watched.paymentHash = 0 := by
    rcases good.phase with ⟨_, zero⟩ | ⟨settler, settled, _⟩
    · exact zero
    · exact absurd (unsent.1.symm.trans settled) (ne_append_singleton _ settler)
  refine ⟨⟨⟨good.numbered.commit _ _ _, good.oneHash.commit tagged,
    good.referring.commit tagged (fun _ none => by cases none), .inl ⟨unsent.1, ?_⟩⟩,
    fun other different => ⟨serve_grows served, fun theirs => ?_, fun own => absurd own different⟩⟩,
      ?_⟩
  · rw [Ledger.compensations_commit_other tagged good.referring (fun _ none => by cases none), zero]
  · exact absurd (unsent.1.symm.trans theirs) (ne_append_singleton _ other)
  · exact ⟨_, List.getElem?_concat_length, trivial⟩

variable (isHash : send.decodedInvoice.paymentHash = watched.paymentHash)

include isHash

theorem resolveLnSend_once {id : LedgerJournalId} (payResult : Result PayInvoiceResult) :
    Spec services (anyStep services) (oneCompensation watched) run (Written id)
      (resolveLnSend send.decodedInvoice send.paymentFlow id payResult) (fun _ _ => True)
      (fun _ _ => True) := by
  have settles : Spec services (anyStep services) (oneCompensation watched) run (Written id)
      (fallible (ask (.settlePendingLnSend send.decodedInvoice.paymentHash)))
      (fun _ w => Token watched run w ∧ Written id w) (fun _ _ => True) := by
    rw [isHash]
    exact takes_token (settle_token .lnSend)
  cases payResult with
  | ok result =>
    refine Spec.bind settles fun _ => ?_
    split
    · exact Spec.pure fun _ _ _ => trivial
    · exact Spec.bind (reimburseFee_once mayCompensate_token _) fun _ =>
        Spec.pure fun _ _ _ => trivial
  | error error =>
    unfold resolveLnSend
    dsimp only
    split
    · exact last_spec (OnlyRun.bind (only_total (only_ask trivial)) fun _ => OnlyRun.pure _)
    · refine Spec.bind settles fun _ => Spec.bind mayCompensate_token.revert fun _ => ?_
      split
      · exact Spec.pure fun _ _ _ => trivial
      · exact Spec.throw fun _ _ _ => trivial

theorem send_once (getAccountLimits : AccountLevel → AccountLimits) :
    Spec services (anyStep services) (oneCompensation watched) watched.sender (Unsent watched)
      (send.prog getAccountLimits) (fun _ _ => True) (fun _ _ => True) := by
  have unsent {α : Type} {x : App α} (only : OnlyRun (Harmless watched.paymentHash) x) :
      Spec services (anyStep services) (oneCompensation watched) watched.sender (Unsent watched) x
        (fun _ => Unsent watched) (fun _ _ => True) :=
    harmless_spec unsent_stable only
  refine Spec.bind (unsent (getPriceRatioForLimits_only reads_harmless _)) fun _ => ?_
  refine Spec.bind (unsent (newCheckLimits_only reads_harmless _ _ _ _ _ _)) fun _ => ?_
  refine withLock_keeps unsent_stable (Spec.seq (fun recorded => Written recorded.1) ?_
    fun recorded => ?_)
  · refine Spec.bind (unsent (checkNotInTransit_only reads_harmless _)) fun _ => ?_
    refine Spec.bind (unsent (checkBalance_only reads_harmless _ _)) fun _ => ?_
    refine Spec.bind (unsent (only_fallible (only_ask trivial))) fun defaultPubkey => ?_
    refine Spec.bind (unsent (only_ofResult _)) fun _ => ?_
    refine Spec.bind (unsent (checkNotAborted_only reads_harmless _)) fun _ => ?_
    exact Spec.bind (recordSend_unsent defaultPubkey) fun _ => Spec.pure fun _ _ h => h
  · refine Spec.bind (harmless_spec written_stable
      (only_attempt (payInvoice_only reads_harmless _ _ _))) fun payResult => ?_
    refine Spec.bind (persistLnPayment_spec (fun c reads => ?_) _ _ _ _) fun _ =>
      resolveLnSend_once isHash payResult
    exact ask_triple written_stable fun _ _ _ _ good holds _ served =>
      harmless_kept written_stable (reads_harmless c reads) good holds served

end Send

section Job

def Item (tx : LedgerTransaction) (w : World) : Prop :=
  ∀ hash, tx.paymentHash = some hash →
    w.ledger.Has tx.journalId (fun journal => journal.ofHash hash = true)

theorem item_lasting : Lasting (oneCompensation watched) run Item where
  grows _ _ between := between.1
  kept _ _ _ grows item hash isHash :=
    (item hash isHash).grow grows fun _ _ evolves some => evolves.ofHash.trans some

theorem listed_item {w : World} (numbered : w.ledger.Numbered) {walletId : WalletId}
    {tx : LedgerTransaction} (listed : tx ∈ w.ledger.listPendingPayments walletId) : Item tx w := by
  obtain ⟨journal, inLedger, leg, inJournal, _, rfl⟩ := Ledger.mem_transactions.mp listed
  intro hash isHash
  obtain ⟨i, at_⟩ := List.getElem?_of_mem inLedger
  have isId : (translateToLedgerTx journal leg).journalId = i := numbered i journal at_
  refine ⟨journal, by rw [isId]; exact at_, List.any_eq_true.mpr ⟨leg, inJournal, ?_⟩⟩
  simp [Leg.ofHash, (Ledger.orUndefined_eq_some isHash).1]

variable {walletId : WalletId} {tx : LedgerTransaction} {lookup : LnPaymentLookup}
  {hash : PaymentHash}

theorem item_written (isHash : tx.paymentHash = some hash) {w : World} (item : Item tx w) :
    Written tx.journalId w := by
  obtain ⟨journal, at_, _⟩ := item hash isHash
  exact ⟨journal, at_, trivial⟩

theorem item_apart (isHash : tx.paymentHash = some hash) (different : hash ≠ watched.paymentHash)
    {w : World} (good : Once watched w) (item : Item tx w) : Apart watched tx.journalId w := by
  obtain ⟨journal, at_, some⟩ := item hash isHash
  refine ⟨journal, at_, Bool.eq_false_iff.mpr fun also => different ?_⟩
  obtain ⟨leg, member, ofHash⟩ := List.any_eq_true.mp some
  have both := good.oneHash journal (List.mem_of_getElem? at_) also leg member
  simp only [Leg.ofHash, decide_eq_true_eq] at ofHash both
  exact Option.some.inj (ofHash.symm.trans both)

theorem behindLock_once {keep pre : World → Prop}
    (stable : (oneCompensation watched).Stable run keep)
    (may : MayCompensate watched run tx.journalId pre)
      (settles : Spec services (anyStep services) (oneCompensation watched) run keep
        (fallible (ask (.settlePendingLnPayment hash))) (fun _ => pre) (fun _ _ => True)) :
    Spec services (anyStep services) (oneCompensation watched) run keep
      (updatePendingPaymentBehindLock walletId tx hash lookup) (fun _ _ => True)
      (fun _ _ => True) := by
  refine Spec.bind (harmless_spec stable (only_fallible (only_ask trivial))) fun recorded => ?_
  split
  · exact Spec.pure fun _ _ _ => trivial
  refine Spec.bind (harmless_spec stable (only_ofResult _)) fun inputAmount => ?_
  refine Spec.bind (harmless_spec stable (flowOfPendingPayment_only reads_harmless _ trivial))
    fun paymentFlow => ?_
  refine Spec.bind settles fun _ => ?_
  cases lookup.status with
  | pending => exact Spec.pure fun _ _ _ => trivial
  | settled =>
    refine Spec.bind (storePreImage_spec (fun c reads => ?_) _ _) fun _ => ?_
    · exact ask_triple may.stable fun _ _ _ _ good holds _ served =>
        harmless_kept may.stable (reads_harmless c reads) good holds served
    · split
      · exact Spec.pure fun _ _ _ => trivial
      · split
        · exact reimburseFee_once may _
        · exact Spec.throw fun _ _ _ => trivial
  | failed =>
    dsimp only [failPendingPayment]
    split
    · exact may.void
    · exact reimburseFailedUsdPayment_once may

theorem job_once (walletId : WalletId) :
    Spec services (anyStep services) (oneCompensation watched) run (fun _ => True)
      (updatePendingPaymentsByWalletId walletId) (fun _ _ => True) (fun _ _ => True) := by
  refine updatePendingPaymentsByWalletId_run item_lasting ?_ ?_ fun w good tx listed =>
    listed_item good.numbered listed
  · intro c reads before a reply after good _ served
    exact (harmless_kept (Discipline.stable_true _ run) (reads_harmless c reads) good
      trivial served).1
  · intro tx hash lookup isHash
    refine withLock_keeps (item_lasting.stable tx) ?_
    by_cases same : hash = watched.paymentHash
    · subst same
      exact Spec.strengthen_pre (behindLock_once written_stable mayCompensate_token
        (takes_token (settle_token .lnPayment))) (fun _ _ item => item_written isHash item)
    · exact Spec.strengthen_pre (behindLock_once apart_stable mayCompensate_apart
        (harmless_spec apart_stable (only_fallible (only_ask same))))
        (fun _ good item => item_apart isHash same good item)

end Job

end OneCompensation

def sendAndJobs (getAccountLimits : AccountLevel → AccountLimits) (send : LnSend) (sender : RunId)
    (walletIds : RunId → WalletId) (run : RunId) : Prog Call Reply Unit :=
  if run = sender then do
    let _ ← (send.prog getAccountLimits).run
    .pure ()
  else do
    let _ ← (updatePendingPaymentsByWalletId (walletIds run)).run
    .pure ()

theorem send_compensated_at_most_once {getAccountLimits : AccountLevel → AccountLimits}
    {send : LnSend} {sender : RunId} {walletIds : RunId → WalletId} {start : World}
    (numbered : start.ledger.Numbered)
    (unrecorded : ∀ leg ∈ start.ledger.legs, leg.ofHash send.decodedInvoice.paymentHash = false)
    {after : Config World Call Reply Unit}
    (reach : Reach services (anyStep services)
      ⟨start, sendAndJobs getAccountLimits send sender walletIds⟩ after) :
    after.world.ledger.compensations start.ledger.journals.length send.decodedInvoice.paymentHash ≤
      1 := by
  have noPending : start.ledger.NoPending send.decodedInvoice.paymentHash := by
    intro leg member
    simp [Leg.isPendingFor, unrecorded leg member]
  let watched : Watched :=
    ⟨send.decodedInvoice.paymentHash, sender, start.ledger.settlers send.decodedInvoice.paymentHash,
      start.ledger.journals.length⟩
  have good : (oneCompensation watched).inv start :=
    ⟨numbered, Ledger.oneHash_of_no_legs unrecorded, Ledger.referring_length,
      .inl ⟨rfl, Ledger.compensations_length⟩⟩
  have runs : ∀ run, wp services (anyStep services) (oneCompensation watched) run
      (sendAndJobs getAccountLimits send sender walletIds run) (fun _ _ => True) start := by
    intro run
    unfold sendAndJobs
    split
    · rename_i same
      subst same
      have sends : Spec services (anyStep services) (oneCompensation watched) watched.sender
          (Unsent watched) (send.prog getAccountLimits) (fun _ _ => True) (fun _ _ => True) :=
        OneCompensation.send_once rfl getAccountLimits
      exact Triple.discard sends start good ⟨rfl, noPending⟩
    · exact Triple.discard (OneCompensation.job_once (walletIds run)) start good trivial
  have kept := reach_inv good runs reach
  -- Either nobody has settled the send, or one run has and it alone compensates.
  rcases kept.phase with ⟨_, zero⟩ | ⟨_, _, _, one⟩
  · exact le_of_eq_of_le zero (Nat.zero_le 1)
  · exact one

section Example

def timedOutStart : Config World Call Reply Unit :=
  ⟨sendWorld, sendAndJobs sendLimits (sendOf "alice") 0 (fun _ => "alice")⟩

theorem timed_out_send_compensated_once :
    ∃ after, Reach services (anyStep services) timedOutStart after ∧
      after.world.ledger.compensations sendWorld.ledger.journals.length "hash" = 1 ∧
      after.world.ledger.compensations sendWorld.ledger.journals.length "hash" ≤ 1 := by
  have played : (play services (anyStep services)
      (fun _ => (sendOutside paymentTimeout .failed).answers)
      (List.replicate 13 0 ++ List.replicate 4 1 ++ List.replicate 14 2 ++ List.replicate 3 1)
      timedOutStart).map
        (·.world.ledger.compensations sendWorld.ledger.journals.length "hash") = some 1 := by
    decide +kernel
  obtain ⟨after, run, compensated⟩ := Option.map_eq_some_iff.mp played
  have reach := play_reach _ _ _ _ _ _ run
  exact ⟨after, reach, compensated,
    send_compensated_at_most_once sendWorld_numbered (by decide +kernel) reach⟩

end Example

end Galoy
