import Galoy.Ledger.Journals
import Galoy.Payments.Requests

set_option autoImplicit false

namespace Galoy

open Interleave App SendLightning

def Journal.isLnIntraledgerFor (paymentHash : PaymentHash) (journal : Journal) : Bool :=
  journal.legs.any fun leg =>
    leg.ofHash paymentHash && leg.metadata.type ∈ [.lnIntraLedger, .lnTradeIntraAccount]

def Ledger.lnIntraledgers (ledger : Ledger) (paymentHash : PaymentHash) : Nat :=
  ledger.journals.countP (·.isLnIntraledgerFor paymentHash)

section Discipline

variable (payments : RunId → LnIntraledgerPayment)

def Inside (run : RunId) (w : World) : Prop :=
  w.locks (.wallet (payments run).senderWallet.id) = some run

-- A run takes the lock of its wallet while no other one holds the lock of its own.
def entersAlone : Permit services := fun run w c _ =>
  c = .acquire (.wallet (payments run).senderWallet.id) → ∀ other, ¬Inside payments other w

def onePayment (paymentHash : PaymentHash) : Discipline World where
  inv w := (∀ first second, Inside payments first w → Inside payments second w → first = second) ∧
    (w.ledger.lnIntraledgers paymentHash = 0 ∨
      w.ledger.lnIntraledgers paymentHash = 1 ∧ w.ledger.isLnTxRecorded paymentHash = true)
  rely run before after :=
    Inside payments run before → Inside payments run after ∧
      after.ledger.lnIntraledgers paymentHash = before.ledger.lnIntraledgers paymentHash
  rely_refl _ _ inside := ⟨inside, rfl⟩
  rely_trans _ _ _ _ first second inside := by
    obtain ⟨still, same⟩ := first inside
    obtain ⟨later, again⟩ := second still
    exact ⟨later, again.trans same⟩

end Discipline

namespace OnePayment

variable {payments : RunId → LnIntraledgerPayment} {paymentHash : PaymentHash} {run : RunId}

section Steps

variable {before after : World}

theorem quiet_guaranteed (good : (onePayment payments paymentHash).inv before)
    (locks : after.locks = before.locks) (ledger : after.ledger = before.ledger) :
    (onePayment payments paymentHash).Guaranteed run before after := by
  have same : ∀ other, Inside payments other after ↔ Inside payments other before := by
    intro other
    unfold Inside
    rw [locks]
  refine ⟨⟨fun first second inFirst inSecond => ?_, ?_⟩, fun other _ inside => ⟨?_, ?_⟩⟩
  · exact good.1 first second ((same first).mp inFirst) ((same second).mp inSecond)
  · rw [ledger]
    exact good.2
  · exact (same other).mpr inside
  · rw [ledger]

theorem acquire_guaranteed (good : (onePayment payments paymentHash).inv before)
    (alone : ∀ other, ¬Inside payments other before) :
    (onePayment payments paymentHash).Guaranteed run before
      { before with
        locks :=
          Function.update before.locks (.wallet (payments run).senderWallet.id) (some run) } := by
  have isRun : ∀ other, Inside payments other { before with
      locks := Function.update before.locks (.wallet (payments run).senderWallet.id) (some run) } →
      other = run := by
    intro other inside
    unfold Inside at inside
    by_cases same : LockKey.wallet (payments other).senderWallet.id =
      .wallet (payments run).senderWallet.id
    · simp only [same, Function.update_self, Option.some.injEq] at inside
      exact inside.symm
    · simp only [Function.update_of_ne same] at inside
      exact absurd inside (alone other)
  refine ⟨⟨fun first second inFirst inSecond => ?_, good.2⟩, fun other _ inside => ?_⟩
  · rw [isRun first inFirst, isRun second inSecond]
  · exact absurd inside (alone other)

theorem release_guaranteed {key : LockKey} (good : (onePayment payments paymentHash).inv before) :
    (onePayment payments paymentHash).Guaranteed run before
      { before with
        locks := if before.locks key = some run then Function.update before.locks key none
          else before.locks } := by
  by_cases held : before.locks key = some run
  · rw [if_pos held]
    have wasInside : ∀ other, Inside payments other
        { before with locks := Function.update before.locks key none } →
          Inside payments other before := by
      intro other inside
      unfold Inside at *
      by_cases same : LockKey.wallet (payments other).senderWallet.id = key
      · simp [same] at inside
      · simpa only [Function.update_of_ne same] using inside
    refine ⟨⟨fun first second inFirst inSecond => ?_, good.2⟩, fun other different inside =>
      ⟨?_, rfl⟩⟩
    · exact good.1 first second (wasInside first inFirst) (wasInside second inSecond)
    · have another : LockKey.wallet (payments other).senderWallet.id ≠ key := by
        intro same
        unfold Inside at inside
        rw [same, held] at inside
        exact different (Option.some.inj inside).symm
      unfold Inside
      simp only [Function.update_of_ne another]
      exact inside
  · rw [if_neg held]
    exact quiet_guaranteed good rfl rfl

theorem commit_recorded {ledger : Ledger} {clock : Nat} {bank : BankWallets}
    {args : RecordIntraledgerArgs} (settled : args.metadata.pending = false)
    (zero : ledger.lnIntraledgers paymentHash = 0) :
    (ledger.commit run clock (LedgerFacade.recordIntraledger bank args)).lnIntraledgers
      paymentHash = 0 ∨
      (ledger.commit run clock (LedgerFacade.recordIntraledger bank args)).lnIntraledgers
        paymentHash = 1 ∧
        (ledger.commit run clock (LedgerFacade.recordIntraledger bank args)).isLnTxRecorded
          paymentHash =
          true := by
  have counted : (ledger.commit run clock
      (LedgerFacade.recordIntraledger bank args)).lnIntraledgers paymentHash =
        if (ledger.newJournal run clock
          (LedgerFacade.recordIntraledger bank args)).isLnIntraledgerFor paymentHash
            then 1 else 0 := by
    unfold Ledger.lnIntraledgers at *
    rw [Ledger.journals_commit, List.countP_append, zero, List.countP_singleton, Nat.zero_add]
  rw [counted]
  split
  · rename_i isPayment
    obtain ⟨leg, member, ofHash⟩ := List.any_eq_true.mp isPayment
    obtain ⟨additional, same⟩ := recordIntraledger_tagged bank args leg member
    have recorded : leg.metadata.pending = false := by rw [same]; exact settled
    simp only [Bool.and_eq_true] at ofHash
    refine .inr ⟨rfl, Ledger.isLnTxRecorded_iff.mpr ⟨leg, ?_, ofHash.1, recorded⟩⟩
    rw [Ledger.legs_commit]
    exact List.mem_append_right _ member
  · exact .inl rfl

theorem commit_guaranteed (good : (onePayment payments paymentHash).inv before)
    (inside : Inside payments run before) (zero : before.ledger.lnIntraledgers paymentHash = 0)
    {clock : Nat} {args : RecordIntraledgerArgs} (settled : args.metadata.pending = false) :
    (onePayment payments paymentHash).Guaranteed run before
      { before with
        clock
        ledger := before.ledger.commit run clock (LedgerFacade.recordIntraledger before.bank args)
        } :=
  ⟨⟨good.1, commit_recorded settled zero⟩,
    fun other different alsoInside => absurd (good.1 other run alsoInside inside) different⟩

end Steps

section Runs

variable {α : Type}

def Call.quiet (c : Call) : Prop := c.part ≠ .locks ∧ c.part ≠ .ledger

theorem reads_quiet (c : Call) (reads : c.reads) : Call.quiet c := by
  unfold Call.quiet
  rw [show c.part = .nothing from reads]
  simp

theorem inside_stable : (onePayment payments paymentHash).Stable run (Inside payments run) :=
  fun _ _ between _ inside => (between inside).1

def InsideFresh (payments : RunId → LnIntraledgerPayment) (paymentHash : PaymentHash) (run : RunId)
    (w : World) : Prop :=
  Inside payments run w ∧ w.ledger.lnIntraledgers paymentHash = 0

theorem insideFresh_stable :
    (onePayment payments paymentHash).Stable run (InsideFresh payments paymentHash run) := by
  rintro before after between _ ⟨inside, fresh⟩
  obtain ⟨still, same⟩ := between inside
  exact ⟨still, same.trans fresh⟩

theorem quiet_spec {keep : World → Prop} {x : App α}
    (stable : (onePayment payments paymentHash).Stable run keep)
    (kept : ∀ before after : World, after.locks = before.locks → after.ledger = before.ledger →
      keep before → keep after) (only : OnlyRun Call.quiet x) :
    Spec services (entersAlone payments) (onePayment payments paymentHash) run keep x
      (fun _ => keep) (fun _ => keep) := by
  refine Spec.ofOnly stable ?_ only
  intro c quiet before a reply after good holds _ served
  have frame := serve_frame served
  have locks := frame.locks quiet.1
  have ledger := frame.ledger quiet.2
  exact ⟨quiet_guaranteed good locks ledger, kept before after locks ledger holds⟩

theorem outside_spec {x : App α} (only : OnlyRun Call.quiet x) :
    Spec services (entersAlone payments) (onePayment payments paymentHash) run (fun _ => True) x
      (fun _ _ => True) (fun _ _ => True) :=
  quiet_spec (Discipline.stable_true _ run) (fun _ _ _ _ _ => trivial) only

theorem inside_spec {x : App α} (only : OnlyRun Call.quiet x) :
    Spec services (entersAlone payments) (onePayment payments paymentHash) run
      (Inside payments run) x
      (fun _ => Inside payments run) (fun _ => Inside payments run) := by
  refine quiet_spec inside_stable (fun before after locks _ inside => ?_) only
  unfold Inside
  rw [locks]
  exact inside

theorem insideFresh_spec {x : App α} (only : OnlyRun Call.quiet x) :
    Spec services (entersAlone payments) (onePayment payments paymentHash) run
      (InsideFresh payments paymentHash run) x (fun _ => InsideFresh payments paymentHash run)
      (fun _ => InsideFresh payments paymentHash run) := by
  refine quiet_spec insideFresh_stable (fun before after locks ledger fresh => ?_) only
  unfold InsideFresh Inside
  rw [locks, ledger]
  exact fresh

theorem isLnTxRecorded_spec :
    Spec services (entersAlone payments) (onePayment payments paymentHash) run (Inside payments run)
      (fallible (ask (.isLnTxRecorded paymentHash)))
      (fun recorded => if recorded then Inside payments run
        else InsideFresh payments paymentHash run)
      (fun _ => Inside payments run) := by
  refine fallible_spec (ask_triple inside_stable ?_)
  intro before a reply after good inside _ served
  obtain rfl := Stores.read_unchanged served
  refine ⟨quiet_guaranteed good rfl rfl, ?_⟩
  cases reply with
  | error error => exact inside
  | ok recorded =>
    have read := Except.ok.inj (Stores.read_ok served)
    cases recorded with
    | true => exact inside
    | false =>
      rcases good.2 with zero | ⟨_, isRecorded⟩
      · exact ⟨inside, zero⟩
      · rw [isRecorded] at read
        cases read

theorem recordIntraledger_spec {args : RecordIntraledgerArgs}
    (settled : args.metadata.pending = false) :
    Spec services (entersAlone payments) (onePayment payments paymentHash) run
      (InsideFresh payments paymentHash run) (fallible (ask (.recordIntraledger args)))
      (fun _ => Inside payments run) (fun _ => Inside payments run) := by
  refine fallible_spec (ask_triple insideFresh_stable ?_)
  rintro before a reply after good ⟨inside, zero⟩ _ served
  obtain ⟨_, ⟨error, rfl⟩, rfl⟩ | ⟨rfl, clock, rfl⟩ := World.commit_inversion served
  · exact ⟨quiet_guaranteed good rfl rfl, inside⟩
  · exact ⟨commit_guaranteed good inside zero settled, inside⟩

end Runs

section Payment

variable {payment : LnIntraledgerPayment}

theorem intraledgerArgs_settled (recipientWallet recipientWalletDescriptor : WalletDescriptor)
    (paymentHash : PaymentHash) (recipientPubkey : Pubkey) :
    (intraledgerArgs payment.paymentFlow payment.senderWallet recipientWallet payment.senderUsername
      payment.memo paymentHash recipientPubkey recipientWalletDescriptor).metadata.pending =
    false := by
  unfold intraledgerArgs intraledgerMetadata
  dsimp only
  split <;> rfl

theorem recordAndNotify_spec (recipientWallet recipientWalletDescriptor : WalletDescriptor)
    (recipientPubkey : Pubkey) (recipientWalletId : WalletId)
    (recipientWalletCurrency : WalletCurrency) :
    Spec services (entersAlone payments) (onePayment payments paymentHash) run
      (InsideFresh payments paymentHash run)
      (recordAndNotify payment.paymentFlow payment.senderWallet recipientWallet
        payment.senderUsername payment.memo paymentHash recipientPubkey recipientWalletId
        recipientWalletCurrency
        recipientWalletDescriptor)
      (fun _ => Inside payments run) (fun _ => Inside payments run) := by
  refine Spec.bind (recordIntraledger_spec (intraledgerArgs_settled _ _ _ _)) fun _ =>
    inside_spec ?_
  have reads {c : Call} (quiet : c.part = .nothing) : (ask c).Only Call.quiet :=
    only_ask (reads_quiet c quiet)
  refine OnlyRun.bind (only_fallible (reads rfl)) fun _ => ?_
  refine OnlyRun.bind (only_fallible (reads rfl)) fun _ => ?_
  refine OnlyRun.bind (only_fallible (only_ask (by simp [Call.quiet, Call.part]))) fun _ => ?_
  refine OnlyRun.bind (only_fallible (reads rfl)) fun _ => ?_
  refine OnlyRun.bind (only_fallible (reads rfl)) fun _ => ?_
  exact OnlyRun.bind (only_total (reads rfl)) fun _ => OnlyRun.pure _

theorem behindLock_spec (recipientWallet : WalletDescriptor) (recipientPubkey : Pubkey)
    (recipientWalletId : WalletId) (recipientWalletCurrency : WalletCurrency) :
    Spec services (entersAlone payments) (onePayment payments paymentHash) run (Inside payments run)
      (executePaymentViaIntraledgerBehindLock payment.paymentFlow payment.senderWallet
        recipientWallet payment.senderUsername payment.memo paymentHash recipientPubkey
        recipientWalletId
        recipientWalletCurrency)
      (fun _ => Inside payments run) (fun _ => Inside payments run) := by
  refine Spec.bind isLnTxRecorded_spec fun recorded => ?_
  cases recorded with
  | true => exact Spec.pure fun _ _ inside => inside
  | false =>
    have fresh {α : Type} {x : App α} (only : OnlyRun Call.quiet x) :
        Spec services (entersAlone payments) (onePayment payments paymentHash) run
          (InsideFresh payments paymentHash run) x (fun _ => InsideFresh payments paymentHash run)
          (fun _ => Inside payments run) :=
      Spec.weaken_err (insideFresh_spec only) (fun _ _ _ h => h.1)
    refine Spec.bind (fresh (checkBalance_only reads_quiet _ _)) fun _ => ?_
    refine Spec.bind (fresh (only_ofResult _)) fun _ => ?_
    refine Spec.bind (fresh (checkNotAborted_only reads_quiet _)) fun _ => ?_
    cases payment.paymentFlow.recipientWalletDescriptor with
    | none => exact Spec.throw fun _ _ holds => holds.1
    | some recipientWalletDescriptor => exact recordAndNotify_spec _ _ _ _ _

theorem acquire_spec :
    Spec services (entersAlone payments) (onePayment payments paymentHash) run (fun _ => True)
      (fallible (ask (.acquire (.wallet (payments run).senderWallet.id))))
      (fun _ => Inside payments run) (fun _ _ => True) := by
  refine fallible_spec (ask_triple (Discipline.stable_true _ run) ?_)
  intro before a reply after good _ permitted served
  obtain ⟨⟨error, rfl⟩, rfl⟩ | ⟨rfl, _, rfl⟩ := World.acquire_inversion served
  · exact ⟨quiet_guaranteed good rfl rfl, trivial⟩
  · refine ⟨acquire_guaranteed good (permitted rfl), ?_⟩
    simp [Inside]

theorem release_spec {key : LockKey} :
    Spec services (entersAlone payments) (onePayment payments paymentHash) run (Inside payments run)
      (fallible (ask (.release key))) (fun _ _ => True) (fun _ _ => True) := by
  refine fallible_spec (ask_triple inside_stable ?_)
  intro before a reply after good _ _ served
  obtain rfl := World.release_inversion served
  refine ⟨release_guaranteed good, ?_⟩
  cases reply <;> trivial

theorem payment_spec (getAccountLimits : AccountLevel → AccountLimits)
    (pays : (payments run).paymentFlow.paymentHashForFlow = .ok paymentHash) :
    Spec services (entersAlone payments) (onePayment payments paymentHash) run (fun _ => True)
      ((payments run).prog getAccountLimits) (fun _ _ => True) (fun _ _ => True) := by
  unfold LnIntraledgerPayment.prog executePaymentViaIntraledger
  refine Spec.bind (outside_spec (getPriceRatioForLimits_only reads_quiet _)) fun _ => ?_
  rw [pays]
  refine ofResult_bind_spec (fun hash same => ?_) (fun _ _ impossible => by cases impossible)
  obtain rfl := Except.ok.inj same
  split
  · refine Spec.bind (outside_spec (only_fallible (only_ask (reads_quiet _ rfl)))) fun _ => ?_
    refine Spec.bind (outside_spec (checkLimitsFor_only reads_quiet _ _ _ _ _ _)) fun _ => ?_
    exact withLock_spec acquire_spec (behindLock_spec _ _ _ _) (fun _ => release_spec)
      (fun _ => release_spec)
  · exact Spec.throw fun _ _ _ => trivial

end Payment

end OnePayment

/-- The lock is of the sender's wallet, so payments of one invoice exclude each other only if none
takes its lock while another holds one. -/
theorem invoice_paid_at_most_once {getAccountLimits : AccountLevel → AccountLimits}
    {paymentHash : PaymentHash} {start : World}
    (fresh : start.ledger.lnIntraledgers paymentHash = 0) {payments : RunId → LnIntraledgerPayment}
    (pays : ∀ run, (payments run).paymentFlow.paymentHashForFlow = .ok paymentHash)
    (unlocked : ∀ run, ¬Inside payments run start)
    {after : Config World Call Reply (Result PaymentSendStatus)}
    (reach : Reach services (entersAlone payments)
      ⟨start, fun run => ((payments run).prog getAccountLimits).run⟩ after) :
    after.world.ledger.lnIntraledgers paymentHash ≤ 1 := by
  have good : (onePayment payments paymentHash).inv start :=
    ⟨fun first _ inside _ => absurd inside (unlocked first), .inl fresh⟩
  have runs : ∀ run, wp services (entersAlone payments) (onePayment payments paymentHash) run
      ((payments run).prog getAccountLimits).run (fun _ _ => True) start := fun run =>
    wp_mono (fun _ _ _ _ => trivial) good
      (OnePayment.payment_spec getAccountLimits (pays run) start good trivial)
  have kept := reach_inv good runs reach
  rcases kept.2 with zero | ⟨one, _⟩ <;> omega

section Example

def payInvoiceTwice (run : RunId) : LnIntraledgerPayment :=
  invoicePayment (if run = 0 then "alice" else "bob")

def payInvoiceStart : Config World Call Reply (Result PaymentSendStatus) :=
  ⟨sendWorld, fun run => ((payInvoiceTwice run).prog sendLimits).run⟩

def bothUnlocked : Permit services := fun run w c _ =>
  c = .acquire (.wallet (payInvoiceTwice run).senderWallet.id) →
    w.locks (.wallet "alice") = none ∧ w.locks (.wallet "bob") = none

instance (run : RunId) (w : World) (c : Call) (a : services.Answer c) :
    Decidable (bothUnlocked run w c a) :=
  inferInstanceAs (Decidable (_ → _))

theorem bothUnlocked_entersAlone (run : RunId) (w : World) (c : Call) (a : services.Answer c)
    (unlocked : bothUnlocked run w c a) : entersAlone payInvoiceTwice run w c a := by
  intro acquires other inside
  obtain ⟨alice, bob⟩ := unlocked acquires
  unfold Inside payInvoiceTwice invoicePayment sendWallet at inside
  by_cases first : other = 0
  · simp [first, alice] at inside
  · simp [first, bob] at inside

theorem invoice_paid_once_by_two_senders_in_turn :
    ∃ after, Reach services (entersAlone payInvoiceTwice) payInvoiceStart after ∧
      after.world.ledger.lnIntraledgers "hash" = 1 ∧
      after.world.ledger.lnIntraledgers "hash" ≤ 1 := by
  have played : (play services bothUnlocked (fun _ => (sendOutside paymentNoRoute .pending).answers)
      (List.replicate 13 0 ++ List.replicate 7 1) payInvoiceStart).map
        (·.world.ledger.lnIntraledgers "hash") = some 1 := by
    decide +kernel
  obtain ⟨after, run, once⟩ := Option.map_eq_some_iff.mp played
  have reach := (play_reach _ _ _ _ _ _ run).mono bothUnlocked_entersAlone
  have pays : ∀ run, (payInvoiceTwice run).paymentFlow.paymentHashForFlow = .ok "hash" := by
    intro run
    simp [payInvoiceTwice, invoicePayment, sendFlow, PaymentFlow.paymentHashForFlow]
  exact ⟨after, reach, once, invoice_paid_at_most_once (by decide +kernel) pays
    (fun run inside => by cases inside) reach⟩

theorem two_senders_pay_invoice_twice :
    sendWorld.ledger.lnIntraledgers "hash" = 0 ∧
      ∃ after, Reach services (anyStep services) payInvoiceStart after ∧
        after.world.ledger.lnIntraledgers "hash" = 2 := by
  have played : (play services (anyStep services)
      (fun _ => (sendOutside paymentNoRoute .pending).answers)
      (List.replicate 8 0 ++ List.replicate 8 1 ++ [0, 1]) payInvoiceStart).map
        (·.world.ledger.lnIntraledgers "hash") = some 2 := by
    decide +kernel
  obtain ⟨after, run, twice⟩ := Option.map_eq_some_iff.mp played
  exact ⟨by decide +kernel, after, play_reach _ _ _ _ _ _ run, twice⟩

end Example

end Galoy
