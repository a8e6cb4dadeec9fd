import Galoy.App.Rules
import Galoy.Wallets.UpdatePendingInvoices

set_option autoImplicit false

namespace Galoy

open Interleave App

inductive InvoiceRun where
  | updatePendingInvoiceByPaymentHash (paymentHash : PaymentHash)
  | handleHeldInvoices (cursor : List PaymentHash)

def InvoiceRun.prog : InvoiceRun → Prog Call Reply Unit
  | .updatePendingInvoiceByPaymentHash paymentHash => do
    let _ ← (Galoy.updatePendingInvoiceByPaymentHash paymentHash).run
    .pure ()
  | .handleHeldInvoices cursor => Galoy.handleHeldInvoices cursor

section Requests

variable {allowed : Call → Prop} (reads : ∀ c : Call, c.reads → allowed c)

include reads

theorem walletInvoiceReceiver_only (walletInvoice : WalletInvoice)
    (receivedBtc : BtcPaymentAmount) :
    OnlyRun allowed (walletInvoiceReceiver walletInvoice receivedBtc) := by
  unfold walletInvoiceReceiver
  dsimp only
  split
  · exact OnlyRun.bind (usdFromBtcMidPriceFn_only reads _ _) fun _ => OnlyRun.pure _
  · exact OnlyRun.pure _
  · exact OnlyRun.bind (only_fallible (ask_reads reads rfl)) fun _ => OnlyRun.pure _

theorem settleHeldInvoice_only (walletInvoice : WalletInvoice) (lookup : LnInvoiceLookup) :
    OnlyRun allowed (settleHeldInvoice walletInvoice lookup) := by
  unfold settleHeldInvoice
  split
  · exact OnlyRun.pure _
  · exact only_fallible (ask_reads reads rfl)

theorem declineHeldInvoice_only (invoices : ∀ c : Call, c.part = .invoices → allowed c)
    (pubkey : Pubkey) (hash : PaymentHash) : OnlyRun allowed (declineHeldInvoice pubkey hash) := by
  refine OnlyRun.bind (only_fallible (ask_reads reads rfl)) fun _ => ?_
  refine OnlyRun.bind (only_attempt (only_fallible (ask_reads reads rfl))) fun lookup => ?_
  cases lookup with
  | error error =>
    dsimp only
    split
    · exact OnlyRun.bind (only_fallible (only_ask (invoices _ rfl))) fun _ => OnlyRun.pure _
    · exact OnlyRun.throw _
  | ok lookup =>
    dsimp only
    split
    · exact OnlyRun.throw _
    · split
      · exact OnlyRun.pure _
      · refine OnlyRun.bind (only_fallible (ask_reads reads rfl)) fun _ => ?_
        refine OnlyRun.bind (only_attempt (only_fallible (only_ask (invoices _ rfl)))) fun _ => ?_
        exact OnlyRun.pure _

end Requests

theorem checkedToSats_pos {amount sats : Int} (checked : checkedToSats amount = .ok sats) :
    0 < sats := by
  unfold checkedToSats at checked
  split at checked
  · cases checked
  · rename_i positive
    split at checked
    · cases checked
    · obtain rfl := Except.ok.inj checked
      omega

section Runs

variable {permit : Permit services} {D : Discipline World} {run : RunId}
  {known : WalletInvoice → Prop}
  (step : ∀ c : Call, c.part = .nothing ∨ c.part = .invoices → ∀ before a reply after,
    D.inv before → permit run before c a → serve run before c a = some (reply, after) →
    D.Guaranteed run before after)
  (locked : ∀ walletInvoice lookup (receivedBtc : BtcPaymentAmount), known walletInvoice →
    0 < receivedBtc.amount → Spec services permit D run (fun _ => True)
      (withLock (.paymentHash walletInvoice.paymentHash)
        (updatePendingInvoiceBehindLock walletInvoice lookup receivedBtc))
      (fun _ _ => True) (fun _ _ => True))

include step

theorem quiet_run {α : Type} {x : App α}
    (only : OnlyRun (fun c => c.part = .nothing ∨ c.part = .invoices) x) :
    Spec services permit D run (fun _ => True) x (fun _ _ => True) (fun _ _ => True) :=
  Spec.ofOnly (D.stable_true run) (fun c quiet before a reply after good _ permitted served =>
    ⟨step c quiet before a reply after good permitted served, trivial⟩) only

include locked

theorem beforeFinally_run {walletInvoice : WalletInvoice} (invoice : known walletInvoice) :
    Spec services permit D run (fun _ => True) (updatePendingInvoiceBeforeFinally walletInvoice)
      (fun _ _ => True) (fun _ _ => True) := by
  refine Spec.bind (quiet_run step (only_fallible (only_ask (.inl rfl)))) fun _ => ?_
  refine Spec.bind (quiet_run step (only_attempt (only_fallible (only_ask (.inl rfl)))))
    fun lookup => ?_
  cases lookup with
  | error error =>
    dsimp only
    split
    · exact Spec.bind (quiet_run step (only_fallible (only_ask (.inr rfl)))) fun _ =>
        Spec.pure fun _ _ h => h
    · exact Spec.throw fun _ _ h => h
  | ok lookup =>
    dsimp only
    cases checked : checkedToSats lookup.roundedDownReceived with
    | error error =>
      exact quiet_run step
        (declineHeldInvoice_only (fun _ reads => .inl reads) (fun _ part => .inr part) _ _)
    | ok sats =>
      dsimp only
      split
      · exact Spec.pure fun _ _ h => h
      · split
        · exact Spec.pure fun _ _ h => h
        · rw [paymentAmountFromNumber_int]
          exact ofResult_bind_spec
            (fun receivedBtc same => locked walletInvoice lookup receivedBtc invoice
              (Except.ok.inj same ▸ checkedToSats_pos checked))
            (fun _ _ impossible => by cases impossible)

theorem updatePendingInvoice_run {walletInvoice : WalletInvoice} (invoice : known walletInvoice) :
    Spec services permit D run (fun _ => True) (updatePendingInvoice walletInvoice)
      (fun _ _ => True) (fun _ _ => True) := by
  refine Spec.bind (attempt_keeps (beforeFinally_run step locked invoice)) fun result =>
    quiet_run step ?_
  split
  · refine OnlyRun.bind (only_attempt (only_fallible (only_ask (.inr rfl)))) fun invoicePaid => ?_
    cases invoicePaid with
    | error error =>
      dsimp only
      split
      · exact OnlyRun.throw _
      · exact only_ofResult _
    | ok invoice => exact only_ofResult _
  · exact only_ofResult _

theorem processHeldInvoice_run {walletInvoice : WalletInvoice} (invoice : known walletInvoice) :
    Spec services permit D run (fun _ => True) (processHeldInvoice walletInvoice)
      (fun _ _ => True) (fun _ _ => True) := by
  unfold processHeldInvoice
  cases walletInvoice.recipientWalletDescriptor.currency with
  | btc => exact updatePendingInvoice_run step locked invoice
  | usd =>
    exact quiet_run step
      (declineHeldInvoice_only (fun _ reads => .inl reads) (fun _ part => .inr part) _ _)

variable (stored : ∀ w paymentHash record, D.inv w → w.invoices paymentHash = some record →
  known (walletInvoiceFromRaw paymentHash record))

include stored

theorem trigger_run (paymentHash : PaymentHash) :
    Spec services permit D run (fun _ => True) (updatePendingInvoiceByPaymentHash paymentHash)
      (fun _ _ => True) (fun _ _ => True) := by
  have found : Spec services permit D run (fun _ => True)
      (fallible (ask (.findByPaymentHash .updatePendingInvoiceByPaymentHash paymentHash)))
      (fun invoice _ => known invoice) (fun _ _ => True) := by
    refine fallible_spec (ask_triple (D.stable_true run) ?_)
    intro before a reply after good _ permitted served
    refine ⟨step _ (.inl rfl) before a reply after good permitted served, ?_⟩
    cases reply with
    | error error => trivial
    | ok invoice =>
      obtain ⟨record, at_, rfl⟩ := World.findByPaymentHash_ok (Stores.read_ok served)
      exact stored before paymentHash record good at_
  refine Spec.bind (attempt_spec found) fun result => ?_
  cases result with
  | error error =>
    dsimp only
    split
    · exact Spec.pure fun _ _ h => h
    · exact Spec.throw fun _ _ h => h
  | ok invoice => exact Spec.of_fact fun isKnown => updatePendingInvoice_run step locked isKnown

theorem cron_run (cursor : List PaymentHash) :
    Triple services permit D run (fun _ => True) (handleHeldInvoices cursor) (fun _ _ => True) := by
  induction cursor with
  | nil => exact fun _ _ _ => trivial
  | cons paymentHash cursor ih =>
    have item : Triple services permit D run (fun _ => True) (ask (.yieldPending paymentHash))
        (fun pending _ => ∀ invoice, pending = some invoice → known invoice) := by
      refine ask_triple (D.stable_true run) ?_
      intro before a reply after good _ permitted served
      refine ⟨step _ (.inl rfl) before a reply after good permitted served, ?_⟩
      rintro invoice rfl
      have pending : before.pendingInvoice paymentHash = some invoice :=
        (Prod.mk.inj (Option.some.inj served)).1
      obtain ⟨record, unpaid, rfl⟩ := Option.map_eq_some_iff.mp pending
      exact stored before paymentHash record good (Option.filter_eq_some_iff.mp unpaid).1
    refine Triple.bind item fun pending => ?_
    cases pending with
    | none => exact Triple.conseq ih (fun _ _ _ => trivial) (fun _ _ _ h => h)
    | some walletInvoice =>
      intro w good invoice
      refine Triple.bind (processHeldInvoice_run step locked (invoice walletInvoice rfl))
        (fun _ => ?_) w good trivial
      exact Triple.conseq ih (fun _ _ _ => trivial) (fun _ _ _ h => h)

theorem invoiceRun_run (invoiceRun : InvoiceRun) :
    Triple services permit D run (fun _ => True) invoiceRun.prog (fun _ _ => True) := by
  cases invoiceRun with
  | updatePendingInvoiceByPaymentHash paymentHash =>
    exact Triple.discard (trigger_run step locked stored paymentHash)
  | handleHeldInvoices cursor => exact cron_run step locked stored cursor

end Runs

end Galoy
