import Galoy.Payments.Reconstruction

set_option autoImplicit false

namespace Galoy

open Interleave App SendLightning AmountCalculator

def World.btcWalletOf (w : World) (walletId : WalletId) : Option WalletDescriptor :=
  (w.wallets walletId).bind fun wallet =>
    match wallet.currency with
    | .btc => some wallet
    | .usd => (w.walletsOfAccount wallet.accountId).find? (·.currency = .btc)

def World.HasBtcWallet (w : World) (walletId : WalletId) (btcWallet : WalletDescriptor) : Prop :=
  btcWallet.currency = .btc ∧ ∃ wallet, w.wallets walletId = some wallet ∧
    (btcWallet = wallet ∨ btcWallet ∈ w.walletsOfAccount wallet.accountId)

inductive GivesBack (run : RunId) (flow : PaymentFlow) (journalId : LedgerJournalId) (w : World) :
    World → Prop
  | voids {now : Nat} {ledger : Ledger} (btc : flow.senderWalletCurrency = .btc)
      (voided : w.ledger.void run now journalId "Payment canceled" = some ledger) :
      GivesBack run flow journalId w { w with clock := now, ledger }
  | refunds {now : Nat} {paymentHash : PaymentHash} {btcWallet : WalletDescriptor}
      (usd : flow.senderWalletCurrency = .usd) (hash : flow.paymentHashForFlow = .ok paymentHash)
      (chosen : w.btcWalletOf flow.senderWalletId = some btcWallet) :
      GivesBack run flow journalId w
        { w with
          clock := now
          ledger := w.ledger.commit run now
            (LedgerFacade.recordReceive w.bank
              (failedUsdPaymentArgs flow paymentHash journalId btcWallet)) }

def CannotGiveBack (run : RunId) (flow : PaymentFlow) (journalId : LedgerJournalId)
    (w : World) : Prop :=
  match flow.senderWalletCurrency with
  | .btc => ∃ now, w.ledger.void run now journalId "Payment canceled" = none
  | .usd =>
    (∃ error, flow.paymentHashForFlow = .error error) ∨ w.btcWalletOf flow.senderWalletId = none

section Exact

variable {run : RunId} {answers : Answers} {w : World}

theorem World.btcWalletOf_inversion {walletId : WalletId} {btcWallet : WalletDescriptor}
    (chosen : w.btcWalletOf walletId = some btcWallet) : w.HasBtcWallet walletId btcWallet := by
  obtain ⟨wallet, stored, isChosen⟩ := Option.bind_eq_some_iff.mp chosen
  cases currency : wallet.currency with
  | btc =>
    rw [currency] at isChosen
    obtain rfl := Option.some.inj isChosen
    exact ⟨currency, wallet, stored, .inl rfl⟩
  | usd =>
    rw [currency] at isChosen
    exact ⟨by simpa using List.find?_some isChosen, wallet, stored,
      .inr (List.mem_of_find?_eq_some isChosen)⟩

theorem recipientBtcWallet_exact (found : ∀ c : Call, c.repositoryWorks (answers c))
    {walletId : WalletId} {wallet : WalletDescriptor} (stored : w.wallets walletId = some wallet) :
    SoloSpec run answers (fun now => now = w) (recipientBtcWallet wallet)
      (fun btcWallet after => after = w ∧ w.btcWalletOf walletId = some btcWallet)
      (fun _ after => after = w ∧ w.btcWalletOf walletId = none) := by
  have choice : w.btcWalletOf walletId =
      match wallet.currency with
      | .btc => some wallet
      | .usd => (w.walletsOfAccount wallet.accountId).find? (·.currency = .btc) := by
    rw [World.btcWalletOf, stored]
    rfl
  unfold recipientBtcWallet
  cases currency : wallet.currency with
  | btc =>
    rw [currency] at choice
    exact Spec.pure fun _ _ same => ⟨same, choice⟩
  | usd =>
    rw [currency] at choice
    have works : answers (.listByAccountId wallet.accountId) = none := found (.listByAccountId _)
    refine Spec.seq (fun wallets now => now = w ∧ wallets = w.walletsOfAccount wallet.accountId)
      (fallible_spec (solo_ask ?_)) fun wallets => Spec.pre_fact fun isRead => ?_
    · rintro before reply after rfl served
      cases listed : before.walletsOfAccount wallet.accountId with
      | nil =>
        simp only [serve, Stores.readOr, Stores.answerOr, works, Stores.found, listed] at served
        cases served
        rw [listed] at choice
        exact ⟨rfl, choice⟩
      | cons first rest =>
        simp only [serve, Stores.readOr, Stores.answerOr, works, Stores.found, listed] at served
        cases served
        exact ⟨rfl, rfl⟩
    subst isRead
    cases search : (w.walletsOfAccount wallet.accountId).find? (·.currency = .btc) with
    | none =>
      rw [search] at choice
      exact Spec.throw fun _ _ same => ⟨same, choice⟩
    | some btcWallet =>
      rw [search] at choice
      exact Spec.pure fun _ _ same => ⟨same, choice⟩

theorem refund_exact (works : ∀ c : Call, c.ledgerWorks (answers c))
    (found : ∀ c : Call, c.repositoryWorks (answers c)) {flow : PaymentFlow}
    (usd : flow.senderWalletCurrency = .usd) (journalId : LedgerJournalId) :
    SoloSpec run answers (fun now => now = w) (reimburseFailedUsdPayment flow journalId)
      (fun _ => GivesBack run flow journalId w)
      (fun _ after => after = w ∧ CannotGiveBack run flow journalId w) := by
  unfold CannotGiveBack
  rw [usd]
  unfold reimburseFailedUsdPayment
  refine ofResult_bind_spec (fun paymentHash hash => ?_) fun error _ failed _ same =>
    ⟨same, .inl ⟨error, failed⟩⟩
  have walletWorks :
      answers (.findWalletById .reimburseFailedUsdPayment flow.senderWalletId) = none :=
    found (.findWalletById _ _)
  refine Spec.seq (fun wallet now => now = w ∧ w.wallets flow.senderWalletId = some wallet)
    (fallible_spec (solo_ask ?_)) fun wallet => Spec.pre_fact fun stored => ?_
  · rintro before reply after rfl served
    cases stored : before.wallets flow.senderWalletId with
    | none =>
      simp only [serve, Stores.readOr, Stores.answerOr, PaymentFlow.senderWalletDescriptor,
        walletWorks, Stores.found, stored] at served
      cases served
      exact ⟨rfl, .inr (by rw [World.btcWalletOf, stored]; rfl)⟩
    | some wallet =>
      simp only [serve, Stores.readOr, Stores.answerOr, PaymentFlow.senderWalletDescriptor,
        walletWorks, Stores.found, stored] at served
      cases served
      exact ⟨rfl, rfl⟩
  refine Spec.bind (Spec.conseq (recipientBtcWallet_exact found stored) (fun _ _ same => same)
    (fun _ _ _ chosen => chosen) fun _ _ _ none => ⟨none.1, .inr none.2⟩) fun btcWallet => ?_
  refine Spec.pre_fact fun chosen => ?_
  refine Spec.seq (fun _ => GivesBack run flow journalId w) (fallible_spec (solo_ask ?_)) fun _ =>
    Spec.pure fun _ _ given => given
  rintro before reply after rfl served
  obtain ⟨fault, _⟩ | ⟨rfl, now, rfl⟩ := World.commit_inversion served
  · exact absurd (works (.recordReceive _)) fault
  · exact .refunds usd hash chosen

theorem failPendingPayment_exact (works : ∀ c : Call, c.ledgerWorks (answers c))
    (found : ∀ c : Call, c.repositoryWorks (answers c)) (pendingPayment : LedgerTransaction)
    (flow : PaymentFlow) :
    SoloSpec run answers (fun now => now = w) (failPendingPayment pendingPayment flow)
      (fun _ => GivesBack run flow pendingPayment.journalId w)
      (fun _ after => after = w ∧ CannotGiveBack run flow pendingPayment.journalId w) := by
  unfold failPendingPayment
  cases currency : flow.senderWalletCurrency with
  | usd => exact refund_exact works found currency pendingPayment.journalId
  | btc =>
    refine fallible_spec (solo_ask ?_)
    rintro before reply after rfl served
    obtain ⟨⟨error, rfl⟩, rfl, fault | missing⟩ | ⟨rfl, now, ledger, voided, rfl⟩ :=
      World.void_inversion served
    · exact absurd (works (.revertLightningPayment _)) fault
    · refine ⟨rfl, ?_⟩
      unfold CannotGiveBack
      rw [currency]
      exact ⟨_, missing⟩
    · exact .voids currency voided

end Exact

end Galoy
