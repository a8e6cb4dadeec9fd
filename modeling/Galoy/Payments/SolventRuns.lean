import Galoy.Payments.Solvency
import Galoy.Shared.Rounding

set_option autoImplicit false

namespace Galoy

open Interleave App SendLightning AmountCalculator

namespace Solvency

variable {walletId : WalletId} {run : RunId}

section Locks

def Holds (walletId sender : WalletId) (run : RunId) (w : World) : Prop :=
  sender = walletId → w.locks (.wallet walletId) = some run

def Covers (walletId sender : WalletId) (amount : Int) (run : RunId) (w : World) : Prop :=
  sender = walletId → w.locks (.wallet walletId) = some run ∧ (amount : ℚ) ≤ w.balance walletId

variable {sender : WalletId} {amount : Int} {α : Type}

theorem holds_stable : (solvency walletId).Stable run (Holds walletId sender run) :=
  fun _ _ between _ holds same => (between.2 (holds same)).1

theorem covers_stable : (solvency walletId).Stable run (Covers walletId sender amount run) := by
  intro before after between _ covers same
  obtain ⟨held, enough⟩ := covers same
  obtain ⟨still, more⟩ := between.2 held
  exact ⟨still, enough.trans more⟩

theorem has_stable {id : LedgerJournalId} {P : Journal → Prop}
    (evolves : ∀ journal later : Journal, journal.Evolves later → P journal → P later) :
    (solvency walletId).Stable run (fun w => w.ledger.Has id P) :=
  fun _ _ between _ has => has.grow between.1 evolves

theorem acquire_spec :
    Spec services dealerPricesNonneg (solvency walletId) run (fun _ => True)
      (fallible (ask (.acquire (.wallet sender)))) (fun _ => Holds walletId sender run)
      (fun _ _ => True) := by
  refine fallible_spec (ask_triple (Discipline.stable_true _ run) ?_)
  intro before a reply after good _ _ served
  refine ⟨(benign_kept (Discipline.stable_true _ run) (by trivial) good trivial served).1, ?_⟩
  obtain ⟨⟨error, rfl⟩, rfl⟩ | ⟨rfl, _, rfl⟩ := World.acquire_inversion served
  · trivial
  · rintro rfl
    exact Function.update_self ..

theorem release_spec {key : LockKey} :
    Spec services dealerPricesNonneg (solvency walletId) run (fun _ => True)
      (fallible (ask (.release key))) (fun _ _ => True) (fun _ _ => True) := by
  refine fallible_spec (ask_triple (Discipline.stable_true _ run) ?_)
  intro before a reply after good _ _ served
  obtain rfl := World.release_inversion served
  refine ⟨guaranteed served ?_ fun _ => le_refl _, ?_⟩
  · exact solvent_moved good rfl rfl good.books.flows good.books.invoices
  · cases reply <;> trivial

theorem locked_spec {x : App α}
    (inside : Spec services dealerPricesNonneg (solvency walletId) run (Holds walletId sender run) x
      (fun _ _ => True) (fun _ _ => True)) :
    Spec services dealerPricesNonneg (solvency walletId) run (fun _ => True)
      (withLock (.wallet sender) x) (fun _ _ => True) (fun _ _ => True) :=
  withLock_spec acquire_spec inside (fun _ => release_spec) (fun _ => release_spec)

theorem withLock_keeps {key : LockKey} {keep : World → Prop} {x : App α}
    (stable : (solvency walletId).Stable run keep)
    (inside : Spec services dealerPricesNonneg (solvency walletId) run keep x (fun _ _ => True)
      (fun _ _ => True)) :
    Spec services dealerPricesNonneg (solvency walletId) run keep (withLock key x) (fun _ _ => True)
      (fun _ _ => True) := by
  refine withLock_spec ?_ inside (fun _ => release_spec) (fun _ => release_spec)
  exact Spec.weaken_err (benign_spec stable (only_fallible (only_ask trivial)))
    (fun _ _ _ _ => trivial)

end Locks

theorem last_spec {α : Type} {pre : World → Prop} {x : App α} (only : OnlyRun Benign x) :
    Spec services dealerPricesNonneg (solvency walletId) run pre x (fun _ _ => True)
      (fun _ _ => True) :=
  Spec.strengthen_pre (benign_spec (Discipline.stable_true _ run) only) (fun _ _ _ => trivial)

theorem next_spec {α : Type} {keep : World → Prop} {x : App α}
    (stable : (solvency walletId).Stable run keep) (only : OnlyRun Benign x) :
    Spec services dealerPricesNonneg (solvency walletId) run keep x (fun _ => keep)
      (fun _ _ => True) :=
  Spec.weaken_err (benign_spec stable only) (fun _ _ _ _ => trivial)

section Debits

variable {paymentFlow : PaymentFlow} {senderWallet : WalletDescriptor}

theorem checkBalance_covers :
    Spec services dealerPricesNonneg (solvency walletId) run (Holds walletId senderWallet.id run)
      (checkBalance paymentFlow senderWallet)
      (fun _ => Covers walletId senderWallet.id
        (paymentFlow.totalSendAmount paymentFlow.senderWalletCurrency) run) (fun _ _ => True) := by
  refine Spec.seq (fun balance => Covers walletId senderWallet.id balance.amount run)
    (fallible_spec (ask_triple holds_stable ?_)) fun balance => ofResult_spec ?_
  · intro before a reply after good holds _ served
    refine ⟨(benign_kept holds_stable (by trivial) good holds served).1, ?_⟩
    obtain rfl := Stores.read_unchanged served
    cases reply with
    | error error => trivial
    | ok balance =>
      rintro rfl
      obtain rfl := Except.ok.inj (Stores.read_ok served)
      exact ⟨holds rfl, Int.floor_le _⟩
  · intro w _ covers
    unfold PaymentFlow.checkBalanceForSend
    by_cases currency : paymentFlow.senderWalletCurrency = senderWallet.currency
    · by_cases short : balance.amount < paymentFlow.totalSendAmount senderWallet.currency
      · simp [currency, short]
      · simp only [currency, ne_eq, not_true_eq_false, if_false, short, outcome_ok]
        intro same
        obtain ⟨held, enough⟩ := covers same
        refine ⟨held, le_trans ?_ enough⟩
        exact_mod_cast not_lt.mp short
    · simp [currency]

variable (flowOf : FlowOf paymentFlow senderWallet)

include flowOf

theorem totalSendAmount_nonneg (currency : WalletCurrency) :
    0 ≤ paymentFlow.totalSendAmount currency := by
  obtain ⟨btcPayment, usdPayment, btcFee, usdFee⟩ := flowOf.nonneg
  cases currency <;> simp only [PaymentFlow.totalSendAmount, add] <;> omega

theorem recordSend_debits (decodedInvoice : LnInvoice) (defaultPubkey : Pubkey) :
    Spec services dealerPricesNonneg (solvency walletId) run
      (Covers walletId senderWallet.id
        (paymentFlow.totalSendAmount paymentFlow.senderWalletCurrency) run)
      (fallible (ask (.recordSend (lnSendArgs decodedInvoice paymentFlow defaultPubkey))))
      (fun id w => w.ledger.Has id (Journal.Debits walletId (some decodedInvoice.paymentHash)))
      (fun _ _ => True) := by
  refine fallible_spec (ask_triple covers_stable ?_)
  intro before a reply after good covers _ served
  obtain ⟨_, ⟨error, rfl⟩, rfl⟩ | ⟨rfl, clock, rfl⟩ := World.commit_inversion served
  · exact ⟨guaranteed served good fun _ => le_refl _, trivial⟩
  have net := netOver_recordSend good.customer (lnSendArgs decodedInvoice paymentFlow defaultPubkey)
    rfl
  rw [lnSendArgs_amount] at net
  have positive : (0 : ℚ) ≤ paymentFlow.totalSendAmount paymentFlow.senderWalletCurrency := by
    exact_mod_cast totalSendAmount_nonneg flowOf _
  have isSender : (lnSendArgs decodedInvoice paymentFlow defaultPubkey).senderWalletDescriptor =
      paymentFlow.senderWalletDescriptor := rfl
  rw [isSender] at net
  have debits : (before.ledger.newJournal run clock
      (lnSendEntry before.bank decodedInvoice paymentFlow defaultPubkey)).Debits walletId
        (some decodedInvoice.paymentHash) := by
    refine ⟨?_, fun leg member => by rw [lnSendEntry_metadata member]; rfl⟩
    refine le_of_eq_of_le net ?_
    split <;> simp [positive, PaymentFlow.senderWalletDescriptor]
  have solvent : Solvent walletId { before with
      clock, ledger := before.ledger.commit run clock
        (LedgerFacade.recordSend before.bank
          (lnSendArgs decodedInvoice paymentFlow defaultPubkey)) } := by
    refine solvent_commit good ?_ fun leg member _ => ?_
    · rw [net]
      split
      · rename_i same
        have enough := (covers (flowOf.sender.symm.trans same)).2
        dsimp only [PaymentFlow.senderWalletDescriptor]
        linarith
      · simpa using good.balance
    · rw [lnSendEntry_metadata member]
      exact ⟨debits, flowOf.nonneg.1, flowOf.nonneg.2, flowOf.nonneg.3, flowOf.nonneg.4⟩
  refine ⟨guaranteed served solvent fun unlocked => ?_, _, ?_, debits⟩
  · rw [balance_commit, net, if_neg]
    · simp
    · intro same
      exact unlocked (covers (flowOf.sender.symm.trans same)).1
  · simp [Ledger.journals_commit, lnSendEntry]

theorem recordIntraledger_debits {args : RecordIntraledgerArgs}
    (sender : args.senderWalletDescriptor = paymentFlow.senderWalletDescriptor)
    (amount : args.amount = paymentFlow.paymentAmounts) (settled : args.metadata.pending = false) :
    Spec services dealerPricesNonneg (solvency walletId) run
      (Covers walletId senderWallet.id
        (paymentFlow.totalSendAmount paymentFlow.senderWalletCurrency) run)
      (fallible (ask (.recordIntraledger args))) (fun _ _ => True) (fun _ _ => True) := by
  refine fallible_spec (ask_triple covers_stable ?_)
  intro before a reply after good covers _ served
  obtain ⟨_, ⟨error, rfl⟩, rfl⟩ | ⟨rfl, clock, rfl⟩ := World.commit_inversion served
  · exact ⟨guaranteed served good fun _ => le_refl _, trivial⟩
  have net := netOver_recordIntraledger good.customer args
  rw [sender, amount] at net
  obtain ⟨btcPayment, usdPayment, btcFee, usdFee⟩ := flowOf.nonneg
  have nonneg : ∀ currency, (0 : ℚ) ≤ paymentFlow.paymentAmounts.inCurrency currency := by
    intro currency
    cases currency <;> simp only [PaymentFlow.paymentAmounts, Amounts.inCurrency] <;>
      exact_mod_cast ‹_›
  have withFee : (paymentFlow.paymentAmounts.inCurrency paymentFlow.senderWalletCurrency : ℚ) ≤
      paymentFlow.totalSendAmount paymentFlow.senderWalletCurrency := by
    have : paymentFlow.paymentAmounts.inCurrency paymentFlow.senderWalletCurrency ≤
        paymentFlow.totalSendAmount paymentFlow.senderWalletCurrency := by
      cases paymentFlow.senderWalletCurrency <;>
        simp only [PaymentFlow.paymentAmounts, Amounts.inCurrency,
          PaymentFlow.totalSendAmount, add] <;>
        omega
    exact_mod_cast this
  have credited : (0 : ℚ) ≤ if args.recipientWalletDescriptor.id = walletId then
      (paymentFlow.paymentAmounts.inCurrency args.recipientWalletDescriptor.currency : ℚ)
        else 0 := by
    split
    · exact nonneg _
    · exact le_refl _
  have solvent : Solvent walletId { before with
      clock, ledger := before.ledger.commit run clock
        (LedgerFacade.recordIntraledger before.bank args) } := by
    refine solvent_commit good ?_ fun leg member isPending => ?_
    · rw [net]
      have balance := good.balance
      split
      · rename_i same
        have enough := (covers (flowOf.sender.symm.trans same)).2
        dsimp only [PaymentFlow.senderWalletDescriptor]
        linarith
      · linarith
    · obtain ⟨additional, same⟩ := recordIntraledger_tagged before.bank args leg member
      simp [Leg.isPendingPayment, same, TxMetadata.override, settled] at isPending
  refine ⟨guaranteed served solvent fun unlocked => ?_, trivial⟩
  rw [balance_commit, net, if_neg]
  · linarith
  · intro same
    exact unlocked (covers (flowOf.sender.symm.trans same)).1

end Debits

section Resolution

variable {before after : World} {id : LedgerJournalId} {paymentHash : PaymentHash}

theorem closed_settle {fault : Option String} {result : Unit}
    (debits : before.ledger.Has id (Journal.Debits walletId (some paymentHash)))
    (served : before.settle run paymentHash fault = some (.ok result, after)) :
    after.ledger.Has id (Closed walletId) := by
  obtain ⟨_, ⟨error, impossible⟩, _⟩ | ⟨rfl, _⟩ := World.settle_inversion served
  · cases impossible
  obtain ⟨journal, at_, takes⟩ := debits
  refine ⟨journal.settleFor paymentHash, by simp [Ledger.settlePending, at_], ?_, ?_⟩
  · rw [(Journal.Evolves.settleFor journal paymentHash).netOver]
    exact takes.net
  · intro leg member
    obtain ⟨original, inJournal, rfl⟩ := List.mem_map.mp member
    have ofHash : original.ofHash paymentHash = true := by
      simp [Leg.ofHash, takes.hash original inJournal]
    rw [Leg.settleFor, if_pos ofHash]
    rfl

theorem void_guaranteed {c : Call} {a : Answer c} {reply : Reply c} {answer : TimedAnswer}
    {result : Result Unit} (good : Solvent walletId before)
    (closed : before.ledger.Has id (Closed walletId))
    (served : serve run before c a = some (reply, after))
    (voids : before.void run id answer = some (result, after)) :
    (solvency walletId).Guaranteed run before after := by
  obtain ⟨_, rfl, _⟩ | ⟨_, clock, ledger, voided, rfl⟩ := World.void_inversion voids
  · exact guaranteed served good fun _ => le_refl _
  · exact guaranteed served (solvent_void good closed voided) fun _ =>
      balance_void good closed voided

theorem settle_closes {p : Prog Call Reply (Result Unit)} (settles : Settles paymentHash p) :
    Spec services dealerPricesNonneg (solvency walletId) run
      (fun w => w.ledger.Has id (Journal.Debits walletId (some paymentHash))) (fallible p)
      (fun _ w => w.ledger.Has id (Closed walletId)) (fun _ _ => True) := by
  cases settles
  all_goals
    refine fallible_spec (ask_triple (has_stable debits_evolves) ?_)
    intro before a reply after good debits _ served
    refine ⟨(benign_kept (has_stable debits_evolves) (by trivial) good debits served).1, ?_⟩
    cases reply with
    | error error => trivial
    | ok result => exact closed_settle debits served

theorem void_spec {p : Prog Call Reply (Result Unit)} (voids : Voids id p) :
    Spec services dealerPricesNonneg (solvency walletId) run
      (fun w => w.ledger.Has id (Closed walletId)) (fallible p) (fun _ _ => True)
      (fun _ _ => True) := by
  cases voids
  all_goals
    refine fallible_spec (ask_triple (has_stable closed_evolves) ?_)
    intro before a reply after good closed _ served
    refine ⟨void_guaranteed good closed served served, ?_⟩
    cases reply <;> trivial

end Resolution

section Credits

theorem getReimbursement_nonneg {prepaid feeDifference : Amounts} {priceRatio : PriceRatio}
    {actualFee : BtcPaymentAmount} (usd : 0 < priceRatio.usd.amount)
    (btc : 0 < priceRatio.btc.amount)
    (reimbursed : getReimbursement prepaid priceRatio actualFee = .ok feeDifference)
    (currency : WalletCurrency) : 0 ≤ feeDifference.inCurrency currency := by
  unfold getReimbursement at reimbursed
  dsimp only at reimbursed
  split at reimbursed
  · cases reimbursed
  · rename_i enough
    obtain rfl := Except.ok.inj reimbursed
    have difference : 0 ≤ prepaid.btc.amount - actualFee.amount := by omega
    have product : 0 ≤ (prepaid.btc.amount - actualFee.amount) * priceRatio.usd.amount :=
      Int.mul_nonneg difference usd.le
    cases currency with
    | btc => exact difference
    | usd =>
      dsimp only [Amounts.inCurrency]
      split
      · unfold PriceRatio.convertFromBtc
        dsimp only
        split
        · exact le_refl _
        · split
          · decide
          · exact divRound_nonneg product btc
      · exact Int.tdiv_nonneg product btc.le

theorem reimburseFee_benign {paymentFlow : PaymentFlow} (nonneg : paymentFlow.Nonneg)
    (journalId : LedgerJournalId) (actualFee : Int) :
    OnlyRun Benign (reimburseFee paymentFlow journalId actualFee) := by
  refine reimburseFee_only paymentFlow journalId actualFee ?_
  intro priceRatio feeDifference paymentHash made reimbursed _
  obtain ⟨usd, btc⟩ := PriceRatio.make_ok made
  have usdPayment := nonneg.usdPaymentAmount
  have btcPayment := nonneg.btcPaymentAmount
  have ratio : priceRatio.usd = paymentFlow.usdPaymentAmount ∧
      priceRatio.btc = paymentFlow.btcPaymentAmount := by
    unfold PriceRatio.make at made
    split at made
    · cases made
    · obtain rfl := Except.ok.inj made
      exact ⟨rfl, rfl⟩
  refine ⟨le_refl _, getReimbursement_nonneg ?_ ?_ reimbursed _, rfl⟩
  · rw [ratio.1]
    omega
  · rw [ratio.2]
    omega

theorem reimburseFailedUsdPayment_benign {paymentFlow : PaymentFlow} (nonneg : paymentFlow.Nonneg)
    (journalId : LedgerJournalId) :
    OnlyRun Benign (reimburseFailedUsdPayment paymentFlow journalId) := by
  refine reimburseFailedUsdPayment_only reads_benign paymentFlow journalId ?_
  intro paymentHash btcWallet _
  obtain ⟨btcPayment, usdPayment, btcFee, usdFee⟩ := nonneg
  refine ⟨le_refl _, ?_, rfl⟩
  dsimp only [failedUsdPaymentArgs]
  cases btcWallet.currency <;>
    simp only [Amounts.inCurrency, PaymentFlow.totalAmountsForPayment, add] <;> omega

end Credits

section Sends

variable (getAccountLimits : AccountLevel → AccountLimits)

theorem recordLnSend_debits {send : LnSend} (flowOf : FlowOf send.paymentFlow send.senderWallet) :
    Spec services dealerPricesNonneg (solvency walletId) run
      (Holds walletId send.senderWallet.id run)
      (recordLnSend send.decodedInvoice send.paymentFlow send.senderWallet)
        (fun recorded w => w.ledger.Has recorded.1
          (Journal.Debits walletId (some send.decodedInvoice.paymentHash))) (fun _ _ => True) := by
  refine Spec.bind (next_spec holds_stable (checkNotInTransit_only reads_benign _)) fun _ => ?_
  refine Spec.bind checkBalance_covers fun _ => ?_
  refine Spec.bind (next_spec covers_stable (only_fallible (only_ask trivial)))
    fun defaultPubkey => ?_
  refine Spec.bind (next_spec covers_stable (only_ofResult _)) fun _ => ?_
  refine Spec.bind (next_spec covers_stable (checkNotAborted_only reads_benign _)) fun _ => ?_
  exact Spec.bind (recordSend_debits flowOf _ _) fun _ => Spec.pure fun _ _ h => h

theorem resolveLnSend_spec {send : LnSend} (nonneg : send.paymentFlow.Nonneg) {id : LedgerJournalId}
    (payResult : Result PayInvoiceResult) :
    Spec services dealerPricesNonneg (solvency walletId) run
      (fun w => w.ledger.Has id (Journal.Debits walletId (some send.decodedInvoice.paymentHash)))
      (resolveLnSend send.decodedInvoice send.paymentFlow id payResult) (fun _ _ => True)
      (fun _ _ => True) := by
  cases payResult with
  | ok result =>
    refine Spec.bind (settle_closes .lnSend) fun _ => last_spec ?_
    split
    · exact OnlyRun.pure _
    · exact OnlyRun.bind (reimburseFee_benign nonneg _ _) fun _ => OnlyRun.pure _
  | error error =>
    unfold resolveLnSend
    dsimp only
    split
    · refine last_spec (OnlyRun.bind (only_total (only_ask ?_)) fun _ => OnlyRun.pure _)
      exact ⟨nonneg.1, nonneg.2, nonneg.3, nonneg.4⟩
    · refine Spec.bind (settle_closes .lnSend) fun _ => ?_
      refine Spec.bind (void_spec .lnSend) fun _ => last_spec ?_
      split
      · exact OnlyRun.pure _
      · exact OnlyRun.throw _

theorem lnSend_spec {send : LnSend} (flowOf : FlowOf send.paymentFlow send.senderWallet) :
    Spec services dealerPricesNonneg (solvency walletId) run (fun _ => True)
      (send.prog getAccountLimits) (fun _ _ => True) (fun _ _ => True) := by
  have debits_stable {id : LedgerJournalId} : (solvency walletId).Stable run
      (fun w => w.ledger.Has id (Journal.Debits walletId (some send.decodedInvoice.paymentHash))) :=
    has_stable debits_evolves
  refine Spec.bind (last_spec (getPriceRatioForLimits_only reads_benign _)) fun _ => ?_
  refine Spec.bind (last_spec (newCheckLimits_only reads_benign _ _ _ _ _ _)) fun _ =>
    locked_spec ?_
  refine Spec.bind (recordLnSend_debits flowOf) fun recorded => ?_
  refine Spec.bind (next_spec debits_stable (only_attempt (payInvoice_only reads_benign _ _ _)))
    fun payResult => ?_
  refine Spec.bind (persistLnPayment_spec (fun c reads => ?_) _ _ _ _) fun _ =>
    resolveLnSend_spec flowOf.nonneg payResult
  exact ask_triple debits_stable fun _ _ _ _ good holds _ served =>
    benign_kept debits_stable (reads_benign c reads) good holds served

theorem lnIntraledger_spec {payment : LnIntraledgerPayment}
    (flowOf : FlowOf payment.paymentFlow payment.senderWallet) :
    Spec services dealerPricesNonneg (solvency walletId) run (fun _ => True)
      (payment.prog getAccountLimits) (fun _ _ => True) (fun _ _ => True) := by
  unfold LnIntraledgerPayment.prog executePaymentViaIntraledger
  refine Spec.bind (last_spec (getPriceRatioForLimits_only reads_benign _)) fun _ => ?_
  refine Spec.bind (last_spec (only_ofResult _)) fun paymentHash => ?_
  split
  · refine Spec.bind (last_spec (only_fallible (only_ask trivial))) fun recipientWallet => ?_
    refine Spec.bind (last_spec (checkLimitsFor_only reads_benign _ _ _ _ _ _)) fun _ =>
      locked_spec ?_
    refine Spec.bind (next_spec holds_stable (only_fallible (only_ask trivial))) fun recorded => ?_
    split
    · exact Spec.pure fun _ _ _ => trivial
    · refine Spec.bind checkBalance_covers fun _ => ?_
      refine Spec.bind (next_spec covers_stable (only_ofResult _)) fun _ => ?_
      refine Spec.bind (next_spec covers_stable (checkNotAborted_only reads_benign _)) fun _ => ?_
      split
      · exact Spec.throw fun _ _ _ => trivial
      · refine Spec.bind (recordIntraledger_debits flowOf rfl rfl ?_) fun _ => last_spec ?_
        · unfold intraledgerArgs intraledgerMetadata
          dsimp only
          split <;> rfl
        · refine OnlyRun.bind (only_fallible (only_ask trivial)) fun _ => ?_
          refine OnlyRun.bind (only_fallible (only_ask trivial)) fun _ => ?_
          refine OnlyRun.bind (only_fallible (only_ask trivial)) fun _ => ?_
          refine OnlyRun.bind (only_fallible (only_ask trivial)) fun _ => ?_
          refine OnlyRun.bind (only_fallible (only_ask trivial)) fun _ => ?_
          exact OnlyRun.bind (only_total (only_ask trivial)) fun _ => OnlyRun.pure _
  · exact Spec.throw fun _ _ _ => trivial

theorem intraledger_spec {payment : IntraledgerPayment}
    (flowOf : FlowOf payment.paymentFlow payment.senderWallet) :
    Spec services dealerPricesNonneg (solvency walletId) run (fun _ => True)
      (payment.prog getAccountLimits) (fun _ _ => True) (fun _ _ => True) := by
  unfold IntraledgerPayment.prog SendIntraledger.executePaymentViaIntraledger
  refine Spec.bind (last_spec (getPriceRatioForLimits_only reads_benign _)) fun _ => ?_
  refine Spec.bind (last_spec (checkLimitsFor_only reads_benign _ _ _ _ _ _)) fun _ => ?_
  split
  · refine locked_spec (Spec.bind checkBalance_covers fun _ => ?_)
    refine Spec.bind (next_spec covers_stable (only_ofResult _)) fun _ => ?_
    refine Spec.bind (next_spec covers_stable (checkNotAborted_only reads_benign _)) fun _ => ?_
    split
    · exact Spec.throw fun _ _ _ => trivial
    · refine Spec.bind (recordIntraledger_debits flowOf rfl rfl ?_) fun _ => last_spec ?_
      · unfold SendIntraledger.intraledgerArgs SendIntraledger.intraledgerMetadata
        dsimp only
        split <;> rfl
      · refine OnlyRun.bind (only_fallible (only_ask trivial)) fun _ => ?_
        exact OnlyRun.bind (only_total (only_ask trivial)) fun _ => OnlyRun.pure _
  · exact Spec.throw fun _ _ _ => trivial

end Sends

section Invoices

def Priced (walletInvoice : WalletInvoice) : Prop :=
  ∀ usdAmount, walletInvoice.usdAmount = some usdAmount → 0 ≤ usdAmount.amount

structure Receives (receiver : WalletInvoiceReceiver) : Prop where
  amount : 0 ≤ (⟨receiver.btcToCreditReceiver, receiver.usdToCreditReceiver⟩ : Amounts).inCurrency
    receiver.recipientWalletDescriptor.currency
  fee : receiver.btcBankFee = zeroSats

theorem stored_priced {w : World} {paymentHash : PaymentHash} {record : WalletInvoiceRecord}
    (good : Solvent walletId w) (stored : w.invoices paymentHash = some record) :
    Priced (walletInvoiceFromRaw paymentHash record) := by
  intro usdAmount isAmount
  obtain ⟨cents, filtered, rfl⟩ := Option.map_eq_some_iff.mp isAmount
  exact good.books.invoices paymentHash record cents stored
    (Option.filter_eq_some_iff.mp filtered).1

theorem walletInvoiceReceiver_spec {walletInvoice : WalletInvoice} {receivedBtc : BtcPaymentAmount}
    (priced : Priced walletInvoice) (positive : 0 < receivedBtc.amount) :
    Spec services dealerPricesNonneg (solvency walletId) run (fun _ => True)
      (walletInvoiceReceiver walletInvoice receivedBtc) (fun receiver _ => Receives receiver)
      (fun _ _ => True) := by
  unfold walletInvoiceReceiver
  dsimp only
  split
  · rename_i currency
    refine Spec.bind (last_spec (usdFromBtcMidPriceFn_only reads_benign _ _)) fun _ => ?_
    refine Spec.pure fun _ _ _ => ⟨?_, rfl⟩
    dsimp only
    rw [currency]
    exact positive.le
  · rename_i currency isAmount
    refine Spec.pure fun _ _ _ => ⟨?_, rfl⟩
    dsimp only
    rw [currency]
    exact priced _ isAmount
  · rename_i currency _
    refine Spec.seq (fun usd _ => 0 ≤ usd.amount) (fallible_spec (ask_triple
      (Discipline.stable_true _ run) ?_)) fun usd => Spec.pure fun _ _ nonneg => ⟨?_, rfl⟩
    · intro before a reply after good _ permitted served
      refine ⟨(benign_kept (Discipline.stable_true _ run) (by trivial) good trivial served).1, ?_⟩
      cases served
      cases a with
      | error error => trivial
      | ok usd => exact permitted usd rfl
    · dsimp only
      rw [currency]
      exact nonneg

theorem creditPendingInvoice_spec {walletInvoice : WalletInvoice} {receivedBtc : BtcPaymentAmount}
    (priced : Priced walletInvoice) (positive : 0 < receivedBtc.amount) (lookup : LnInvoiceLookup) :
    Spec services dealerPricesNonneg (solvency walletId) run (fun _ => True)
      (creditPendingInvoice walletInvoice lookup receivedBtc) (fun _ _ => True)
      (fun _ _ => True) := by
  refine Spec.bind (walletInvoiceReceiver_spec priced positive) fun receiver =>
    Spec.of_fact fun receives => last_spec ?_
  refine OnlyRun.bind (settleHeldInvoice_only reads_benign _ _) fun _ => ?_
  refine OnlyRun.bind (only_fallible (only_ask trivial)) fun _ => ?_
  refine OnlyRun.bind (only_fallible (only_ask trivial)) fun recipientWallet => ?_
  refine OnlyRun.bind (only_fallible (only_ask trivial)) fun recipientAccount => ?_
  refine OnlyRun.bind (only_fallible (only_ask ⟨?_, receives.amount, rfl⟩)) fun _ => ?_
  · exact le_of_eq (congrArg Amount.amount receives.fee).symm
  refine OnlyRun.bind (only_fallible (only_ask trivial)) fun _ => ?_
  exact OnlyRun.bind (only_total (only_ask trivial)) fun _ => OnlyRun.pure _

theorem invoices_spec (invoiceRun : InvoiceRun) :
    Triple services dealerPricesNonneg (solvency walletId) run (fun _ => True) invoiceRun.prog
      (fun _ _ => True) := by
  refine invoiceRun_run ?_ (fun walletInvoice lookup receivedBtc priced positive => ?_)
    (fun w paymentHash record good stored => stored_priced good stored) invoiceRun
  · intro c part before a reply after good _ served
    refine (benign_kept (Discipline.stable_true _ run) ?_ good trivial served).1
    cases c <;> first | trivial | rcases part with part | part <;> cases part
  · refine withLock_keeps (Discipline.stable_true _ run) ?_
    refine Spec.bind (last_spec (only_attempt (only_fallible (only_ask trivial)))) fun invoice => ?_
    cases invoice with
    | error error =>
      dsimp only
      split
      · exact Spec.pure fun _ _ _ => trivial
      · exact Spec.throw fun _ _ _ => trivial
    | ok invoice =>
      dsimp only
      split
      · exact Spec.pure fun _ _ _ => trivial
      · exact creditPendingInvoice_spec priced positive lookup

end Invoices

section Pending

def Item (walletId : WalletId) (tx : LedgerTransaction) (w : World) : Prop :=
  ∀ paymentHash, tx.paymentHash = some paymentHash →
    w.ledger.Has tx.journalId (Journal.Debits walletId (some paymentHash))

theorem item_lasting : Lasting (solvency walletId) run (Item walletId) where
  grows _ _ between := between.1
  kept _ _ _ grows item paymentHash hash := (item paymentHash hash).grow grows debits_evolves

theorem listed_item {w : World} (good : Solvent walletId w) {jobWalletId : WalletId}
    {tx : LedgerTransaction} (listed : tx ∈ w.ledger.listPendingPayments jobWalletId) :
    Item walletId tx w := by
  obtain ⟨journal, inLedger, leg, inJournal, query, rfl⟩ := Ledger.mem_transactions.mp listed
  simp only [Bool.and_eq_true, decide_eq_true_eq] at query
  obtain ⟨⟨_, type⟩, pending⟩ := query
  intro paymentHash hash
  obtain ⟨debits, _⟩ := good.books.pending journal inLedger leg inJournal
    (by simp [Leg.isPendingPayment, type, pending])
  rw [(Ledger.orUndefined_eq_some hash).1] at debits
  obtain ⟨i, at_⟩ := List.getElem?_of_mem inLedger
  have isId : journal.id = i := good.books.numbered i journal at_
  exact ⟨journal, by rw [show (translateToLedgerTx journal leg).journalId = i from isId]; exact at_,
    debits⟩

theorem reconstructed_nonneg {w : World} (good : Solvent walletId w) {paymentHash : PaymentHash}
    {tx : LedgerTransaction} {ids : List WalletId} {accountId : AccountId} {flow : PaymentFlow}
    (shown : tx ∈ w.ledger.getTransactionsByHash paymentHash)
    (endUser : isPendingPaymentOfEndUser ids tx = true)
    (made : paymentFlowFromLedgerTransaction tx accountId = .ok flow) : flow.Nonneg := by
  obtain ⟨journal, inLedger, leg, inJournal, _, rfl⟩ := Ledger.mem_transactions.mp shown
  simp only [isPendingPaymentOfEndUser, Bool.and_eq_true, decide_eq_true_eq] at endUser
  obtain ⟨⟨⟨pending, type⟩, _⟩, _⟩ := endUser
  have isPending : leg.isPendingPayment = true := by
    unfold Leg.isPendingPayment
    simp only [Bool.and_eq_true, decide_eq_true_eq]
    exact ⟨pending, type⟩
  obtain ⟨_, satsAmount, centsAmount, satsFee, centsFee⟩ :=
    good.books.pending journal inLedger leg inJournal isPending
  unfold paymentFlowFromLedgerTransaction at made
  split at made
  · cases made
  · split at made
    · rename_i sats cents satsFee' centsFee' _ _ isSats isCents isSatsFee isCentsFee
      obtain rfl := Except.ok.inj made
      dsimp only [translateToLedgerTx] at isSats isCents isSatsFee isCentsFee
      rw [isSats] at satsAmount
      rw [isCents] at centsAmount
      obtain rfl := Option.some.inj isSatsFee
      obtain rfl := Option.some.inj isCentsFee
      exact ⟨satsAmount, centsAmount, satsFee, centsFee⟩
    · cases made

variable {keep : World → Prop} (stable : (solvency walletId).Stable run keep)

include stable

theorem reconstruct_nonneg (paymentHash : PaymentHash) :
    Spec services dealerPricesNonneg (solvency walletId) run keep
      (reconstructPendingPaymentFlow paymentHash) (fun flow w => keep w ∧ flow.Nonneg)
      (fun _ _ => True) := by
  refine Spec.seq (fun txs w => keep w ∧ ∀ tx ∈ txs, ∀ ids,
    isPendingPaymentOfEndUser ids tx = true →
    ∀ accountId flow, paymentFlowFromLedgerTransaction tx accountId = .ok flow → flow.Nonneg)
    (fallible_spec (ask_triple stable ?_)) fun txs => Spec.pre_fact fun nonneg => ?_
  · intro before a reply after good holds _ served
    refine ⟨(benign_kept stable (by trivial) good holds served).1, ?_⟩
    obtain rfl := Stores.read_unchanged served
    cases reply with
    | error error => trivial
    | ok txs =>
      obtain rfl := Except.ok.inj (Stores.read_ok served)
      exact ⟨holds, fun tx shown ids endUser accountId flow made =>
        reconstructed_nonneg good shown endUser made⟩
  refine Spec.bind (next_spec stable (only_total (only_ask trivial))) fun ids => ?_
  cases found : txs.find? (isPendingPaymentOfEndUser ids) with
  | none => exact Spec.throw fun _ _ _ => trivial
  | some payment =>
    dsimp only
    split
    · exact Spec.throw fun _ _ _ => trivial
    · refine Spec.bind (next_spec stable (only_fallible (only_ask trivial))) fun _ => ?_
      refine Spec.bind (next_spec stable (only_fallible (only_ask trivial))) fun senderAccount => ?_
      refine ofResult_spec fun w _ holds => ?_
      cases made : paymentFlowFromLedgerTransaction payment senderAccount.id with
      | error error => trivial
      | ok flow =>
        exact ⟨holds, nonneg payment (List.mem_of_find?_eq_some found) ids (List.find?_some found)
          senderAccount.id flow made⟩

theorem flowOfPendingPayment_nonneg (index : PaymentFlowStateIndex) :
    Spec services dealerPricesNonneg (solvency walletId) run keep (flowOfPendingPayment index)
      (fun flow w => keep w ∧ flow.Nonneg) (fun _ _ => True) := by
  have marked : Spec services dealerPricesNonneg (solvency walletId) run keep
      (fallible (ask (.markLightningPaymentFlowNotPending index)))
      (fun flow w => keep w ∧ flow.Nonneg) (fun _ => keep) := by
    refine fallible_spec (ask_triple stable ?_)
    intro before a reply after good holds _ served
    have kept := benign_kept stable (by trivial) good holds served
    refine ⟨kept.1, ?_⟩
    obtain ⟨⟨error, rfl⟩, _, _⟩ | ⟨flow, flows, updated, rfl, rfl⟩ :=
      World.markLightningPaymentFlowNotPending_inversion served
    · exact kept.2
    · have nonneg : flow.Nonneg := by
        refine (World.updateFirst_all good.books.flows (fun flow member => ?_) updated).1
        obtain ⟨btcPayment, usdPayment, btcFee, usdFee⟩ := good.books.flows flow member
        exact ⟨btcPayment, usdPayment, btcFee, usdFee⟩
      exact ⟨kept.2, nonneg.1, nonneg.2, nonneg.3, nonneg.4⟩
  refine Spec.bind (attempt_spec marked) fun result => ?_
  cases result with
  | error error => exact reconstruct_nonneg stable _
  | ok flow => exact Spec.pure fun _ _ h => h

omit stable in
theorem updatePending_spec (jobWalletId : WalletId) (tx : LedgerTransaction)
    (paymentHash : PaymentHash) (lookup : LnPaymentLookup)
    (hash : tx.paymentHash = some paymentHash) :
    Spec services dealerPricesNonneg (solvency walletId) run (Item walletId tx)
      (updatePendingPaymentBehindLock jobWalletId tx paymentHash lookup) (fun _ _ => True)
      (fun _ _ => True) := by
  have debits_stable : (solvency walletId).Stable run
      (fun w => w.ledger.Has tx.journalId (Journal.Debits walletId (some paymentHash))) :=
    has_stable debits_evolves
  refine fun w good item => Spec.bind (next_spec debits_stable (only_fallible (only_ask trivial)))
    (fun recorded => ?_) w good (item paymentHash hash)
  split
  · exact Spec.pure fun _ _ _ => trivial
  refine Spec.bind (next_spec debits_stable (only_ofResult _)) fun inputAmount => ?_
  refine Spec.bind (flowOfPendingPayment_nonneg debits_stable _) fun flow =>
    Spec.pre_fact fun nonneg => ?_
  refine Spec.bind (settle_closes .lnPayment) fun _ => ?_
  cases lookup.status with
  | pending => exact Spec.pure fun _ _ _ => trivial
  | settled =>
    refine last_spec (OnlyRun.bind ?_ fun _ => ?_)
    · cases lookup.revealedPreImage with
      | none => exact OnlyRun.pure _
      | some preImage => exact only_total (only_ask trivial)
    · split
      · exact OnlyRun.pure _
      · split
        · exact reimburseFee_benign nonneg _ _
        · exact OnlyRun.throw _
  | failed =>
    dsimp only [failPendingPayment]
    split
    · exact void_spec .lnPayment
    · exact last_spec (reimburseFailedUsdPayment_benign nonneg _)

omit stable in
theorem pendingPayments_spec (jobWalletId : WalletId) :
    Spec services dealerPricesNonneg (solvency walletId) run (fun _ => True)
      (updatePendingPaymentsByWalletId jobWalletId) (fun _ _ => True) (fun _ _ => True) := by
  refine updatePendingPaymentsByWalletId_run item_lasting ?_ ?_ fun w good tx listed =>
    listed_item good listed
  · intro c reads before a reply after good _ served
    exact (benign_kept (Discipline.stable_true _ run) (reads_benign c reads) good trivial served).1
  · intro tx paymentHash lookup hash
    exact withLock_keeps (item_lasting.stable tx)
      (updatePending_spec jobWalletId tx paymentHash lookup hash)

end Pending

theorem activity_spec (getAccountLimits : AccountLevel → AccountLimits) {activity : Activity}
    (promised : activity.Promised) :
    Triple services dealerPricesNonneg (solvency walletId) run (fun _ => True)
      (activity.prog getAccountLimits) (fun _ _ => True) := by
  cases activity with
  | lnSend send => exact Triple.discard (lnSend_spec getAccountLimits promised)
  | lnIntraledger payment => exact Triple.discard (lnIntraledger_spec getAccountLimits promised)
  | intraledger payment => exact Triple.discard (intraledger_spec getAccountLimits promised)
  | invoices invoiceRun => exact invoices_spec invoiceRun
  | pendingPayments jobWalletId => exact Triple.discard (pendingPayments_spec jobWalletId)

end Solvency

/-- The balance of a customer's wallet is read under the lock that its debits hold, so no
interleaving overdraws it. -/
theorem customer_never_overdrawn {getAccountLimits : AccountLevel → AccountLimits}
    {activities : RunId → Activity} (promised : ∀ run, (activities run).Promised) {start : World}
    {walletId : WalletId} (customer : walletId ∉ start.bank.getDealerWalletIds)
    (books : Books walletId start) (balance : 0 ≤ start.balance walletId)
    {after : Config World Call Reply Unit}
    (reach : Reach services dealerPricesNonneg
      ⟨start, fun run => (activities run).prog getAccountLimits⟩ after) :
    0 ≤ after.world.balance walletId := by
  have good : (solvency walletId).inv start := ⟨customer, books, balance⟩
  have kept := reach_inv good
    (fun run => Solvency.activity_spec getAccountLimits (promised run) start good trivial) reach
  exact kept.balance

section Example

instance (run : RunId) (w : World) (c : Call) (a : services.Answer c) :
    Decidable (dealerPricesNonneg run w c a) :=
  inferInstanceAs (Decidable (∀ price ∈ dealerPrice c a, _))

def greedySend (run : RunId) : LnSend where
  decodedInvoice :=
    { paymentHash := if run = 0 then "first" else "second"
      paymentRequest := "lnbc"
      destination := "destination" }
  paymentFlow :=
    { sendFlow "alice" with
      hash := .paymentHash (if run = 0 then "first" else "second")
      btcPaymentAmount := ⟨9000⟩
      inputAmount := 9000 }
  senderWallet := sendWallet "alice"

def greedyWallet (run : RunId) : Activity :=
  if run = 1 then .pendingPayments "alice" else .lnSend (greedySend run)

def greedyStart : Config World Call Reply Unit :=
  ⟨sendWorld, fun run => (greedyWallet run).prog sendLimits⟩

theorem greedyWallet_promised (run : RunId) : (greedyWallet run).Promised := by
  unfold greedyWallet
  split
  · trivial
  · exact ⟨by constructor <;> simp [greedySend, sendFlow], rfl⟩

theorem sendWorld_books : Books "alice" sendWorld := by
  have settled : ∀ journal ∈ sendWorld.ledger.journals, ∀ leg ∈ journal.legs,
      leg.isPendingPayment = false := by
    decide +kernel
  refine ⟨sendWorld_numbered, fun journal inLedger leg inJournal isPending => ?_, ?_, ?_⟩
  · rw [settled journal inLedger leg inJournal] at isPending
    cases isPending
  · intro flow stored
    cases stored
  · intro paymentHash record cents stored
    cases stored

theorem greedy_wallet_not_overdrawn :
    ∃ after, Reach services dealerPricesNonneg greedyStart after ∧
      after.world.balance "alice" = 990 ∧ 0 ≤ after.world.balance "alice" := by
  have played : (play services dealerPricesNonneg
      (fun _ => (sendOutside paymentTimeout .pending).answers)
      (List.replicate 12 0 ++ List.replicate 6 2) greedyStart).map (·.world.balance "alice") =
      some 990 := by
    decide +kernel
  obtain ⟨after, run, balance⟩ := Option.map_eq_some_iff.mp played
  have reach := play_reach _ _ _ _ _ _ run
  exact ⟨after, reach, balance, customer_never_overdrawn greedyWallet_promised (by decide +kernel)
    sendWorld_books (by decide +kernel) reach⟩

end Example

end Galoy
