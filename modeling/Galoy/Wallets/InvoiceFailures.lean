import Galoy.App.Alone
import Galoy.Ledger.Entries
import Galoy.Wallets.UpdatePendingInvoices

set_option autoImplicit false

namespace Galoy

open Interleave App

def World.paidIsReceived (w : World) (paymentHash : PaymentHash) : Prop :=
  ∀ record, w.invoices paymentHash = some record → record.paid = true →
    0 < w.ledger.receives paymentHash

section Conditions

variable (answers : Answers) (w : World) (invoice : WalletInvoice)

def Forgotten (site : Site) (error : AppError) : Prop :=
  error.name = .InvoiceNotFoundError ∧
    answers (.deleteByPaymentHash site invoice.paymentHash) = none

def Declined : Prop :=
  (answers (.lndService .declineHeldInvoice)).isOk = true ∧
    match answers (.lookupInvoice .declineHeldInvoice invoice.pubkey invoice.paymentHash) with
    | .error error => Forgotten answers invoice .declineHeldInvoice error
    | .ok lookup =>
      lookup.isSettled = false ∧
        (lookup.isHeld = true →
          answers (.cancelInvoice .declineHeldInvoice invoice.pubkey invoice.paymentHash) = .ok () ∧
            answers (.deleteByPaymentHash .declineHeldInvoice invoice.paymentHash) = none)

def NothingToCredit : Prop :=
  (answers (.lndService .updatePendingInvoiceBeforeFinally)).isOk = true ∧
    match answers
      (.lookupInvoice .updatePendingInvoiceBeforeFinally invoice.pubkey invoice.paymentHash) with
    | .error error => Forgotten answers invoice .updatePendingInvoiceBeforeFinally error
    | .ok lookup =>
      if (checkedToSats lookup.roundedDownReceived).isOk then
        lookup.isHeld = false ∧ lookup.isSettled = false
      else Declined answers invoice

def ReportsReceived (lookup : LnInvoiceLookup) : Prop :=
  (answers (.lndService .updatePendingInvoiceBeforeFinally)).isOk = true ∧
    answers (.lookupInvoice .updatePendingInvoiceBeforeFinally invoice.pubkey
      invoice.paymentHash) = .ok lookup ∧
    (checkedToSats lookup.roundedDownReceived).isOk = true ∧
    (lookup.isHeld = true ∨ lookup.isSettled = true)

def receiverAnswer (receivedBtc : BtcPaymentAmount) : Result WalletInvoiceReceiver :=
  let descriptor := invoice.recipientWalletDescriptor
  match descriptor.currency, invoice.usdAmount with
  | .btc, _ =>
    (answers (.getMidPriceRatio .updatePendingInvoiceBehindLock)).map fun midPriceRatio =>
      ⟨descriptor, midPriceRatio.convertFromBtc receivedBtc, receivedBtc, zeroCents, zeroSats⟩
  | .usd, some usdAmount => .ok ⟨descriptor, usdAmount, receivedBtc, zeroCents, zeroSats⟩
  | .usd, none =>
    (answers (.getCentsFromSatsForImmediateBuy receivedBtc)).map fun usdAmount =>
      ⟨descriptor, usdAmount, receivedBtc, zeroCents, zeroSats⟩

def Markable (lookup : LnInvoiceLookup) (receiver : WalletInvoiceReceiver) : Prop :=
  receiverAnswer answers invoice ⟨lookup.roundedDownReceived⟩ = .ok receiver ∧
    (lookup.isSettled = true ∨ answers (.settleInvoice invoice.pubkey invoice.secret) = .ok ()) ∧
    answers (.markAsPaid .updatePendingInvoiceBehindLock invoice.paymentHash) = none

def Recordable (lookup : LnInvoiceLookup) (receiver : WalletInvoiceReceiver) : Prop :=
  answers (.findWalletById .updatePendingInvoiceBehindLock invoice.recipientWalletDescriptor.id) =
      none ∧
    ∃ wallet, w.wallets invoice.recipientWalletDescriptor.id = some wallet ∧
      answers (.findAccountById .updatePendingInvoiceBehindLock wallet.accountId) = none ∧
      ∃ account, w.accounts wallet.accountId = some account ∧
        (answers (.recordReceive
          (lightningReceiveArgs invoice lookup.description receiver account.id))).fault = none

def LockedAndRead : Prop :=
  answers (.acquire (.paymentHash invoice.paymentHash)) = .done ∧
    answers (.findByPaymentHash .updatePendingInvoiceBehindLock invoice.paymentHash) = none

def MarksPaid : Prop :=
  ∃ lookup receiver, ReportsReceived answers invoice lookup ∧ LockedAndRead answers invoice ∧
    Markable answers invoice lookup receiver

def Credits : Prop :=
  ∃ lookup receiver, ReportsReceived answers invoice lookup ∧ LockedAndRead answers invoice ∧
    Markable answers invoice lookup receiver ∧ Recordable answers w invoice lookup receiver

end Conditions

section Exits

variable (paymentHash : PaymentHash) (before : World)

def ExitQuiet (result : Result Bool) (after : World) : Prop :=
  after.ledger = before.ledger ∧
    (after.invoices paymentHash = none ∨
      (isTruthy result = false ∧ after.invoices = before.invoices))

def ExitFailed (result : Result Bool) (after : World) : Prop :=
  after.ledger = before.ledger ∧ isTruthy result = true ∧ after.invoices = before.invoices

def ExitMarked (after : World) : Prop :=
  after.ledger = before.ledger ∧
    ∃ record, after.invoices paymentHash = some record ∧ record.paid = true

end Exits

section Runs

variable {run : RunId} {answers : Answers} {w : World}

theorem receiver_alone (invoice : WalletInvoice) (receivedBtc : BtcPaymentAmount)
    {post : Result WalletInvoiceReceiver → World → Prop}
    (h : post (receiverAnswer answers invoice receivedBtc) w) :
    EndsAlone run answers (walletInvoiceReceiver invoice receivedBtc) w post := by
  unfold walletInvoiceReceiver
  unfold receiverAnswer at h
  dsimp only at h ⊢
  split
  · rename_i currency
    rw [currency] at h
    refine endsRun_bind.mpr (endsRun_bind.mpr (alone_call rfl ?_))
    cases answered : answers (.getMidPriceRatio .updatePendingInvoiceBehindLock) with
    | error error => simpa [answered, Except.map] using h
    | ok midPriceRatio => simpa [answered, Except.map] using h
  · rename_i currency priced
    rw [currency, priced] at h
    exact endsRun_pure.mpr h
  · rename_i currency open_
    rw [currency, open_] at h
    refine endsRun_bind.mpr (alone_call rfl ?_)
    cases answered : answers (.getCentsFromSatsForImmediateBuy receivedBtc) with
    | error error => simpa [answered, Except.map] using h
    | ok usdAmount => simpa [answered, Except.map] using h

theorem delete_alone {site : Site} {paymentHash : PaymentHash} {post : Result Unit → World → Prop}
    (stored : (w.invoices paymentHash).isSome = true)
    (deleted : answers (.deleteByPaymentHash site paymentHash) = none →
      post (.ok ()) { w with invoices := Function.update w.invoices paymentHash none })
    (kept : answers (.deleteByPaymentHash site paymentHash) ≠ none →
      ∀ error, post (.error error) w) :
    Ends services run answers (ask (.deleteByPaymentHash site paymentHash)) w post := by
  obtain ⟨record, stored⟩ := Option.isSome_iff_exists.mp stored
  cases answered : answers (.deleteByPaymentHash site paymentHash) with
  | none =>
    refine alone_call ?_ (deleted answered)
    simp [serve, World.deleteByPaymentHash, answered, stored]
  | some fault =>
    refine alone_call ?_ (kept (by simp [answered]) { name := .RepositoryError })
    simp [serve, World.deleteByPaymentHash, answered]

theorem exitQuiet_deleted {paymentHash : PaymentHash} {result : Result Bool} :
    ExitQuiet paymentHash w result
      { w with invoices := Function.update w.invoices paymentHash none } :=
  ⟨rfl, .inl (by simp)⟩

theorem exitFailed_error {error : AppError} : ExitFailed w (.error error) w := ⟨rfl, rfl, rfl⟩

theorem exitQuiet_false {paymentHash : PaymentHash} : ExitQuiet paymentHash w (.ok false) w :=
  ⟨rfl, .inr ⟨rfl, rfl⟩⟩

theorem forget_alone {invoice : WalletInvoice} {site : Site} {error : AppError}
    {post : Result Bool → World → Prop}
    (stored : (w.invoices invoice.paymentHash).isSome = true)
    (quiet : Forgotten answers invoice site error →
      ∀ result after, ExitQuiet invoice.paymentHash w result after → post result after)
    (failed : ¬Forgotten answers invoice site error →
      ∀ result after, ExitFailed w result after → post result after) :
    EndsAlone run answers
      (if error.name = .InvoiceNotFoundError then do
        fallible (ask (.deleteByPaymentHash site invoice.paymentHash))
        return false
      else throw error) w post := by
  by_cases unknown : error.name = .InvoiceNotFoundError
  · rw [if_pos unknown]
    refine endsRun_bind.mpr (delete_alone stored ?_ ?_)
    · intro works
      exact endsRun_pure.mpr (quiet ⟨unknown, works⟩ _ _ exitQuiet_deleted)
    · intro fails other
      exact failed (fun forgotten => fails forgotten.2) _ _ exitFailed_error
  · rw [if_neg unknown]
    exact endsRun_throw.mpr (failed (fun forgotten => unknown forgotten.1) _ _ exitFailed_error)

theorem decline_alone {invoice : WalletInvoice} {post : Result Bool → World → Prop}
    (stored : (w.invoices invoice.paymentHash).isSome = true)
    (quiet : Declined answers invoice →
      ∀ result after, ExitQuiet invoice.paymentHash w result after → post result after)
    (failed : ¬Declined answers invoice →
      ∀ result after, ExitFailed w result after → post result after) :
    EndsAlone run answers (declineHeldInvoice invoice.pubkey invoice.paymentHash) w post := by
  unfold Declined at quiet failed
  refine endsRun_bind.mpr (alone_call rfl ?_)
  cases reachable : answers (.lndService .declineHeldInvoice) with
  | error error =>
    exact failed (by simp [reachable, Except.isOk, Except.toBool]) _ _ exitFailed_error
  | ok pubkey =>
    have up : (answers (.lndService .declineHeldInvoice)).isOk = true := by rw [reachable]; rfl
    refine endsRun_bind.mpr (alone_attempt.mpr (alone_call rfl ?_))
    cases lookedUp : answers
        (.lookupInvoice .declineHeldInvoice invoice.pubkey invoice.paymentHash) with
    | error error =>
      rw [lookedUp] at quiet failed
      refine forget_alone stored (fun forgotten => quiet ⟨up, forgotten⟩) ?_
      exact fun known => failed fun declined => known declined.2
    | ok lookup =>
      rw [lookedUp] at quiet failed
      by_cases settled : lookup.isSettled = true
      · simp only [outcome_ok, settled, if_true, endsRun_throw]
        exact failed (by simp [settled]) _ _ exitFailed_error
      · by_cases held : lookup.isHeld = true
        · simp only [outcome_ok, settled, held]
          refine endsRun_bind.mpr (alone_call rfl ?_)
          cases cancelled : answers
              (.cancelInvoice .declineHeldInvoice invoice.pubkey invoice.paymentHash) with
          | error error => exact failed (by simp [held, cancelled]) _ _ exitFailed_error
          | ok _ =>
            refine endsRun_bind.mpr (alone_attempt.mpr (delete_alone stored ?_ ?_))
            · intro works
              refine endsRun_pure.mpr (quiet ⟨up, ?_⟩ _ _ exitQuiet_deleted)
              exact ⟨by simpa using settled, fun _ => ⟨cancelled, works⟩⟩
            · intro fails other
              refine endsRun_pure.mpr (failed ?_ _ _ ⟨rfl, rfl, rfl⟩)
              exact fun declined => fails (declined.2.2 held).2
        · simp only [outcome_ok, settled, held]
          refine endsRun_pure.mpr (quiet ⟨up, ?_⟩ _ _ exitQuiet_false)
          exact ⟨by simpa using settled, fun shown => absurd shown held⟩

theorem settle_alone {invoice : WalletInvoice} {lookup : LnInvoiceLookup}
    {post : Result Unit → World → Prop}
    (works : (lookup.isSettled = true ∨
      answers (.settleInvoice invoice.pubkey invoice.secret) = .ok ()) → post (.ok ()) w)
    (fails : ¬(lookup.isSettled = true ∨
      answers (.settleInvoice invoice.pubkey invoice.secret) = .ok ()) →
      ∀ error, post (.error error) w) :
    EndsAlone run answers (settleHeldInvoice invoice lookup) w post := by
  unfold settleHeldInvoice
  by_cases settled : lookup.isSettled = true
  · rw [if_pos settled]
    exact endsRun_pure.mpr (works (.inl settled))
  · rw [if_neg settled]
    refine alone_call rfl ?_
    cases answered : answers (.settleInvoice invoice.pubkey invoice.secret) with
    | error error => exact fails (by simp [settled, answered]) error
    | ok _ => exact works (.inr answered)

theorem receives_commit_receive (run : RunId) (ledger : Ledger) (clock : Nat) (bank : BankWallets)
    (invoice : WalletInvoice) (description : String) (receiver : WalletInvoiceReceiver)
    (accountId : AccountId)
    (positive : 0 < receiver.btcToCreditReceiver.amount + receiver.btcBankFee.amount) :
    0 < (ledger.commit run clock (LedgerFacade.recordReceive bank
      (lightningReceiveArgs invoice description receiver accountId))).receives
        invoice.paymentHash := by
  have debits := builder_debits
    { staticAccountIds := bank.staticAccountIds
      entry := { description := description }
      metadata := (lightningReceiveArgs invoice description receiver accountId).metadata }
    ⟨AmountCalculator.add receiver.usdToCreditReceiver receiver.usdBankFee,
      AmountCalculator.add receiver.btcToCreditReceiver receiver.btcBankFee⟩
    ⟨receiver.usdBankFee, receiver.btcBankFee⟩ lndLedgerAccountDescriptor
    ⟨toLedgerAccountId receiver.recipientWalletDescriptor.id,
      receiver.recipientWalletDescriptor.currency⟩ {}
    (by
      have nonzero := ne_of_gt positive
      simpa [lndLedgerAccountDescriptor, AmountWithFees.inCurrency, AmountCalculator.add]
      using nonzero)
  have member : ∃ leg ∈ (LedgerFacade.recordReceive bank
      (lightningReceiveArgs invoice description receiver accountId)).transactions,
      leg.metadata.type = .invoice ∧ leg.ofHash invoice.paymentHash = true :=
    ⟨_, debits, rfl,
      by simp [Leg.ofHash, TxMetadata.override, lightningReceiveArgs, lnReceiveLedgerMetadata]⟩
  obtain ⟨leg, inEntry, isInvoice, sameHash⟩ := member
  simp only [Ledger.receives, Ledger.commit, List.countP_append, List.countP_singleton]
  rw [if_pos]
  · omega
  · simp only [Journal.isReceiveFor, List.any_eq_true]
    exact ⟨leg, inEntry, by simp [isInvoice, sameHash]⟩

theorem receiverAnswer_positive {invoice : WalletInvoice} {sats : Int}
    {receiver : WalletInvoiceReceiver}
    (priced : receiverAnswer answers invoice ⟨sats⟩ = .ok receiver) (positive : 0 < sats) :
    0 < receiver.btcToCreditReceiver.amount + receiver.btcBankFee.amount := by
  have same : receiver.btcToCreditReceiver = ⟨sats⟩ ∧ receiver.btcBankFee = zeroSats := by
    unfold receiverAnswer at priced
    dsimp only at priced
    split at priced
    · cases answered : answers (.getMidPriceRatio .updatePendingInvoiceBehindLock) with
      | error error => simp [answered, Except.map] at priced
      | ok ratio =>
        simp only [answered, Except.map, Except.ok.injEq] at priced
        subst priced
        exact ⟨rfl, rfl⟩
    · cases priced
      exact ⟨rfl, rfl⟩
    · cases answered : answers (.getCentsFromSatsForImmediateBuy ⟨sats⟩) with
      | error error => simp [answered, Except.map] at priced
      | ok usdAmount =>
        simp only [answered, Except.map, Except.ok.injEq] at priced
        subst priced
        exact ⟨rfl, rfl⟩
  simpa [same.1, same.2, zeroSats] using positive

theorem credit_alone {invoice : WalletInvoice} {lookup : LnInvoiceLookup}
    {post : Result Bool → World → Prop}
    (stored : (w.invoices invoice.paymentHash).isSome = true)
    (positive : 0 < lookup.roundedDownReceived)
    (failed : (∀ receiver, ¬Markable answers invoice lookup receiver) →
      ∀ error, post (.error error) w)
    (marked : ∀ receiver, Markable answers invoice lookup receiver →
      ¬Recordable answers w invoice lookup receiver →
      ∀ result after, ExitMarked invoice.paymentHash w after → post result after)
    (credited : ∀ receiver, Markable answers invoice lookup receiver →
      Recordable answers w invoice lookup receiver →
      ∀ result after, 0 < after.ledger.receives invoice.paymentHash → post result after) :
    EndsAlone run answers (creditPendingInvoice invoice lookup ⟨lookup.roundedDownReceived⟩) w
      post := by
  refine endsRun_bind.mpr (receiver_alone invoice _ ?_)
  cases priced : receiverAnswer answers invoice ⟨lookup.roundedDownReceived⟩ with
  | error error => exact failed (by simp [Markable, priced]) error
  | ok receiver =>
    refine endsRun_bind.mpr (settle_alone ?_ ?_)
    · intro settles
      refine endsRun_bind.mpr ?_
      refine mark_alone ?_ ?_
      · intro marks record _ _
        have markable : Markable answers invoice lookup receiver := ⟨priced, settles, marks⟩
        have exit : ExitMarked invoice.paymentHash w (w.paid invoice.paymentHash record) :=
          ⟨rfl, { record with paid := true }, paid_invoices _ _ _, rfl⟩
        refine endsRun_bind.mpr (findWallet_alone ?_ ?_)
        · intro noFaultW wallet foundW
          refine endsRun_bind.mpr (findAccount_alone ?_ ?_)
          · intro noFault account found
            refine endsRun_bind.mpr (recordReceive_alone ?_ ?_)
            · intro commits now
              have recordable : Recordable answers w invoice lookup receiver :=
                ⟨noFaultW, wallet, foundW, noFault, account, found, commits⟩
              have received := receives_commit_receive run w.ledger now w.bank invoice
                lookup.description receiver account.id (receiverAnswer_positive priced positive)
              refine endsRun_bind.mpr (findUser_alone ?_ ?_)
              · intro _ user _
                refine endsRun_bind.mpr (alone_total.mpr (alone_call rfl ?_))
                exact endsRun_pure.mpr (credited receiver markable recordable _ _ received)
              · intro _ error
                exact credited receiver markable recordable _ _ received
            · intro fault error
              refine marked receiver markable ?_ _ _ exit
              rintro ⟨_, _, sameWallet, _, _, sameAccount, commits⟩
              obtain rfl := Option.some.inj (foundW.symm.trans sameWallet)
              obtain rfl := Option.some.inj (found.symm.trans sameAccount)
              exact fault commits
          · intro missing error
            refine marked receiver markable ?_ _ _ exit
            rintro ⟨_, _, sameWallet, noFault, account, found, _⟩
            obtain rfl := Option.some.inj (foundW.symm.trans sameWallet)
            exact missing ⟨account, noFault, found⟩
        · intro missing error
          refine marked receiver markable ?_ _ _ exit
          rintro ⟨noFault, wallet, found, _⟩
          exact missing ⟨wallet, noFault, found⟩
      · intro kept error
        refine failed (fun _ markable => ?_) error
        rcases kept with fault | absent
        · exact fault markable.2.2
        · simp [absent] at stored
    · intro refused error
      exact failed (fun _ markable => refused markable.2.1) error

theorem behindLock_alone {invoice : WalletInvoice} {lookup : LnInvoiceLookup}
    {post : Result Bool → World → Prop}
    (stored : (w.invoices invoice.paymentHash).isSome = true) (unpaid : invoice.paid = false)
    (positive : 0 < lookup.roundedDownReceived)
    (failed : (∀ receiver,
        answers (.findByPaymentHash .updatePendingInvoiceBehindLock invoice.paymentHash) = none →
        ¬Markable answers invoice lookup receiver) → ∀ error, post (.error error) w)
    (marked : ∀ receiver,
      answers (.findByPaymentHash .updatePendingInvoiceBehindLock invoice.paymentHash) = none →
      Markable answers invoice lookup receiver → ¬Recordable answers w invoice lookup receiver →
      ∀ result after, ExitMarked invoice.paymentHash w after → post result after)
    (credited : ∀ receiver,
      answers (.findByPaymentHash .updatePendingInvoiceBehindLock invoice.paymentHash) = none →
      Markable answers invoice lookup receiver → Recordable answers w invoice lookup receiver →
      ∀ result after, 0 < after.ledger.receives invoice.paymentHash → post result after) :
    EndsAlone run answers
      (updatePendingInvoiceBehindLock invoice lookup ⟨lookup.roundedDownReceived⟩) w post := by
  refine endsRun_bind.mpr (alone_attempt.mpr ?_)
  obtain ⟨record, found⟩ := Option.isSome_iff_exists.mp stored
  cases reads : answers (.findByPaymentHash .updatePendingInvoiceBehindLock invoice.paymentHash)
    with
  | some fault =>
    have served : serve run w (.findByPaymentHash .updatePendingInvoiceBehindLock
        invoice.paymentHash)
          (answers (.findByPaymentHash .updatePendingInvoiceBehindLock invoice.paymentHash)) =
        some (.error fault.error, w) := by
      simp [serve, Stores.readOr, Stores.answerOr, reads]
    have other : fault.error.name.isCouldNotFindError = false := by
      cases fault <;> rfl
    refine alone_call served ?_
    simp only [outcome_ok, other]
    exact endsRun_throw.mpr (failed (by simp [reads]) _)
  | none =>
    have served : serve run w (.findByPaymentHash .updatePendingInvoiceBehindLock
        invoice.paymentHash)
          (answers (.findByPaymentHash .updatePendingInvoiceBehindLock invoice.paymentHash)) =
        some (.ok (walletInvoiceFromRaw invoice.paymentHash record), w) := by
      simp [serve, Stores.readOr, Stores.answerOr, reads, World.findByPaymentHash, found]
    refine alone_call served ?_
    simp only [outcome_ok, unpaid]
    exact credit_alone stored positive (fun none => failed fun receiver _ => none receiver)
      (fun receiver => marked receiver reads) (fun receiver => credited receiver reads)

theorem checkedToSats_isOk {amount : Int} (checked : (checkedToSats amount).isOk = true) :
    0 < amount ∧ checkedToSats amount = .ok amount := by
  unfold checkedToSats at checked ⊢
  by_cases positive : amount > 0
  · by_cases large : amount > maxSats.amount
    · simp [positive, large, Except.isOk, Except.toBool] at checked
    · simp [positive, large]
  · simp [positive, Except.isOk, Except.toBool] at checked

theorem reportsReceived_unique {invoice : WalletInvoice} {lookup other : LnInvoiceLookup}
    (lookedUp : answers (.lookupInvoice .updatePendingInvoiceBeforeFinally invoice.pubkey
      invoice.paymentHash) = .ok lookup)
    (reports : ReportsReceived answers invoice other) : other = lookup :=
  Except.ok.inj (reports.2.1.symm.trans lookedUp)

theorem markable_unique {invoice : WalletInvoice} {lookup : LnInvoiceLookup}
    {receiver other : WalletInvoiceReceiver} (first : Markable answers invoice lookup receiver)
    (second : Markable answers invoice lookup other) : other = receiver :=
  Except.ok.inj (second.1.symm.trans first.1)

theorem locked_alone {invoice : WalletInvoice} {lookup : LnInvoiceLookup}
    {post : Result Bool → World → Prop}
    (stored : (w.invoices invoice.paymentHash).isSome = true) (unpaid : invoice.paid = false)
    (free : w.locks (.paymentHash invoice.paymentHash) = none)
    (reports : ReportsReceived answers invoice lookup)
    (failed : ¬MarksPaid answers invoice →
      ∀ result after, ExitFailed w result after → post result after)
    (marked : MarksPaid answers invoice → ¬Credits answers w invoice →
      ∀ result after, ExitMarked invoice.paymentHash w after → post result after)
    (credited : Credits answers w invoice →
      ∀ result after, 0 < after.ledger.receives invoice.paymentHash → post result after) :
    EndsAlone run answers (withLock (.paymentHash invoice.paymentHash)
      (updatePendingInvoiceBehindLock invoice lookup ⟨lookup.roundedDownReceived⟩)) w post := by
  have positive : 0 < lookup.roundedDownReceived := (checkedToSats_isOk reports.2.2.1).1
  by_cases granted : answers (.acquire (.paymentHash invoice.paymentHash)) = .done
  · refine alone_withLock_granted free granted (behindLock_alone ?_ unpaid positive ?_ ?_ ?_)
    · exact stored
    · intro unmarkable error locks
      refine failed ?_ _ _ ⟨rfl, ?_, rfl⟩
      · rintro ⟨other, receiver, sameReports, locked, markable⟩
        obtain rfl := reportsReceived_unique reports.2.1 sameReports
        exact unmarkable receiver locked.2 markable
      · unfold released
        split <;> rfl
    · intro receiver reads markable unrecordable result after exit locks
      refine marked ⟨lookup, receiver, reports, ⟨granted, reads⟩, markable⟩ ?_ _ _ exit
      rintro ⟨other, otherReceiver, sameReports, _, sameMarkable, recordable⟩
      obtain rfl := reportsReceived_unique reports.2.1 sameReports
      obtain rfl := markable_unique markable sameMarkable
      exact unrecordable recordable
    · intro receiver reads markable recordable result after received locks
      exact credited ⟨lookup, receiver, reports, ⟨granted, reads⟩, markable, recordable⟩
        _ _ received
  · refine alone_withLock_refused granted fun error => failed ?_ _ _ exitFailed_error
    rintro ⟨_, _, _, locked, _⟩
    exact granted locked.1

theorem beforeFinally_alone {invoice : WalletInvoice} {post : Result Bool → World → Prop}
    (stored : (w.invoices invoice.paymentHash).isSome = true) (unpaid : invoice.paid = false)
    (free : w.locks (.paymentHash invoice.paymentHash) = none)
    (quiet : NothingToCredit answers invoice →
      ∀ result after, ExitQuiet invoice.paymentHash w result after → post result after)
    (failed : ¬NothingToCredit answers invoice → ¬MarksPaid answers invoice →
      ∀ result after, ExitFailed w result after → post result after)
    (marked : MarksPaid answers invoice → ¬Credits answers w invoice →
      ∀ result after, ExitMarked invoice.paymentHash w after → post result after)
    (credited : Credits answers w invoice →
      ∀ result after, 0 < after.ledger.receives invoice.paymentHash → post result after) :
    EndsAlone run answers (updatePendingInvoiceBeforeFinally invoice) w post := by
  have noneReported : ∀ lookup, answers (.lookupInvoice .updatePendingInvoiceBeforeFinally
      invoice.pubkey invoice.paymentHash) = .ok lookup → ¬ReportsReceived answers invoice lookup →
      ¬MarksPaid answers invoice := by
    rintro lookup lookedUp unreported ⟨other, _, reports, _⟩
    obtain rfl := reportsReceived_unique lookedUp reports
    exact unreported reports
  refine endsRun_bind.mpr (alone_call rfl ?_)
  cases reachable : answers (.lndService .updatePendingInvoiceBeforeFinally) with
  | error error =>
    refine failed ?_ ?_ _ _ exitFailed_error
    · simp [NothingToCredit, reachable, Except.isOk, Except.toBool]
    · simp [MarksPaid, ReportsReceived, reachable, Except.isOk, Except.toBool]
  | ok pubkey =>
    have up : (answers (.lndService .updatePendingInvoiceBeforeFinally)).isOk = true := by
      rw [reachable]
      rfl
    refine endsRun_bind.mpr (alone_attempt.mpr (alone_call rfl ?_))
    cases lookedUp : answers (.lookupInvoice .updatePendingInvoiceBeforeFinally invoice.pubkey
        invoice.paymentHash) with
    | error error =>
      refine forget_alone stored ?_ ?_
      · intro forgotten
        exact quiet ⟨up, by simpa [lookedUp] using forgotten⟩
      · intro known
        refine failed ?_ ?_
        · rintro ⟨_, nothing⟩
          exact known (by simpa [lookedUp] using nothing)
        · simp [MarksPaid, ReportsReceived, lookedUp]
    | ok lookup =>
      dsimp only [outcome_ok]
      by_cases checked : (checkedToSats lookup.roundedDownReceived).isOk = true
      · have received := (checkedToSats_isOk checked).2
        simp only [received, unpaid, if_false, Bool.false_eq_true]
        by_cases absent : lookup.isHeld = false ∧ lookup.isSettled = false
        · have nothing : NothingToCredit answers invoice :=
            ⟨up, by simpa [lookedUp, checked] using absent⟩
          simp only [absent.1, absent.2]
          exact endsRun_pure.mpr (quiet nothing _ _ exitQuiet_false)
        · have present : lookup.isHeld = true ∨ lookup.isSettled = true := by
            cases held : lookup.isHeld <;> cases settled : lookup.isSettled <;> simp_all
          have reports : ReportsReceived answers invoice lookup := ⟨up, lookedUp, checked, present⟩
          have something : ¬NothingToCredit answers invoice := by
            rintro ⟨_, nothing⟩
            exact absent (by simpa [lookedUp, checked] using nothing)
          have branch : (!lookup.isHeld && !lookup.isSettled) = false := by
            rcases present with held | settled
            · simp [held]
            · simp [settled]
          simp only [branch, if_false, Bool.false_eq_true]
          refine endsRun_bind.mpr (alone_ofResult.mpr ?_)
          rw [paymentAmountFromNumber_int]
          exact locked_alone stored unpaid free reports (failed something) marked credited
      · have invalid : ∃ error, checkedToSats lookup.roundedDownReceived = .error error := by
          cases result : checkedToSats lookup.roundedDownReceived with
          | error error => exact ⟨error, rfl⟩
          | ok sats => simp [result, Except.isOk, Except.toBool] at checked
        obtain ⟨error, invalid⟩ := invalid
        simp only [invalid]
        refine decline_alone stored ?_ ?_
        · intro declined
          exact quiet ⟨up, by simpa [lookedUp, checked] using declined⟩
        · intro undeclined
          refine failed ?_ (noneReported lookup lookedUp fun reports => checked reports.2.2.1)
          rintro ⟨_, nothing⟩
          exact undeclined (by simpa [lookedUp, checked] using nothing)

theorem wrapper_alone {invoice : WalletInvoice} {result : Result Bool} {post : World → Prop}
    (marks : isTruthy result = true →
      answers (.markAsPaid .updatePendingInvoice invoice.paymentHash) = none → ∀ record,
      w.invoices invoice.paymentHash = some record → post (w.paid invoice.paymentHash record))
    (keeps : (isTruthy result = false ∨
      answers (.markAsPaid .updatePendingInvoice invoice.paymentHash) ≠ none ∨
      w.invoices invoice.paymentHash = none) → post w)
    (unpaid : invoice.paid = false) :
    EndsAlone run answers (do
      if isTruthy result && !invoice.paid then
        let invoicePaid ←
          attempt (fallible (ask (.markAsPaid .updatePendingInvoice invoice.paymentHash)))
        match invoicePaid with
        | .error error =>
          if error.name ≠ .CouldNotFindWalletInvoiceError then throw error else ofResult result
        | .ok _ => ofResult result
      else ofResult result) w (fun _ after => post after) := by
  cases truthy : isTruthy result with
  | false =>
    simp only [Bool.false_and, Bool.false_eq_true, if_false, alone_ofResult]
    exact keeps (.inl truthy)
  | true =>
    simp only [unpaid, Bool.not_false, Bool.and_self, if_true]
    refine endsRun_bind.mpr (alone_attempt.mpr (mark_alone ?_ ?_))
    · intro works record stored _
      exact alone_ofResult.mpr (marks truthy works record stored)
    · intro kept error
      dsimp only [outcome_ok]
      split
      · exact endsRun_throw.mpr (keeps (.inr kept))
      · exact alone_ofResult.mpr (keeps (.inr kept))

theorem credits_marks {invoice : WalletInvoice} (credits : Credits answers w invoice) :
    MarksPaid answers invoice := by
  obtain ⟨lookup, receiver, reports, locked, markable, _⟩ := credits
  exact ⟨lookup, receiver, reports, locked, markable⟩

theorem marksPaid_something {invoice : WalletInvoice} (marks : MarksPaid answers invoice) :
    ¬NothingToCredit answers invoice := by
  obtain ⟨lookup, _, ⟨_, lookedUp, checked, present⟩, _⟩ := marks
  rintro ⟨_, nothing⟩
  rw [lookedUp] at nothing
  simp only [checked, if_true] at nothing
  rcases present with held | settled
  · simp [held] at nothing
  · simp [settled] at nothing

end Runs

theorem paid_invoice_was_received_iff (run : RunId) (answers : Answers) (w : World)
    (paymentHash : PaymentHash) (record : WalletInvoiceRecord)
    (stored : w.invoices paymentHash = some record) (unpaid : record.paid = false)
    (fresh : w.ledger.receives paymentHash = 0) (free : w.locks (.paymentHash paymentHash) = none) :
    EndsAlone run answers (updatePendingInvoice (walletInvoiceFromRaw paymentHash record)) w
      (fun _ after => after.paidIsReceived paymentHash ↔
        Credits answers w (walletInvoiceFromRaw paymentHash record) ∨
          NothingToCredit answers (walletInvoiceFromRaw paymentHash record) ∨
          (¬MarksPaid answers (walletInvoiceFromRaw paymentHash record) ∧
            answers (.markAsPaid .updatePendingInvoice paymentHash) ≠ none)) := by
  have isStored : (w.invoices paymentHash).isSome = true := by simp [stored]
  have notReceived : ∀ {after : World}, after.ledger = w.ledger →
      ¬0 < after.ledger.receives paymentHash := by
    intro after same
    simp [same, fresh]
  refine endsRun_bind.mpr (alone_attempt.mpr (beforeFinally_alone isStored unpaid free ?_ ?_ ?_ ?_))
  · intro nothing result after exit
    refine wrapper_alone ?_ ?_ unpaid
    · intro truthy _ other found
      rcases exit.2 with gone | ⟨falsy, _⟩
      · exact absurd (gone.symm.trans found) (by simp)
      · simp [falsy] at truthy
    · intro _
      refine iff_of_true ?_ (.inr (.inl nothing))
      intro other found paid
      rcases exit.2 with gone | ⟨_, same⟩
      · exact absurd (gone.symm.trans found) (by simp)
      · rw [same, stored] at found
        obtain rfl := Option.some.inj found
        simp [unpaid] at paid
  · intro something unmarked result after exit
    refine wrapper_alone ?_ ?_ unpaid
    · intro _ works other found
      refine iff_of_false ?_ ?_
      · intro received
        exact notReceived exit.1 (received _ (paid_invoices after paymentHash other) rfl)
      · rintro (credits | nothing | ⟨_, fault⟩)
        · exact unmarked (credits_marks credits)
        · exact something nothing
        · exact fault works
    · intro kept
      have same : after.invoices paymentHash = some record := by rw [exit.2.2, stored]
      refine iff_of_true ?_ (.inr (.inr ⟨unmarked, ?_⟩))
      · intro other found paid
        obtain rfl := Option.some.inj (found.symm.trans same)
        simp [unpaid] at paid
      · rcases kept with falsy | fault | absent
        · simp [exit.2.1] at falsy
        · exact fault
        · exact absurd (absent.symm.trans same) (by simp)
  -- An error after the mark, which nothing takes back.
  · intro marks uncredited result after exit
    obtain ⟨ledger, paidRecord, found, paid⟩ := exit
    have outside : ¬(Credits answers w (walletInvoiceFromRaw paymentHash record) ∨
        NothingToCredit answers (walletInvoiceFromRaw paymentHash record) ∨
        (¬MarksPaid answers (walletInvoiceFromRaw paymentHash record) ∧
          answers (.markAsPaid .updatePendingInvoice paymentHash) ≠ none)) := by
      rintro (credits | nothing | ⟨unmarked, _⟩)
      · exact uncredited credits
      · exact marksPaid_something marks nothing
      · exact unmarked marks
    refine wrapper_alone ?_ ?_ unpaid
    · intro _ _ other _
      refine iff_of_false (fun received => ?_) outside
      exact notReceived ledger (received _ (paid_invoices after paymentHash other) rfl)
    · intro _
      refine iff_of_false (fun received => ?_) outside
      exact notReceived ledger (received paidRecord found paid)
  · intro credits result after received
    refine wrapper_alone ?_ ?_ unpaid
    · intro _ _ _ _
      exact iff_of_true (fun _ _ _ => received) (.inl credits)
    · intro _
      exact iff_of_true (fun _ _ _ => received) (.inl credits)

section Example

theorem held_invoice_is_received :
    heldInvoiceWorld.invoices "hash" = some heldInvoice ∧ heldInvoice.paid = false ∧
      heldInvoiceWorld.ledger.receives "hash" = 0 ∧
      EndsAlone 0 heldInvoiceOutside.answers
        (updatePendingInvoice (walletInvoiceFromRaw "hash" heldInvoice)) heldInvoiceWorld
        (fun _ after => after.paidIsReceived "hash") := by
  have credits : Credits heldInvoiceOutside.answers heldInvoiceWorld
      (walletInvoiceFromRaw "hash" heldInvoice) := by
    refine ⟨heldInvoiceOutside.lookupInvoice, _, ⟨rfl, rfl, rfl, .inl rfl⟩, ⟨rfl, rfl⟩,
      ⟨rfl, .inr rfl, rfl⟩, ⟨rfl, _, rfl, rfl, _, rfl, rfl⟩⟩
  have ends := paid_invoice_was_received_iff 0 heldInvoiceOutside.answers heldInvoiceWorld "hash"
    heldInvoice rfl rfl rfl rfl
  exact ⟨rfl, rfl, rfl, ends.mono fun _ _ holds => holds.mpr (.inl credits)⟩

def lndUnreachable : Answers
  | .lndService _ => .error { name := .OffChainServiceUnavailableError }
  | c => heldInvoiceOutside.answers c

theorem unreachable_lnd_marks_invoice_paid :
    heldInvoiceWorld.invoices "hash" = some heldInvoice ∧ heldInvoice.paid = false ∧
      heldInvoiceWorld.ledger.receives "hash" = 0 ∧
      EndsAlone 0 lndUnreachable
        (updatePendingInvoice (walletInvoiceFromRaw "hash" heldInvoice)) heldInvoiceWorld
        (fun _ after => after.invoices "hash" = some { heldInvoice with paid := true } ∧
          after.ledger.receives "hash" = 0) := by
  refine ⟨rfl, rfl, rfl, ?_⟩
  refine ⟨.error { name := .OffChainServiceUnavailableError },
    heldInvoiceWorld.paid "hash" heldInvoice, rfl, ?_, rfl⟩
  exact paid_invoices heldInvoiceWorld "hash" heldInvoice

end Example

end Galoy
