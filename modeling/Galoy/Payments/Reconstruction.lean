import Galoy.App.Alone
import Galoy.Payments.LnSendEntry
import Galoy.Payments.Reimbursement

set_option autoImplicit false

namespace Galoy

open Interleave App SendLightning

structure PendingOnce (bank : BankWallets) (decodedInvoice : LnInvoice) (flow : PaymentFlow)
    (pubkey : Pubkey) (journal : Journal) (ledger : Ledger) : Prop where
  recorded : journal ∈ ledger.journals
  legs : journal.legs = (lnSendEntry bank decodedInvoice flow pubkey).transactions
  single : ∀ other ∈ ledger.journals, ∀ leg ∈ other.legs,
    leg.isPendingFor decodedInvoice.paymentHash = true → leg.metadata.type = .payment →
      other = journal

structure EndUser (bank : BankWallets) (walletId : WalletId) : Prop where
  isWalletId : checkedToWalletId walletId = .ok walletId
  outside : walletId ∉ bank.getNonEndUserWalletIds

theorem checkedToWalletId_toWalletId {walletId : WalletId}
    (checked : checkedToWalletId walletId = .ok walletId) :
    toWalletId (toLedgerAccountId walletId) = some walletId := by
  unfold checkedToWalletId at checked
  dsimp only at checked
  split at checked
  · rename_i pattern
    obtain ⟨length, tests⟩ := pattern
    unfold toWalletId toLedgerAccountId
    dsimp only
    rw [if_neg]
    rintro (rfl | colon)
    · cases length
    · -- No test of the pattern accepts a colon.
      have rejects : ∀ test ∈ uuidPattern, test ':' = false := by decide
      obtain ⟨index, within, isColon⟩ := List.getElem_of_mem colon
      have tested : index < uuidPattern.length := length ▸ within
      have pair : (uuidPattern[index], ':') ∈ uuidPattern.zip walletId.toList := by
        have both : index < (uuidPattern.zip walletId.toList).length := by simp [tested, within]
        rw [← isColon, ← List.getElem_zip (h := both)]
        exact List.getElem_mem both
      have accepted : uuidPattern[index] ':' = true := List.all_eq_true.mp tests _ pair
      rw [rejects _ (List.getElem_mem tested)] at accepted
      cases accepted
  · cases checked

theorem EndUser.kept {bank : BankWallets} {walletId : WalletId} (endUser : EndUser bank walletId) :
    orUndefined (some walletId) = some walletId := by
  have isWallet := checkedToWalletId_toWalletId endUser.isWalletId
  have nonempty : walletId ≠ "" := by
    rintro rfl
    cases isWallet
  simp [orUndefined, nonempty]

section Legs

variable {bank : BankWallets} {decodedInvoice : LnInvoice} {flow : PaymentFlow} {pubkey : Pubkey}
  {journal : Journal} {ledger : Ledger} {tx : LedgerTransaction}

def shownSender (journal : Journal) (decodedInvoice : LnInvoice) (flow : PaymentFlow)
    (pubkey : Pubkey) : LedgerTransaction :=
  translateToLedgerTx journal (senderLeg decodedInvoice flow pubkey)

theorem toWalletId_inversion {account : LedgerAccountId} {walletId : WalletId}
    (isWallet : toWalletId account = some walletId) : account = toLedgerAccountId walletId := by
  cases account with
  | liabilities id =>
    simp only [toWalletId] at isWallet
    split at isWallet
    · cases isWallet
    · rw [Option.some.inj isWallet]
      rfl
  | lnd | coldStorage | escrow => simp [toWalletId] at isWallet

theorem PendingOnce.is_sender (pending : PendingOnce bank decodedInvoice flow pubkey journal ledger)
    (shown : tx ∈ ledger.getTransactionsByHash decodedInvoice.paymentHash)
    (endUser : isPendingPaymentOfEndUser bank.getNonEndUserWalletIds tx = true) :
    tx = shownSender journal decodedInvoice flow pubkey ∧
      tx.walletId = some flow.senderWalletId := by
  obtain ⟨other, inLedger, leg, inOther, query, rfl⟩ := Ledger.mem_transactions.mp shown
  simp only [isPendingPaymentOfEndUser, Bool.and_eq_true, decide_eq_true_eq] at endUser
  simp only [Bool.and_eq_true] at query
  obtain ⟨⟨⟨isPending, isPayment⟩, _⟩, outside⟩ := endUser
  have pendingFor : leg.isPendingFor decodedInvoice.paymentHash = true := by
    unfold Leg.isPendingFor
    rw [query.1]
    exact isPending
  obtain rfl := pending.single other inLedger leg inOther pendingFor isPayment
  cases isWallet : (translateToLedgerTx other leg).walletId with
  | none => simp [isWallet] at outside
  | some walletId =>
    have account : leg.account = toLedgerAccountId walletId := toWalletId_inversion isWallet
    have notBank : walletId ∉ bank.getNonEndUserWalletIds := by simpa [isWallet] using outside
    rw [pending.legs] at inOther
    rcases lnSendEntry_wallet inOther account with rfl | dealer
    · exact ⟨rfl, congrArg some (LedgerAccountId.liabilities.inj account).symm⟩
    · exact absurd (List.mem_append_left _ dealer) notBank

theorem PendingOnce.sender_shown (pending : PendingOnce bank decodedInvoice flow pubkey
    journal ledger)
    (endUser : EndUser bank flow.senderWalletId)
    (positive : 0 < flow.totalSendAmount flow.senderWalletCurrency) :
    shownSender journal decodedInvoice flow pubkey ∈
        ledger.getTransactionsByHash decodedInvoice.paymentHash ∧
      isPendingPaymentOfEndUser bank.getNonEndUserWalletIds
        (shownSender journal decodedInvoice flow pubkey) =
        true := by
  constructor
  · refine Ledger.mem_transactions.mpr ⟨journal, pending.recorded, _, ?_, ?_, rfl⟩
    · rw [pending.legs]
      exact senderLeg_mem positive.ne'
    · simp [senderLeg, Leg.ofHash, lnSendArgs, lnSendLedgerMetadata, toLedgerAccountId,
        LedgerAccountId.mainAccount]
  · have wallet : (shownSender journal decodedInvoice flow pubkey).walletId =
        some flow.senderWalletId :=
      checkedToWalletId_toWalletId endUser.isWalletId
    have debited : (0 : ℚ) < flow.totalSendAmount flow.senderWalletCurrency := by
      exact_mod_cast positive
    simp only [isPendingPaymentOfEndUser, wallet, endUser.outside]
    simp [shownSender, translateToLedgerTx, senderLeg, lnSendArgs, lnSendLedgerMetadata, debited]

theorem PendingOnce.found (pending : PendingOnce bank decodedInvoice flow pubkey journal ledger)
    (endUser : EndUser bank flow.senderWalletId)
    (positive : 0 < flow.totalSendAmount flow.senderWalletCurrency) {txns : List LedgerTransaction}
    (order : txns.Perm (ledger.getTransactionsByHash decodedInvoice.paymentHash)) :
    txns.find? (isPendingPaymentOfEndUser bank.getNonEndUserWalletIds) =
      some (shownSender journal decodedInvoice flow pubkey) := by
  obtain ⟨shown, passes⟩ := pending.sender_shown endUser positive
  cases search : txns.find? (isPendingPaymentOfEndUser bank.getNonEndUserWalletIds) with
  | none => exact absurd passes (List.find?_eq_none.mp search _ (order.mem_iff.mpr shown))
  | some tx =>
    have member := order.mem_iff.mp (List.mem_of_find?_eq_some search)
    rw [(pending.is_sender member (List.find?_some search)).1]

end Legs

structure PaymentFlow.SamePayment (rebuilt flow : PaymentFlow) : Prop where
  senderWalletId : rebuilt.senderWalletId = flow.senderWalletId
  senderWalletCurrency : rebuilt.senderWalletCurrency = flow.senderWalletCurrency
  hash : rebuilt.hash = flow.hash
  quote : rebuilt.quote = flow.quote

section Rebuilt

variable {bank : BankWallets} {decodedInvoice : LnInvoice} {flow rebuilt : PaymentFlow}
  {pubkey : Pubkey} {journal : Journal}

theorem rebuilt_from_sender (nonempty : decodedInvoice.paymentHash ≠ "")
    (wallet : (shownSender journal decodedInvoice flow pubkey).walletId = some flow.senderWalletId)
    (accountId : AccountId) :
    ∃ rebuilt, paymentFlowFromLedgerTransaction (shownSender journal decodedInvoice flow pubkey)
      accountId =
        .ok rebuilt ∧ rebuilt.senderWalletId = flow.senderWalletId ∧
      rebuilt.senderWalletCurrency = flow.senderWalletCurrency ∧
      rebuilt.hash = .paymentHash decodedInvoice.paymentHash ∧ rebuilt.quote = flow.quote := by
  have hash : (shownSender journal decodedInvoice flow pubkey).paymentHash =
      some decodedInvoice.paymentHash := by
    simp [shownSender, translateToLedgerTx, senderLeg, lnSendArgs, lnSendLedgerMetadata,
      orUndefined, nonempty]
  unfold paymentFlowFromLedgerTransaction
  rw [wallet, hash]
  exact ⟨_, rfl, rfl, rfl, rfl, rfl⟩

theorem PaymentFlow.SamePayment.amounts (same : rebuilt.SamePayment flow) :
    rebuilt.btcPaymentAmount = flow.btcPaymentAmount ∧
      rebuilt.usdPaymentAmount = flow.usdPaymentAmount ∧
      rebuilt.btcProtocolFee = flow.btcProtocolFee ∧ rebuilt.usdProtocolFee =
        flow.usdProtocolFee := by
  have quote := same.quote
  simpa [PaymentFlow.quote] using quote

theorem PaymentFlow.SamePayment.hashForFlow (same : rebuilt.SamePayment flow) :
    rebuilt.paymentHashForFlow = flow.paymentHashForFlow := by
  unfold PaymentFlow.paymentHashForFlow
  rw [same.hash]

theorem reimburseFailedUsdPayment_same (same : rebuilt.SamePayment flow)
    (journalId : LedgerJournalId) :
    reimburseFailedUsdPayment rebuilt journalId = reimburseFailedUsdPayment flow journalId := by
  obtain ⟨btc, usd, btcFee, usdFee⟩ := same.amounts
  have args : failedUsdPaymentArgs rebuilt = failedUsdPaymentArgs flow := by
    funext paymentHash journalId wallet
    simp [failedUsdPaymentArgs, PaymentFlow.totalAmountsForPayment, btc, usd, btcFee, usdFee]
  have id : rebuilt.senderWalletDescriptor.id = flow.senderWalletDescriptor.id :=
    same.senderWalletId
  unfold reimburseFailedUsdPayment
  rw [same.hashForFlow, args, id]

theorem reimburseFee_same (same : rebuilt.SamePayment flow) (journalId : LedgerJournalId)
    (actualFee : Int) :
    reimburseFee rebuilt journalId actualFee =
      reimburseFee { flow with senderAccountId := rebuilt.senderAccountId } journalId
        actualFee := by
  obtain ⟨btc, usd, btcFee, usdFee⟩ := same.amounts
  have args : feeReimbursementArgs rebuilt =
      feeReimbursementArgs { flow with senderAccountId := rebuilt.senderAccountId } := by
    funext paymentHash journalId feeDifference
    simp [feeReimbursementArgs, PaymentFlow.senderWalletDescriptor, same.senderWalletId,
      same.senderWalletCurrency]
  have hash : rebuilt.paymentHashForFlow =
      PaymentFlow.paymentHashForFlow { flow with senderAccountId := rebuilt.senderAccountId } :=
        same.hashForFlow
  unfold reimburseFee
  rw [hash, args]
  simp only [PaymentFlow.paymentAmounts, btc, usd, btcFee, usdFee]

end Rebuilt

-- The ledger may show the transactions of a hash in any order.
@[reducible] def servicesInOrder (order : List LedgerTransaction → List LedgerTransaction) :
    Service World Call Reply where
  Answer := Answer
  serve run w
    | .getTransactionsByHash site paymentHash, answer =>
      (serve run w (.getTransactionsByHash site paymentHash) answer).map fun served =>
        (served.1.map order, served.2)
    | c, answer => serve run w c answer

structure Rebuilds (flow rebuilt : PaymentFlow) : Prop where
  same : rebuilt.SamePayment flow
  failedUsdPayment : ∀ journalId,
    reimburseFailedUsdPayment rebuilt journalId = reimburseFailedUsdPayment flow journalId
  fee : ∀ journalId actualFee, reimburseFee rebuilt journalId actualFee =
    reimburseFee { flow with senderAccountId := rebuilt.senderAccountId } journalId actualFee
  entry : ∀ bank paymentHash journalId feeDifference,
    LedgerFacade.recordReceive bank (feeReimbursementArgs rebuilt paymentHash journalId
      feeDifference) =
      LedgerFacade.recordReceive bank
        (feeReimbursementArgs flow paymentHash journalId feeDifference)

theorem PaymentFlow.SamePayment.rebuilds {flow rebuilt : PaymentFlow}
    (same : rebuilt.SamePayment flow) : Rebuilds flow rebuilt where
  same := same
  failedUsdPayment := reimburseFailedUsdPayment_same same
  fee := reimburseFee_same same
  entry bank paymentHash journalId feeDifference := by
    unfold feeReimbursementArgs PaymentFlow.senderWalletDescriptor
    rw [same.senderWalletId, same.senderWalletCurrency]
    rfl

theorem pending_flow_rebuilt (order : List LedgerTransaction → List LedgerTransaction)
    (reorders : ∀ txns, (order txns).Perm txns) (run : RunId) (answers : Answers)
    (works : ∀ c : Call, c.ledgerWorks (answers c))
    (repositories : ∀ c : Call, c.repositoryWorks (answers c)) (decodedInvoice : LnInvoice)
    (flow : PaymentFlow) (pubkey : Pubkey) (journal : Journal) (w : World)
    (pending : PendingOnce w.bank decodedInvoice flow pubkey journal w.ledger)
    (endUser : EndUser w.bank flow.senderWalletId)
    (positive : 0 < flow.totalSendAmount flow.senderWalletCurrency)
    (isHash : flow.hash = .paymentHash decodedInvoice.paymentHash)
    (nonempty : decodedInvoice.paymentHash ≠ "") (wallet : WalletDescriptor) (account : Account)
    (hasWallet : w.wallets flow.senderWalletId = some wallet)
    (hasAccount : w.accounts wallet.accountId = some account) :
    (order (w.ledger.getTransactionsByHash decodedInvoice.paymentHash)).find?
        (isPendingPaymentOfEndUser w.bank.getNonEndUserWalletIds) =
        some (translateToLedgerTx journal (senderLeg decodedInvoice flow pubkey)) ∧
      EndsRun (servicesInOrder order) run answers
        (reconstructPendingPaymentFlow decodedInvoice.paymentHash) w
        (fun result after => after = w ∧ ∃ rebuilt, result = .ok rebuilt ∧
          Rebuilds flow rebuilt) := by
  have found := pending.found endUser positive (reorders _)
  have shown : (shownSender journal decodedInvoice flow pubkey).walletId =
      some flow.senderWalletId :=
    checkedToWalletId_toWalletId endUser.isWalletId
  refine ⟨found, ?_⟩
  have ledgerWorks : answers (.getTransactionsByHash .reconstructPendingPaymentFlow
      decodedInvoice.paymentHash) =
      none := works (.getTransactionsByHash _ _)
  have read : (servicesInOrder order).serve run w
      (.getTransactionsByHash .reconstructPendingPaymentFlow decodedInvoice.paymentHash)
      (answers (.getTransactionsByHash .reconstructPendingPaymentFlow decodedInvoice.paymentHash)) =
        some (.ok (order (w.ledger.getTransactionsByHash decodedInvoice.paymentHash)), w) := by
    simp [serve, ledgerWorks, Stores.readOr, Stores.answerOr, Except.map]
  have walletWorks :
      answers (.findWalletById .reconstructPendingPaymentFlow flow.senderWalletId) = none :=
    repositories (.findWalletById _ _)
  have findsWallet : (servicesInOrder order).serve run w
      (.findWalletById .reconstructPendingPaymentFlow flow.senderWalletId)
      (answers (.findWalletById .reconstructPendingPaymentFlow flow.senderWalletId)) =
        some (.ok wallet, w) := by
    simp [serve, walletWorks, Stores.readOr, Stores.answerOr, Stores.found, hasWallet]
  have accountWorks :
      answers (.findAccountById .reconstructPendingPaymentFlow wallet.accountId) = none :=
    repositories (.findAccountById _ _)
  have findsAccount : (servicesInOrder order).serve run w
      (.findAccountById .reconstructPendingPaymentFlow wallet.accountId)
      (answers (.findAccountById .reconstructPendingPaymentFlow wallet.accountId)) =
        some (.ok account, w) := by
    simp [serve, accountWorks, Stores.readOr, Stores.answerOr, Stores.found, hasAccount]
  obtain ⟨rebuilt, made, sender, currency, hash, quote⟩ :=
    rebuilt_from_sender nonempty shown account.id
  have same : rebuilt.SamePayment flow := ⟨sender, currency, hash.trans isHash.symm, quote⟩
  unfold reconstructPendingPaymentFlow
  refine EndsRun.next (ends_served read ⟨rfl, rfl⟩) ?_
  refine EndsRun.next (endsRun_total.mpr (ends_served rfl ⟨rfl, rfl⟩)) ?_
  rw [found]
  dsimp only
  rw [shown, endUser.kept]
  refine EndsRun.next (ends_served findsWallet ⟨rfl, rfl⟩) ?_
  refine EndsRun.next (ends_served findsAccount ⟨rfl, rfl⟩) ?_
  exact ends_pure.mpr ⟨rfl, rebuilt, made, same.rebuilds⟩

section Named

variable {run : RunId} {answers : Answers} {w : World}

inductive World.Names (w : World) (index : PaymentFlowStateIndex) : PaymentFlow → Prop
  | stored {flow : PaymentFlow} (found : w.flows.find? index.selects = some flow) :
      w.Names index (paymentFlowFromRaw flow)
  | shown {tx : LedgerTransaction} {accountId : AccountId} {flow : PaymentFlow}
      (missing : w.flows.find? index.selects = none)
      (found : (w.ledger.getTransactionsByHash index.paymentHash).find?
        (isPendingPaymentOfEndUser w.bank.getNonEndUserWalletIds) = some tx)
      (made : paymentFlowFromLedgerTransaction tx accountId = .ok flow) : w.Names index flow

theorem reconstruct_exact (paymentHash : PaymentHash) :
    SoloSpec run answers (fun now => now = w) (reconstructPendingPaymentFlow paymentHash)
      (fun flow after => after = w ∧ ∃ tx accountId,
        (w.ledger.getTransactionsByHash paymentHash).find?
          (isPendingPaymentOfEndUser w.bank.getNonEndUserWalletIds) = some tx ∧
        paymentFlowFromLedgerTransaction tx accountId = .ok flow)
      (fun _ after => after = w) := by
  refine Spec.seq (fun txs now => now = w ∧ txs = w.ledger.getTransactionsByHash paymentHash)
    (fallible_spec (solo_ask ?_)) fun txs => Spec.pre_fact fun isRead => ?_
  · rintro before reply after rfl served
    obtain rfl := Stores.read_unchanged served
    cases reply with
    | error error => rfl
    | ok txs => exact ⟨rfl, (Except.ok.inj (Stores.read_ok served)).symm⟩
  refine Spec.seq (fun ids now => now = w ∧ ids = w.bank.getNonEndUserWalletIds)
    (total_spec (solo_ask ?_)) fun ids => Spec.pre_fact fun isBank => ?_
  · rintro before reply after rfl served
    cases served
    exact ⟨rfl, rfl⟩
  subst isRead isBank
  cases search : (w.ledger.getTransactionsByHash paymentHash).find?
      (isPendingPaymentOfEndUser w.bank.getNonEndUserWalletIds) with
  | none => exact Spec.throw fun _ _ same => same
  | some tx =>
    dsimp only
    cases orUndefined tx.walletId with
    | none => exact Spec.throw fun _ _ same => same
    | some senderWalletId =>
      refine Spec.seq (fun _ now => now = w) (fallible_spec (solo_ask ?_)) fun wallet => ?_
      · rintro before reply after rfl served
        obtain rfl := Stores.read_unchanged served
        cases reply <;> rfl
      refine Spec.seq (fun _ now => now = w) (fallible_spec (solo_ask ?_)) fun account => ?_
      · rintro before reply after rfl served
        obtain rfl := Stores.read_unchanged served
        cases reply <;> rfl
      refine ofResult_spec ?_
      rintro now _ rfl
      cases made : paymentFlowFromLedgerTransaction tx account.id with
      | error error => rfl
      | ok flow => exact ⟨rfl, tx, account.id, rfl, made⟩

theorem flowOfPendingPayment_exact (found : ∀ c : Call, c.repositoryWorks (answers c))
    (index : PaymentFlowStateIndex) :
    SoloSpec run answers (fun now => now = w) (flowOfPendingPayment index)
      (fun flow after => (∃ flows, after = { w with flows }) ∧
        ∃ named pending, w.Names index named ∧
        flow = { named with paymentSentAndPending := pending })
      (fun _ after => after = w) := by
  have works : answers (.markLightningPaymentFlowNotPending index) = none :=
    found (.markLightningPaymentFlowNotPending _)
  have first := World.updateFirst_first w.flows index.selects
    fun flow => { flow with paymentSentAndPending := false }
  refine Spec.seq (outcome
      (fun flow now => (∃ flows, now = { w with flows }) ∧ ∃ stored,
        w.flows.find? index.selects = some stored ∧
        flow = paymentFlowFromRaw { stored with paymentSentAndPending := false })
      (fun _ now => now = w ∧ w.flows.find? index.selects = none))
    (attempt_spec (fallible_spec (solo_ask ?_))) fun result => ?_
  · rintro before reply after rfl served
    obtain ⟨⟨error, rfl⟩, rfl, fault | missing⟩ | ⟨flow, flows, updated, rfl, rfl⟩ :=
      World.markLightningPaymentFlowNotPending_inversion served
    · exact absurd works fault
    · rw [missing] at first
      exact ⟨rfl, Option.map_eq_none_iff.mp first.symm⟩
    · rw [updated] at first
      obtain ⟨stored, isFirst, rfl⟩ := Option.map_eq_some_iff.mp first.symm
      exact ⟨⟨flows, rfl⟩, stored, isFirst, rfl⟩
  cases result with
  | error error =>
    refine Spec.pre_fact fun missing => ?_
    refine Spec.weaken_ok (reconstruct_exact index.paymentHash) ?_
    rintro flow after _ ⟨rfl, tx, accountId, isFirst, made⟩
    exact ⟨⟨_, rfl⟩, flow, _, .shown missing isFirst made, rfl⟩
  | ok flow =>
    refine Spec.pure ?_
    rintro after _ ⟨kept, stored, isFirst, rfl⟩
    exact ⟨kept, _, false, .stored isFirst, rfl⟩

end Named

def carolId : WalletId := "8b3f4c2a-1d5e-4f60-9a7b-0c1d2e3f4a5b"

def carolFlow : PaymentFlow :=
  { sendFlow carolId with senderWalletCurrency := .usd }

def carolWorld : World :=
  { World.initial exampleBank with
    ledger := ({} : Ledger).commit 0 0 (lnSendEntry exampleBank sendInvoice carolFlow "node")
    wallets := fun walletId => some ⟨walletId, .usd, "carolAccount"⟩
    accounts := fun accountId => some ⟨accountId, "user", none, .one⟩ }

def carolJournal : Journal :=
  ({} : Ledger).newJournal 0 0 (lnSendEntry exampleBank sendInvoice carolFlow "node")

theorem carol_pending : PendingOnce exampleBank sendInvoice carolFlow "node" carolJournal
    carolWorld.ledger where
  recorded := List.mem_singleton.mpr rfl
  legs := rfl
  single := fun _ inLedger _ _ _ _ => List.mem_singleton.mp inLedger

theorem carol_end_user : EndUser exampleBank carolId where
  isWalletId := by decide +kernel
  outside := by decide +kernel

theorem carol_flow_rebuilt :
    ((carolWorld.ledger.getTransactionsByHash "hash").filter
        fun tx => tx.pendingConfirmation && decide (0 < tx.debit)).length = 2 ∧
      EndsRun (servicesInOrder List.reverse) 1 (sendOutside paymentTimeout .pending).answers
        (reconstructPendingPaymentFlow "hash") carolWorld
        (fun result after => after = carolWorld ∧ ∃ rebuilt, result = .ok rebuilt ∧
          Rebuilds carolFlow rebuilt) := by
  refine ⟨by decide +kernel, ?_⟩
  exact (pending_flow_rebuilt List.reverse List.reverse_perm 1
    (sendOutside paymentTimeout .pending).answers (Outside.ledgerWorks _)
    (Outside.repositoryWorks _) sendInvoice carolFlow "node" carolJournal carolWorld
    carol_pending carol_end_user (by decide) rfl (by decide) ⟨carolId, .usd, "carolAccount"⟩
    ⟨"carolAccount", "user", none, .one⟩ rfl rfl).2

end Galoy
