import Galoy.Payments.GivingBack
import Galoy.Payments.LnHistory

set_option autoImplicit false

namespace Galoy

open Interleave App SendLightning AmountCalculator

structure PendingUpdate where
  run : RunId
  answers : (c : Call) → Answer c
  walletId : WalletId
  pendingPayment : LedgerTransaction

def PendingUpdate.perform (update : PendingUpdate) (w : World) : Option (Result Unit × World) :=
  eval services update.run update.answers
    (updatePendingPayment update.walletId update.pendingPayment).run w

def PendingUpdate.Reports (update : PendingUpdate) (status : PaymentStatus) : Prop :=
  ∃ paymentHash pubkey lookup, update.pendingPayment.paymentHash = some paymentHash ∧
    update.pendingPayment.pubkey = some pubkey ∧
    update.answers (.lookupPayment pubkey paymentHash) = .ok lookup ∧ lookup.status = status

theorem PendingUpdate.Reports.unique {update : PendingUpdate} {status other : PaymentStatus}
    (reports : update.Reports status) (alsoReports : update.Reports other) : status = other := by
  obtain ⟨hash, pubkey, lookup, hasHash, hasPubkey, answered, rfl⟩ := reports
  obtain ⟨sameHash, samePubkey, again, hasSameHash, hasSamePubkey, answeredAgain, rfl⟩ :=
    alsoReports
  obtain rfl := Option.some.inj (hasHash.symm.trans hasSameHash)
  obtain rfl := Option.some.inj (hasPubkey.symm.trans hasSamePubkey)
  rw [Except.ok.inj (answered.symm.trans answeredAgain)]

def GivenBack (flow : PaymentFlow) (journal : Journal) (w : World) : Prop :=
  match flow.senderWalletCurrency with
  | .btc => ∃ reversal ∈ w.ledger.journals, reversal.originalJournal = some journal.id ∧
      reversal.legs = journal.legs.map Leg.reversed
  | .usd => ∃ wallet btcWallet, w.wallets flow.senderWalletId = some wallet ∧
      btcWallet.currency = .btc ∧
      (btcWallet = wallet ∨ btcWallet ∈ w.walletsOfAccount wallet.accountId) ∧
      ∃ refund ∈ w.ledger.journals,
        (∀ leg ∈ refund.legs, leg.metadata.relatedJournal = some journal.id) ∧
        netOver (fun account currency => account = toLedgerAccountId btcWallet.id &&
          currency = .btc) refund.legs = flow.totalAmountsForPayment.btc.amount

structure Resolved (paymentHash : PaymentHash) (attempt : LnAttempt) (id : LedgerJournalId)
    (final : PaymentStatus) (w : World) : Prop where
  recorded : w.ledger.isLnTxRecorded paymentHash = true
  journal : ∃ journal ∈ w.ledger.journals, journal.id = id ∧ journal.writtenBy = attempt.run ∧
    (∀ leg ∈ journal.legs, leg.metadata.pending = false) ∧
    (final = .failed → GivenBack attempt.paymentFlow journal w)

def Refundable (flow : PaymentFlow) (w : World) : Prop :=
  flow.senderWalletCurrency = .usd → ∃ wallet, w.wallets flow.senderWalletId = some wallet ∧
    (wallet.currency = .usd →
      ∃ btcWallet ∈ w.walletsOfAccount wallet.accountId, btcWallet.currency = .btc)

section Conditions

variable {paymentHash : PaymentHash} {attempt : LnAttempt} {journal : Journal} {w : World}

theorem Awaits.unrecorded (awaits : Awaits paymentHash attempt journal w) :
    w.ledger.isLnTxRecorded paymentHash = false := by
  by_contra recorded
  obtain ⟨leg, member, ofHash, settled⟩ := Ledger.isLnTxRecorded_iff.mp (by simpa using recorded)
  obtain ⟨other, inLedger, inOther⟩ := Ledger.mem_legs.mp member
  rw [awaits.only inLedger inOther ofHash] at inOther
  have pending := awaits.pending leg inOther
  simp [Leg.isPendingFor, settled] at pending

structure SettledNow (paymentHash : PaymentHash) (attempt : LnAttempt)
    (journal : Journal) (w : World) : Prop where
  numbered : w.ledger.Numbered
  recorded : w.ledger.isLnTxRecorded paymentHash = true
  stored : w.ledger.journals[journal.id]? = some journal
  active : journal.voided = false
  writer : journal.writtenBy = attempt.run
  legs : ∀ leg ∈ journal.legs, leg.metadata.pending = false

theorem Awaits.settled (awaits : Awaits paymentHash attempt journal w) {run : RunId} {after : World}
    (ledger : after.ledger = w.ledger.settlePending run paymentHash) :
    SettledNow paymentHash attempt (journal.settleFor paymentHash) after := by
  have settled : ∀ leg ∈ (journal.settleFor paymentHash).legs,
      leg.ofHash paymentHash = true ∧ leg.metadata.pending = false := by
    intro leg member
    obtain ⟨original, inJournal, rfl⟩ := List.mem_map.mp member
    have ofHash : original.ofHash paymentHash = true := by
      have both := awaits.pending original inJournal
      simp only [Leg.isPendingFor, Bool.and_eq_true] at both
      exact both.1
    refine ⟨?_, ?_⟩ <;> simp only [Leg.settleFor, ofHash, if_true, Leg.settle]
    exact ofHash
  have stored : after.ledger.journals[journal.id]? = some (journal.settleFor paymentHash) := by
    simp [ledger, Ledger.settlePending, awaits.stored]
  refine ⟨ledger ▸ awaits.numbered.settlePending _ _, ?_, stored, awaits.active, awaits.writer,
    fun leg member => (settled leg member).2⟩
  obtain ⟨pubkey, member⟩ := awaits.sender
  have sender := List.mem_map_of_mem (f := Leg.settleFor paymentHash) member
  exact Ledger.isLnTxRecorded_iff.mpr ⟨_, Ledger.mem_legs.mpr
    ⟨_, List.mem_of_getElem? stored, sender⟩, settled _ sender⟩

theorem Awaits.settles (awaits : Awaits paymentHash attempt journal w) :
    0 < w.ledger.modifiedCount paymentHash := by
  obtain ⟨pubkey, member⟩ := awaits.sender
  exact List.countP_pos_iff.mpr ⟨_, Ledger.mem_legs.mpr
    ⟨journal, List.mem_of_getElem? awaits.stored, member⟩, awaits.pending _ member⟩

theorem SettledNow.resolved (now : SettledNow paymentHash attempt journal w) {final : PaymentStatus}
    (givenBack : final = .failed → GivenBack attempt.paymentFlow journal w) :
    Resolved paymentHash attempt journal.id final w :=
  ⟨now.recorded, journal, List.mem_of_getElem? now.stored, rfl, now.writer, now.legs, givenBack⟩

theorem GivenBack.grow {flow : PaymentFlow} {after : World} (givenBack : GivenBack flow journal w)
    (journals : ∀ other ∈ w.ledger.journals, other ∈ after.ledger.journals)
    (wallets : after.wallets = w.wallets) (accounts : after.walletsOfAccount = w.walletsOfAccount) :
    GivenBack flow journal after := by
  unfold GivenBack at *
  rw [wallets, accounts]
  cases currency : flow.senderWalletCurrency <;> rw [currency] at givenBack
  case btc =>
    obtain ⟨reversal, member, rest⟩ := givenBack
    exact ⟨reversal, journals reversal member, rest⟩
  case usd =>
    obtain ⟨wallet, btcWallet, found, isBtc, owned, refund, member, rest⟩ := givenBack
    exact ⟨wallet, btcWallet, found, isBtc, owned, refund, journals refund member, rest⟩

theorem Resolved.grow {id : LedgerJournalId} {final : PaymentStatus} {after : World}
    (resolved : Resolved paymentHash attempt id final w)
    (journals : ∀ other ∈ w.ledger.journals, other ∈ after.ledger.journals)
    (wallets : after.wallets = w.wallets) (accounts : after.walletsOfAccount = w.walletsOfAccount) :
    Resolved paymentHash attempt id final after := by
  obtain ⟨journal, member, same, writer, legs, givenBack⟩ := resolved.journal
  exact ⟨Ledger.isLnTxRecorded_grow resolved.recorded journals, journal, journals journal member,
    same, writer, legs, fun failed => (givenBack failed).grow journals wallets accounts⟩

end Conditions

section Flow

variable {paymentHash : PaymentHash} {attempt : LnAttempt} {journal : Journal}
  {update : PendingUpdate}

structure Listed (paymentHash : PaymentHash) (journal : Journal) (update : PendingUpdate) :
    Prop where
  leg : ∃ leg ∈ journal.legs, leg.account = toLedgerAccountId update.walletId ∧
    update.pendingPayment = translateToLedgerTx journal leg
  hash : update.pendingPayment.paymentHash = some paymentHash

def Waiting (paymentHash : PaymentHash) (attempt : LnAttempt) (journal : Journal)
    (w : World) : Prop :=
  Awaits paymentHash attempt journal w ∧ Refundable attempt.paymentFlow w

theorem Waiting.moved {before after : World} (waiting : Waiting paymentHash attempt journal before)
    (ledger : after.ledger = before.ledger) (flows : after.flows = before.flows)
    (bank : after.bank = before.bank) (wallets : after.wallets = before.wallets)
    (accounts : after.walletsOfAccount = before.walletsOfAccount) :
    Waiting paymentHash attempt journal after := by
  refine ⟨waiting.1.moved ledger flows bank, ?_⟩
  unfold Refundable
  rw [wallets, accounts]
  exact waiting.2

theorem Waiting.frame {before after : World} (frame : Frame .nothing before after)
    (waiting : Waiting paymentHash attempt journal before) :
    Waiting paymentHash attempt journal after :=
  waiting.moved (frame.ledger (by simp)) (frame.flows (by simp)) frame.bank frame.wallets
    frame.walletsOfAccount

def FlowFor (paymentHash : PaymentHash) (attempt : LnAttempt) (flow : PaymentFlow) : Prop :=
  flow.Matches attempt.paymentFlow ∧ flow.hash = .paymentHash paymentHash

theorem inputAmount_senderLeg (journal : Journal) (decodedInvoice : LnInvoice) (flow : PaymentFlow)
    (pubkey : Pubkey) :
    inputAmountFromLedgerTransaction (translateToLedgerTx journal
      (senderLeg decodedInvoice flow pubkey)) =
      .ok flow.amountInSenderCurrency := by
  have whole : ∀ n : Int, safeBigInt (n : ℚ) = .ok n := by
    intro n
    simp [safeBigInt]
  unfold inputAmountFromLedgerTransaction PaymentFlow.amountInSenderCurrency
  cases currency : flow.senderWalletCurrency <;>
    simp only [translateToLedgerTx, senderLeg, currency, lnSendArgs, lnSendLedgerMetadata,
      PaymentFlow.totalSendAmount, add, Option.getD_some, ← Int.cast_sub] <;>
    rw [whole] <;> simp

theorem index_of_leg {w : World} {amount : Int} (awaits : Awaits paymentHash attempt journal w)
    (listed : Listed paymentHash journal update)
    (found : inputAmountFromLedgerTransaction update.pendingPayment = .ok amount) :
    update.walletId ∈ w.bank.getDealerWalletIds ∨
      (update.walletId = attempt.paymentFlow.senderWalletId ∧
        amount = attempt.paymentFlow.amountInSenderCurrency) := by
  obtain ⟨leg, member, account, shown⟩ := listed.leg
  obtain ⟨pubkey, legs⟩ := awaits.legs
  rw [legs] at member
  rcases lnSendEntry_wallet member account with rfl | dealer
  · refine .inr ⟨?_, ?_⟩
    · exact (LedgerAccountId.liabilities.inj account).symm
    · rw [shown, inputAmount_senderLeg] at found
      exact (Except.ok.inj found).symm
  · exact .inl dealer

theorem Awaits.pendingOnce {w : World} (awaits : Awaits paymentHash attempt journal w) :
    ∃ pubkey, PendingOnce w.bank attempt.decodedInvoice attempt.paymentFlow pubkey journal
      w.ledger := by
  obtain ⟨pubkey, legs⟩ := awaits.legs
  refine ⟨pubkey, List.mem_of_getElem? awaits.stored, legs, ?_⟩
  intro other inLedger leg inOther pending _
  rw [awaits.hash] at pending
  simp only [Leg.isPendingFor, Bool.and_eq_true] at pending
  exact awaits.only inLedger inOther pending.1

theorem Awaits.names {w : World} {amount : Int} {named : PaymentFlow}
    (awaits : Awaits paymentHash attempt journal w) (listed : Listed paymentHash journal update)
    (nonempty : paymentHash ≠ "")
    (found : inputAmountFromLedgerTransaction update.pendingPayment = .ok amount)
    (isNamed : w.Names ⟨paymentHash, update.walletId, amount⟩ named) :
    FlowFor paymentHash attempt named := by
  cases isNamed with
  | @stored first isFirst =>
    have selected := List.find?_some isFirst
    simp only [PaymentFlowStateIndex.selects, decide_eq_true_eq] at selected
    obtain ⟨ofHash, wallet, input⟩ := selected
    refine ⟨?_, ofHash⟩
    rcases awaits.flows first (List.mem_of_find?_eq_some isFirst) ofHash
      with matches_ | ⟨notDealer, outside⟩
    · exact ⟨matches_.1, matches_.2, matches_.3⟩
    · rcases index_of_leg awaits listed found with dealer | ⟨sender, same⟩
      · exact absurd (wallet ▸ dealer) notDealer
      · exact absurd ⟨wallet.trans sender, input.trans same⟩ outside
  | shown missing isFirst made =>
    obtain ⟨pubkey, once⟩ := awaits.pendingOnce
    have ofHash := awaits.hash
    subst ofHash
    obtain ⟨rfl, wallet⟩ := once.is_sender (List.mem_of_find?_eq_some isFirst)
      (List.find?_some isFirst)
    obtain ⟨rebuilt, rebuilds, sender, currency, hash, quote⟩ :=
      rebuilt_from_sender nonempty wallet _
    obtain rfl := Except.ok.inj (made.symm.trans rebuilds)
    refine ⟨⟨sender, currency, ?_⟩, hash⟩
    simp only [PaymentFlow.quote, Quote.mk.injEq] at quote
    simp [PaymentFlow.totalAmountsForPayment, quote]

end Flow

section Update

variable {paymentHash : PaymentHash} {attempt : LnAttempt} {journal : Journal}
  {update : PendingUpdate} {run : RunId} {answers : (c : Call) → Answer c}

theorem settlePendingLnPayment_spec {w : World} (waiting : Waiting paymentHash attempt journal w)
    (works : answers (.settlePendingLnPayment paymentHash) = none) {err : AppError → World → Prop} :
    SoloSpec run answers (fun now => ∃ flows, now = { w with flows })
      (fallible (ask (.settlePendingLnPayment paymentHash)))
      (fun _ now => SettledNow paymentHash attempt (journal.settleFor paymentHash) now ∧
        Refundable attempt.paymentFlow now) err := by
  refine fallible_spec (solo_ask ?_)
  rintro before reply after ⟨flows, rfl⟩ served
  obtain ⟨fault, _⟩ | ⟨rfl, ⟨rfl, _⟩ | ⟨_, zero⟩⟩ := World.settle_inversion served
  · exact absurd works fault
  · exact ⟨waiting.1.settled rfl, waiting.2⟩
  · have positive := waiting.1.settles
    dsimp only at zero
    omega

theorem Resolved.frame {id : LedgerJournalId} {final : PaymentStatus} {before after : World}
    (frame : Frame .nothing before after)
    (resolved : Resolved paymentHash attempt id final before) :
    Resolved paymentHash attempt id final after := by
  refine resolved.grow (fun other member => ?_) frame.wallets frame.walletsOfAccount
  rw [frame.ledger (by simp)]
  exact member

theorem Resolved.locks {id : LedgerJournalId} {final : PaymentStatus} {w : World}
    (locks : LockKey → Option RunId) (resolved : Resolved paymentHash attempt id final w) :
    Resolved paymentHash attempt id final { w with locks } :=
  resolved.grow (fun _ member => member) rfl rfl

theorem confirm_spec (pendingPayment : LedgerTransaction) (flow : PaymentFlow)
    (lookup : LnPaymentLookup) (id : LedgerJournalId) :
    SoloSpec run answers (Resolved paymentHash attempt id .settled)
      (confirmPendingPayment pendingPayment flow paymentHash lookup)
      (fun _ => Resolved paymentHash attempt id .settled)
      (fun _ => Resolved paymentHash attempt id .settled) := by
  refine Spec.bind (storePreImage_spec
    (fun c reads => solo_read (fun _ _ => Resolved.frame) reads) _ _) fun _ => ?_
  split
  · exact Spec.pure fun _ _ h => h
  · cases pendingPayment.displayAmount with
    | none => exact Spec.throw fun _ _ h => h
    | some amount =>
      cases pendingPayment.displayFee with
      | none => exact Spec.throw fun _ _ h => h
      | some fee =>
        have only : OnlyRun (fun c => ∃ args, c = Call.recordReceive args)
            (reimburseFee flow pendingPayment.journalId lookup.roundedUpFee) :=
          reimburseFee_only flow _ _ fun _ _ _ _ _ _ => ⟨_, rfl⟩
        refine Spec.ofOnly (solo_stable _) ?_ only
        rintro _ ⟨args, rfl⟩ before a reply after _ resolved _ served
        refine ⟨solo_guaranteed before after, ?_⟩
        obtain ⟨_, _, rfl⟩ | ⟨_, now, rfl⟩ := World.commit_inversion served
        · exact resolved
        · exact resolved.grow (fun _ member => List.mem_append_left _ member) rfl rfl

section GivenBack

variable {flow : PaymentFlow} {w after : World}

theorem SettledNow.journal_found (now : SettledNow paymentHash attempt journal w) :
    w.ledger.journal? journal.id = some journal := by
  rw [Ledger.journal?_eq_getElem? now.numbered]
  exact now.stored

theorem SettledNow.voided {clock : Nat} {ledger : Ledger}
    (now : SettledNow paymentHash attempt journal w)
    (btc : attempt.paymentFlow.senderWalletCurrency = .btc)
    (voided : w.ledger.void run clock journal.id "Payment canceled" = some ledger) :
    Resolved paymentHash attempt journal.id .failed { w with clock, ledger } := by
  obtain ⟨original, same, _, _, journals⟩ := Ledger.void_inversion voided
  obtain rfl := Option.some.inj (same.symm.trans now.journal_found)
  have marked : original.markVoided original.id = { original with voided := true } := by
    simp [Journal.markVoided]
  have kept : { original with voided := true } ∈ ledger.journals := by
    rw [journals, ← marked]
    exact List.mem_append_left _ (List.mem_map_of_mem (List.mem_of_getElem? now.stored))
  refine ⟨?_, _, kept, rfl, now.writer, now.legs, fun _ => ?_⟩
  · obtain ⟨leg, member, settled⟩ := Ledger.isLnTxRecorded_iff.mp now.recorded
    obtain ⟨_, _, legs⟩ := Ledger.legs_void voided
    refine Ledger.isLnTxRecorded_iff.mpr ⟨leg, ?_, settled⟩
    rw [legs]
    exact List.mem_append_left _ member
  · simp only [GivenBack, btc, journals]
    exact ⟨_, List.mem_append_right _ (List.mem_singleton.mpr rfl), rfl, rfl⟩

theorem SettledNow.refunded {clock : Nat} {btcWallet : WalletDescriptor}
    (now : SettledNow paymentHash attempt journal w) (same : flow.Matches attempt.paymentFlow)
    (usd : flow.senderWalletCurrency = .usd)
    (chosen : w.btcWalletOf flow.senderWalletId = some btcWallet) (hash : PaymentHash) :
    Resolved paymentHash attempt journal.id .failed
      { w with
        clock
        ledger := w.ledger.commit run clock
          (LedgerFacade.recordReceive w.bank
            (failedUsdPaymentArgs flow hash journal.id btcWallet)) } := by
  obtain ⟨isBtc, wallet, stored, owned⟩ := World.btcWalletOf_inversion chosen
  have grown : ∀ other ∈ w.ledger.journals, other ∈ (w.ledger.commit run clock
      (LedgerFacade.recordReceive w.bank
        (failedUsdPaymentArgs flow hash journal.id btcWallet))).journals :=
    fun _ member => List.mem_append_left _ member
  refine ⟨Ledger.isLnTxRecorded_grow now.recorded grown, journal,
    grown journal (List.mem_of_getElem? now.stored), rfl, now.writer, now.legs, fun _ => ?_⟩
  rw [same.currency] at usd
  rw [same.sender] at stored
  simp only [GivenBack, usd]
  refine ⟨wallet, btcWallet, stored, isBtc, owned, w.ledger.newJournal run clock _,
    List.mem_append_right _ (List.mem_singleton.mpr rfl), ?_, ?_⟩
  · intro leg member
    obtain ⟨additional, tagged⟩ := recordReceive_tagged w.bank _ leg member
    rw [tagged]
    rfl
  · refine (netOver_recordReceive_btc _ w.bank (failedUsdPaymentArgs flow hash journal.id btcWallet)
      rfl isBtc).trans ?_
    have amount := congrArg Amount.amount same.btc
    simp [failedUsdPaymentArgs, amount, toLedgerAccountId]

theorem Refundable.chosen {walletId : WalletId} (refundable : Refundable flow w)
    (usd : flow.senderWalletCurrency = .usd) (sender : walletId = flow.senderWalletId) :
    w.btcWalletOf walletId ≠ none := by
  obtain ⟨wallet, stored, hasBtc⟩ := refundable usd
  rw [sender, World.btcWalletOf, stored, Option.bind_some]
  cases currency : wallet.currency with
  | btc => simp
  | usd =>
    obtain ⟨btcWallet, member, isBtc⟩ := hasBtc currency
    simp only [ne_eq, List.find?_eq_none, decide_eq_true_eq]
    exact fun missing => missing btcWallet member isBtc

theorem SettledNow.can_give_back (now : SettledNow paymentHash attempt journal w)
    (refundable : Refundable attempt.paymentFlow w) (flowFor : FlowFor paymentHash attempt flow)
    (nonempty : paymentHash ≠ "") : ¬CannotGiveBack run flow journal.id w := by
  unfold CannotGiveBack
  cases currency : flow.senderWalletCurrency with
  | btc =>
    rintro ⟨clock, missing⟩
    simp [Ledger.void, now.journal_found, now.active] at missing
  | usd =>
    rintro (⟨error, noHash⟩ | noWallet)
    · simp [PaymentFlow.paymentHashForFlow, flowFor.2, nonempty] at noHash
    · exact refundable.chosen (flowFor.1.currency ▸ currency) flowFor.1.sender noWallet

end GivenBack

theorem failPendingPayment_spec (works : ∀ c : Call, c.ledgerWorks (answers c))
    (found : ∀ c : Call, c.repositoryWorks (answers c)) {flow : PaymentFlow}
    (flowFor : FlowFor paymentHash attempt flow) (nonempty : paymentHash ≠ "")
    {pendingPayment : LedgerTransaction} (ofJournal : pendingPayment.journalId = journal.id)
    {err : AppError → World → Prop} :
    SoloSpec run answers
      (fun w => SettledNow paymentHash attempt journal w ∧ Refundable attempt.paymentFlow w)
      (failPendingPayment pendingPayment flow)
      (fun _ => Resolved paymentHash attempt journal.id .failed) err := by
  refine Spec.from_state fun w settled => ?_
  obtain ⟨now, refundable⟩ := settled
  refine Spec.conseq (failPendingPayment_exact works found pendingPayment flow)
    (fun _ _ same => same) ?_ ?_
  · intro _ after _ given
    rw [ofJournal] at given
    cases given with
    | voids btc voided => exact now.voided (flowFor.1.currency ▸ btc) voided
    | refunds usd _ chosen => exact now.refunded flowFor.1 usd chosen _
  · rintro _ after _ ⟨_, stuck⟩
    rw [ofJournal] at stuck
    exact absurd stuck (now.can_give_back refundable flowFor nonempty)

def Phase (paymentHash : PaymentHash) (attempt : LnAttempt) (journal : Journal)
    (final : PaymentStatus) (w : World) : Prop :=
  Waiting paymentHash attempt journal w ∨ Resolved paymentHash attempt journal.id final w

theorem behindLock_spec {final : PaymentStatus} {lookup : LnPaymentLookup}
    (works : ∀ c : Call, c.ledgerWorks (update.answers c))
    (found : ∀ c : Call, c.repositoryWorks (update.answers c))
    (listed : Listed paymentHash journal update) (nonempty : paymentHash ≠ "")
    (status : lookup.status = final) (finished : final ≠ .pending) :
    SoloSpec update.run update.answers (Phase paymentHash attempt journal final)
      (updatePendingPaymentBehindLock update.walletId update.pendingPayment paymentHash lookup)
      (fun _ => Resolved paymentHash attempt journal.id final)
      (fun _ => Phase paymentHash attempt journal final) := by
  obtain ⟨leg, _, _, shown⟩ := listed.leg
  have ofJournal : update.pendingPayment.journalId = journal.id := by rw [shown]; rfl
  refine Spec.seq (fun recorded => if recorded then Resolved paymentHash attempt journal.id final
    else Waiting paymentHash attempt journal) (fallible_spec (solo_ask ?_)) fun recorded => ?_
  · intro before reply after phase served
    obtain rfl := Stores.read_unchanged served
    cases reply with
    | error error => exact phase
    | ok recorded =>
      have answer := Except.ok.inj (Stores.read_ok served)
      rcases phase with waiting | resolved
      · rw [waiting.1.unrecorded] at answer
        rw [← answer]
        exact waiting
      · rw [resolved.recorded] at answer
        rw [← answer]
        exact resolved
  cases recorded with
  | true => exact Spec.pure fun _ _ h => h
  | false =>
    refine Spec.from_state fun w waiting => ?_
    refine ofResult_bind_spec (fun amount input => ?_) fun _ _ _ _ same => .inl (same ▸ waiting)
    refine Spec.bind (Spec.weaken_err (flowOfPendingPayment_exact found _)
      (fun _ _ _ same => .inl (same ▸ waiting))) fun flow => ?_
    refine Spec.pre_fact fun ⟨named, _, isNamed, isFlow⟩ => ?_
    have flowFor : FlowFor paymentHash attempt flow := by
      obtain ⟨matches_, hash⟩ := waiting.1.names listed nonempty input isNamed
      rw [isFlow]
      exact ⟨⟨matches_.sender, matches_.currency, matches_.btc⟩, hash⟩
    refine Spec.bind (settlePendingLnPayment_spec waiting (works (.settlePendingLnPayment _)))
      fun _ => ?_
    rw [status]
    cases final with
    | settled =>
      refine Spec.conseq (confirm_spec update.pendingPayment flow lookup journal.id)
        (fun _ _ h => ?_) (fun _ _ _ h => h) (fun _ _ _ h => .inr h)
      exact h.1.resolved fun impossible => by cases impossible
    | failed =>
      have ofSettled : update.pendingPayment.journalId = (journal.settleFor paymentHash).id :=
        ofJournal
      exact failPendingPayment_spec works found flowFor nonempty ofSettled
    | pending => exact absurd rfl finished

theorem Phase.locks {final : PaymentStatus} {w : World} (locks : LockKey → Option RunId)
    (phase : Phase paymentHash attempt journal final w) :
    Phase paymentHash attempt journal final { w with locks } :=
  phase.imp (fun waiting => waiting.moved rfl rfl rfl rfl rfl) fun resolved => resolved.locks locks

theorem Phase.frame {final : PaymentStatus} {before after : World}
    (frame : Frame .nothing before after) (phase : Phase paymentHash attempt journal final before) :
    Phase paymentHash attempt journal final after :=
  phase.imp (fun waiting => waiting.frame frame) fun resolved => resolved.frame frame

theorem update_spec {final : PaymentStatus}
    (works : ∀ c : Call, c.ledgerWorks (update.answers c))
    (found : ∀ c : Call, c.repositoryWorks (update.answers c))
    (listed : Listed paymentHash journal update) (nonempty : paymentHash ≠ "")
    (consistent : ∀ status, update.Reports status → status = .pending ∨ status = final) :
    SoloSpec update.run update.answers (Phase paymentHash attempt journal final)
      (updatePendingPayment update.walletId update.pendingPayment)
      (fun _ w => Phase paymentHash attempt journal final w ∧
        (update.Reports final → final ≠ .pending →
        Resolved paymentHash attempt journal.id final w))
      (fun _ => Phase paymentHash attempt journal final) := by
  refine Spec.bind (solo_reads (fun _ _ => Phase.frame) (only_fallible (only_ask rfl))) fun _ => ?_
  have hash := listed.hash
  rw [hash]
  cases hasPubkey : update.pendingPayment.pubkey with
  | none => exact Spec.throw fun _ _ h => h
  | some pubkey =>
    refine Spec.seq (fun lookup w => Phase paymentHash attempt journal final w ∧
      update.answers (.lookupPayment pubkey paymentHash) = .ok lookup) (fallible_spec (solo_ask ?_))
      fun lookup => Spec.pre_fact fun answered => ?_
    · intro before reply after phase served
      cases served
      cases answered : update.answers (.lookupPayment pubkey paymentHash) with
      | error error => exact phase
      | ok lookup => exact ⟨phase, rfl⟩
    have reports : update.Reports lookup.status :=
      ⟨paymentHash, pubkey, lookup, hash, hasPubkey, answered, rfl⟩
    by_cases pending : lookup.status = .pending
    · rw [if_pos pending]
      refine Spec.pure fun w _ phase => ⟨phase, fun reported finished => ?_⟩
      exact absurd ((reported.unique reports).trans pending) finished
    · rw [if_neg pending]
      have status : lookup.status = final := (consistent _ reports).resolve_left pending
      have finished : final ≠ .pending := status ▸ pending
      refine Spec.weaken_ok (solo_withLock (fun _ locks h => h.locks locks)
        (fun _ _ locks h => h.locks locks) (fun _ locks h => h.locks locks) (fun _ h => h)
        (fun _ _ h => .inr h) (behindLock_spec works found listed nonempty status finished))
        (fun _ _ _ h => ⟨.inr h, fun _ _ => h⟩)

end Update

end Galoy
