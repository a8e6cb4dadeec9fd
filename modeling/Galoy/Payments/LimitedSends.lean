import Galoy.Interleave.Serial
import Galoy.Payments.LimitVerdict
import Galoy.Payments.Requests

set_option autoImplicit false

namespace Galoy

open Interleave App SendIntraledger

structure Later (before after : World) : Prop where
  ledger : after.ledger = before.ledger
  bank : after.bank = before.bank
  accounts : after.accounts = before.accounts
  clock : before.clock ≤ after.clock

theorem serve_later {run : RunId} {before after : World} {c : Call} {a : Answer c} {reply : Reply c}
    (served : serve run before c a = some (reply, after)) (quiet : c.part ≠ .ledger) :
    Later before after :=
  have frame := serve_frame served
  ⟨frame.ledger quiet, frame.bank, frame.accounts, serve_clock served⟩

def Persistent (holds : World → Prop) : Prop :=
  ∀ before after, Later before after → holds before → holds after

structure LimitPassed (getAccountLimits : AccountLevel → AccountLimits) (wallet : WalletDescriptor)
    (amount : UsdPaymentAmount) (w : World) where
  checkedAt : Nat
  earlier : checkedAt ≤ w.clock
  account : Account
  found : w.accounts wallet.accountId = some account
  walletVolume : TxBaseVolumeAmount wallet.currency
  read : w.ledger.volumeAmountSince .intraledgerTxBaseVolumeSince wallet (checkedAt - oneDay) =
    .ok walletVolume
  priceRatio : PriceRatio
  passed : checkLimitBase (AccountLimitsChecker.checkIntraledger (getAccountLimits account.level))
    priceRatio amount walletVolume = .ok ()

def LimitPassed.later {getAccountLimits : AccountLevel → AccountLimits} {wallet : WalletDescriptor}
    {amount : UsdPaymentAmount} {before after : World}
    (check : LimitPassed getAccountLimits wallet amount before) (later : Later before after) :
    LimitPassed getAccountLimits wallet amount after :=
  { check with
    earlier := check.earlier.trans later.clock
    found := later.accounts ▸ check.found
    read := later.ledger ▸ check.read }

namespace LimitedSend

variable {permit : Permit services} {keep : World → Prop} {run : RunId} {α : Type}

theorem later_spec (steady : Persistent keep) {holds : World → Prop}
    (persistent : Persistent holds) {x : App α} (only : OnlyRun (fun c => c.part ≠ .ledger) x) :
    Spec services permit (.alone keep run) run holds x (fun _ => holds) (fun _ _ => True) := by
  have kept : Spec services permit (.alone keep run) run holds x (fun _ => holds)
      (fun _ => holds) := by
    refine Spec.ofOnly (alone_stable _) ?_ only
    intro c quiet before a reply after good now _ served
    have later := serve_later served quiet
    exact ⟨alone_guaranteed (steady before after later good), persistent before after later now⟩
  exact Spec.weaken_err kept fun _ _ _ _ => trivial

theorem reads_later (c : Call) (reads : c.reads) : c.part ≠ .ledger := by
  rw [show c.part = .nothing from reads]
  decide

section Check

variable {getAccountLimits : AccountLevel → AccountLimits} {wallet : WalletDescriptor}
  {amount : UsdPaymentAmount} {priced : PriceRatio → Prop} {noted : Ledger → Nat → Prop}

def Passed (getAccountLimits : AccountLevel → AccountLimits) (wallet : WalletDescriptor)
    (amount : UsdPaymentAmount) (priced : PriceRatio → Prop) (noted : Ledger → Nat → Prop)
    (w : World) : Prop :=
  ∃ check : LimitPassed getAccountLimits wallet amount w,
    priced check.priceRatio ∧ noted w.ledger check.checkedAt

theorem passed_persistent : Persistent (Passed getAccountLimits wallet amount priced noted) := by
  rintro before after later ⟨check, atRatio, known⟩
  exact ⟨check.later later, atRatio, by rw [later.ledger]; exact known⟩

def VolumeRead (wallet : WalletDescriptor) (noted : Ledger → Nat → Prop)
    (walletVolume : TxBaseVolumeAmount wallet.currency) (w : World) : Prop :=
  ∃ checkedAt ≤ w.clock, noted w.ledger checkedAt ∧
    w.ledger.volumeAmountSince .intraledgerTxBaseVolumeSince wallet (checkedAt - oneDay) =
      .ok walletVolume

theorem volumeRead_persistent {walletVolume : TxBaseVolumeAmount wallet.currency} :
    Persistent (VolumeRead wallet noted walletVolume) := by
  rintro before after later ⟨checkedAt, earlier, known, read⟩
  refine ⟨checkedAt, earlier.trans later.clock, ?_⟩
  rw [later.ledger]
  exact ⟨known, read⟩

theorem volume_spec (steady : Persistent keep)
    (notices : ∀ w answer,
      permit run w (.volumeAmountSince .intraledgerTxBaseVolumeSince wallet) answer →
      noted w.ledger (w.clock + answer.elapsed)) :
    Spec services permit (.alone keep run) run (fun _ => True)
      (fallible (ask (.volumeAmountSince .intraledgerTxBaseVolumeSince wallet)))
      (VolumeRead wallet noted) (fun _ _ => True) := by
  refine fallible_spec (ask_triple (alone_stable _) ?_)
  intro before answer reply after good _ permitted served
  have later := serve_later served (by simp [Call.part])
  refine ⟨alone_guaranteed (steady before after later good), ?_⟩
  cases reply with
  | error error => trivial
  | ok walletVolume =>
    have read := Stores.read_ok served
    obtain rfl := Stores.read_unchanged served
    exact ⟨_, le_rfl, notices before answer permitted, read⟩

theorem check_spec (steady : Persistent keep)
    (notices : ∀ w answer,
      permit run w (.volumeAmountSince .intraledgerTxBaseVolumeSince wallet) answer →
      noted w.ledger (w.clock + answer.elapsed))
    {priceRatio : PriceRatio} (atRatio : priced priceRatio) :
    Spec services permit (.alone keep run) run (fun _ => True)
      (newCheckIntraledgerLimits getAccountLimits amount wallet priceRatio)
      (fun _ => Passed getAccountLimits wallet amount priced noted) (fun _ _ => True) := by
  refine Spec.bind (volume_spec steady notices) fun walletVolume => ?_
  refine Spec.seq (fun account w =>
    VolumeRead wallet noted walletVolume w ∧ w.accounts wallet.accountId = some account)
    (fallible_spec (ask_triple (alone_stable _) ?_)) fun account => ?_
  · intro before answer reply after good now _ served
    have later := serve_later served (by simp [Call.part])
    refine ⟨alone_guaranteed (steady before after later good), ?_⟩
    cases reply with
    | error error => trivial
    | ok account =>
      refine ⟨volumeRead_persistent before after later now, ?_⟩
      have found := Stores.found_ok (Stores.read_ok served)
      rw [later.accounts]
      exact found
  · refine ofResult_spec fun w _ now => ?_
    obtain ⟨⟨checkedAt, earlier, known, read⟩, found⟩ := now
    cases passed : checkLimitBase
        (AccountLimitsChecker.checkIntraledger (getAccountLimits account.level)) priceRatio amount
        walletVolume with
    | error error => trivial
    | ok _ =>
      exact ⟨⟨checkedAt, earlier, account, found, walletVolume, read, priceRatio, passed⟩,
        atRatio, known⟩

end Check

section Send

variable {getAccountLimits : AccountLevel → AccountLimits} {payment : IntraledgerPayment}
  {priced : PriceRatio → Prop} {noted : Ledger → Nat → Prop}

def committed (payment : IntraledgerPayment) (run : RunId) (recipient : WalletDescriptor)
    (w : World) (now : Nat) : World :=
  { w with
    clock := now
    ledger := w.ledger.commit run now (LedgerFacade.recordIntraledger w.bank
      (intraledgerArgs payment.paymentFlow payment.senderAccount payment.senderWallet
        payment.recipientWallet payment.memo recipient)) }

def CommitsKeep (getAccountLimits : AccountLevel → AccountLimits) (payment : IntraledgerPayment)
    (priced : PriceRatio → Prop) (noted : Ledger → Nat → Prop) (keep : World → Prop)
    (run : RunId) : Prop :=
  ∀ (recipient : WalletDescriptor) (w : World) (now : Nat)
    (check : LimitPassed getAccountLimits payment.senderWallet payment.paymentFlow.usdPaymentAmount
      w),
    keep w → w.clock ≤ now → priced check.priceRatio → noted w.ledger check.checkedAt →
      keep (committed payment run recipient w now)

theorem record_spec (steady : Persistent keep)
    (commits : CommitsKeep getAccountLimits payment priced noted keep run)
    (recipientWalletCurrency : WalletCurrency) (recipient : WalletDescriptor) :
    Spec services permit (.alone keep run) run
      (Passed getAccountLimits payment.senderWallet payment.paymentFlow.usdPaymentAmount
        priced noted)
      (recordAndNotify payment.paymentFlow payment.senderAccount payment.senderWallet
        payment.recipientAccount payment.recipientWallet payment.memo
        recipientWalletCurrency recipient)
      (fun _ _ => True) (fun _ _ => True) := by
  have rest {α : Type} {x : App α} (only : OnlyRun (fun c => c.part ≠ .ledger) x) :
      Spec services permit (.alone keep run) run (fun _ => True) x (fun _ _ => True)
        (fun _ _ => True) :=
    later_spec steady (fun _ _ _ _ => trivial) only
  refine Spec.seq (fun _ _ => True) (fallible_spec (ask_triple (alone_stable _) ?_))
    fun _ => rest ?_
  · intro before answer reply after good now _ served
    have later := World.commit_clock served
    obtain ⟨check, atRatio, known⟩ := now
    obtain ⟨_, ⟨error, rfl⟩, rfl⟩ | ⟨rfl, clock, rfl⟩ := World.commit_inversion served
    · exact ⟨alone_guaranteed good, trivial⟩
    · exact ⟨alone_guaranteed (commits recipient before clock check good later atRatio known),
        trivial⟩
  · refine OnlyRun.bind (only_fallible (ask_reads reads_later rfl)) fun _ => ?_
    exact OnlyRun.bind (only_total (ask_reads reads_later rfl)) fun _ => OnlyRun.pure _

theorem behindLock_spec (steady : Persistent keep)
    (commits : CommitsKeep getAccountLimits payment priced noted keep run)
    (recipientWalletCurrency : WalletCurrency) :
    Spec services permit (.alone keep run) run
      (Passed getAccountLimits payment.senderWallet payment.paymentFlow.usdPaymentAmount
        priced noted)
      (executePaymentViaIntraledgerBehindLock payment.paymentFlow payment.senderAccount
        payment.senderWallet payment.recipientAccount payment.recipientWallet payment.memo
        recipientWalletCurrency)
      (fun _ _ => True) (fun _ _ => True) := by
  refine Spec.bind (later_spec steady passed_persistent (checkBalance_only reads_later _ _))
    fun _ => ?_
  refine Spec.bind (later_spec steady passed_persistent (only_ofResult _)) fun _ => ?_
  refine Spec.bind (later_spec steady passed_persistent (checkNotAborted_only reads_later _))
    fun _ => ?_
  cases payment.paymentFlow.recipientWalletDescriptor with
  | none => exact Spec.throw fun _ _ _ => trivial
  | some recipient => exact record_spec steady commits recipientWalletCurrency recipient

theorem send_spec (steady : Persistent keep)
    (commits : CommitsKeep getAccountLimits payment priced noted keep run)
    (notices : ∀ w answer,
      permit run w (.volumeAmountSince .intraledgerTxBaseVolumeSince payment.senderWallet) answer →
      noted w.ledger (w.clock + answer.elapsed))
    (ratio : Spec services permit (.alone keep run) run (fun _ => True)
      (getPriceRatioForLimits payment.paymentFlow) (fun priceRatio _ => priced priceRatio)
      (fun _ _ => True))
    (others : payment.senderWallet.accountId ≠ payment.recipientWallet.accountId) :
    Spec services permit (.alone keep run) run (fun _ => True) (payment.prog getAccountLimits)
      (fun _ _ => True) (fun _ _ => True) := by
  unfold IntraledgerPayment.prog executePaymentViaIntraledger
  refine Spec.bind ratio fun priceRatio => Spec.of_fact fun atRatio => ?_
  rw [checkLimitsFor, if_neg others]
  refine Spec.bind (check_spec steady notices atRatio) fun _ => ?_
  split
  · have released : Spec services permit (.alone keep run) run (fun _ => True)
        (fallible (ask (.release (.wallet payment.senderWallet.id)))) (fun _ _ => True)
          (fun _ _ => True) :=
      later_spec steady (fun _ _ _ _ => trivial) (only_fallible (only_ask (by simp [Call.part])))
    refine withLock_spec ?_ (behindLock_spec steady commits _) (fun _ => released) fun _ => released
    exact later_spec steady passed_persistent (only_fallible (only_ask (by simp [Call.part])))
  · exact Spec.throw fun _ _ _ => trivial

theorem send_keeps (steady : Persistent keep)
    (commits : CommitsKeep getAccountLimits payment priced noted keep run)
    (notices : ∀ w answer,
      permit run w (.volumeAmountSince .intraledgerTxBaseVolumeSince payment.senderWallet) answer →
      noted w.ledger (w.clock + answer.elapsed))
    (ratio : Spec services permit (.alone keep run) run (fun _ => True)
      (getPriceRatioForLimits payment.paymentFlow) (fun priceRatio _ => priced priceRatio)
      (fun _ _ => True))
    (others : payment.senderWallet.accountId ≠ payment.recipientWallet.accountId) (w : World)
    (good : keep w) :
    wp services permit (.alone keep run) run (payment.prog getAccountLimits).run
      (fun _ _ => True) w :=
  wp_mono (fun _ _ _ _ => trivial) good
    (send_spec steady commits notices ratio others w good trivial)

end Send

end LimitedSend

theorem LimitPassed.window_le {getAccountLimits : AccountLevel → AccountLimits}
    {wallet : WalletDescriptor} {amount : UsdPaymentAmount} {w : World}
    (check : LimitPassed getAccountLimits wallet amount w) {walletId : WalletId}
    (nonneg : w.ledger.NonnegOutgoing .intraledgerTxBaseVolumeSince walletId) {now begins : Nat}
    (later : w.clock ≤ now) (inside : Ledger.dayFrom begins now = true) :
    w.ledger.outgoingWithin .intraledgerTxBaseVolumeSince walletId (Ledger.dayFrom begins) ≤
      w.ledger.outgoingWithin .intraledgerTxBaseVolumeSince walletId
        (Ledger.since (check.checkedAt - oneDay)) := by
  refine Ledger.outgoingWithin_mono nonneg fun time within => ?_
  have earlier := check.earlier
  simp only [Ledger.dayFrom, Ledger.since, decide_eq_true_eq] at inside within ⊢
  omega

structure OutgoingSend extends IntraledgerPayment where
  ofSender : paymentFlow.senderWalletDescriptor = senderWallet
  toOthers : senderWallet.accountId ≠ recipientWallet.accountId
  nonneg : 0 ≤ paymentFlow.paymentAmounts.inCurrency senderWallet.currency

namespace OutgoingSend

def amount (send : OutgoingSend) : Int :=
  send.paymentFlow.paymentAmounts.inCurrency send.senderWallet.currency

section Committed

variable (send : OutgoingSend) {w : World} {walletId : WalletId} (run : RunId)
  (recipient : WalletDescriptor) (now : Nat)

theorem outgoing_entry (customer : w.bank.converting send.senderWallet.currency ≠ walletId) :
    outgoing (TxnGroup.counts .intraledgerTxBaseVolumeSince walletId)
        (LedgerFacade.recordIntraledger w.bank (intraledgerArgs send.paymentFlow send.senderAccount
          send.senderWallet send.recipientWallet send.memo recipient)).transactions =
      if send.senderWallet.id = walletId then (send.amount : ℚ) else 0 := by
  have sender : (intraledgerArgs send.paymentFlow send.senderAccount send.senderWallet
      send.recipientWallet send.memo recipient).senderWalletDescriptor = send.senderWallet :=
        send.ofSender
  have type : (intraledgerArgs send.paymentFlow send.senderAccount send.senderWallet
      send.recipientWallet send.memo recipient).metadata.type ∈
        TxnGroup.types .intraledgerTxBaseVolumeSince := by
    simp only [intraledgerArgs, intraledgerMetadata, if_neg send.toOthers]
    exact List.mem_cons_self
  rw [outgoing_recordIntraledger w.bank _ walletId _ (by rw [sender]; exact customer), sender]
  simp only [type, and_true]
  rfl

theorem outgoingWithin_committed
    (customer : w.bank.converting send.senderWallet.currency ≠ walletId) (window : Nat → Bool) :
    (LimitedSend.committed send.toIntraledgerPayment run recipient w now).ledger.outgoingWithin
        .intraledgerTxBaseVolumeSince walletId window =
      w.ledger.outgoingWithin .intraledgerTxBaseVolumeSince walletId window +
        if window now ∧ send.senderWallet.id = walletId then (send.amount : ℚ) else 0 := by
  simp only [LimitedSend.committed, Ledger.outgoingWithin_commit,
    outgoing_entry send recipient customer, ite_and]

theorem nonnegOutgoing_committed
    (customer : w.bank.converting send.senderWallet.currency ≠ walletId)
    (nonneg : w.ledger.NonnegOutgoing .intraledgerTxBaseVolumeSince walletId) :
    (LimitedSend.committed send.toIntraledgerPayment run recipient w now).ledger.NonnegOutgoing
      .intraledgerTxBaseVolumeSince walletId := by
  refine nonneg.commit ?_ run now
  rw [outgoing_entry send recipient customer]
  split
  · exact_mod_cast send.nonneg
  · exact le_rfl

end Committed

end OutgoingSend

def Ledger.WithinLimit (ledger : Ledger) (walletId : WalletId) (limit : Int) : Prop :=
  ∀ begins, ledger.outgoingWithin .intraledgerTxBaseVolumeSince walletId (dayFrom begins) ≤ limit

structure WalletKeeps (wallet : WalletDescriptor) (account : Account) (limit : Int)
    (w : World) : Prop where
  customer : w.bank.converting wallet.currency ≠ wallet.id
  found : w.accounts wallet.accountId = some account
  nonneg : w.ledger.NonnegOutgoing .intraledgerTxBaseVolumeSince wallet.id
  within : w.ledger.WithinLimit wallet.id limit

theorem walletKeeps_persistent {wallet : WalletDescriptor} {account : Account} {limit : Int} :
    Persistent (WalletKeeps wallet account limit) := by
  rintro before after ⟨ledger, bank, accounts, _⟩ ⟨customer, found, nonneg, within⟩
  constructor
  · rwa [bank]
  · rwa [accounts]
  · rwa [ledger]
  · rwa [ledger]

theorem walletKeeps_commit (getAccountLimits : AccountLevel → AccountLimits) (account : Account)
    (send : OutgoingSend) (usd : send.senderWallet.currency = .usd) (run : RunId) :
    LimitedSend.CommitsKeep getAccountLimits send.toIntraledgerPayment (fun _ => True)
      (fun _ _ => True)
      (WalletKeeps send.senderWallet account (getAccountLimits account.level).intraLedgerLimit)
        run := by
  intro recipient w now check keeps later _ _
  refine ⟨keeps.customer, keeps.found, send.nonnegOutgoing_committed run recipient now
    keeps.customer keeps.nonneg, fun begins => ?_⟩
  rw [send.outgoingWithin_committed run recipient now keeps.customer]
  by_cases inside : Ledger.dayFrom begins now = true
  · have covered := check.window_le keeps.nonneg later inside
    rw [← Ledger.volumeAmountSince_outgoing check.read] at covered
    obtain rfl : check.account = account := Option.some.inj (check.found.symm.trans keeps.found)
    have passed := checkLimitBase_eq_ok.mp check.passed
    rw [outgoingInUsd_usd usd] at passed
    have bound : (check.walletVolume.outgoingBaseAmount.amount : ℚ) + send.amount ≤
        ((getAccountLimits check.account.level).intraLedgerLimit : ℚ) := by
      have amount : send.amount = send.paymentFlow.usdPaymentAmount.amount := by
        simp only [OutgoingSend.amount, usd]
        rfl
      rw [amount]
      exact_mod_cast passed
    simp only [inside, and_self, if_true]
    linarith
  · simpa [inside] using keeps.within begins

theorem intraledger_volume_within_limit (getAccountLimits : AccountLevel → AccountLimits)
    (wallet : WalletDescriptor) (usd : wallet.currency = .usd) {start : World}
    (customer : start.bank.dealerBtc ≠ wallet.id) {account : Account}
    (found : start.accounts wallet.accountId = some account)
    (nonneg : start.ledger.NonnegOutgoing .intraledgerTxBaseVolumeSince wallet.id)
    (within : start.ledger.WithinLimit wallet.id (getAccountLimits account.level).intraLedgerLimit)
    (sends : RunId → OutgoingSend) (ofWallet : ∀ run, (sends run).senderWallet = wallet)
    {after : Config World Call Reply (Result PaymentSendStatus)}
    (reach : SerialReach services (anyStep services)
      ⟨start, fun run => ((sends run).prog getAccountLimits).run⟩ after) :
    after.world.ledger.WithinLimit wallet.id (getAccountLimits account.level).intraLedgerLimit := by
  have good : WalletKeeps wallet account (getAccountLimits account.level).intraLedgerLimit start :=
    ⟨by rw [usd]; exact customer, found, nonneg, within⟩
  refine (serial_inv (fun run w keeps => ?_) good reach).within
  have commits := walletKeeps_commit getAccountLimits account (sends run)
    (by rw [ofWallet, usd]) run
  rw [ofWallet run] at commits
  refine LimitedSend.send_keeps walletKeeps_persistent commits (fun _ _ _ => trivial) ?_
    (sends run).toOthers w keeps
  exact LimitedSend.later_spec walletKeeps_persistent (fun _ _ _ _ => trivial)
    (getPriceRatioForLimits_only LimitedSend.reads_later _)

section Example

def cashWallet (walletId : WalletId) (owner : String) : WalletDescriptor := ⟨walletId, .usd, owner⟩

def cashDeposit (walletId : WalletId) : Entry :=
  LedgerFacade.recordReceive exampleBank
    { description := "deposit"
      recipientWalletDescriptor := cashWallet walletId "alice"
      amountToCreditReceiver := ⟨⟨10000⟩, ⟨500⟩⟩
      metadata := lnReceiveLedgerMetadata ("deposit of " ++ walletId) ⟨0⟩ 0 500 }

def cashWorld : World :=
  { sendWorld with
    ledger := (({} : Ledger).commit 100 0 (cashDeposit "daily")).commit 100 0 (cashDeposit
      "savings") }

def cashSend (walletId : WalletId) : OutgoingSend where
  paymentFlow :=
    { sendFlow walletId with
      hash := .intraLedgerHash "fresh"
      senderWalletCurrency := .usd
      senderAccountId := "alice"
      settlementMethod := .intraLedger
      paymentInitiationMethod := .intraLedger
      recipientWalletId := some "bob"
      recipientWalletCurrency := some .usd
      recipientAccountId := some "bob"
      inputAmount := 50
      btcProtocolFee := ⟨0⟩
      usdProtocolFee := ⟨0⟩ }
  senderAccount := ⟨"alice", "user", none, .one⟩
  senderWallet := cashWallet walletId "alice"
  recipientAccount := ⟨"bob", "user", none, .one⟩
  recipientWallet := cashWallet "bob" "bob"
  ofSender := rfl
  toOthers := show "alice" ≠ "bob" by decide
  nonneg := show (0 : Int) ≤ 50 by decide

def cashLimits : AccountLevel → AccountLimits := fun _ => ⟨60, 100000, 100000⟩

def cashAnswers : (c : Call) → Answer c := (sendOutside paymentNoRoute .pending).answers

def cashVolume (w : World) (walletId : WalletId) : ℚ :=
  w.ledger.outgoingWithin .intraledgerTxBaseVolumeSince walletId (Ledger.dayFrom 0)

def dailySends : Config World Call Reply (Result PaymentSendStatus) :=
  ⟨cashWorld, fun _ => ((cashSend "daily").prog cashLimits).run⟩

theorem cashWorld_unused : ∀ walletId ∈ ["daily", "savings"], ∀ journal ∈ cashWorld.ledger.journals,
    outgoing (TxnGroup.counts .intraledgerTxBaseVolumeSince walletId) journal.legs = 0 := by
  decide +kernel

theorem cashWorld_within : cashWorld.ledger.WithinLimit "daily" 60 := by
  intro begins
  rw [Ledger.outgoingWithin_eq_zero (cashWorld_unused "daily" (by decide))]
  norm_num

theorem second_send_in_turn_is_refused :
    ∃ after, SerialReach services (anyStep services) dailySends after ∧
      cashVolume after.world "daily" = 50 ∧ after.world.ledger.WithinLimit "daily" 60 := by
  have played : (playTurns services (anyStep services) (fun _ => cashAnswers) [(0, 10), (1, 3)]
      dailySends).map (fun after => cashVolume after.world "daily") = some 50 := by
    decide +kernel
  obtain ⟨after, turns, once⟩ := Option.map_eq_some_iff.mp played
  have reach := playTurns_serial turns
  have nonneg : cashWorld.ledger.NonnegOutgoing .intraledgerTxBaseVolumeSince "daily" :=
    fun journal member => (cashWorld_unused "daily" (by decide) journal member).ge
  have found : cashWorld.accounts "alice" = some ⟨"alice", "user", none, .one⟩ := rfl
  exact ⟨after, reach, once, intraledger_volume_within_limit cashLimits
    (cashWallet "daily" "alice") rfl (by decide) found nonneg
    cashWorld_within (fun _ => cashSend "daily") (fun _ => rfl) reach⟩

theorem two_sends_exceed_limit :
    cashWorld.ledger.WithinLimit "daily" 60 ∧
      ∃ after, Reach services (anyStep services) dailySends after ∧
        cashVolume after.world "daily" = 100 := by
  have played : (play services (anyStep services) (fun _ => cashAnswers)
      (List.replicate 3 0 ++ List.replicate 3 1 ++ List.replicate 7 0 ++ List.replicate 7 1)
      dailySends).map (fun after => cashVolume after.world "daily") = some 100 := by
    decide +kernel
  obtain ⟨after, run, twice⟩ := Option.map_eq_some_iff.mp played
  exact ⟨cashWorld_within, after, play_reach _ _ _ _ _ _ run, twice⟩

end Example

end Galoy
