import Galoy.OnChain.ReceiptRuns

set_option autoImplicit false

namespace Galoy.OnChain

open Interleave Failing

def Complete (wallet : Wallet) (tx : OnChainTransaction) (ledger : Ledger) : Prop :=
  (wallet.payments tx.outs).Subperm (receipts (onlyWallet wallet.id) tx.txHash ledger)

structure FairTo (wallet : Wallet) (tx : OnChainTransaction) (w : World) : Prop where
  leaves : ∀ account, w.accounts wallet.accountId = some account → ∀ out ∈ tx.outs,
    (wallet.paidBy out).isSome → onChainDepositFee out.sats account.depositFeeRatio ≠ out.sats
  ownFees : wallet.id = w.bank.bankOwner → ∀ other ∈ w.wallets, other.id ≠ wallet.id →
    ∀ account, w.accounts other.accountId = some account → ∀ out ∈ tx.outs,
      (other.paidBy out).isSome → onChainDepositFee out.sats account.depositFeeRatio ≤ 0

def Wrote (wallet : Wallet) (txHash : OnChainTxHash) (run : RunId) (ledger : Ledger) : Prop :=
  ∃ journal ∈ receiptJournals txHash ledger, journal.writtenBy = run ∧
    (receipt? (onlyWallet wallet.id) txHash journal).isSome

def Call.works (w : World) : (c : Call) → Answer c → Prop
  | .addOnChainTxReceive _, answer => answer.fault = none
  | .findAccountById _ accountId, fault => fault = none ∧ (w.accounts accountId).isSome
  | .findUserById userId, fault => fault = none ∧ (w.users userId).isSome
  | _, _ => True

-- A run that has recorded one output is not stopped by the ledger or a repository.
def finishesWhatItBegan (wallet : Wallet) (tx : OnChainTransaction) :
    Permit services := fun run w c a =>
  listsKnown tx run w c a ∧ (Wrote wallet tx.txHash run w.ledger → c.works w a)

instance (wallet : Wallet) (txHash : OnChainTxHash) (run : RunId) (ledger : Ledger) :
    Decidable (Wrote wallet txHash run ledger) :=
  inferInstanceAs (Decidable (∃ _ ∈ _, _))

instance (w : World) (c : Call) (a : Answer c) : Decidable (c.works w a) := by
  induction c using Call.casesOn
  case addOnChainTxReceive => exact inferInstanceAs (Decidable (_ = none))
  case findAccountById => exact inferInstanceAs (Decidable (_ ∧ _))
  case findUserById => exact inferInstanceAs (Decidable (_ ∧ _))
  all_goals exact inferInstanceAs (Decidable True)

instance (wallet : Wallet) (tx : OnChainTransaction) (run : RunId) (w : World) (c : Call)
    (a : services.Answer c) : Decidable (finishesWhatItBegan wallet tx run w c a) :=
  inferInstanceAs (Decidable (_ ∧ (_ → _)))

def Settled (wallet : Wallet) (tx : OnChainTransaction) (ledger : Ledger) : Prop :=
  Recorded wallet.id tx.txHash ledger → Complete wallet tx ledger

structure Completed (start : World) (wallet : Wallet) (tx : OnChainTransaction)
    (w : World) : Prop where
  fixed : Fixed start w
  settled : w.locks tx.txHash = none → Settled wallet tx w.ledger

section OfReceipts

variable (wallet : Wallet) (tx : OnChainTransaction)

theorem complete_ofReceipts : OfReceipts tx.txHash (Complete wallet tx) := by
  intro ledger after same holds
  unfold Complete at holds ⊢
  rwa [receipts_congr same]

theorem settled_ofReceipts : OfReceipts tx.txHash (Settled wallet tx) := by
  intro ledger after same holds recorded
  exact complete_ofReceipts wallet tx ledger after same (holds ((Recorded.congr same).mp recorded))

theorem wrote_ofReceipts (run : RunId) : OfReceipts tx.txHash (Wrote wallet tx.txHash run) := by
  intro ledger after same holds
  unfold Wrote at holds ⊢
  rwa [same]

end OfReceipts

theorem Complete.grow {wallet : Wallet} {tx : OnChainTransaction} {ledger after : Ledger}
    (complete : Complete wallet tx ledger) (grown : ledger.journals <+: after.journals) :
    Complete wallet tx after :=
  List.Subperm.trans complete (receipts_grow grown).sublist.subperm

theorem Completed.protocol (start : World) (wallet : Wallet) (tx : OnChainTransaction) :
    Protocol start tx.txHash (Completed start wallet tx) (Settled wallet tx) where
  fixed w good := good.fixed
  quiet before after good fixed lock same := by
    refine ⟨fixed, fun free => ?_⟩
    rw [lock] at free
    exact settled_ofReceipts wallet tx _ _ same (good.settled free)
  ofReceipts := settled_ofReceipts wallet tx
  entered w run good free := by
    refine ⟨good.settled free, good.fixed.locks _, fun none => ?_⟩
    simp at none
  left w good holds := ⟨good.fixed.locks _, fun _ => holds⟩

section OtherWallets

variable {start : World} {wallet other : Wallet} {tx : OnChainTransaction} {account : Account}
  {displayCurrencyPerSat : ℚ} {run : RunId} {now : Nat} {entry : Entry} {ledger : Ledger}

theorem commit_unseen {walletId : WalletId} {txHash : OnChainTxHash}
    (elsewhere : ∀ leg ∈ entry.transactions, leg.account ≠ toLedgerAccountId walletId) :
    receipts (onlyWallet walletId) txHash (ledger.commit run now entry) =
        receipts (onlyWallet walletId) txHash ledger ∧
      (Recorded walletId txHash (ledger.commit run now entry) →
        Recorded walletId txHash ledger) := by
  constructor
  · have none : receipt? (onlyWallet walletId) txHash (ledger.newJournal run now entry) = none := by
      simp only [receipt?, Option.map_eq_none_iff, List.find?_eq_none]
      intro leg member
      simp [onlyWallet, elsewhere leg member]
    simp [receipts_commit, none]
  · rintro ⟨journal, member, leg, within, account, receipt⟩
    simp only [receiptJournals, Ledger.journals_commit, List.filter_append,
      List.mem_append] at member
    rcases member with old | new
    · exact ⟨journal, old, leg, within, account, receipt⟩
    · obtain ⟨single, _⟩ := List.mem_filter.mp new
      obtain rfl := List.mem_singleton.mp single
      exact absurd account (elsewhere leg within)

theorem receive_elsewhere {bank : BankWallets} {out : TxOut} {address : OnChainAddress}
    (different : other.id ≠ wallet.id)
    (ownFees : wallet.id = bank.bankOwner → onChainDepositFee out.sats account.depositFeeRatio ≤ 0)
    (built : LedgerService.addOnChainTxReceive bank
      (receiveArgs other tx.txHash account displayCurrencyPerSat out.sats address) = .ok entry) :
    ∀ leg ∈ entry.transactions, leg.account ≠ toLedgerAccountId wallet.id := by
  intro leg member same
  rcases account_receive built member with ⟨owner, charged⟩ | lnd | own
  · have bankOwner : wallet.id = bank.bankOwner := by
      rw [owner] at same
      simpa [toLedgerAccountId] using same.symm
    have none : (onChainDepositFee out.sats account.depositFeeRatio : ℚ) ≤ 0 := by
      exact_mod_cast ownFees bankOwner
    exact absurd charged (not_lt.mpr none)
  · rw [lnd] at same
    cases same
  · rw [own] at same
    exact different (by simpa [toLedgerAccountId, receiveArgs] using same)

def Unseen (wallet : Wallet) (bank : BankWallets) : Call → Prop
  | .addOnChainTxReceive args => ∀ entry, LedgerService.addOnChainTxReceive bank args = .ok entry →
      ∀ leg ∈ entry.transactions, leg.account ≠ toLedgerAccountId wallet.id
  | _ => False

theorem unseen_kept {permit : Permit services} {α : Type} {x : App α}
    (only : OnlyRun (fun c => Quiet tx.txHash c ∨ Unseen wallet start.bank c) x) :
    Spec services permit (receiptDiscipline tx.txHash (Completed start wallet tx)) run
      (heldBy tx.txHash run (Settled wallet tx)) x
        (fun _ => heldBy tx.txHash run (Settled wallet tx))
      (fun _ => heldBy tx.txHash run (Settled wallet tx)) := by
  refine Spec.ofOnly (heldBy_stable (settled_ofReceipts wallet tx)) ?_ only
  intro c allowed before a reply after good holds _ served
  have effect := serve_effect served
  rcases allowed with calm | unseen
  · refine ⟨(Completed.protocol start wallet tx).quiet_kept calm good effect, ?_, ?_⟩
    · rw [effect.lock calm.2]
      exact holds.1
    · exact settled_ofReceipts wallet tx _ _ (effect.receiptJournals calm.1) holds.2
  · cases effect with
    | nothing => exact ⟨⟨good, fun _ _ => Discipline.rely_refl _ _ _⟩, holds⟩
    | acquired | released | deposited => cases unseen
    | received args entry now built =>
      have effect : Effect run before _ _ := .received args entry now built
      rw [good.fixed.bank] at built
      have elsewhere := unseen entry built
      have same : receipts (onlyWallet wallet.id) tx.txHash (before.ledger.commit run now entry) =
          receipts (onlyWallet wallet.id) tx.txHash before.ledger := (commit_unseen elsewhere).1
      refine ⟨effect.guaranteed (.inr holds.1) ⟨effect.fixed good.fixed, fun free => ?_⟩, holds.1,
        fun recorded => ?_⟩
      · have held : before.locks tx.txHash = none := free
        rw [holds.1] at held
        cases held
      · unfold Complete
        rw [same]
        exact holds.2 ((commit_unseen elsewhere).2 recorded)

theorem other_keeps {permit : Permit services} (fair : FairTo wallet tx start)
    (member : other ∈ start.wallets) (different : other.id ≠ wallet.id)
    {incoming : IncomingOnChainTransaction} (same : incoming.rawTx = tx) :
    Keeps tx (Completed start wallet tx) permit run (processTxForWallet other incoming) := by
  have local_ := settled_ofReceipts wallet tx
  refine Spec.conseq ((Completed.protocol start wallet tx).wallet_spec (fun _ => Settled wallet tx)
    (Settled wallet tx) (fun _ => local_) local_ (fun _ _ holds => holds) (fun _ _ holds => holds)
    (fun _ holds => holds) (fun _ holds => holds) ?_ same)
    (fun _ _ holds => holds) (fun _ _ _ _ => trivial) fun _ _ _ _ => trivial
  intro account displayCurrencyPerSat found
  refine unseen_kept (each_only fun out listed => Protocol.receiveOutput_only ?_ ?_)
  · exact fun c reads => .inl (Protocol.quiet_ask reads).1
  · intro address paid
    refine .inr fun entry built => receive_elsewhere different ?_ built
    exact fun owner => fair.ownFees owner other member different account found out listed
      (by simp [paid])

end OtherWallets

section OwnWallet

variable {start : World} {wallet : Wallet} {tx : OnChainTransaction} {account : Account}
  {displayCurrencyPerSat : ℚ} {run : RunId} {done : List TxOut} {out : TxOut}

structure Progress (wallet : Wallet) (tx : OnChainTransaction) (run : RunId) (done : List TxOut)
    (ledger : Ledger) : Prop where
  receipts : receipts (onlyWallet wallet.id) tx.txHash ledger = wallet.payments done
  untouched : wallet.payments done = [] → ¬Recorded wallet.id tx.txHash ledger
  wrote : wallet.payments done ≠ [] → Wrote wallet tx.txHash run ledger

theorem Progress.ofReceipts (wallet : Wallet) (tx : OnChainTransaction) (run : RunId)
    (done : List TxOut) :
    OfReceipts tx.txHash (Progress wallet tx run done) := by
  intro ledger after same holds
  refine ⟨?_, fun none => ?_, fun some => wrote_ofReceipts wallet tx run _ _ same
    (holds.wrote some)⟩
  · rw [receipts_congr same]
    exact holds.receipts
  · rw [Recorded.congr same]
    exact holds.untouched none

theorem Progress.received {before : World} {entry : Entry} {now : Nat} {address : OnChainAddress}
    (progress : Progress wallet tx run done before.ledger) (paid : wallet.paidBy out = some address)
    (leaves : onChainDepositFee out.sats account.depositFeeRatio ≠ out.sats)
    (built : LedgerService.addOnChainTxReceive before.bank
      (receiveArgs wallet tx.txHash account displayCurrencyPerSat out.sats address) = .ok entry) :
    Progress wallet tx run (done ++ [out]) (before.ledger.commit run now entry) := by
  have isPayment : wallet.payment? out = some ([address], (out.sats : ℚ)) := by
    simp [Wallet.payment?, paid]
  have receipt : receipt? (onlyWallet wallet.id) tx.txHash
      (before.ledger.newJournal run now entry) =
      some ([address], (out.sats : ℚ)) :=
    (receipt?_receive built tx.txHash _).mpr ⟨rfl, credits_own leaves, rfl⟩
  refine ⟨?_, fun none => ?_, fun _ =>
    ⟨before.ledger.newJournal run now entry, ?_, rfl, by simp [receipt]⟩⟩
  · rw [receipts_commit, receipt, progress.receipts, payments_append, isPayment]
  · simp [payments_append, isPayment] at none
  · refine List.mem_filter.mpr ⟨by simp [Ledger.journals_commit], ?_⟩
    by_contra other
    rw [receipt?_of_other (Bool.eq_false_iff.mpr other)] at receipt
    cases receipt

theorem receive_works {before after : World} {address : OnChainAddress} {answer : TimedAnswer}
    {reply : Result LedgerJournalId} (btc : wallet.currency = .btc) (works : answer.fault = none)
    (served : before.addOnChainTxReceive run
      (receiveArgs wallet tx.txHash account displayCurrencyPerSat out.sats address) answer =
        some (reply, after)) : ∃ id, reply = .ok id := by
  have builds : ∃ entry, LedgerService.addOnChainTxReceive before.bank
      (receiveArgs wallet tx.txHash account displayCurrencyPerSat out.sats address) = .ok entry :=
    addOnChainTxReceive_builds before.bank btc
  obtain ⟨entry, built⟩ := builds
  simp only [World.addOnChainTxReceive, built, World.commit, works, Option.some.injEq,
    Prod.mk.injEq] at served
  exact ⟨_, served.1.symm⟩

theorem lookup_works {α : Type} {w after : World} {fault : Option RepositoryFault}
    {value : Option α} {name : ErrorName} {message : String} {reply : Result α}
    (works : fault = none ∧ value.isSome)
    (served : Stores.read w fault (Stores.found value name message) = some (reply, after)) :
    ∃ result, reply = .ok result := by
  obtain ⟨rfl, present⟩ := works
  obtain ⟨result, rfl⟩ := Option.isSome_iff_exists.mp present
  cases served
  exact ⟨result, rfl⟩

theorem receiveOutput_complete (btc : wallet.currency = .btc) (fair : FairTo wallet tx start)
    (found : start.accounts wallet.accountId = some account) (listed : out ∈ tx.outs) :
    Spec services (finishesWhatItBegan wallet tx)
      (receiptDiscipline tx.txHash (Completed start wallet tx)) run
      (heldBy tx.txHash run (Progress wallet tx run done))
      (receiveOutput wallet tx.txHash account displayCurrencyPerSat out)
      (fun _ => heldBy tx.txHash run (Progress wallet tx run (done ++ [out])))
      (fun _ => heldBy tx.txHash run (Settled wallet tx)) := by
  unfold receiveOutput
  split
  · rename_i unpaid
    have none : wallet.payment? out = none := by simp [Wallet.payment?, unpaid]
    refine Spec.pure fun w _ holds => ⟨holds.1, ?_⟩
    have same : wallet.payments (done ++ [out]) = wallet.payments done := by
      simp [payments_append, none]
    exact ⟨by rw [same]; exact holds.2.receipts, by rw [same]; exact holds.2.untouched,
      by rw [same]; exact holds.2.wrote⟩
  · rename_i address paid
    have further := Progress.ofReceipts wallet tx run (done ++ [out])
    have begun : wallet.payments (done ++ [out]) ≠ [] := by
      simp [payments_append, Wallet.payment?, paid]
    refine Spec.seq (fun _ => heldBy tx.txHash run (Progress wallet tx run (done ++ [out])))
      (fallible_spec (ask_triple (heldBy_stable (Progress.ofReceipts _ _ _ _)) ?_)) fun _ => ?_
    · intro before a reply after good holds permitted served
      have effect := serve_effect served
      obtain ⟨rfl, error, rfl⟩ | ⟨entry, now, id, built, rfl, rfl⟩ := World.receive_effect served
      · refine ⟨effect.guaranteed (.inr holds.1) good, holds.1, fun recorded => ?_⟩
        by_cases first : wallet.payments done = []
        · exact absurd recorded (holds.2.untouched first)
        · have works := permitted.2 (holds.2.wrote first)
          obtain ⟨id, impossible⟩ := receive_works btc works served
          cases impossible
      · have kept : Completed start wallet tx
            { before with clock := now, ledger := before.ledger.commit run now entry } := by
          refine ⟨effect.fixed good.fixed, fun free => ?_⟩
          have held : before.locks tx.txHash = none := free
          rw [holds.1] at held
          cases held
        exact ⟨effect.guaranteed (.inr holds.1) kept, holds.1,
          holds.2.received paid (fair.leaves account found out listed (by simp [paid])) built⟩
    · refine Spec.seq (fun _ => heldBy tx.txHash run (Progress wallet tx run (done ++ [out])))
        (fallible_spec (ask_read rfl (heldBy_stable further) ?_)) fun recipientAccount => ?_
      · intro w a reply good holds permitted served
        obtain ⟨recipientAccount, rfl⟩ := lookup_works (permitted.2 (holds.2.wrote begun)) served
        exact holds
      · refine Spec.seq (fun _ => heldBy tx.txHash run (Progress wallet tx run (done ++ [out])))
          (fallible_spec (ask_read rfl (heldBy_stable further) ?_)) fun recipientUser =>
            total_spec (ask_read rfl (heldBy_stable further) fun _ _ _ _ holds _ _ => holds)
        intro w a reply good holds permitted served
        obtain ⟨recipientUser, rfl⟩ := lookup_works (permitted.2 (holds.2.wrote begun)) served
        exact holds

theorem own_completes (btc : wallet.currency = .btc) (fair : FairTo wallet tx start)
    {incoming : IncomingOnChainTransaction} (same : incoming.rawTx = tx) :
    Spec services (finishesWhatItBegan wallet tx)
      (receiptDiscipline tx.txHash (Completed start wallet tx)) run (fun _ => True)
      (processTxForWallet wallet incoming) (fun _ w => Complete wallet tx w.ledger)
      (fun _ _ => True) := by
  have begin_ := Progress.ofReceipts wallet tx run []
  have complete := complete_ofReceipts wallet tx
  refine (Completed.protocol start wallet tx).wallet_spec
    (fun recorded ledger => if recorded then Complete wallet tx ledger
      else Progress wallet tx run [] ledger)
    (Complete wallet tx) ?_ complete ?_ ?_ (fun _ holds _ => holds) (fun _ holds => holds) ?_ same
  · intro recorded
    cases recorded
    · exact begin_
    · exact complete
  · intro w good holds
    cases recorded : w.isOnChainTxRecorded wallet.id tx.txHash with
    | true => exact holds (isOnChainTxRecorded_iff.mp recorded)
    | false =>
      have missing := mt isOnChainTxRecorded_iff.mpr (Bool.eq_false_iff.mp recorded)
      exact ⟨receipts_of_unrecorded missing, fun _ => missing, fun some => absurd rfl some⟩
  · intro recorded ledger holds
    cases recorded with
    | true => exact fun _ => holds
    | false => exact fun recorded => absurd recorded (Progress.untouched holds rfl)
  · intro account displayCurrencyPerSat found
    refine Spec.weaken_ok
      (each_spec (fun done => heldBy tx.txHash run (Progress wallet tx run done))
        fun done out rest split => ?_) ?_
    · exact receiveOutput_complete btc fair found (by simp [split])
    · rintro _ w _ ⟨held, progress⟩
      refine ⟨held, ?_⟩
      unfold Complete
      rw [progress.receipts]

end OwnWallet

theorem processed_wallet_is_complete (onchainMinConfirmations : Nat) (activities : RunId → Activity)
    (start : World) (tx : OnChainTransaction) (wallet : Wallet) (btc : wallet.currency = .btc)
    (once : ∀ other ∈ start.wallets, other.id = wallet.id → other = wallet)
    (fair : FairTo wallet tx start)
    (fresh : ∀ leg ∈ start.ledger.legs, isReceiptOf tx.txHash leg = false)
    (known : ∀ run, (activities run).Known start tx) {after : Config World Call Reply (Result Unit)}
    (reach : Reach services (finishesWhatItBegan wallet tx)
      ⟨start, fun run => ((activities run).prog onchainMinConfirmations).run⟩ after)
    (run : RunId) (confirmations fee : Nat)
    (processed : activities run = .process wallet ⟨confirmations, tx, fee⟩)
    (returned : after.pool run = .pure (.ok ())) :
    Complete wallet tx after.world.ledger := by
  have good : (receiptDiscipline tx.txHash (Completed start wallet tx)).inv start := by
    refine ⟨Fixed.refl start, fun _ recorded => ?_⟩
    obtain ⟨journal, member, _⟩ := recorded
    rw [receiptJournals_of_fresh fresh] at member
    cases member
  have stable : ∀ (other : RunId) (value : Result Unit),
      (receiptDiscipline tx.txHash (Completed start wallet tx)).Stable other fun w =>
        other = run → value = .ok () → Complete wallet tx w.ledger := by
    intro other value before later rely _ holds same ended
    exact (holds same ended).grow rely.1
  refine reach_post stable good (fun other => ?_) reach returned rfl rfl
  by_cases same : other = run
  · subst same
    dsimp only
    rw [processed]
    refine wp_mono ?_ good (own_completes btc fair rfl start good trivial)
    rintro value w _ holds _ rfl
    exact holds
  · have keeps : Keeps tx (Completed start wallet tx) (finishesWhatItBegan wallet tx) other
        ((activities other).prog onchainMinConfirmations) := by
      refine (Completed.protocol start wallet tx).activity_keeps (fun _ _ _ _ allowed => allowed.1)
        onchainMinConfirmations (fun third member incoming isTx => ?_) (known other)
      by_cases own : third.id = wallet.id
      · obtain rfl := once third member own
        exact Spec.conseq (own_completes btc fair isTx) (fun _ _ holds => holds)
          (fun _ _ _ _ => trivial) fun _ _ _ _ => trivial
      · exact other_keeps fair member own isTx
    exact wp_mono (fun _ _ _ _ here => absurd here same) good (keeps start good trivial)

section Example

def processTwice : Config World Call Reply (Result Unit) :=
  ⟨depositWorld (1 / 10), fun _ => ((Activity.process aliceOnChain ⟨6, depositTx, 0⟩).prog 2).run⟩

def secondOutputFails : (c : Call) → Answer c
  | .addOnChainTxReceive args => if args.sats = 2000 then { fault := some "timeout" } else {}
  | c => allWorks c

theorem depositWorld_fair : FairTo aliceOnChain depositTx (depositWorld (1 / 10)) := by
  constructor
  · intro account found
    obtain rfl : account = ⟨"aliceAccount", "aliceUser", 1 / 10⟩ := by
      simpa [depositWorld, aliceOnChain] using found.symm
    decide +kernel
  · intro owner
    simp [depositWorld, aliceOnChain, exampleBank] at owner

theorem processed_deposit_is_complete :
    ∃ after, Reach services (finishesWhatItBegan aliceOnChain depositTx) processTwice after ∧
      after.pool 0 = .pure (.ok ()) ∧ Complete aliceOnChain depositTx after.world.ledger := by
  have played : (play services (finishesWhatItBegan aliceOnChain depositTx) (fun _ => allWorks)
      (List.replicate 13 0) processTwice).map (fun after => (after.pool 0).result?) =
        some (some (.ok ())) := by
    decide +kernel
  obtain ⟨after, run, ended⟩ := Option.map_eq_some_iff.mp played
  have reach := play_reach _ _ _ _ _ _ run
  have returned := Prog.result?_eq_some.mp ended
  have once : ∀ other ∈ (depositWorld (1 / 10)).wallets, other.id = aliceOnChain.id →
      other = aliceOnChain := by
    simp [depositWorld]
  exact ⟨after, reach, returned,
    processed_wallet_is_complete 2 (fun _ => .process aliceOnChain ⟨6, depositTx, 0⟩)
      (depositWorld (1 / 10)) depositTx aliceOnChain rfl once depositWorld_fair
      (fun _ none => by cases none) (fun _ => ⟨by simp [depositWorld], fun _ => rfl⟩)
      reach 0 6 0 rfl
      returned⟩

theorem interrupted_receipt_is_not_completed :
    ∃ after, Reach services (listsKnown depositTx) processTwice after ∧
      after.pool 1 = .pure (.ok ()) ∧
      receipts (onlyWallet "alice") "tx" after.world.ledger = [(["alice1"], 1000)] ∧
      ¬Complete aliceOnChain depositTx after.world.ledger := by
  have played : (play services (listsKnown depositTx)
      (fun run => if run = 0 then secondOutputFails else allWorks)
      (List.replicate 10 0 ++ List.replicate 5 1) processTwice).map
        (fun after =>
          ((after.pool 1).result?, receipts (onlyWallet "alice") "tx" after.world.ledger)) =
          some (some (.ok ()), [(["alice1"], 1000)]) := by
    decide +kernel
  obtain ⟨after, run, seen⟩ := Option.map_eq_some_iff.mp played
  obtain ⟨ended, one⟩ := Prod.mk.inj seen
  refine ⟨after, play_reach _ _ _ _ _ _ run, Prog.result?_eq_some.mp ended, one, fun complete => ?_⟩
  have contained : (aliceOnChain.payments depositTx.outs).Subperm
      (receipts (onlyWallet "alice") "tx" after.world.ledger) := complete
  rw [one] at contained
  exact absurd contained.length_le (by decide)

end Example

end Galoy.OnChain
