import Galoy.Interleave.Alone
import Galoy.Ledger.Balance
import Galoy.OnChain.ReceiptRuns

set_option autoImplicit false

namespace Galoy.OnChain

open Interleave Failing

def totalSats (outs : List TxOut) : Nat := (outs.map (·.sats)).sum

def TxOut.leaves (derived : OnChainAddress → Bool) (out : TxOut) : Bool :=
  match out.address with
  | none => true
  | some address => !derived address

section Deposit

variable (answers : (c : Call) → Answer c)

def TxOut.deposited (out : TxOut) : Bool :=
  match out.address with
  | none => false
  | some address => answers (.isDerivedAddress address) = .ok false

structure DepositAnswers (tx : IncomingOnChainTransaction) (derived : OnChainAddress → Bool)
    (fee : Nat) : Prop where
  service : answers .coldStorageService = .ok ()
  withdrawal : answers (.isWithdrawalTransaction tx.rawTx.txHash) = .ok true
  price : ∃ displayCurrencyPerSat, answers .getCurrentPrice = .ok displayCurrencyPerSat
  acquired : answers (.acquire tx.rawTx.txHash) = .done
  released : answers (.release tx.rawTx.txHash) = .done
  queried : answers (.isToHotWalletTxRecorded tx.rawTx.txHash) = none
  committed : ∀ args, (answers (.addColdStorageTxSend args)).fault = none
  honest : ∀ address isDerived, answers (.isDerivedAddress address) = .ok isDerived →
    isDerived = derived address
  known : tx.fee ≠ 0 ∧ tx.fee = fee ∨
    tx.fee = 0 ∧ answers (.lookupTransactionFee tx.rawTx.txHash) = .ok fee

end Deposit

section Loop

variable {answers : (c : Call) → Answer c} {tx : IncomingOnChainTransaction}
  {derived : OnChainAddress → Bool} {fee : Nat} {run : RunId}

theorem hotWalletFee_ends (working : DepositAnswers answers tx derived fee) (w : World) :
    EndsRun services run answers (hotWalletFee tx) w
      (fun result after => result = .ok fee ∧ after = w) := by
  unfold hotWalletFee
  rcases working.known with ⟨given, same⟩ | ⟨zero, looked⟩
  · rw [if_pos given]
    exact endsRun_pure.mpr ⟨congrArg _ same, rfl⟩
  · rw [if_neg (by simp [zero])]
    refine EndsRun.next (endsRun_total.mpr (ends_served (S := services) rfl ⟨rfl, rfl⟩)) ?_
    rw [looked]
    exact endsRun_pure.mpr ⟨rfl, rfl⟩

structure Moved (answers : (c : Call) → Answer c) (fee : Nat) (start : World) (done : List TxOut)
    (now : World) : Prop where
  bank : now.bank = start.bank
  owner : now.ledger.balance (toLedgerAccountId start.bank.bankOwner) =
    start.ledger.balance (toLedgerAccountId start.bank.bankOwner) -
      (done.countP (TxOut.deposited answers) * fee : Nat)
  coldStorage : now.ledger.balance .coldStorage = start.ledger.balance .coldStorage +
    (totalSats (done.filter (TxOut.deposited answers)) +
      done.countP (TxOut.deposited answers) * fee : Nat)

theorem commit_works {w : World} {entry : Entry} {answer : TimedAnswer}
    (works : answer.fault = none) :
    w.commit run entry answer = some (.ok w.ledger.journals.length,
      { w with
        clock := w.clock + answer.elapsed
        ledger := w.ledger.commit run (w.clock + answer.elapsed) entry }) := by
  unfold World.commit
  rw [works]

theorem Moved.skip {start now : World} {done : List TxOut} {out : TxOut}
    (moved : Moved answers fee start done now) (skipped : out.deposited answers = false) :
    Moved answers fee start (done ++ [out]) now where
  bank := moved.bank
  owner := by simpa [List.countP_append, skipped] using moved.owner
  coldStorage := by simpa [List.countP_append, List.filter_append, skipped] using moved.coldStorage

theorem Moved.deposit {start now : World} {done : List TxOut} {out : TxOut} {clock : Nat}
    {args : LedgerAdmin.ColdStorageArgs} (moved : Moved answers fee start done now)
    (deposited : out.deposited answers = true) (sats : args.sats = out.sats)
    (charged : args.fee = fee) :
    Moved answers fee start (done ++ [out])
      { now with clock, ledger :=
        now.ledger.commit run clock (LedgerAdmin.addColdStorageTxSend now.bank args) } where
  bank := moved.bank
  owner := by
    have before := moved.owner
    rw [Ledger.balance_eq_netOver] at before ⊢
    rw [Ledger.legs_commit, netOver_append, before]
    simp [LedgerAdmin.addColdStorageTxSend, toLedgerAccountId, moved.bank, List.countP_append,
      deposited, charged]
    ring
  coldStorage := by
    have before := moved.coldStorage
    rw [Ledger.balance_eq_netOver] at before ⊢
    rw [Ledger.legs_commit, netOver_append, before]
    simp [LedgerAdmin.addColdStorageTxSend, toLedgerAccountId, List.countP_append,
      List.filter_append, totalSats, deposited, charged, sats]
    ring

theorem depositToHotWallet_ends (working : DepositAnswers answers tx derived fee)
    (displayCurrencyPerSat : ℚ) {start now : World} {done : List TxOut} (out : TxOut)
    (moved : Moved answers fee start done now) :
    EndsRun services run answers (depositToHotWallet tx displayCurrencyPerSat out) now
      (fun result after => result = .ok () ∧ Moved answers fee start (done ++ [out]) after) := by
  unfold depositToHotWallet
  cases addressed : out.address with
  | none => exact endsRun_pure.mpr ⟨rfl, moved.skip (by simp [TxOut.deposited, addressed])⟩
  | some address =>
    refine EndsRun.next (endsRun_total.mpr (ends_served (S := services) rfl ⟨rfl, rfl⟩)) ?_
    match answered : answers (.isDerivedAddress address) with
    | .error error =>
      exact endsRun_pure.mpr ⟨rfl, moved.skip (by simp [TxOut.deposited, addressed, answered])⟩
    | .ok true =>
      exact endsRun_pure.mpr ⟨rfl, moved.skip (by simp [TxOut.deposited, addressed, answered])⟩
    | .ok false =>
      refine EndsRun.next (hotWalletFee_ends working now) ?_
      refine EndsRun.next
        (endsRun_total.mpr (ends_served (S := services) (commit_works (working.committed _))
          ⟨rfl, rfl⟩)) ?_
      exact endsRun_pure.mpr ⟨rfl, moved.deposit
        (by simp [TxOut.deposited, addressed, answered]) rfl rfl⟩

theorem processTxForHotWallet_ends (working : DepositAnswers answers tx derived fee) {w : World}
    (free : w.locks tx.rawTx.txHash = none) (fresh : w.isToHotWalletTxRecorded tx.rawTx.txHash =
      false) :
    EndsRun services run answers (processTxForHotWallet tx) w
      (fun result after => result = .ok () ∧ Moved answers fee w tx.rawTx.outs after) := by
  obtain ⟨displayCurrencyPerSat, price⟩ := working.price
  have acquired : serve run w (.acquire tx.rawTx.txHash) (answers (.acquire tx.rawTx.txHash)) =
      some (.ok (), { w with locks := Function.update w.locks tx.rawTx.txHash (some run) }) := by
    simp [serve, working.acquired, World.acquire, Stores.acquire, free]
  have queried : ∀ locks, serve run { w with locks } (.isToHotWalletTxRecorded tx.rawTx.txHash)
      (answers (.isToHotWalletTxRecorded tx.rawTx.txHash)) =
        some (.ok false, { w with locks }) := by
    intro locks
    have same : World.isToHotWalletTxRecorded { w with locks } tx.rawTx.txHash = false := fresh
    simp [serve, working.queried, Stores.readOr, Stores.answerOr, same]
  unfold processTxForHotWallet lockOnChainTxHash
  refine EndsRun.next (ends_served (S := services) rfl ⟨working.service, rfl⟩) ?_
  refine EndsRun.next (ends_served (S := services) rfl ⟨working.withdrawal, rfl⟩) ?_
  rw [if_neg (by simp)]
  refine EndsRun.next (ends_served (S := services) rfl ⟨price, rfl⟩) ?_
  refine EndsRun.bracket (ends_served acquired ⟨rfl, rfl⟩) ?_
  refine EndsRun.next (ends_served (queried _) ⟨rfl, rfl⟩) ?_
  rw [if_neg (by simp)]
  have started : Moved answers fee w []
      { w with locks := Function.update w.locks tx.rawTx.txHash (some run) } :=
    ⟨rfl, by simp, by simp [totalSats]⟩
  refine (EndsRun.each (Moved answers fee w) started
    fun done out now moved => depositToHotWallet_ends working displayCurrencyPerSat out moved).mono
      ?_
  rintro _ now ⟨rfl, moved⟩
  have released : ∃ locks, serve run now (.release tx.rawTx.txHash)
      (answers (.release tx.rawTx.txHash)) =
      some (.ok (), { now with locks }) := by
    rw [working.released]
    exact ⟨_, rfl⟩
  obtain ⟨_, released⟩ := released
  exact ends_served released ⟨rfl, moved.bank, moved.owner, moved.coldStorage⟩

theorem leaving_split (working : DepositAnswers answers tx derived fee) (outs : List TxOut) :
    totalSats (outs.filter (TxOut.leaves derived)) =
      totalSats (outs.filter (TxOut.deposited answers)) +
        totalSats (outs.filter fun out => out.leaves derived && !out.deposited answers) := by
  induction outs with
  | nil => rfl
  | cons out outs ih =>
    have leaves : out.deposited answers = true → out.leaves derived = true := by
      intro deposited
      unfold TxOut.deposited at deposited
      unfold TxOut.leaves
      cases addressed : out.address with
      | none => rfl
      | some address =>
        simp only [addressed, decide_eq_true_eq] at deposited
        simp [← working.honest address false deposited]
    unfold totalSats at ih ⊢
    by_cases deposited : out.deposited answers = true
    · simp [deposited, leaves deposited, ih, Nat.add_assoc]
    · by_cases left : out.leaves derived = true
      · simp [deposited, left, ih, Nat.add_left_comm]
      · simp [deposited, left, ih]

def ChargedOnce (derived : OnChainAddress → Bool) (fee : Nat) (outs : List TxOut)
    (before after : World) : Prop :=
  before.ledger.balance (toLedgerAccountId before.bank.bankOwner) -
      after.ledger.balance (toLedgerAccountId before.bank.bankOwner) = fee ∧
    after.ledger.balance .coldStorage - before.ledger.balance .coldStorage =
      (totalSats (outs.filter (TxOut.leaves derived)) + fee : Nat)

theorem Moved.chargedOnce_iff (working : DepositAnswers answers tx derived fee) {outs : List TxOut}
    {before after : World} (moved : Moved answers fee before outs after) :
    ChargedOnce derived fee outs before after ↔
      (fee = 0 ∨ outs.countP (TxOut.deposited answers) = 1) ∧
        totalSats (outs.filter fun out => out.leaves derived && !out.deposited answers) = 0 := by
  unfold ChargedOnce
  rw [moved.owner, moved.coldStorage, leaving_split working, sub_sub_cancel, add_sub_cancel_left,
    Nat.cast_inj, Nat.cast_inj]
  generalize outs.countP (TxOut.deposited answers) = count
  have once : count * fee = fee ↔ fee = 0 ∨ count = 1 := by
    rcases eq_or_ne fee 0 with rfl | positive
    · simp
    · simp [mul_eq_right₀ positive, positive]
  rw [once]
  constructor
  · rintro ⟨charged, credited⟩
    rw [once.mpr charged] at credited
    exact ⟨charged, by omega⟩
  · rintro ⟨charged, nothing⟩
    rw [once.mpr charged, nothing]
    exact ⟨charged, rfl⟩

end Loop

theorem hot_wallet_fee_charged_once_iff (answers : (c : Call) → Answer c)
    (tx : IncomingOnChainTransaction) (derived : OnChainAddress → Bool) (fee : Nat)
    (working : DepositAnswers answers tx derived fee) (run : RunId) (w : World)
    (free : w.locks tx.rawTx.txHash = none)
    (fresh : w.isToHotWalletTxRecorded tx.rawTx.txHash = false) :
    EndsRun services run answers (processTxForHotWallet tx) w (fun result after => result = .ok () ∧
      (ChargedOnce derived fee tx.rawTx.outs w after ↔
        (fee = 0 ∨ tx.rawTx.outs.countP (TxOut.deposited answers) = 1) ∧
          totalSats (tx.rawTx.outs.filter fun out => out.leaves derived && !out.deposited answers) =
          0)) :=
  (processTxForHotWallet_ends working free fresh).mono fun _ _ ended =>
    ⟨ended.1, ended.2.chargedOnce_iff working⟩

section Example

def refillTx (outs : List TxOut) : IncomingOnChainTransaction := ⟨6, ⟨"refill", outs⟩, 0⟩

def isChange (address : OnChainAddress) : Bool := address = "change"

def refillAnswers : (c : Call) → Answer c
  | .onChainService | .coldStorageService => .ok ()
  | .listIncomingTransactions _ => .ok []
  | .getCurrentPrice => .ok 1
  | .acquire _ | .release _ => .done
  | .isWithdrawalTransaction _ => .ok true
  | .isDerivedAddress address => .ok (isChange address)
  | .lookupTransactionFee _ => .ok 300
  | .listByAddresses _ | .findAccountById _ _ | .findUserById _ => none
  | .isOnChainTxRecorded _ _ | .isToHotWalletTxRecorded _ => none
  | .addOnChainTxReceive _ | .addColdStorageTxSend _ => {}
  | .onChainTxReceived _ => ()

theorem refillAnswers_work (outs : List TxOut) :
    DepositAnswers refillAnswers (refillTx outs) isChange 300 where
  service := rfl
  withdrawal := rfl
  price := ⟨1, rfl⟩
  acquired := rfl
  released := rfl
  queried := rfl
  committed := fun _ => rfl
  honest := by
    intro address isDerived answered
    cases answered
    rfl
  known := .inr ⟨rfl, rfl⟩

theorem one_refill_charged_once :
    EndsRun services 0 refillAnswers
      (processTxForHotWallet (refillTx [⟨5000, some "hot1"⟩, ⟨900, some "change"⟩]))
      (depositWorld 0) (fun _ after =>
        ChargedOnce isChange 300 [⟨5000, some "hot1"⟩, ⟨900, some "change"⟩]
        (depositWorld 0) after) :=
  (hot_wallet_fee_charged_once_iff refillAnswers
    (refillTx [⟨5000, some "hot1"⟩, ⟨900, some "change"⟩]) isChange 300 (refillAnswers_work _) 0
    (depositWorld 0) rfl rfl).mono fun _ _ ended => ended.2.mpr (by decide)

theorem two_deposits_charged_twice :
    EndsRun services 0 refillAnswers
      (processTxForHotWallet (refillTx [⟨5000, some "hot1"⟩, ⟨2000, some "hot2"⟩])) (depositWorld 0)
      (fun _ after => ¬ChargedOnce isChange 300 [⟨5000, some "hot1"⟩, ⟨2000, some "hot2"⟩]
        (depositWorld 0) after ∧
        after.ledger.balance (toLedgerAccountId (depositWorld 0).bank.bankOwner) = -600) := by
  refine (processTxForHotWallet_ends (refillAnswers_work _) rfl rfl).mono fun _ after ended => ?_
  have charged : after.ledger.balance (toLedgerAccountId (depositWorld 0).bank.bankOwner) =
      -600 := by
    rw [ended.2.owner]
    decide +kernel
  refine ⟨fun once => ?_, charged⟩
  have fee := once.1
  rw [charged] at fee
  revert fee
  decide +kernel

end Example

end Galoy.OnChain
