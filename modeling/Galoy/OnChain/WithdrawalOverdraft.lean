import Galoy.OnChain.WithdrawalBalance

set_option autoImplicit false

namespace Galoy.Withdrawal

open Interleave Interleave.Failing

def Covered (payee : PayeeLookup) (withdrawFee : ℚ) (withdrawDefaultMin : Int) : Prop :=
  match payee with
  | .notFound => withdrawFee ≠ 0 ∨ withdrawDefaultMin ≤ 0
  | .fault (.unknown _) => True
  | .wallet | .fault .cannotConnectToDb | .fault .dbConnectionClosed => False

section Overdraft

variable (payee : PayeeLookup) (withdrawFee : ℚ) (withdrawDefaultMin : Int)

def payerWallet : WalletDescriptor := ⟨"aaaaaaaa-aaaa-1aaa-8aaa-aaaaaaaaaaaa", .btc, "account"⟩

def steadyConditions : Conditions where
  minerFee := fun _ _ _ => 0
  minerFee_mono := fun _ _ => monotone_const
  lightningVolume := fun _ => ⟨0, 0⟩
  onChainVolume := fun _ => ⟨0, 0⟩

def payerLedger : Ledger where
  journals :=
    [{ id := 0
       description := ""
       legs := [⟨toLedgerAccountId payerWallet.id, 0, 100000, .btc,
         { type := .onchainReceipt, pending := false }⟩]
       timestamp := 0
       writtenBy := 0 }]

def payerBank : BankWallets := ⟨"owner", "dealerBtc", "dealerUsd", "funder"⟩

def payerWorld (locks : WalletId → Option RunId) (balances : RunId → Option ℚ) : World where
  bank := payerBank
  ledger := payerLedger
  locks := locks
  wallets :=
    [⟨payerWallet.id, payerWallet.accountId, payerWallet.currency,
      if payee = .wallet then ["address"] else []⟩]
  conditions := steadyConditions
  clock := 0
  balances := balances

def payerPayment : OnChainPayment where
  senderWallet := payerWallet
  senderAccount := ⟨"account", withdrawFee⟩
  amount := 100000
  address := "address"
  targetConfirmations := 1
  memo := none
  sendAll := false
  temporaryHash := "hash"

def payerConfig : Config where
  withdraw :=
    { method := if payee = .notFound then .flat else .proportionalOnImbalance
      ratio := 1
      threshold := 0
      daysLookback := 30
      defaultMin := withdrawDefaultMin }
  dustThreshold := 5000

def payerAnswers : (c : Call) → Answer c
  | .onChainService | .checkWithdrawalLimits _ _ _ => .ok ()
  | .getCurrentPrice => .ok (1 / 5000)
  | .getBalance | .lookupOnChainFee _ => .ok 1000000
  | .getOnChainFeeEstimate _ _ _ => none
  | .findWalletById _ => none
  | .findByAddress _ _ =>
    match payee with
    | .fault fault => some fault
    | _ => none
  | .getWalletBalance _ _ | .lightningTxBaseVolumeSince _ _ | .onChainTxBaseVolumeSince _ _
  | .setOnChainTxSendHash _ _ => none
  | .acquire _ | .release _ => .done
  | .signalAborted _ => false
  | .addOnChainTxSend _ => {}
  | .revertOnChainPayment _ => {}
  | .payToAddress _ _ _ _ => .error { name := .Error }

def payerStart : Interleave.Config World Call Reply (Result PaymentSendStatus) :=
  ⟨payerWorld payee (fun _ => none) (fun _ => none), fun _ =>
    (executePaymentViaOnChain (payerConfig payee withdrawDefaultMin)
      (payerPayment withdrawFee)).run⟩

variable {payee withdrawFee withdrawDefaultMin}

theorem payer_balance : payerLedger.balance (toLedgerAccountId payerWallet.id) = 100000 := by
  decide +kernel

theorem payer_checked : checkedToWalletId payerWallet.id = .ok payerWallet.id := by
  refine checkedToWalletId_ofList ?_
  decide

theorem payer_sats : checkedToSats 100000 = .ok 100000 := by
  decide

theorem flat_free :
    (WithdrawalFeeCalculator.onChainWithdrawalFee
      (payerConfig .notFound withdrawDefaultMin).calculator ((0 : ℕ) : ℚ) 100000 0 0).totalFee =
    0 := by
  simp [WithdrawalFeeCalculator.onChainWithdrawalFee, WithdrawalFeeCalculator.bankFee,
    Config.calculator, payerConfig, getFeesConfig]

theorem estimate_free {asker : Asker} (estimates : asker ≠ .withdrawal)
    (locks : WalletId → Option RunId) (balances : RunId → Option ℚ)
    (uncovered : ¬ Covered payee withdrawFee withdrawDefaultMin) :
    EndsRun services 0 (payerAnswers payee)
      (getOnChainFee (payerConfig payee withdrawDefaultMin) asker payerWallet.id
        ⟨"account", withdrawFee⟩ 100000 "address" 1)
      (payerWorld payee locks balances)
      (fun result now => result = .ok 0 ∧ now = payerWorld payee locks balances) := by
  unfold getOnChainFee
  refine EndsRun.next (ends_pure.mpr ⟨payer_sats, rfl⟩) ?_
  refine EndsRun.next (ends_pure.mpr ⟨rfl, rfl⟩) ?_
  refine EndsRun.next (ends_pure.mpr ⟨payer_checked, rfl⟩) ?_
  refine EndsRun.next (ends_served rfl ⟨rfl, rfl⟩) ?_
  cases payee with
  | wallet =>
    refine EndsRun.next (endsRun_total.mpr (ends_served rfl ⟨rfl, rfl⟩)) ?_
    exact ends_pure.mpr ⟨rfl, rfl⟩
  | fault fault =>
    refine EndsRun.next (endsRun_total.mpr (ends_served rfl ⟨rfl, rfl⟩)) ?_
    cases fault with
    | cannotConnectToDb => exact ends_pure.mpr ⟨rfl, rfl⟩
    | dbConnectionClosed => exact ends_pure.mpr ⟨rfl, rfl⟩
    | unknown message => exact absurd trivial uncovered
  | notFound =>
    refine EndsRun.next (endsRun_total.mpr (ends_served rfl ⟨rfl, rfl⟩)) ?_
    have free : withdrawFee = 0 := not_not.mp fun other => uncovered (.inl other)
    subst free
    dsimp only
    rw [if_neg (by norm_num [payerConfig])]
    have read : World.getWalletBalance (payerWorld .notFound locks balances) 0 asker
        payerWallet.id none =
        some (.ok 100000, payerWorld .notFound locks balances) := by
      simp [World.getWalletBalance, estimates, World.walletBalance, payerWorld, payer_balance]
    refine EndsRun.next (ends_served read ⟨rfl, rfl⟩) ?_
    rw [if_neg (lt_irrefl _)]
    refine EndsRun.next (ends_served rfl ⟨rfl, rfl⟩) ?_
    refine EndsRun.next (ends_served rfl ⟨rfl, rfl⟩) ?_
    refine EndsRun.next (ends_pure.mpr ⟨rfl, rfl⟩) ?_
    exact ends_pure.mpr ⟨congrArg Except.ok flat_free, rfl⟩

theorem imbalance_ends (locks : WalletId → Option RunId) (balances : RunId → Option ℚ) :
    EndsRun services 0 (payerAnswers payee)
      (getSwapOutImbalance (payerConfig payee withdrawDefaultMin) payerWallet.id)
      (payerWorld payee locks balances)
      (fun result now => result = .ok 0 ∧ now = payerWorld payee locks balances) := by
  unfold getSwapOutImbalance
  by_cases flat : payee = .notFound
  · rw [if_pos (by simp [payerConfig, getFeesConfig, flat])]
    exact ends_pure.mpr ⟨rfl, rfl⟩
  · rw [if_neg (by simp [payerConfig, getFeesConfig, flat])]
    refine EndsRun.next (ends_served rfl ⟨rfl, rfl⟩) ?_
    refine EndsRun.next (ends_served rfl ⟨rfl, rfl⟩) ?_
    refine ends_pure.mpr ⟨?_, rfl⟩
    simp [netInboundFlow, payerWorld, steadyConditions]

def payerFees (payee : PayeeLookup) (withdrawFee : ℚ) (withdrawDefaultMin : Int) :
    OnChainWithdrawalFee :=
  WithdrawalFeeCalculator.onChainWithdrawalFee (payerConfig payee withdrawDefaultMin).calculator
    ((0 : ℕ) : ℚ) 100000 (minBankFee (payerConfig payee withdrawDefaultMin)
      ⟨"account", withdrawFee⟩) 0

theorem payerFees_total (payee : PayeeLookup) (withdrawFee : ℚ) (withdrawDefaultMin : Int) :
    (payerFees payee withdrawFee withdrawDefaultMin).totalFee =
      (payerFees payee withdrawFee withdrawDefaultMin).bankFee := by
  simp [payerFees, WithdrawalFeeCalculator.onChainWithdrawalFee]

theorem payerFees_whole (small : withdrawFee ≤ 100000)
    (uncovered : ¬ Covered payee withdrawFee withdrawDefaultMin) :
    ∃ fee : Int, 0 < fee ∧ (payerFees payee withdrawFee withdrawDefaultMin).bankFee = fee := by
  by_cases notFound : payee = .notFound
  · subst notFound
    have free : withdrawFee = 0 := not_not.mp fun other => uncovered (.inl other)
    have positive : 0 < withdrawDefaultMin := not_le.mp fun nonpos => uncovered (.inr nonpos)
    refine ⟨withdrawDefaultMin, positive, ?_⟩
    have nonneg : (0 : ℚ) ≤ withdrawDefaultMin := by exact_mod_cast positive.le
    simp [payerFees, WithdrawalFeeCalculator.onChainWithdrawalFee, WithdrawalFeeCalculator.bankFee,
      Config.calculator, payerConfig, getFeesConfig, minBankFee, free, nonneg]
  · have proportional : (payerFees payee withdrawFee withdrawDefaultMin).bankFee =
        max (minBankFee (payerConfig payee withdrawDefaultMin) ⟨"account", withdrawFee⟩)
          100000 := by
      simp [payerFees, WithdrawalFeeCalculator.onChainWithdrawalFee,
        WithdrawalFeeCalculator.bankFee, WithdrawalFeeCalculator.baseAmount, Config.calculator,
        payerConfig, getFeesConfig, notFound]
    rw [proportional]
    unfold minBankFee
    split
    · exact ⟨100000, by norm_num, max_eq_right small⟩
    · exact ⟨max withdrawDefaultMin 100000, by simp, by simp [payerConfig, getFeesConfig]⟩

theorem addOnChainTxSend_ok {bank : BankWallets} {args : LedgerService.AddOnChainTxSendArgs}
    {fee sats : Int} (btc : args.walletCurrency = .btc) (isFee : args.bankFee = fee)
    (positive : 0 < fee) (isSats : args.sats = sats) : ∃ entry,
      LedgerService.addOnChainTxSend bank args = .ok entry := by
  have charged : (fee : ℚ) > 0 := by exact_mod_cast positive
  unfold LedgerService.addOnChainTxSend LedgerService.addSendInternalFee
  simp only [charged, if_true, btc, ne_eq, not_true_eq_false, if_false, isFee, isSats,
    paymentAmountFromNumber_int]
  exact ⟨_, rfl⟩

theorem not_within_overdraft {locks : WalletId → Option RunId} {entry : Entry}
    {clock : Nat} {fee : Int} (positive : 0 < fee)
    (debited : outgoing (payerPayment withdrawFee).debits entry.transactions = 100000 + fee) :
    ¬ Within (fun _ => payerPayment withdrawFee) 1
      { payerWorld payee locks (Function.update (fun _ => none) 0 (some 100000)) with
        clock, ledger := payerLedger.commit 0 clock entry } := by
  intro within
  obtain ⟨balance, read, covered⟩ := within
    ⟨1, entry.description, entry.transactions, clock, false, none, 0⟩
      (by simp [Ledger.commit, payerLedger]) rfl
  have isBalance : (100000 : ℚ) = balance := by simpa [payerWorld] using read
  have more : (0 : ℚ) < fee := by exact_mod_cast positive
  have bound : 100000 + (fee : ℚ) ≤ balance := debited ▸ covered
  linarith

theorem overdraft_ends (small : withdrawFee ≤ 100000)
    (uncovered : ¬ Covered payee withdrawFee withdrawDefaultMin) :
    EndsRun services 0 (payerAnswers payee)
      (executePaymentViaOnChain (payerConfig payee withdrawDefaultMin) (payerPayment withdrawFee))
      (payerWorld payee (fun _ => none) (fun _ => none))
      (fun _ after => ¬ Within (fun _ => payerPayment withdrawFee) 1 after) := by
  obtain ⟨fee, positive, isFee⟩ := payerFees_whole small uncovered
  have isTotal := (payerFees_total payee withdrawFee withdrawDefaultMin).trans isFee
  unfold executePaymentViaOnChain
  dsimp only
  rw [if_neg (by simp [payerPayment, payerWallet])]
  refine EndsRun.next (ends_served rfl ⟨rfl, rfl⟩) ?_
  refine EndsRun.next (ends_served rfl ⟨rfl, rfl⟩) ?_
  refine EndsRun.next (ends_served rfl ⟨rfl, rfl⟩) ?_
  refine EndsRun.next (ends_served rfl ⟨rfl, rfl⟩) ?_
  refine EndsRun.next (estimate_free (by decide) _ _ uncovered) ?_
  rw [if_neg (by norm_num [payerPayment]), if_neg (by norm_num [payerPayment, payerConfig])]
  refine EndsRun.bracket (ends_served rfl ⟨rfl, rfl⟩) ?_
  unfold withdrawUnderLock
  have read : World.getWalletBalance
      (payerWorld payee (Function.update (fun _ => none) payerWallet.id (some 0)) (fun _ => none)) 0
        .withdrawal payerWallet.id none =
      some (.ok 100000, payerWorld payee (Function.update (fun _ => none) payerWallet.id (some 0))
        (Function.update (fun _ => none) 0 (some 100000))) := by
    simp [World.getWalletBalance, World.walletBalance, payerWorld, payer_balance]
  refine EndsRun.next (ends_served read ⟨rfl, rfl⟩) ?_
  refine EndsRun.next (estimate_free (by decide) _ _ uncovered) ?_
  rw [if_neg (by norm_num [payerPayment])]
  refine EndsRun.next (endsRun_total.mpr (ends_served rfl ⟨rfl, rfl⟩)) ?_
  rw [if_neg (by simp [payerAnswers])]
  refine EndsRun.next (imbalance_ends _ _) ?_
  refine EndsRun.next (ends_served rfl ⟨rfl, rfl⟩) ?_
  have sats : (100000 : ℚ) + (payerFees payee withdrawFee withdrawDefaultMin).totalFee =
      ((100000 + fee : Int) : ℚ) := by
    rw [isTotal]
    push_cast
    rfl
  let args := (payerPayment withdrawFee).sendArgs 100000
    (payerFees payee withdrawFee withdrawDefaultMin) (1 / 5000)
  obtain ⟨entry, built⟩ : ∃ entry, LedgerService.addOnChainTxSend payerBank args = .ok entry :=
    addOnChainTxSend_ok rfl isFee positive sats
  have debited : outgoing (payerPayment withdrawFee).debits entry.transactions = 100000 + fee := by
    rw [outgoing_addOnChainTxSend rfl built rfl, ← isTotal]
    rfl
  have served (locks : WalletId → Option RunId) (balances : RunId → Option ℚ) :
      World.addOnChainTxSend (payerWorld payee locks balances) 0 args {} =
        some (.ok 1, { payerWorld payee locks balances with
          clock := 0, ledger := payerLedger.commit 0 0 entry }) := by
    simp only [World.addOnChainTxSend, payerWorld, built]
    rfl
  refine EndsRun.next (ends_served (served _ _) ⟨rfl, rfl⟩) ?_
  refine EndsRun.next (endsRun_total.mpr (ends_served rfl ⟨rfl, rfl⟩)) ?_
  refine ends_pure.mpr (ends_served rfl ?_)
  exact not_within_overdraft positive debited

theorem payer_permitted {run : RunId} {w : World} (c : Call)
    (wallets : w.wallets = (payerWorld payee (fun _ => none) (fun _ => none)).wallets) :
    payeeIs (fun _ => payerPayment withdrawFee) payee run w c (payerAnswers payee c) := by
  cases c with
  | findByAddress asker address =>
    cases asker with
    | lockedEstimate =>
      rintro rfl
      cases payee with
      | fault fault => rfl
      | wallet =>
        simp [World.payeeLookup, World.findByAddress, wallets, payerWorld,
          payerAnswers, payerPayment]
      | notFound => simp [World.payeeLookup, World.findByAddress, wallets, payerWorld, payerAnswers]
    | estimate => trivial
    | withdrawal => trivial
  | _ => trivial

theorem overdraft_reached (small : withdrawFee ≤ 100000)
    (uncovered : ¬ Covered payee withdrawFee withdrawDefaultMin) :
    ∃ after, Reach services (payeeIs (fun _ => payerPayment withdrawFee) payee)
        (payerStart payee withdrawFee withdrawDefaultMin) after ∧
      ¬ Within (fun _ => payerPayment withdrawFee) 1 after.world := by
  let start := payerStart payee withdrawFee withdrawDefaultMin
  let sameWallets (w : World) : Prop := w.wallets = start.world.wallets
  have kept (w : World) (c : Call) (reply : Reply c) (after : World) (same : sameWallets w)
      (served : serve 0 w c (payerAnswers payee c) = some (reply, after)) : sameWallets after :=
    (serve_unchanged served).1.trans same
  have permitted (w : World) (c : Call) (same : sameWallets w) :
      payeeIs (fun _ => payerPayment withdrawFee) payee 0 w c (payerAnswers payee c) :=
    payer_permitted c same
  have now : sameWallets start.world := rfl
  have ends : Ends services 0 (payerAnswers payee) (start.pool 0) start.world
      (fun _ after => ¬ Within (fun _ => payerPayment withdrawFee) 1 after) :=
    overdraft_ends small uncovered
  obtain ⟨after, reach, _, overdrawn⟩ := Ends.reach permitted kept now ends
  exact ⟨after, reach, overdrawn⟩

end Overdraft

theorem accepted_bounds {withdrawFee : ℚ}
    (accepted : sanityCheckedDefaultAccountWithdrawFee withdrawFee = .ok withdrawFee) :
    0 ≤ withdrawFee ∧ withdrawFee ≤ 100000 := by
  unfold sanityCheckedDefaultAccountWithdrawFee at accepted
  split at accepted
  · cases accepted
  · rename_i inside
    obtain ⟨low, high⟩ := not_or.mp inside
    exact ⟨not_lt.mp low, not_lt.mp high⟩

theorem Covered.charged {payee : PayeeLookup} {withdrawFee : ℚ} {withdrawDefaultMin : Int}
    (covered : Covered payee withdrawFee withdrawDefaultMin) : payee.charged := by
  unfold Covered at covered
  split at covered <;> first | rfl | cases covered

theorem onchain_withdrawals_within_balance_iff (withdrawFee : ℚ)
    (accepted : sanityCheckedDefaultAccountWithdrawFee withdrawFee = .ok withdrawFee)
    (withdrawDefaultMin : Int) (payee : PayeeLookup) :
    (∀ (config : Config) (payments : RunId → OnChainPayment) (start : World)
        (after : Interleave.Config World Call Reply (Result PaymentSendStatus)),
      config.withdraw.defaultMin = withdrawDefaultMin → 0 ≤ config.withdraw.ratio →
      (∀ run, (payments run).senderAccount.withdrawFee = withdrawFee) →
      Reach services (payeeIs payments payee)
        ⟨start, fun run => (executePaymentViaOnChain config (payments run)).run⟩ after →
      Within payments start.ledger.journals.length after.world) ↔
    Covered payee withdrawFee withdrawDefaultMin := by
  obtain ⟨nonneg, small⟩ := accepted_bounds accepted
  constructor
  · intro always
    by_contra uncovered
    obtain ⟨after, reach, overdrawn⟩ := overdraft_reached small uncovered
    exact overdrawn (always (payerConfig payee withdrawDefaultMin)
      (fun _ => payerPayment withdrawFee) (payerWorld payee (fun _ => none) (fun _ => none)) after
      rfl (by norm_num [payerConfig]) (fun _ => rfl) reach)
  · intro covered config payments start after isMin ratio isFee reach
    have good : (withdrawalDiscipline payments start).inv start := by
      refine ⟨rfl, le_rfl, fun journal member => ?_⟩
      rw [List.drop_length] at member
      cases member
    have unwritten (run : RunId) : Unwritten start.ledger.journals.length run start := by
      intro journal member
      rw [List.drop_length] at member
      cases member
    have runs (run : RunId) :
        wp services (payeeIs payments payee) (withdrawalDiscipline payments start) run
          (executePaymentViaOnChain config (payments run)).run (fun _ _ => True) start := by
      refine wp_mono (fun _ _ _ _ => trivial) good
        (executePaymentViaOnChain_spec ratio covered.charged ?_ ?_ start good (unwritten run))
      · rintro rfl
        rw [isFee, isMin]
        exact covered
      · rw [isFee]
        exact nonneg
    have kept : (withdrawalDiscipline payments start).inv after.world := reach_inv good runs reach
    exact kept.2.2

section Example

instance (payments : RunId → OnChainPayment) (payee : PayeeLookup) (run : RunId)
    (w : World) (c : Call) (a : services.Answer c) :
    Decidable (payeeIs payments payee run w c a) := by
  cases c
  case findByAddress asker address =>
    cases asker
    case lockedEstimate => exact inferInstanceAs (Decidable (_ → _))
    case estimate => exact inferInstanceAs (Decidable True)
    case withdrawal => exact inferInstanceAs (Decidable True)
  all_goals exact inferInstanceAs (Decidable True)

def sendAllPayment : OnChainPayment := { payerPayment 2000 with sendAll := true }

def sendAllStart : Interleave.Config World Call Reply (Result PaymentSendStatus) :=
  ⟨payerWorld .notFound (fun _ => none) (fun _ => none), fun _ =>
    (executePaymentViaOnChain (payerConfig .notFound 2000) sendAllPayment).run⟩

def World.debitedSince (w : World) (payment : OnChainPayment) (since : Nat) : List ℚ :=
  (w.ledger.journals.drop since).map fun journal => outgoing payment.debits journal.legs

theorem send_all_within_balance :
    sanityCheckedDefaultAccountWithdrawFee 2000 = .ok 2000 ∧
      ∃ after, Reach services (payeeIs (fun _ => sendAllPayment) .notFound) sendAllStart after ∧
        after.world.debitedSince sendAllPayment 1 = [100000] ∧
        Within (fun _ => sendAllPayment) 1 after.world := by
  have accepted : sanityCheckedDefaultAccountWithdrawFee 2000 = .ok 2000 := by decide
  have played : (play services (payeeIs (fun _ => sendAllPayment) .notFound)
      (fun _ => payerAnswers .notFound) (List.replicate 19 0) sendAllStart).map
        (·.world.debitedSince sendAllPayment 1) = some [100000] := by
    decide +kernel
  obtain ⟨after, run, debited⟩ := Option.map_eq_some_iff.mp played
  have reach := play_reach _ _ _ _ _ _ run
  exact ⟨accepted, after, reach, debited,
    (onchain_withdrawals_within_balance_iff 2000 accepted 2000 .notFound).mpr (.inl (by norm_num))
      (payerConfig .notFound 2000) (fun _ => sendAllPayment) _ after rfl (by norm_num [payerConfig])
      (fun _ => rfl) reach⟩

theorem free_account_overdrawn :
    sanityCheckedDefaultAccountWithdrawFee 0 = .ok 0 ∧
      ∃ after, Reach services (anyStep services) (payerStart .notFound 0 2000) after ∧
        after.world.balances 0 = some 100000 ∧
        after.world.debitedSince (payerPayment 0) 1 = [102000] := by
  have played : (play services (anyStep services) (fun _ => payerAnswers .notFound)
      (List.replicate 19 0) (payerStart .notFound 0 2000)).map (fun after =>
        (after.world.balances 0, after.world.debitedSince (payerPayment 0) 1)) =
      some (some 100000, [102000]) := by
    decide +kernel
  obtain ⟨after, run, overdrawn⟩ := Option.map_eq_some_iff.mp played
  simp only [Prod.mk.injEq] at overdrawn
  exact ⟨by decide, after, play_reach _ _ _ _ _ _ run, overdrawn⟩

end Example

end Galoy.Withdrawal
