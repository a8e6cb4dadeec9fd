import Galoy.App.Alone
import Galoy.Payments.Limits
import Galoy.Payments.Volumes
import Mathlib.Data.Rat.Lemmas

set_option autoImplicit false

namespace Galoy

open Interleave App

theorem checkLimitBase_eq_ok {check : LimitCheck} {priceRatio : PriceRatio}
    {currency : WalletCurrency} {amount : UsdPaymentAmount}
    {walletVolume : TxBaseVolumeAmount currency} :
    checkLimitBase check priceRatio amount walletVolume = .ok () ↔
      (walletVolume.outgoingInUsd priceRatio).amount + amount.amount ≤ check.limitAmount := by
  unfold checkLimitBase
  dsimp only
  split
  · simp only [reduceCtorEq, false_iff]
    omega
  · simp only [true_iff]
    omega

theorem outgoingInUsd_usd {currency : WalletCurrency} (usd : currency = .usd)
    (priceRatio : PriceRatio) (walletVolume : TxBaseVolumeAmount currency) :
    (walletVolume.outgoingInUsd priceRatio).amount = walletVolume.outgoingBaseAmount.amount := by
  subst usd
  rfl

theorem outgoingInUsd_btc {currency : WalletCurrency} (btc : currency = .btc)
    (priceRatio : PriceRatio) (walletVolume : TxBaseVolumeAmount currency) :
    walletVolume.outgoingInUsd priceRatio =
      priceRatio.convertFromBtc ⟨walletVolume.outgoingBaseAmount.amount⟩ := by
  subst btc
  rfl

theorem paymentAmountFromNumber_add (currency : WalletCurrency) (number : ℚ) (more : Int) :
    paymentAmountFromNumber currency (number + more) =
      (paymentAmountFromNumber currency number).map fun amount => ⟨amount.amount + more⟩ := by
  unfold paymentAmountFromNumber safeBigInt
  rw [Rat.add_intCast_den]
  by_cases whole : number.den = 1
  · have exact : number = number.num := (Rat.den_eq_one_iff number).mp whole |>.symm
    simp only [whole, if_true, Except.map, Except.ok.injEq, Amount.mk.injEq]
    rw [exact, ← Int.cast_add, Rat.num_intCast, Rat.num_intCast]
  · simp only [whole, if_false]
    rfl

def TxBaseVolumeAmount.plus {currency : WalletCurrency} (volume : TxBaseVolumeAmount currency)
    (outgoing incoming : Int) : TxBaseVolumeAmount currency where
  outgoingBaseAmount := ⟨volume.outgoingBaseAmount.amount + outgoing⟩
  incomingBaseAmount := ⟨volume.incomingBaseAmount.amount + incoming⟩

theorem volumeAmountSince_plus {before after : Ledger} {group : TxnGroup}
    {wallet : WalletDescriptor} {begins : Nat} {outgoing incoming : Int}
    (sent : after.outgoingWithin group wallet.id (Ledger.since begins) =
      before.outgoingWithin group wallet.id (Ledger.since begins) + outgoing)
    (received : after.incomingWithin group wallet.id (Ledger.since begins) =
      before.incomingWithin group wallet.id (Ledger.since begins) + incoming) :
    after.volumeAmountSince group wallet begins =
      (before.volumeAmountSince group wallet begins).map (·.plus outgoing incoming) := by
  rw [Ledger.volumeAmountSince_eq, Ledger.volumeAmountSince_eq, sent, received,
    paymentAmountFromNumber_add, paymentAmountFromNumber_add]
  cases paymentAmountFromNumber wallet.currency
      (before.outgoingWithin group wallet.id (Ledger.since begins)) with
  | error error => rfl
  | ok out =>
    cases paymentAmountFromNumber wallet.currency
        (before.incomingWithin group wallet.id (Ledger.since begins)) with
    | error error => rfl
    | ok inc => rfl

def accountAnswer (answers : Answers) (wallet : WalletDescriptor) (w : World) : Result Account :=
  Stores.answer (answers (.findAccountById .checkLimits wallet.accountId))
    (Stores.found (w.accounts wallet.accountId) .CouldNotFindError)

section Checks

variable (getAccountLimits : AccountLevel → AccountLimits) (answers : Answers) (group : TxnGroup)
  (check : AccountLimits → LimitCheck) (wallet : WalletDescriptor) (priceRatio : PriceRatio)

def groupVolume (w : World) : Result (TxBaseVolumeAmount wallet.currency) :=
  let answer := answers (.volumeAmountSince group wallet)
  match answer.fault with
  | some message => .error (unknownLedgerError message)
  | none => w.ledger.volumeAmountSince group wallet (w.clock + answer.elapsed - oneDay)

def verdictOf (amount : UsdPaymentAmount) (volume : Result (TxBaseVolumeAmount wallet.currency))
    (account : Result Account) : Result Unit := do
  let walletVolume ← volume
  let account ← account
  checkLimitBase (check (getAccountLimits account.level)) priceRatio amount walletVolume

def limitVerdict (amount : UsdPaymentAmount) (w : World) : Result Unit :=
  verdictOf getAccountLimits check wallet priceRatio amount (groupVolume answers group wallet w)
    (accountAnswer answers wallet w)

theorem newCheckLimits_alone {run : RunId} {amount : UsdPaymentAmount} {w : World}
    {post : Result Unit → World → Prop}
    (holds : ∀ clock, post (limitVerdict getAccountLimits answers group check wallet
      priceRatio amount w) { w with clock }) :
    EndsAlone run answers (newCheckLimits getAccountLimits group check amount wallet priceRatio) w
      post := by
  let now : World :=
    { w with clock := w.clock + (answers (.volumeAmountSince group wallet)).elapsed }
  have volume : serve run w (.volumeAmountSince group wallet) (answers _) =
      some (groupVolume answers group wallet w, now) := by
    simp only [serve, World.volumeAmountSince, Stores.readOr, Stores.answerOr, groupVolume]
    cases (answers (.volumeAmountSince group wallet)).fault <;> rfl
  have account : serve run now (.findAccountById .checkLimits wallet.accountId) (answers _) =
      some (accountAnswer answers wallet w, now) := by
    simp only [serve, Stores.readOr, Stores.answerOr, accountAnswer]
    cases answers (.findAccountById .checkLimits wallet.accountId) <;> rfl
  have verdict := holds now.clock
  unfold limitVerdict verdictOf at verdict
  refine endsRun_bind.mpr (alone_call volume ?_)
  cases isVolume : groupVolume answers group wallet w with
  | error error =>
    rw [isVolume] at verdict
    exact verdict
  | ok walletVolume =>
    rw [isVolume] at verdict
    refine endsRun_bind.mpr (alone_call account ?_)
    cases isAccount : accountAnswer answers wallet w with
    | error error =>
      rw [isAccount] at verdict
      exact verdict
    | ok account =>
      rw [isAccount] at verdict
      exact alone_ofResult.mpr verdict

end Checks

section Verdict

variable (getAccountLimits : AccountLevel → AccountLimits) (run : RunId) (answers : Answers)
  (wallet : WalletDescriptor) (priceRatio : PriceRatio)

def withdrawalVerdict (w : World) (amount : UsdPaymentAmount) : Option (Result Unit) :=
  (eval services run answers (newCheckWithdrawalLimits getAccountLimits amount wallet
    priceRatio).run w).map (·.1)

theorem withdrawalVerdict_eq (w : World) (amount : UsdPaymentAmount) :
    withdrawalVerdict getAccountLimits run answers wallet priceRatio w amount =
      some (limitVerdict getAccountLimits answers .externalPaymentVolumeSince
        AccountLimitsChecker.checkWithdrawal wallet priceRatio amount w) :=
  verdictAt_of_ends (newCheckLimits_alone _ _ _ _ _ _ fun _ => rfl)

variable {getAccountLimits run answers wallet priceRatio}

theorem outgoingInUsd_le {check : LimitCheck} {currency : WalletCurrency}
    {first second : TxBaseVolumeAmount currency}
    (same : ∀ amount, checkLimitBase check priceRatio amount first =
      checkLimitBase check priceRatio amount second) :
    (first.outgoingInUsd priceRatio).amount ≤ (second.outgoingInUsd priceRatio).amount := by
  have fits : checkLimitBase check priceRatio
      ⟨check.limitAmount - (second.outgoingInUsd priceRatio).amount⟩ second = .ok () :=
    checkLimitBase_eq_ok.mpr (by dsimp only; omega)
  rw [← same] at fits
  have bound := checkLimitBase_eq_ok.mp fits
  dsimp only at bound
  omega

theorem checkLimitBase_eq_iff {check : LimitCheck} {currency : WalletCurrency}
    {first second : TxBaseVolumeAmount currency} :
    (∀ amount, checkLimitBase check priceRatio amount first =
      checkLimitBase check priceRatio amount second) ↔
      (first.outgoingInUsd priceRatio).amount = (second.outgoingInUsd priceRatio).amount := by
  constructor
  · intro same
    exact le_antisymm (outgoingInUsd_le same) (outgoingInUsd_le fun amount => (same amount).symm)
  · intro same amount
    unfold checkLimitBase
    dsimp only
    rw [same]

theorem outgoingInUsd_plus_iff {currency : WalletCurrency} {volume : TxBaseVolumeAmount currency}
    {outgoing incoming : Int} :
    ((volume.plus outgoing incoming).outgoingInUsd priceRatio).amount =
        (volume.outgoingInUsd priceRatio).amount ↔
      outgoing = 0 ∨ currency = .btc ∧
        priceRatio.convertFromBtc ⟨volume.outgoingBaseAmount.amount + outgoing⟩ =
          priceRatio.convertFromBtc ⟨volume.outgoingBaseAmount.amount⟩ := by
  have inj (first second : UsdPaymentAmount) : first.amount = second.amount ↔ first = second := by
    cases first
    cases second
    simp
  cases currency with
  | btc =>
    have converted : ((volume.plus outgoing incoming).outgoingInUsd priceRatio).amount =
        (volume.outgoingInUsd priceRatio).amount ↔
        priceRatio.convertFromBtc ⟨volume.outgoingBaseAmount.amount + outgoing⟩ =
          priceRatio.convertFromBtc ⟨volume.outgoingBaseAmount.amount⟩ := inj _ _
    rw [converted]
    constructor
    · exact fun same => .inr ⟨rfl, same⟩
    · rintro (rfl | ⟨_, same⟩)
      · rw [Int.add_zero]
      · exact same
  | usd =>
    rw [outgoingInUsd_usd rfl, outgoingInUsd_usd rfl]
    simp [TxBaseVolumeAmount.plus]

theorem verdictOf_plus_iff {check : AccountLimits → LimitCheck}
    {volume : Result (TxBaseVolumeAmount wallet.currency)}
    {account : Result Account} {outgoing incoming : Int} :
    (∀ amount, verdictOf getAccountLimits check wallet priceRatio amount
        (volume.map (·.plus outgoing incoming)) account =
      verdictOf getAccountLimits check wallet priceRatio amount volume account) ↔
      ∀ walletVolume found, volume = .ok walletVolume → account = .ok found →
        outgoing = 0 ∨ wallet.currency = .btc ∧
          priceRatio.convertFromBtc ⟨walletVolume.outgoingBaseAmount.amount + outgoing⟩ =
            priceRatio.convertFromBtc ⟨walletVolume.outgoingBaseAmount.amount⟩ := by
  cases volume with
  | error error =>
    refine iff_of_true (fun amount => rfl) ?_
    rintro _ _ ⟨⟩
  | ok walletVolume =>
    cases account with
    | error error =>
      refine iff_of_true (fun amount => rfl) ?_
      rintro _ _ _ ⟨⟩
    | ok found =>
      have compared : (∀ amount, verdictOf getAccountLimits check wallet priceRatio amount
          (.ok (walletVolume.plus outgoing incoming)) (.ok found) =
          verdictOf getAccountLimits check wallet priceRatio amount (.ok walletVolume)
          (.ok found)) ↔ _ :=
        checkLimitBase_eq_iff.trans outgoingInUsd_plus_iff
      refine compared.trans ⟨?_, fun holds => holds walletVolume found rfl rfl⟩
      rintro same _ _ ⟨⟩ ⟨⟩
      exact same

end Verdict

end Galoy
