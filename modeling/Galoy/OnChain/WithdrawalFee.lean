import Galoy.Shared.Amount
import Mathlib.Algebra.Order.Floor.Ring
import Mathlib.Data.Rat.Floor

set_option autoImplicit false

namespace Galoy.Withdrawal

inductive WithdrawalFeePriceMethod where
  | flat
  | proportionalOnImbalance
  deriving DecidableEq, Repr

structure WithdrawConfig where
  method : WithdrawalFeePriceMethod
  ratio : ℚ
  threshold : Int
  daysLookback : Nat
  defaultMin : Int
  deriving DecidableEq, Repr

structure FeesConfig where
  withdrawMethod : WithdrawalFeePriceMethod
  withdrawRatio : ℚ
  withdrawThreshold : Int
  withdrawDaysLookback : Nat
  withdrawDefaultMin : Int
  deriving DecidableEq, Repr

def getFeesConfig (withdraw : WithdrawConfig) : FeesConfig where
  withdrawMethod := withdraw.method
  withdrawRatio := if withdraw.method = .flat then 0 else withdraw.ratio
  withdrawThreshold := withdraw.threshold
  withdrawDaysLookback := withdraw.daysLookback
  withdrawDefaultMin := withdraw.defaultMin

def minWithdrawalFeeAccount : ℚ := 0

def maxWithdrawalFeeAccount : ℚ := 100000

def sanityCheckedDefaultAccountWithdrawFee (fee : ℚ) : Except AppError ℚ :=
  if fee < minWithdrawalFeeAccount ∨ fee > maxWithdrawalFeeAccount then
    .error { name := .InvalidWithdrawFeeError, message := toString fee }
  else .ok fee

structure OnchainWithdrawalConfig where
  thresholdImbalance : ℚ
  feeRatio : ℚ

structure OnChainWithdrawalFee where
  totalFee : ℚ
  bankFee : ℚ

namespace WithdrawalFeeCalculator

variable (config : OnchainWithdrawalConfig)

def baseAmount (amount imbalance : ℚ) : ℚ :=
  max (min (imbalance - config.thresholdImbalance + amount) amount) 0

def bankFee (amount minBankFee imbalance : ℚ) : ℚ :=
  max minBankFee ⌈baseAmount config amount imbalance * config.feeRatio⌉

def onChainWithdrawalFee (minerFee amount minBankFee imbalance : ℚ) : OnChainWithdrawalFee where
  totalFee := bankFee config amount minBankFee imbalance + minerFee
  bankFee := bankFee config amount minBankFee imbalance

def onChainIntraLedgerFee : ℚ := 0

variable {config}

theorem baseAmount_nonneg (amount imbalance : ℚ) : 0 ≤ baseAmount config amount imbalance :=
  le_max_right _ _

theorem baseAmount_mono {amount larger : ℚ} (le : amount ≤ larger) (imbalance : ℚ) :
    baseAmount config amount imbalance ≤ baseAmount config larger imbalance := by
  unfold baseAmount
  gcongr

theorem bankFee_mono (ratio : 0 ≤ config.feeRatio) {amount larger minBankFee : ℚ}
    (le : amount ≤ larger) (imbalance : ℚ) :
    bankFee config amount minBankFee imbalance ≤ bankFee config larger minBankFee imbalance := by
  have base : baseAmount config amount imbalance ≤ baseAmount config larger imbalance :=
    baseAmount_mono le imbalance
  unfold bankFee
  gcongr

theorem le_bankFee (amount minBankFee imbalance : ℚ) :
    minBankFee ≤ bankFee config amount minBankFee imbalance :=
  le_max_left _ _

theorem bankFee_of_nonpos (ratio : 0 ≤ config.feeRatio) {minBankFee : ℚ} (nonpos : minBankFee ≤ 0)
    (amount imbalance : ℚ) :
    bankFee config amount minBankFee imbalance = bankFee config amount 0 imbalance := by
  have nonneg : (0 : ℚ) ≤ ⌈baseAmount config amount imbalance * config.feeRatio⌉ := by
    exact_mod_cast Int.ceil_nonneg (mul_nonneg (baseAmount_nonneg amount imbalance) ratio)
  unfold bankFee
  rw [max_eq_right (nonpos.trans nonneg), max_eq_right nonneg]

theorem baseAmount_eq_difference {amount : ℚ} (nonneg : 0 ≤ amount) (imbalance : ℚ) :
    baseAmount config amount imbalance =
      max (imbalance + amount - config.thresholdImbalance) 0 - max (imbalance - config.thresholdImbalance) 0 := by
  unfold baseAmount
  have regroup : imbalance + amount - config.thresholdImbalance =
      imbalance - config.thresholdImbalance + amount := by ring
  rw [regroup]
  generalize imbalance - config.thresholdImbalance = above
  rcases le_total 0 above with over_threshold | below
  · rw [min_eq_right (by linarith), max_eq_left nonneg, max_eq_left (by linarith), max_eq_left over_threshold]
    ring
  · rw [min_eq_left (by linarith), max_eq_right below, sub_zero]

theorem baseAmount_split {first second : ℚ} (firstNonneg : 0 ≤ first) (secondNonneg : 0 ≤ second)
    (imbalance : ℚ) :
    baseAmount config first imbalance + baseAmount config second (imbalance + first) =
      baseAmount config (first + second) imbalance := by
  rw [baseAmount_eq_difference firstNonneg, baseAmount_eq_difference secondNonneg,
    baseAmount_eq_difference (add_nonneg firstNonneg secondNonneg), ← add_assoc]
  ring

theorem baseAmount_mono_imbalance {imbalance later : ℚ} (raised : imbalance ≤ later) (amount : ℚ) :
    baseAmount config amount imbalance ≤ baseAmount config amount later := by
  unfold baseAmount
  gcongr

theorem splitting_never_lowers_bankFee (config : OnchainWithdrawalConfig)
    (ratio : 0 ≤ config.feeRatio) (minBankFee : ℚ) (minimum : 0 ≤ minBankFee)
    (imbalance later first second : ℚ) (firstNonneg : 0 ≤ first) (secondNonneg : 0 ≤ second)
    (raised : imbalance + first ≤ later) (minerFee firstMinerFee secondMinerFee : ℚ) :
    (onChainWithdrawalFee config minerFee (first + second) minBankFee imbalance).bankFee ≤
        (onChainWithdrawalFee config firstMinerFee first minBankFee imbalance).bankFee +
          (onChainWithdrawalFee config secondMinerFee second minBankFee later).bankFee ∧
      baseAmount config first imbalance + baseAmount config second (imbalance + first) =
        baseAmount config (first + second) imbalance := by
  have split : baseAmount config first imbalance + baseAmount config second (imbalance + first) =
      baseAmount config (first + second) imbalance :=
        baseAmount_split firstNonneg secondNonneg imbalance
  refine ⟨max_le ?_ ?_, split⟩
  · calc minBankFee
        ≤ bankFee config first minBankFee imbalance := le_bankFee _ _ _
      _ ≤ bankFee config first minBankFee imbalance + bankFee config second minBankFee later :=
          le_add_of_nonneg_right (minimum.trans (le_bankFee _ _ _))
  · have grown : baseAmount config second (imbalance + first) ≤ baseAmount config second later :=
      baseAmount_mono_imbalance raised second
    calc ((⌈baseAmount config (first + second) imbalance * config.feeRatio⌉ : Int) : ℚ)
        = ⌈baseAmount config first imbalance * config.feeRatio +
            baseAmount config second (imbalance + first) * config.feeRatio⌉ := by
              rw [← split, add_mul]
      _ ≤ (⌈baseAmount config first imbalance * config.feeRatio⌉ +
            ⌈baseAmount config second (imbalance + first) * config.feeRatio⌉ : Int) := by
          exact_mod_cast Int.ceil_add_le _ _
      _ ≤ (⌈baseAmount config first imbalance * config.feeRatio⌉ : ℚ) +
            ⌈baseAmount config second later * config.feeRatio⌉ := by
          push_cast
          gcongr
      _ ≤ bankFee config first minBankFee imbalance + bankFee config second minBankFee later :=
          add_le_add (le_max_right _ _) (le_max_right _ _)

theorem splitting_across_the_threshold :
    (0 : ℚ) ≤ 1 / 200 ∧
      (onChainWithdrawalFee ⟨1000, 1 / 200⟩ 10 (1000 + 2000) 5 500).bankFee ≤
        (onChainWithdrawalFee ⟨1000, 1 / 200⟩ 10 1000 5 500).bankFee +
          (onChainWithdrawalFee ⟨1000, 1 / 200⟩ 10 2000 5 1500).bankFee :=
  ⟨by norm_num, (splitting_never_lowers_bankFee ⟨1000, 1 / 200⟩ (by norm_num) 5
    (by norm_num) 500 1500 1000 2000 (by norm_num) (by norm_num) (by norm_num) 10 10 10).1⟩

end WithdrawalFeeCalculator

end Galoy.Withdrawal
