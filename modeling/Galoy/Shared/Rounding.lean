import Galoy.Shared.Amount
import Mathlib.Algebra.Order.Floor.Ring
import Mathlib.Data.Rat.Floor
import Mathlib.Tactic.Linarith
import Mathlib.Tactic.Ring

set_option autoImplicit false

namespace Galoy

namespace AmountCalculator

variable {n d : Int}

theorem tdiv_add_tmod (nonneg : 0 ≤ n) (positive : 0 < d) :
    n = n.tdiv d * d + n.tmod d ∧ 0 ≤ n.tmod d ∧ n.tmod d < d := by
  refine ⟨by rw [mul_comm]; exact (Int.mul_tdiv_add_tmod n d).symm, Int.tmod_nonneg d nonneg, ?_⟩
  exact Int.tmod_lt_of_pos n positive

theorem half_lt_iff {m d : Int} (positive : 0 < d) : d.tdiv 2 < m ↔ d < 2 * m := by
  rw [Int.tdiv_eq_ediv_of_nonneg positive.le]
  omega

theorem divRound_amount (currency : WalletCurrency) (n : Int) (positive : 0 < d) :
    (divRound (⟨n⟩ : Amount currency) d).amount = n.tdiv d + if d < 2 * n.tmod d then 1 else 0 := by
  unfold divRound
  simp only [gt_iff_lt, half_lt_iff positive]
  split_ifs <;> simp

theorem le_divRound (currency : WalletCurrency) (n : Int) (positive : 0 < d) :
    2 * n ≤ 2 * ((divRound (⟨n⟩ : Amount currency) d).amount * d) + d := by
  have split : n = n.tdiv d * d + n.tmod d := by
    rw [mul_comm]
    exact (Int.mul_tdiv_add_tmod n d).symm
  have high := Int.tmod_lt_of_pos n positive
  rw [divRound_amount currency n positive, add_mul]
  split_ifs <;> omega

theorem divRound_bounds (currency : WalletCurrency) (nonneg : 0 ≤ n) (positive : 0 < d) :
    2 * ((divRound (⟨n⟩ : Amount currency) d).amount * d) < 2 * n + d ∧
      2 * n ≤ 2 * ((divRound (⟨n⟩ : Amount currency) d).amount * d) + d := by
  refine ⟨?_, le_divRound currency n positive⟩
  obtain ⟨split, low, high⟩ := tdiv_add_tmod nonneg positive
  rw [divRound_amount currency n positive, add_mul]
  split_ifs <;> omega

theorem divFloor_bounds (currency : WalletCurrency) (nonneg : 0 ≤ n) (positive : 0 < d) :
    (divFloor (⟨n⟩ : Amount currency) d).amount * d ≤ n ∧
      n < (divFloor (⟨n⟩ : Amount currency) d).amount * d + d := by
  obtain ⟨split, low, high⟩ := tdiv_add_tmod nonneg positive
  unfold divFloor
  dsimp only
  constructor <;> omega

theorem divCeil_bounds (currency : WalletCurrency) (nonneg : 0 ≤ n) (positive : 0 < d) :
    n ≤ (divCeil (⟨n⟩ : Amount currency) d).amount * d ∧
      (divCeil (⟨n⟩ : Amount currency) d).amount * d < n + d := by
  obtain ⟨split, low, high⟩ := tdiv_add_tmod nonneg positive
  unfold divCeil
  dsimp only
  split_ifs with up
  · dsimp only
    rw [add_one_mul]
    constructor <;> omega
  · dsimp only
    constructor <;> omega

theorem le_of_mul_lt {a b : Int} (positive : 0 < d) (below : a * d < b * d + d) : a ≤ b := by
  have shifted : a * d < (b + 1) * d := by rwa [add_one_mul]
  have strict := lt_of_mul_lt_mul_right shifted positive.le
  omega

theorem divRound_nonneg {currency : WalletCurrency} {amount : Amount currency}
    (nonneg : 0 ≤ amount.amount) (positive : 0 < d) : 0 ≤ (divRound amount d).amount := by
  have low := le_divRound currency amount.amount positive
  exact le_of_mul_lt positive (by linarith)

section Monotone

variable {currency : WalletCurrency} {less more : Amount currency} (nonneg : 0 ≤ less.amount)
  (le : less.amount ≤ more.amount) (positive : 0 < d)

include nonneg le positive

theorem divRound_mono : (divRound less d).amount ≤ (divRound more d).amount := by
  obtain ⟨above, _⟩ := divRound_bounds currency nonneg positive
  have below := le_divRound currency more.amount positive
  exact le_of_mul_lt positive (by linarith)

theorem divFloor_mono : (divFloor less d).amount ≤ (divFloor more d).amount := by
  obtain ⟨above, _⟩ := divFloor_bounds currency nonneg positive
  obtain ⟨_, below⟩ := divFloor_bounds currency (nonneg.trans le) positive
  exact le_of_mul_lt positive (by linarith)

theorem divCeil_mono : (divCeil less d).amount ≤ (divCeil more d).amount := by
  obtain ⟨_, above⟩ := divCeil_bounds currency nonneg positive
  obtain ⟨below, _⟩ := divCeil_bounds currency (nonneg.trans le) positive
  exact le_of_mul_lt positive (by linarith)

end Monotone

theorem divCeil_le_divFloor_add_one {currency : WalletCurrency} {amount : Amount currency}
    {d : Int} :
    (divCeil amount d).amount ≤ (divFloor amount d).amount + 1 := by
  unfold divCeil divFloor
  dsimp only
  split_ifs <;> dsimp only <;> omega

theorem divRound_cross (currency : WalletCurrency) {n d m e : Int} (positive : 0 < d)
    (alsoPositive : 0 < e) (same : n * e = m * d) :
    divRound (⟨n⟩ : Amount currency) d = divRound (⟨m⟩ : Amount currency) e := by
  have quotients : n.tdiv d = m.tdiv e := by
    calc n.tdiv d = (e * n).tdiv (e * d) := (Int.mul_tdiv_mul_of_pos n d alsoPositive).symm
      _ = (d * m).tdiv (d * e) := by rw [mul_comm e n, same, mul_comm m d, mul_comm e d]
      _ = m.tdiv e := Int.mul_tdiv_mul_of_pos m e positive
  have remainders : e * n.tmod d = d * m.tmod e := by
    calc e * n.tmod d = (e * n).tmod (e * d) := (Int.mul_tmod_mul_of_pos n d alsoPositive).symm
      _ = (d * m).tmod (d * e) := by rw [mul_comm e n, same, mul_comm m d, mul_comm e d]
      _ = d * m.tmod e := Int.mul_tmod_mul_of_pos m e positive
  have up : d.tdiv 2 < n.tmod d ↔ e.tdiv 2 < m.tmod e := by
    rw [half_lt_iff positive, half_lt_iff alsoPositive]
    constructor
    · intro more
      have scaled : e * d < e * (2 * n.tmod d) := mul_lt_mul_of_pos_left more alsoPositive
      refine lt_of_mul_lt_mul_left ?_ positive.le
      linarith
    · intro more
      have scaled : d * e < d * (2 * m.tmod e) := mul_lt_mul_of_pos_left more positive
      refine lt_of_mul_lt_mul_left ?_ alsoPositive.le
      linarith
  unfold divRound
  dsimp only
  rw [quotients]
  simp only [gt_iff_lt, up]

theorem divRound_exact (currency : WalletCurrency) {n d : Int} (positive : 0 < d) :
    (divRound (⟨d * n⟩ : Amount currency) d).amount = n := by
  have noRemainder : (d * n).tmod d = 0 := Int.mul_tmod_right d n
  have down : ¬d < 2 * 0 := by omega
  rw [divRound_amount currency _ positive, noRemainder, Int.mul_tdiv_cancel_left n positive.ne',
    if_neg down, add_zero]

end AmountCalculator

namespace PriceRatio

open AmountCalculator

theorem atLeastOne_amount {currency : WalletCurrency} {amount : Amount currency}
    (nonneg : 0 ≤ amount.amount) :
    (if amount.amount = 0 then (⟨1⟩ : Amount currency) else amount).amount =
      max 1 amount.amount := by
  split_ifs with zero
  · simp [zero]
  · omega

def MonotoneOnAmounts {source target : WalletCurrency} (convert : Amount source → Amount target) :
    Prop :=
  ∀ less more : Amount source, 0 ≤ less.amount → less.amount ≤ more.amount →
    (convert less).amount ≤ (convert more).amount

theorem monotone_of_rounded {source target : WalletCurrency}
    {convert : Amount source → Amount target} {factor divisor : Int} (nonneg : 0 ≤ factor)
    (positive : 0 < divisor) (zero : (convert ⟨0⟩).amount = 0)
    (rounded : ∀ {amount : Amount source}, 0 < amount.amount →
      (convert amount).amount =
        max 1 (divRound (⟨amount.amount * factor⟩ : Amount target) divisor).amount) :
    MonotoneOnAmounts convert := by
  intro ⟨less⟩ ⟨more⟩ lessNonneg le
  dsimp only at lessNonneg le
  rcases le.eq_or_lt with rfl | strict
  · exact le_refl _
  · rw [rounded (lessNonneg.trans_lt strict)]
    rcases lessNonneg.eq_or_lt with rfl | lessPositive
    · rw [zero]
      exact zero_le_one.trans (le_max_left ..)
    · rw [rounded lessPositive]
      apply max_le_max_left
      apply divRound_mono _ _ positive
      · exact Int.mul_nonneg lessNonneg nonneg
      · exact Int.mul_le_mul_of_nonneg_right le nonneg

section Conversions

variable {ratio : PriceRatio} (usd : 0 < ratio.usd.amount) (btc : 0 < ratio.btc.amount)

include usd btc

theorem floor_mono : MonotoneOnAmounts ratio.convertFromBtcToFloor := by
  intro less more nonneg le
  apply divFloor_mono _ _ btc
  · exact Int.mul_nonneg nonneg usd.le
  · exact Int.mul_le_mul_of_nonneg_right le usd.le

theorem ceil_mono : MonotoneOnAmounts ratio.convertFromBtcToCeil := by
  intro less more nonneg le
  apply divCeil_mono _ _ btc
  · exact Int.mul_nonneg nonneg usd.le
  · exact Int.mul_le_mul_of_nonneg_right le usd.le

theorem floor_le_round {convert : BtcPaymentAmount} (nonneg : 0 ≤ convert.amount) :
    (ratio.convertFromBtcToFloor convert).amount ≤ (ratio.convertFromBtc convert).amount := by
  have quotient : 0 ≤ (convert.amount * ratio.usd.amount).tdiv ratio.btc.amount :=
    Int.tdiv_nonneg (Int.mul_nonneg nonneg usd.le) btc.le
  unfold convertFromBtcToFloor convertFromBtc divFloor divRound
  dsimp only
  by_cases zero : convert.amount = 0
  · simp [zero]
  · rw [if_neg zero]
    split_ifs <;> dsimp only at * <;> omega

theorem one_le_ceil {convert : BtcPaymentAmount} (positive : 0 < convert.amount) :
    1 ≤ (ratio.convertFromBtcToCeil convert).amount := by
  have product : 0 < convert.amount * ratio.usd.amount := Int.mul_pos positive usd
  obtain ⟨low, _⟩ := divCeil_bounds .usd product.le btc
  exact (mul_pos_iff_of_pos_right btc).mp (product.trans_le low)

theorem convertFromUsd_amount {convert : UsdPaymentAmount} (positive : 0 < convert.amount) :
    (ratio.convertFromUsd convert).amount =
      max 1 (divRound (⟨convert.amount * ratio.btc.amount⟩ : BtcPaymentAmount)
        ratio.usd.amount).amount := by
  have product : 0 ≤ convert.amount * ratio.btc.amount := Int.mul_nonneg positive.le btc.le
  unfold convertFromUsd
  rw [if_neg positive.ne']
  exact atLeastOne_amount (divRound_nonneg product usd)

theorem convertFromBtc_amount {convert : BtcPaymentAmount} (positive : 0 < convert.amount) :
    (ratio.convertFromBtc convert).amount =
      max 1 (divRound (⟨convert.amount * ratio.usd.amount⟩ : UsdPaymentAmount)
        ratio.btc.amount).amount := by
  have product : 0 ≤ convert.amount * ratio.usd.amount := Int.mul_nonneg positive.le usd.le
  unfold convertFromBtc
  rw [if_neg positive.ne']
  exact atLeastOne_amount (divRound_nonneg product btc)

theorem one_le_convertFromUsd {convert : UsdPaymentAmount} (positive : 0 < convert.amount) :
    1 ≤ (ratio.convertFromUsd convert).amount := by
  rw [convertFromUsd_amount usd btc positive]
  exact le_max_left ..

theorem one_le_convertFromBtc {convert : BtcPaymentAmount} (positive : 0 < convert.amount) :
    1 ≤ (ratio.convertFromBtc convert).amount := by
  rw [convertFromBtc_amount usd btc positive]
  exact le_max_left ..

theorem convertFromUsd_mono : MonotoneOnAmounts ratio.convertFromUsd :=
  monotone_of_rounded btc.le usd rfl (convertFromUsd_amount usd btc)

theorem convertFromBtc_mono : MonotoneOnAmounts ratio.convertFromBtc :=
  monotone_of_rounded usd.le btc rfl (convertFromBtc_amount usd btc)

theorem round_le_ceil {convert : BtcPaymentAmount} (nonneg : 0 ≤ convert.amount) :
    (ratio.convertFromBtc convert).amount ≤ (ratio.convertFromBtcToCeil convert).amount := by
  have half : 0 ≤ ratio.btc.amount.tdiv 2 := Int.tdiv_nonneg btc.le (by decide)
  unfold convertFromBtc
  by_cases zero : convert.amount = 0
  · simp [zero, convertFromBtcToCeil, divCeil]
  · have one : 1 ≤ (ratio.convertFromBtcToCeil convert).amount := one_le_ceil usd btc (by omega)
    unfold convertFromBtcToCeil divCeil at one ⊢
    unfold divRound
    dsimp only at one ⊢
    rw [if_neg zero]
    split_ifs at one ⊢ <;> dsimp only at * <;> omega

theorem round_eq_ceil_iff {convert : BtcPaymentAmount} (nonneg : 0 ≤ convert.amount) :
    ratio.convertFromBtc convert = ratio.convertFromBtcToCeil convert ↔
      convert.amount * ratio.usd.amount % ratio.btc.amount = 0 ∨
        ratio.btc.amount / 2 < convert.amount * ratio.usd.amount % ratio.btc.amount ∨
        convert.amount * ratio.usd.amount < ratio.btc.amount := by
  by_cases zero : convert.amount = 0
  · simp [zero, convertFromBtc, convertFromBtcToCeil, divCeil]
  · have product : 0 < convert.amount * ratio.usd.amount := Int.mul_pos (by omega) usd
    unfold convertFromBtc convertFromBtcToCeil divCeil divRound
    rw [if_neg zero]
    generalize convert.amount * ratio.usd.amount = n at product
    generalize ratio.btc.amount = d at btc
    have split := Int.mul_ediv_add_emod n d
    have low := Int.emod_nonneg n btc.ne'
    have high := Int.emod_lt_of_pos n btc
    have whole : n / d = 0 ↔ n < d := by
      constructor
      · intro none
        rw [none, mul_zero, zero_add] at split
        omega
      · exact Int.ediv_eq_zero_of_lt product.le
    have quotient := Int.ediv_nonneg product.le btc.le
    simp only [Int.tdiv_eq_ediv_of_nonneg product.le, Int.tdiv_eq_ediv_of_nonneg btc.le,
      Int.tmod_eq_emod_of_nonneg product.le]
    by_cases exact : n % d = 0
    · -- No remainder, and so a quotient.
      have some : n / d ≠ 0 := by
        intro none
        rw [none, exact] at split
        omega
      have down : ¬d / 2 < 0 := not_lt.mpr (Int.ediv_nonneg btc.le (by decide))
      simp [exact, some, down]
    · have positive : n % d > 0 := by omega
      by_cases up : n % d > d / 2
      · simp [exact, up, positive, show n / d + 1 ≠ 0 by omega]
      · by_cases none : n / d = 0
        · simp [exact, up, positive, none, whole.mp none]
        · simp [exact, up, positive, none, mt whole.mpr none]

theorem cents_round_trip {convert : UsdPaymentAmount} (nonneg : 0 ≤ convert.amount)
    (cheap : ratio.usd.amount ≤ ratio.btc.amount) :
    ratio.convertFromBtc (ratio.convertFromUsd convert) = convert := by
  obtain ⟨cents⟩ := convert
  rcases nonneg.eq_or_lt with rfl | positive
  · rfl
  · dsimp only at positive
    have least : ratio.btc.amount ≤ cents * ratio.btc.amount :=
      le_mul_of_one_le_left btc.le positive
    obtain ⟨high, low⟩ := divRound_bounds .btc (btc.le.trans least) usd
    unfold convertFromUsd
    rw [if_neg positive.ne']
    dsimp only
    generalize (divRound (⟨cents * ratio.btc.amount⟩ : BtcPaymentAmount) ratio.usd.amount) =
      sats at high low
    have some : 0 < sats.amount * ratio.usd.amount := by linarith
    have positive : 0 < sats.amount := (mul_pos_iff_of_pos_right usd).mp some
    rw [if_neg positive.ne']
    obtain ⟨backHigh, backLow⟩ := divRound_bounds .usd some.le btc
    unfold convertFromBtc
    rw [if_neg positive.ne']
    dsimp only
    generalize (divRound (⟨sats.amount * ratio.usd.amount⟩ : UsdPaymentAmount) ratio.btc.amount) =
      back at backHigh backLow
    have below : back.amount ≤ cents := le_of_mul_lt btc (by linarith)
    have above : cents ≤ back.amount := by
      rcases cheap.eq_or_lt with same | cheaper
      · -- At par both conversions are exact.
        rw [same] at low backLow
        have first : cents ≤ sats.amount := le_of_mul_lt btc (by linarith)
        have second : sats.amount ≤ back.amount := le_of_mul_lt btc (by linarith)
        exact first.trans second
      · exact le_of_mul_lt btc (by linarith)
    have exact : back.amount = cents := le_antisymm below above
    rw [if_neg (by omega)]
    exact congrArg Amount.mk exact

end Conversions

structure ConversionLaws (ratio : PriceRatio) : Prop where
  floor_le_round : ∀ sats : BtcPaymentAmount, 0 ≤ sats.amount →
    (ratio.convertFromBtcToFloor sats).amount ≤ (ratio.convertFromBtc sats).amount
  round_le_ceil : ∀ sats : BtcPaymentAmount, 0 ≤ sats.amount →
    (ratio.convertFromBtc sats).amount ≤ (ratio.convertFromBtcToCeil sats).amount
  ceil_le_floor_add_one : ∀ sats : BtcPaymentAmount, 0 ≤ sats.amount →
    (ratio.convertFromBtcToCeil sats).amount ≤ (ratio.convertFromBtcToFloor sats).amount + 1
  monotone : MonotoneOnAmounts ratio.convertFromUsd ∧ MonotoneOnAmounts ratio.convertFromBtc ∧
    MonotoneOnAmounts ratio.convertFromBtcToFloor ∧ MonotoneOnAmounts ratio.convertFromBtcToCeil
  zero : ratio.convertFromUsd ⟨0⟩ = ⟨0⟩ ∧ ratio.convertFromBtc ⟨0⟩ = ⟨0⟩ ∧
    ratio.convertFromBtcToFloor ⟨0⟩ = ⟨0⟩ ∧ ratio.convertFromBtcToCeil ⟨0⟩ = ⟨0⟩
  positive_sats : ∀ cents : UsdPaymentAmount, 0 < cents.amount →
    0 < (ratio.convertFromUsd cents).amount
  positive_cents : ∀ sats : BtcPaymentAmount, 0 < sats.amount →
    0 < (ratio.convertFromBtc sats).amount
  round_trip : ratio.usd.amount ≤ ratio.btc.amount → ∀ cents : UsdPaymentAmount, 0 ≤ cents.amount →
    ratio.convertFromBtc (ratio.convertFromUsd cents) = cents

theorem make_conversionLaws (usd : UsdPaymentAmount) (btc : BtcPaymentAmount)
    (usdPositive : 0 < usd.amount) (btcPositive : 0 < btc.amount) :
    ∃ ratio, PriceRatio.make usd btc = .ok ratio ∧ ratio.usd = usd ∧ ratio.btc = btc ∧
      ratio.ConversionLaws := by
  refine ⟨_, make_of_ne usdPositive.ne' btcPositive.ne', rfl, rfl, ?_⟩
  exact
    { floor_le_round := fun sats nonneg => floor_le_round usdPositive btcPositive nonneg
      round_le_ceil := fun sats nonneg => round_le_ceil usdPositive btcPositive nonneg
      ceil_le_floor_add_one := fun sats _ => divCeil_le_divFloor_add_one
      monotone :=
        ⟨convertFromUsd_mono usdPositive btcPositive, convertFromBtc_mono usdPositive btcPositive,
          floor_mono usdPositive btcPositive, ceil_mono usdPositive btcPositive⟩
      zero := by
        simp [convertFromUsd, convertFromBtc, convertFromBtcToFloor, convertFromBtcToCeil,
          divFloor, divCeil]
      positive_sats := fun cents positive => one_le_convertFromUsd usdPositive btcPositive positive
      positive_cents := fun sats positive => one_le_convertFromBtc usdPositive btcPositive positive
      round_trip := fun cheap cents nonneg =>
        cents_round_trip usdPositive btcPositive nonneg cheap }

theorem make_conversionLaws_dollar :
    ∃ ratio, PriceRatio.make ⟨100⟩ ⟨5000⟩ = .ok ratio ∧ ratio.ConversionLaws ∧
      ratio.convertFromBtc (ratio.convertFromUsd ⟨2⟩) = ⟨2⟩ := by
  obtain ⟨ratio, made, usd, btc, laws⟩ := make_conversionLaws ⟨100⟩ ⟨5000⟩ (by decide) (by decide)
  have cheap : ratio.usd.amount ≤ ratio.btc.amount := by simp [usd, btc]
  exact ⟨ratio, made, laws, laws.round_trip cheap ⟨2⟩ (by decide)⟩

theorem convertFromBtc_ne_zero {ratio : PriceRatio} {convert : BtcPaymentAmount}
    (nonzero : convert.amount ≠ 0) :
    (ratio.convertFromBtc convert).amount ≠ 0 := by
  unfold convertFromBtc
  rw [if_neg nonzero]
  dsimp only
  split
  · decide
  · assumption

section Fractions

variable {first second : PriceRatio}

theorem convertFromBtc_exact (positive : 0 < first.btc.amount) {times : Int} (nonzero : times ≠ 0) :
    first.convertFromBtc ⟨first.btc.amount * times⟩ = ⟨first.usd.amount * times⟩ := by
  have sats : first.btc.amount * times ≠ 0 := mul_ne_zero positive.ne' nonzero
  have cents : first.usd.amount * times ≠ 0 := mul_ne_zero first.usd_ne nonzero
  have divided : divRound (⟨first.btc.amount * times * first.usd.amount⟩ : UsdPaymentAmount)
      first.btc.amount =
      ⟨first.usd.amount * times⟩ := by
    rw [mul_assoc, mul_comm times]
    exact congrArg Amount.mk (divRound_exact .usd positive)
  unfold convertFromBtc
  dsimp only
  rw [if_neg sats, divided, if_neg cents]

theorem convertFromBtc_eq_iff (positive : 0 < first.btc.amount)
    (alsoPositive : 0 < second.btc.amount) :
    (∀ btc, first.convertFromBtc btc = second.convertFromBtc btc) ↔
      first.usd.amount * second.btc.amount = second.usd.amount * first.btc.amount := by
  constructor
  · intro same
    have atProduct := same ⟨first.btc.amount * second.btc.amount⟩
    rw [convertFromBtc_exact positive alsoPositive.ne', mul_comm first.btc.amount,
      convertFromBtc_exact alsoPositive positive.ne'] at atProduct
    exact congrArg Amount.amount atProduct
  · intro same btc
    unfold convertFromBtc
    have divided : divRound (⟨btc.amount * first.usd.amount⟩ : UsdPaymentAmount) first.btc.amount =
        divRound ⟨btc.amount * second.usd.amount⟩ second.btc.amount :=
      divRound_cross .usd positive alsoPositive (by rw [mul_assoc, same, mul_assoc])
    rw [divided]

end Fractions

end PriceRatio

end Galoy
