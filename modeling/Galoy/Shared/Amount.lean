import Galoy.Shared.Errors
import Mathlib.Data.Int.Init
import Mathlib.Data.Rat.Init

set_option autoImplicit false

namespace Galoy

inductive WalletCurrency where
  | btc
  | usd
  deriving DecidableEq, Repr

/-- bigint amounts; the currency tag of the source is the index. -/
structure Amount (currency : WalletCurrency) where
  amount : Int
  deriving DecidableEq, Repr

abbrev BtcPaymentAmount := Amount .btc
abbrev UsdPaymentAmount := Amount .usd

def zeroSats : BtcPaymentAmount := ⟨0⟩
def zeroCents : UsdPaymentAmount := ⟨0⟩

def maxSats : BtcPaymentAmount := ⟨10000000000000⟩

namespace AmountCalculator

variable {currency : WalletCurrency}

def add (a b : Amount currency) : Amount currency := ⟨a.amount + b.amount⟩

def sub (a b : Amount currency) : Amount currency := ⟨a.amount - b.amount⟩

-- bigint `/` truncates and `%` has the sign of the dividend.
def divRound (a : Amount currency) (b : Int) : Amount currency :=
  let quotient := a.amount.tdiv b
  let roundDownBound := b.tdiv 2
  let mod := a.amount.tmod b
  if mod > roundDownBound then ⟨quotient + 1⟩ else ⟨quotient⟩

def divFloor (a : Amount currency) (b : Int) : Amount currency :=
  ⟨a.amount.tdiv b⟩

def divCeil (a : Amount currency) (b : Int) : Amount currency :=
  let quotient := a.amount.tdiv b
  let mod := a.amount.tmod b
  if mod > 0 then ⟨quotient + 1⟩ else ⟨quotient⟩

def mulBasisPoints (a : Amount currency) (basisPoints : Int) : Amount currency :=
  divRound ⟨a.amount * basisPoints⟩ 10000

end AmountCalculator

-- `BigInt(num)`: a number with a fraction raises the RangeError of the source.
def safeBigInt (num : ℚ) : Except AppError Int :=
  if num.den = 1 then .ok num.num
  else .error { name := .BigIntFloatConversionError }

def paymentAmountFromNumber (currency : WalletCurrency) (amount : ℚ) :
    Except AppError (Amount currency) :=
  match safeBigInt amount with
  | .error e => .error e
  | .ok safeAmount => .ok ⟨safeAmount⟩

def checkedToSats (amount : Int) : Except AppError Int :=
  if ¬ amount > 0 then .error { name := .InvalidSatoshiAmountError, message := toString amount }
  else if amount > maxSats.amount then .error { name := .BtcAmountTooLargeError }
  else .ok amount

structure PriceRatio where
  usd : UsdPaymentAmount
  btc : BtcPaymentAmount
  usd_ne : usd.amount ≠ 0
  btc_ne : btc.amount ≠ 0
  deriving DecidableEq, Repr

namespace PriceRatio

open AmountCalculator

def make (usd : UsdPaymentAmount) (btc : BtcPaymentAmount) : Except AppError PriceRatio :=
  if zero : usd.amount = 0 ∨ btc.amount = 0 then
    .error { name := .InvalidZeroAmountPriceRatioInputError }
  else .ok ⟨usd, btc, fun h => zero (.inl h), fun h => zero (.inr h)⟩

theorem of_make {usd : UsdPaymentAmount} {btc : BtcPaymentAmount} {ratio : PriceRatio}
    (made : PriceRatio.make usd btc = .ok ratio) : ratio.usd = usd ∧ ratio.btc = btc := by
  unfold PriceRatio.make at made
  split at made
  · cases made
  · cases made
    exact ⟨rfl, rfl⟩

theorem make_ok {usd : UsdPaymentAmount} {btc : BtcPaymentAmount} {ratio : PriceRatio}
    (made : PriceRatio.make usd btc = .ok ratio) : usd.amount ≠ 0 ∧ btc.amount ≠ 0 := by
  obtain ⟨rfl, rfl⟩ := of_make made
  exact ⟨ratio.usd_ne, ratio.btc_ne⟩

theorem make_of_ne {usd : UsdPaymentAmount} {btc : BtcPaymentAmount} (usd_ne : usd.amount ≠ 0)
    (btc_ne : btc.amount ≠ 0) : PriceRatio.make usd btc = .ok ⟨usd, btc, usd_ne, btc_ne⟩ :=
  dif_neg (not_or.mpr ⟨usd_ne, btc_ne⟩)

def convertFromUsd (ratio : PriceRatio) (convert : UsdPaymentAmount) : BtcPaymentAmount :=
  if convert.amount = 0 then ⟨0⟩
  else
    let amount : BtcPaymentAmount := divRound ⟨convert.amount * ratio.btc.amount⟩ ratio.usd.amount
    if amount.amount = 0 then ⟨1⟩ else amount

def convertFromBtc (ratio : PriceRatio) (convert : BtcPaymentAmount) : UsdPaymentAmount :=
  if convert.amount = 0 then ⟨0⟩
  else
    let amount : UsdPaymentAmount := divRound ⟨convert.amount * ratio.usd.amount⟩ ratio.btc.amount
    if amount.amount = 0 then ⟨1⟩ else amount

def convertFromBtcToFloor (ratio : PriceRatio) (convert : BtcPaymentAmount) : UsdPaymentAmount :=
  divFloor ⟨convert.amount * ratio.usd.amount⟩ ratio.btc.amount

def convertFromBtcToCeil (ratio : PriceRatio) (convert : BtcPaymentAmount) : UsdPaymentAmount :=
  divCeil ⟨convert.amount * ratio.usd.amount⟩ ratio.btc.amount

end PriceRatio

end Galoy
