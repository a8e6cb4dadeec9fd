import Galoy.App.Rules
import Galoy.Ledger.Entries
import Galoy.Payments.SendIntraledger
import Galoy.Payments.UpdatePendingPayments

set_option autoImplicit false

namespace Galoy

open Interleave App

section Requests

variable {allowed : Call → Prop} (reads : ∀ c : Call, c.reads → allowed c)

include reads

theorem getPriceRatioForLimits_only (paymentFlow : PaymentFlow) :
    OnlyRun allowed (getPriceRatioForLimits paymentFlow) := by
  unfold getPriceRatioForLimits
  split
  · exact OnlyRun.bind (usdFromBtcMidPriceFn_only reads _ _) fun _ => only_ofResult _
  · exact only_ofResult _

theorem newCheckLimits_only (getAccountLimits : AccountLevel → AccountLimits) (group : TxnGroup)
    (check : AccountLimits → LimitCheck) (amount : UsdPaymentAmount) (wallet : WalletDescriptor)
    (priceRatio : PriceRatio) :
    OnlyRun allowed (newCheckLimits getAccountLimits group check amount wallet priceRatio) := by
  refine OnlyRun.bind (only_fallible (ask_reads reads rfl)) fun _ => ?_
  exact OnlyRun.bind (only_fallible (ask_reads reads rfl)) fun _ => only_ofResult _

theorem checkLimitsFor_only (getAccountLimits : AccountLevel → AccountLimits)
    (senderWallet recipientWallet : WalletDescriptor) (amount : UsdPaymentAmount)
    (wallet : WalletDescriptor) (priceRatio : PriceRatio) :
    OnlyRun allowed
      (checkLimitsFor getAccountLimits senderWallet recipientWallet amount wallet priceRatio) := by
  unfold checkLimitsFor
  split
  · exact newCheckLimits_only reads _ _ _ _ _ _
  · exact newCheckLimits_only reads _ _ _ _ _ _

theorem checkBalance_only (paymentFlow : PaymentFlow) (senderWallet : WalletDescriptor) :
    OnlyRun allowed (checkBalance paymentFlow senderWallet) :=
  OnlyRun.bind (only_fallible (ask_reads reads rfl)) fun _ => only_ofResult _

theorem checkNotAborted_only (senderWallet : WalletDescriptor) :
    OnlyRun allowed (checkNotAborted senderWallet) := by
  refine OnlyRun.bind (only_total (ask_reads reads rfl)) fun aborted => ?_
  cases aborted
  · exact OnlyRun.pure _
  · exact OnlyRun.throw _

theorem checkNotInTransit_only (paymentHash : PaymentHash) :
    OnlyRun allowed (SendLightning.checkNotInTransit paymentHash) := by
  refine OnlyRun.bind (only_fallible (ask_reads reads rfl)) fun transactions => ?_
  split
  · exact OnlyRun.throw _
  · exact OnlyRun.pure _

theorem payInvoice_only (decodedInvoice : LnInvoice) (paymentFlow : PaymentFlow)
    (defaultPubkey : Pubkey) :
    OnlyRun allowed (SendLightning.payInvoice decodedInvoice paymentFlow defaultPubkey) := by
  unfold SendLightning.payInvoice
  split
  · refine OnlyRun.bind (only_fallible (ask_reads reads rfl)) fun _ => ?_
    exact OnlyRun.bind (only_total (ask_reads reads rfl)) fun _ => only_ofResult _
  · exact OnlyRun.bind (only_total (ask_reads reads rfl)) fun _ => only_ofResult _

theorem reconstructPendingPaymentFlow_only (paymentHash : PaymentHash) :
    OnlyRun allowed (reconstructPendingPaymentFlow paymentHash) := by
  refine OnlyRun.bind (only_fallible (ask_reads reads rfl)) fun ledgerTxns => ?_
  refine OnlyRun.bind (only_total (ask_reads reads rfl)) fun nonEndUserWalletIds => ?_
  cases ledgerTxns.find? (isPendingPaymentOfEndUser nonEndUserWalletIds) with
  | none => exact OnlyRun.throw _
  | some payment =>
    dsimp only
    cases orUndefined payment.walletId with
    | none => exact OnlyRun.throw _
    | some senderWalletId =>
      refine OnlyRun.bind (only_fallible (ask_reads reads rfl)) fun _ => ?_
      exact OnlyRun.bind (only_fallible (ask_reads reads rfl)) fun _ => only_ofResult _

theorem flowOfPendingPayment_only (index : PaymentFlowStateIndex)
    (marks : allowed (.markLightningPaymentFlowNotPending index)) :
    OnlyRun allowed (flowOfPendingPayment index) := by
  refine OnlyRun.bind (only_attempt (only_fallible (only_ask marks))) fun paymentFlow => ?_
  cases paymentFlow with
  | error error => exact reconstructPendingPaymentFlow_only reads _
  | ok paymentFlow => exact OnlyRun.pure _

omit reads in
theorem reimburseFee_only (paymentFlow : PaymentFlow) (journalId : LedgerJournalId)
    (actualFee : Int) (records : ∀ priceRatio feeDifference paymentHash,
      PriceRatio.make paymentFlow.usdPaymentAmount paymentFlow.btcPaymentAmount = .ok priceRatio →
      getReimbursement ⟨paymentFlow.btcProtocolFee, paymentFlow.usdProtocolFee⟩ priceRatio
        ⟨actualFee⟩ = .ok feeDifference →
      paymentFlow.paymentHashForFlow = .ok paymentHash →
      allowed (.recordReceive (feeReimbursementArgs paymentFlow paymentHash journalId
        feeDifference))) :
    OnlyRun allowed (reimburseFee paymentFlow journalId actualFee) := by
  unfold reimburseFee
  rw [paymentAmountFromNumber_int]
  refine only_ofResult_bind fun actualFeeAmount same => ?_
  obtain rfl := Except.ok.inj same
  refine only_ofResult_bind fun priceRatio made => ?_
  cases reimbursed : getReimbursement ⟨paymentFlow.btcProtocolFee, paymentFlow.usdProtocolFee⟩
      priceRatio ⟨actualFee⟩ with
  | error error => exact OnlyRun.pure _
  | ok feeDifference =>
    dsimp only
    split
    · exact OnlyRun.pure _
    · refine only_ofResult_bind fun paymentHash hashed => ?_
      have allow := records priceRatio feeDifference paymentHash made reimbursed hashed
      exact OnlyRun.bind (only_fallible (only_ask allow)) fun _ => OnlyRun.pure _

theorem recipientBtcWallet_only (recipientWallet : WalletDescriptor) :
    OnlyRun allowed (recipientBtcWallet recipientWallet) := by
  unfold recipientBtcWallet
  split
  · exact OnlyRun.pure _
  · refine OnlyRun.bind (only_fallible (ask_reads reads rfl)) fun wallets => ?_
    cases wallets.find? (·.currency = .btc) with
    | none => exact OnlyRun.throw _
    | some wallet => exact OnlyRun.pure _

theorem reimburseFailedUsdPayment_only (paymentFlow : PaymentFlow) (journalId : LedgerJournalId)
    (records : ∀ paymentHash btcWalletDescriptor, paymentFlow.paymentHashForFlow = .ok paymentHash →
      allowed (.recordReceive
        (failedUsdPaymentArgs paymentFlow paymentHash journalId btcWalletDescriptor))) :
    OnlyRun allowed (reimburseFailedUsdPayment paymentFlow journalId) := by
  refine only_ofResult_bind fun paymentHash hashed => ?_
  refine OnlyRun.bind (only_fallible (ask_reads reads rfl)) fun recipientWallet => ?_
  refine OnlyRun.bind (recipientBtcWallet_only reads recipientWallet) fun btcWallet => ?_
  exact OnlyRun.bind (only_fallible (only_ask (records paymentHash btcWallet hashed)))
    fun _ => OnlyRun.pure _

end Requests

section NeverFail

variable {permit : Permit services} {D : Discipline World} {run : RunId} {keep : World → Prop}
  {err : AppError → World → Prop}
  (step : ∀ c : Call, c.reads → Triple services permit D run keep (ask c) (fun _ => keep))

include step

theorem persistLnPayment_spec (decodedInvoice : LnInvoice) (paymentFlow : PaymentFlow)
    (defaultPubkey : Pubkey) (payResult : Result PayInvoiceResult) :
    Spec services permit D run keep
      (SendLightning.persistLnPayment decodedInvoice paymentFlow defaultPubkey payResult)
      (fun _ => keep) err := by
  cases payResult with
  | error error =>
    unfold SendLightning.persistLnPayment
    dsimp only
    split
    · exact Spec.pure fun _ _ h => h
    · exact total_spec (step _ rfl)
  | ok result => exact Spec.bind (total_spec (step _ rfl)) fun _ => total_spec (step _ rfl)

theorem storePreImage_spec (paymentHash : PaymentHash)
    (revealedPreImage : Option RevealedPreImage) :
    Spec services permit D run keep (storePreImage paymentHash revealedPreImage)
      (fun _ => keep) err := by
  cases revealedPreImage with
  | none => exact Spec.pure fun _ _ h => h
  | some revealedPreImage => exact total_spec (step _ rfl)

end NeverFail

theorem reimburseFee_spec {permit : Permit services} {D : Discipline World} {run : RunId}
    {pre : World → Prop} {err : AppError → World → Prop} {paymentFlow : PaymentFlow}
    {journalId : LedgerJournalId} {priceRatio : PriceRatio} {paymentHash : PaymentHash}
    (actualFee : Int)
    (made : PriceRatio.make paymentFlow.usdPaymentAmount paymentFlow.btcPaymentAmount =
      .ok priceRatio)
    (hashed : paymentFlow.paymentHashForFlow = .ok paymentHash)
    (records : ∀ feeDifference, Spec services permit D run pre
      (fallible (ask (.recordReceive
        (feeReimbursementArgs paymentFlow paymentHash journalId feeDifference))))
      (fun _ => pre) err) :
    Spec services permit D run pre (reimburseFee paymentFlow journalId actualFee)
      (fun _ => pre) err := by
  unfold reimburseFee
  rw [paymentAmountFromNumber_int, hashed]
  refine ofResult_bind_spec (fun _ _ => ?_) (fun _ _ impossible => by cases impossible)
  have price : PriceRatio.make paymentFlow.paymentAmounts.usd paymentFlow.paymentAmounts.btc =
      .ok priceRatio := made
  rw [price]
  refine ofResult_bind_spec (fun _ _ => ?_) (fun _ _ impossible => by cases impossible)
  split
  · exact Spec.pure fun _ _ h => h
  · split
    · exact Spec.pure fun _ _ h => h
    · refine ofResult_bind_spec (fun hash same => ?_) (fun _ _ impossible => by cases impossible)
      obtain rfl := Except.ok.inj same
      exact Spec.bind (records _) fun _ => Spec.pure fun _ _ h => h

end Galoy
