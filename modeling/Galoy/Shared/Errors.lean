import Mathlib.Logic.Basic

set_option autoImplicit false

namespace Galoy

/-- The error classes that the modelled functions build or test with `instanceof`. -/
inductive ErrorName where
  | Error
  | InconsistentDataError
  | UnknownRepositoryError
  | CannotConnectToDbError
  | DbConnectionClosedError
  | RepositoryError
  | CouldNotFindWalletInvoiceError
  | CouldNotFindUserFromIdError
  | CouldNotFindWalletFromIdError
  | CouldNotFindWalletFromOnChainAddressError
  | CouldNotFindWalletFromOnChainAddressesError
  | CouldNotListWalletsFromAccountIdError
  | CouldNotFindError
  | CouldNotFindAccountFromUsernameError
  | CouldNotFindLightningPaymentFlowError
  | CouldNotUpdateLightningPaymentFlowError
  | CouldNotFindBtcWalletForAccountError
  | CouldNotFindLnPaymentFromHashError
  | RewardAlreadyPresentError
  | InvalidQuizQuestionIdError
  | NoBtcWalletExistsForAccountError
  | InvalidPhoneMetadataForRewardError
  | InvalidIPMetadataForRewardError
  | InvalidOnChainAddress
  | InvalidCurrencyBaseAmountError
  | InactiveAccountError
  | InvalidWalletId
  | InvalidTargetConfirmations
  | InvalidWithdrawFeeError
  | LessThanDustThresholdError
  | RebalanceNeededError
  | InsufficientOnChainFundsError
  | CPFPAncestorLimitReachedError
  | InvalidAccountStatusError
  | InvalidContactAlias
  | ContactNotExistentError
  | InvalidSatoshiAmountError
  | InvalidBtcPaymentAmountError
  | InvalidUsdPaymentAmountError
  | UsdAmountTooLargeError
  | BtcAmountTooLargeError
  | BigIntFloatConversionError
  | InvalidLedgerTransactionStateError
  | InvalidCurrencyForWalletError
  | InsufficientBalanceError
  | InvalidNonHodlInvoiceError
  | WithdrawalLimitsExceededError
  | IntraledgerLimitsExceededError
  | TradeIntraAccountLimitsExceededError
  | InvalidZeroAmountPriceRatioInputError
  | LnPaymentRequestInTransitError
  | LnPaymentRequestNonZeroAmountRequiredError
  | LnPaymentRequestZeroAmountRequiredError
  | LnHashPresentInIntraLedgerFlowError
  | IntraLedgerHashPresentInLnFlowError
  | NonLnPaymentTransactionForPaymentFlowError
  | MissingPropsInTransactionForPaymentFlowError
  | InvalidLightningPaymentFlowBuilderStateError
  | InvalidLightningPaymentFlowStateError
  | SelfPaymentError
  | AlreadyPaidError
  | ZeroAmountForUsdRecipientError
  | SkipProbeForPubkeyError
  | BadInputsForFindError
  | NoExpiredLightningPaymentFlowsError
  | FeeDifferenceError
  | CouldNotFindTransactionError
  | CouldNotFindTransactionMetadataError
  | NoTransactionToSettleError
  | NoTransactionToUpdateError
  | UnknownLedgerError
  | NotImplementedError
  | NotReachableError
  | DuplicateError
  | ResourceAttemptsLockServiceError
  | ResourceExpiredLockServiceError
  | UnknownLockServiceError
  | UnknownLightningServiceError
  | SecretDoesNotMatchAnyExistingHodlInvoiceError
  | InvoiceNotFoundError
  | LnPaymentPendingError
  | LnAlreadyPaidError
  | OffChainServiceUnavailableError
  | NoValidNodeForPubkeyError
  | PaymentNotFoundError
  | BadPaymentDataError
  | RouteNotFoundError
  | UnknownNextPeerError
  | InsufficientBalanceForLnPaymentError
  | InvoiceExpiredOrBadPaymentHashError
  | PaymentAttemptsTimedOutError
  | PaymentInTransitionError
  | TemporaryChannelFailureError
  | DealerPriceServiceError
  | PriceServiceError
  deriving DecidableEq, Repr

structure AppError where
  name : ErrorName
  message : String := ""
  deriving DecidableEq, Repr

-- CouldNotFindError and its subclasses.
def ErrorName.isCouldNotFindError : ErrorName → Bool
  | .CouldNotFindWalletInvoiceError
  | .CouldNotFindUserFromIdError
  | .CouldNotFindWalletFromIdError
  | .CouldNotFindWalletFromOnChainAddressError
  | .CouldNotFindWalletFromOnChainAddressesError
  | .CouldNotListWalletsFromAccountIdError
  | .CouldNotFindError
  | .CouldNotFindAccountFromUsernameError
  | .CouldNotFindLightningPaymentFlowError
  | .CouldNotUpdateLightningPaymentFlowError
  | .NoExpiredLightningPaymentFlowsError
  | .CouldNotFindBtcWalletForAccountError
  | .CouldNotFindLnPaymentFromHashError
  | .NoTransactionToUpdateError => true
  | _ => false

structure PartialResult (α : Type) where
  result : Option α
  error : Option AppError
  deriving DecidableEq, Repr

namespace PartialResult

variable {α : Type}

def ok (result : α) : PartialResult α := ⟨some result, none⟩

def partly (result : α) (error : AppError) : PartialResult α := ⟨some result, some error⟩

def err (error : AppError) : PartialResult α := ⟨none, some error⟩

end PartialResult

theorem bind_eq_ok {ε α β : Type} {first : Except ε α} {rest : α → Except ε β} {value : β}
    (passed : (first >>= rest) = .ok value) : ∃ middle, first = .ok middle ∧
      rest middle = .ok value := by
  cases first with
  | error error => cases passed
  | ok middle => exact ⟨middle, rfl, passed⟩

theorem map_eq_ok {ε α β : Type} {first : Except ε α} {next : α → β} {value : β}
    (passed : first.map next = .ok value) : ∃ middle, first = .ok middle ∧ next middle = value := by
  cases first with
  | error error => cases passed
  | ok middle => exact ⟨middle, rfl, Except.ok.inj passed⟩

end Galoy
