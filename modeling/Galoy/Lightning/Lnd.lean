import Galoy.Ledger.Book
import Mathlib.Data.List.Infix

set_option autoImplicit false

namespace Galoy

abbrev SecretPreImage := String
abbrev RevealedPreImage := String

-- `err[1]`, `err[2].err.details` and `err[2].failures[0][2].err.details` of a rejection of the
-- lightning library, and the message of any other error.
structure LndError where
  message : Option String := none
  code : Option String := none
  details : Option String := none
  failureDetails : Option String := none
  deriving DecidableEq, Repr

def parseLndErrorDetails (err : LndError) : Option String :=
  (orUndefined err.details <|> orUndefined err.failureDetails) <|> err.code

inductive KnownLndErrorDetails where
  | insufficientBalance
  | insufficientBalanceToAttemptPayment
  | invoiceNotFound
  | invoiceAlreadyPaid
  | unableToFindRoute
  | unknownNextPeer
  | lndDbCorruption
  | paymentRejectedByDestination
  | unknownPaymentHash
  | paymentAttemptsTimedOut
  | probeForRouteTimedOut
  | sentPaymentNotFound
  | paymentInTransition
  | paymentForDeleteNotFound
  | secretDoesNotMatchAnyExistingHodlInvoice
  | connectionDropped
  | temporaryChannelFailure
  | invoiceAlreadySettled
  | noConnectionEstablished
  deriving DecidableEq, Repr

namespace KnownLndErrorDetails

def text : KnownLndErrorDetails → String
  | insufficientBalance => "insufficient local balance"
  | insufficientBalanceToAttemptPayment => "InsufficientBalanceToAttemptPayment"
  | invoiceNotFound => "unable to locate invoice"
  | invoiceAlreadyPaid => "invoice is already paid"
  | unableToFindRoute => "PaymentPathfindingFailedToFindPossibleRoute"
  | unknownNextPeer => "UnknownNextPeer"
  | lndDbCorruption => "payment isn't initiated"
  | paymentRejectedByDestination => "PaymentRejectedByDestination"
  | unknownPaymentHash => "UnknownPaymentHash"
  | paymentAttemptsTimedOut => "PaymentAttemptsTimedOut"
  | probeForRouteTimedOut => "ProbeForRouteTimedOut"
  | sentPaymentNotFound => "SentPaymentNotFound"
  | paymentInTransition => "payment is in transition"
  | paymentForDeleteNotFound => "non bucket element in payments bucket"
  | secretDoesNotMatchAnyExistingHodlInvoice => "SecretDoesNotMatchAnyExistingHodlInvoice"
  | connectionDropped => "Connection dropped"
  | temporaryChannelFailure => "TemporaryChannelFailure"
  | invoiceAlreadySettled => "invoice already settled"
  | noConnectionEstablished => "No connection established"

-- `test` of a pattern without special characters; `undefined` is tested as its name.
def test (known : KnownLndErrorDetails) (errDetails : Option String) : Bool :=
  decide (known.text.toList <:+: (errDetails.getD "undefined").toList)

end KnownLndErrorDetails

def LndError.shows (err : LndError) (known : KnownLndErrorDetails) : Bool :=
  known.test (parseLndErrorDetails err)

def handleCommonLightningServiceErrors (err : LndError) : AppError :=
  if err.shows .connectionDropped || err.shows .noConnectionEstablished then
    { name := .OffChainServiceUnavailableError }
  else { name := .UnknownLightningServiceError }

def handleSendPaymentLndErrors (err : LndError) (paymentHash : PaymentHash) : AppError :=
  if err.shows .invoiceAlreadyPaid then { name := .LnAlreadyPaidError }
  else if err.shows .unableToFindRoute then { name := .RouteNotFoundError }
  else if err.shows .unknownNextPeer then { name := .UnknownNextPeerError }
  else if err.shows .paymentRejectedByDestination || err.shows .unknownPaymentHash then
    { name := .InvoiceExpiredOrBadPaymentHashError, message := paymentHash }
  else if err.shows .paymentAttemptsTimedOut then { name := .PaymentAttemptsTimedOutError }
  else if err.shows .paymentInTransition then
    { name := .PaymentInTransitionError, message := paymentHash }
  else if err.shows .temporaryChannelFailure then
    { name := .TemporaryChannelFailureError, message := paymentHash }
  else if err.shows .insufficientBalanceToAttemptPayment then
    { name := .InsufficientBalanceForLnPaymentError }
  else handleCommonLightningServiceErrors err

/-- How the race of a payment with its timer ends; the timer rejects with the message `Timeout`. -/
inductive PaymentRace where
  | confirmed (safeFee : Int) (secret : RevealedPreImage)
  | rejected (err : LndError)
  deriving DecidableEq, Repr

structure PayInvoiceResult where
  roundedUpFee : Int
  revealedPreImage : RevealedPreImage
  sentFromPubkey : Option Pubkey
  deriving DecidableEq, Repr

def PaymentRace.result (race : PaymentRace) (paymentHash : PaymentHash)
    (sentFromPubkey : Option Pubkey) : Except AppError PayInvoiceResult :=
  match race with
  | .confirmed safeFee secret =>
    .ok { roundedUpFee := safeFee, revealedPreImage := secret, sentFromPubkey }
  | .rejected err =>
    if err.message = some "Timeout" then .error { name := .LnPaymentPendingError }
    else .error (handleSendPaymentLndErrors err paymentHash)

theorem handleSendPaymentLndErrors_not_pending (err : LndError) (paymentHash : PaymentHash) :
    (handleSendPaymentLndErrors err paymentHash).name ≠ .LnPaymentPendingError := by
  unfold handleSendPaymentLndErrors handleCommonLightningServiceErrors
  repeat' split
  all_goals exact fun same => ErrorName.noConfusion same

theorem PaymentRace.pending_timeout {race : PaymentRace} {paymentHash : PaymentHash}
    {pubkey : Option Pubkey} {error : AppError}
    (failed : race.result paymentHash pubkey = .error error)
    (pending : error.name = .LnPaymentPendingError) :
    ∃ err : LndError, race = .rejected err ∧ err.message = some "Timeout" := by
  cases race with
  | confirmed fee secret => cases failed
  | rejected err =>
    by_cases timeout : err.message = some "Timeout"
    · exact ⟨err, rfl, timeout⟩
    · simp only [PaymentRace.result, timeout, if_false, Except.error.injEq] at failed
      rw [← failed] at pending
      exact absurd pending (handleSendPaymentLndErrors_not_pending err paymentHash)

structure LnInvoice where
  paymentHash : PaymentHash
  paymentRequest : String
  destination : Pubkey
  paymentAmount : Option BtcPaymentAmount := none
  description : String := ""
  routeHints : List (List Pubkey) := []
  deriving DecidableEq, Repr

structure LnInvoiceLookup where
  paymentHash : PaymentHash
  isSettled : Bool
  isHeld : Bool
  roundedDownReceived : Int
  description : String
  deriving DecidableEq, Repr

inductive PaymentStatus where
  | settled
  | failed
  | pending
  deriving DecidableEq, Repr

structure LnPaymentConfirmedDetails where
  roundedUpFee : Int
  revealedPreImage : Option RevealedPreImage
  deriving DecidableEq, Repr

structure LnPaymentLookup where
  status : PaymentStatus
  confirmedDetails : Option LnPaymentConfirmedDetails := none
  deriving DecidableEq, Repr

end Galoy
