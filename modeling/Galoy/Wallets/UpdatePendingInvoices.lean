import Galoy.App.World

set_option autoImplicit false

namespace Galoy

open Interleave App

structure WalletInvoiceReceiver where
  recipientWalletDescriptor : PartialWalletDescriptor
  usdToCreditReceiver : UsdPaymentAmount
  btcToCreditReceiver : BtcPaymentAmount
  usdBankFee : UsdPaymentAmount := zeroCents
  btcBankFee : BtcPaymentAmount := zeroSats
  deriving DecidableEq, Repr

def WalletInvoiceReceiver.receivedAmount (receiver : WalletInvoiceReceiver) : Int :=
  match receiver.recipientWalletDescriptor.currency with
  | .btc => receiver.btcToCreditReceiver.amount
  | .usd => receiver.usdToCreditReceiver.amount

def walletInvoiceReceiver (walletInvoice : WalletInvoice) (receivedBtc : BtcPaymentAmount) :
    App WalletInvoiceReceiver := do
  let descriptor := walletInvoice.recipientWalletDescriptor
  match descriptor.currency, walletInvoice.usdAmount with
  | .btc, _ =>
    let usdToCreditReceiver ← usdFromBtcMidPriceFn .updatePendingInvoiceBehindLock receivedBtc
    return ⟨descriptor, usdToCreditReceiver, receivedBtc, zeroCents, zeroSats⟩
  | .usd, some usdAmount => return ⟨descriptor, usdAmount, receivedBtc, zeroCents, zeroSats⟩
  | .usd, none =>
    let usdToCreditReceiver ← fallible (ask (.getCentsFromSatsForImmediateBuy receivedBtc))
    return ⟨descriptor, usdToCreditReceiver, receivedBtc, zeroCents, zeroSats⟩

def declineHeldInvoice (pubkey : Pubkey) (paymentHash : PaymentHash) : App Bool := do
  let _ ← fallible (ask (.lndService .declineHeldInvoice))
  let lookup ← attempt (fallible (ask (.lookupInvoice .declineHeldInvoice pubkey paymentHash)))
  match lookup with
  | .error error =>
    if error.name = .InvoiceNotFoundError then
      fallible (ask (.deleteByPaymentHash .declineHeldInvoice paymentHash))
      return false
    else throw error
  | .ok lnInvoiceLookup =>
    if lnInvoiceLookup.isSettled then
      throw
        { name := .InvalidNonHodlInvoiceError
          message := "\x7b\"paymentHash\":\"" ++ lnInvoiceLookup.paymentHash ++ "\"\x7d" }
    else if !lnInvoiceLookup.isHeld then return false
    else
      fallible (ask (.cancelInvoice .declineHeldInvoice pubkey paymentHash))
      let _ ← attempt (fallible (ask (.deleteByPaymentHash .declineHeldInvoice paymentHash)))
      return true

def lightningReceiveArgs (walletInvoice : WalletInvoice) (description : String)
    (receiver : WalletInvoiceReceiver) (accountId : AccountId) : RecordReceiveArgs where
  description := description
  recipientWalletDescriptor :=
    ⟨receiver.recipientWalletDescriptor.id, receiver.recipientWalletDescriptor.currency, accountId⟩
  amountToCreditReceiver := ⟨receiver.btcToCreditReceiver, receiver.usdToCreditReceiver⟩
  bankFee := some ⟨receiver.btcBankFee, receiver.usdBankFee⟩
  metadata :=
    lnReceiveLedgerMetadata walletInvoice.paymentHash receiver.btcBankFee
      receiver.usdBankFee.amount receiver.usdToCreditReceiver.amount

def settleHeldInvoice (walletInvoice : WalletInvoice) (lnInvoiceLookup : LnInvoiceLookup) :
    App Unit :=
  if lnInvoiceLookup.isSettled then pure ()
  else fallible (ask (.settleInvoice walletInvoice.pubkey walletInvoice.secret))

def creditPendingInvoice (walletInvoice : WalletInvoice) (lnInvoiceLookup : LnInvoiceLookup)
    (receivedBtc : BtcPaymentAmount) : App Bool := do
  let paymentHash := walletInvoice.paymentHash
  let receiver ← walletInvoiceReceiver walletInvoice receivedBtc
  settleHeldInvoice walletInvoice lnInvoiceLookup
  let _ ← fallible (ask (.markAsPaid .updatePendingInvoiceBehindLock paymentHash))
  let recipientWallet ←
    fallible (ask
      (.findWalletById .updatePendingInvoiceBehindLock walletInvoice.recipientWalletDescriptor.id))
  let recipientAccount ←
    fallible (ask (.findAccountById .updatePendingInvoiceBehindLock recipientWallet.accountId))
  let _ ← fallible (ask (.recordReceive
    (lightningReceiveArgs walletInvoice lnInvoiceLookup.description receiver recipientAccount.id)))
  let recipientUser ← fallible (ask (.findUserById recipientAccount.ownerId))
  total (ask (.notify (.lightningTxReceived recipientWallet.accountId recipientWallet.id
    receiver.receivedAmount receiver.recipientWalletDescriptor.currency
    (convertCentsToUsdAsDollars receiver.usdToCreditReceiver.amount) paymentHash
    recipientUser.deviceTokens recipientUser.language)))
  return true

def updatePendingInvoiceBehindLock (walletInvoice : WalletInvoice)
    (lnInvoiceLookup : LnInvoiceLookup) (receivedBtc : BtcPaymentAmount) : App Bool := do
  let invoiceToUpdate ← attempt (fallible (ask
    (.findByPaymentHash .updatePendingInvoiceBehindLock walletInvoice.paymentHash)))
  match invoiceToUpdate with
  | .error error => if error.name.isCouldNotFindError then return false else throw error
  | .ok _ =>
    if walletInvoice.paid then return true
    else creditPendingInvoice walletInvoice lnInvoiceLookup receivedBtc

def updatePendingInvoiceBeforeFinally (walletInvoice : WalletInvoice) : App Bool := do
  let _ ← fallible (ask (.lndService .updatePendingInvoiceBeforeFinally))
  let pubkey := walletInvoice.pubkey
  let paymentHash := walletInvoice.paymentHash
  let lookup ← attempt (fallible (ask
    (.lookupInvoice .updatePendingInvoiceBeforeFinally pubkey paymentHash)))
  match lookup with
  | .error error =>
    if error.name = .InvoiceNotFoundError then
      fallible (ask (.deleteByPaymentHash .updatePendingInvoiceBeforeFinally paymentHash))
      return false
    else throw error
  | .ok lnInvoiceLookup =>
    match checkedToSats lnInvoiceLookup.roundedDownReceived with
    | .error _ => declineHeldInvoice pubkey paymentHash
    | .ok roundedDownReceived =>
      if walletInvoice.paid then return true
      else if !lnInvoiceLookup.isHeld && !lnInvoiceLookup.isSettled then return false
      else
        let receivedBtc ← ofResult (paymentAmountFromNumber .btc roundedDownReceived)
        withLock (.paymentHash paymentHash)
          (updatePendingInvoiceBehindLock walletInvoice lnInvoiceLookup receivedBtc)

-- `if (result)`: an Error is as true as `true`.
def isTruthy : Result Bool → Bool
  | .ok value => value
  | .error _ => true

def updatePendingInvoice (walletInvoice : WalletInvoice) : App Bool := do
  let result ← attempt (updatePendingInvoiceBeforeFinally walletInvoice)
  if isTruthy result && !walletInvoice.paid then
    let invoicePaid ←
      attempt (fallible (ask (.markAsPaid .updatePendingInvoice walletInvoice.paymentHash)))
    match invoicePaid with
    | .error error =>
      if error.name ≠ .CouldNotFindWalletInvoiceError then throw error else ofResult result
    | .ok _ => ofResult result
  else ofResult result

def updatePendingInvoiceByPaymentHash (paymentHash : PaymentHash) : App Bool := do
  let walletInvoice ← attempt (fallible (ask
    (.findByPaymentHash .updatePendingInvoiceByPaymentHash paymentHash)))
  match walletInvoice with
  | .error error => if error.name.isCouldNotFindError then return false else throw error
  | .ok walletInvoice => updatePendingInvoice walletInvoice

def processHeldInvoice (walletInvoice : WalletInvoice) : App Bool :=
  match walletInvoice.recipientWalletDescriptor.currency with
  | .btc => updatePendingInvoice walletInvoice
  | .usd => declineHeldInvoice walletInvoice.pubkey walletInvoice.paymentHash

-- One worker of the cron pass over the cursor of unpaid invoices; results are not looked at.
def handleHeldInvoices : List PaymentHash → Prog Call Reply Unit
  | [] => .pure ()
  | paymentHash :: cursor => do
    let pendingInvoice ← ask (.yieldPending paymentHash)
    match pendingInvoice with
    | none => handleHeldInvoices cursor
    | some walletInvoice =>
      let _ ← (processHeldInvoice walletInvoice).run
      handleHeldInvoices cursor

section Example

def heldInvoice : WalletInvoiceRecord := ⟨"secret", "alice", .btc, none, true, "node", false⟩

def heldInvoiceWorld : World :=
  { World.initial exampleBank with
    invoices := fun hash => if hash = "hash" then some heldInvoice else none
    wallets := fun _ => some ⟨"alice", .btc, "aliceAccount"⟩
    accounts := fun _ => some ⟨"aliceAccount", "aliceUser", none, .one⟩
    users := fun _ => some ⟨"aliceUser", [], "en"⟩ }

def heldInvoiceOutside : Outside where
  defaultPubkey := "node"
  lookupInvoice := ⟨"hash", false, true, 1000, "coffee"⟩
  payment := .confirmed 0 "preimage"
  lookupPayment := { status := .pending }
  midPriceRatio := ⟨⟨1⟩, ⟨50⟩, Int.one_ne_zero, by decide⟩
  immediateBuy := ⟨20⟩

end Example

end Galoy
