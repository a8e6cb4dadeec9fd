import Galoy.Interleave.Embed
import Galoy.Payments.FlowBuilder
import Galoy.Payments.Flow
import Galoy.Wallets.InvoiceRuns

set_option autoImplicit false

namespace Galoy.Invoicing

open Interleave Interleave.Failing

inductive RateLimitConfig where
  | invoiceCreate
  | invoiceCreateForRecipient
  deriving DecidableEq, Repr

inductive Error where
  | app (error : AppError)
  | rateLimiterExceeded (config : RateLimitConfig)
  | invalidWalletInvoiceBuilderState
  deriving DecidableEq, Repr

structure RegisterInvoiceArgs where
  paymentHash : PaymentHash
  description : String
  descriptionHash : Option String
  sats : Int
  expiresAt : Nat
  deriving DecidableEq, Repr

structure RegisteredInvoice where
  invoice : LnInvoice
  pubkey : Pubkey
  deriving DecidableEq, Repr

structure SecretAndPaymentHash where
  secret : SecretPreImage
  paymentHash : PaymentHash
  deriving DecidableEq, Repr

inductive Call where
  | app (c : Galoy.Call)
  | findById (walletId : WalletId)
  | consumeLimiter (config : RateLimitConfig) (accountId : AccountId)
  | lndService
  | getSatsFromCentsForFutureBuy (amount : UsdPaymentAmount)
  | now
  | getSecretAndPaymentHash
  | registerInvoice (args : RegisterInvoiceArgs)
  | persistNew (walletInvoice : WalletInvoice)
  | deleteUnpaidOlderThan (before : Nat)

@[reducible] def Reply : Call → Type
  | .app c => Galoy.Reply c
  | .findById _ => Except Error WalletDescriptor
  | .consumeLimiter _ _ | .lndService | .persistNew _ => Except Error Unit
  | .getSatsFromCentsForFutureBuy _ => Except Error BtcPaymentAmount
  | .now => Nat
  | .getSecretAndPaymentHash => SecretAndPaymentHash
  | .registerInvoice _ => Except Error RegisteredInvoice
  | .deleteUnpaidOlderThan _ => Unit

-- Of the time stamps of the documents it only matters which of them are older.
@[reducible] def Answer : Call → Type
  | .app c => Galoy.Answer c
  | .findById _ | .persistNew _ => Option RepositoryFault
  | .consumeLimiter _ _ => Bool
  | .lndService => Result Unit
  | .getSatsFromCentsForFutureBuy _ => Result BtcPaymentAmount
  | .now => Nat
  | .getSecretAndPaymentHash => SecretAndPaymentHash
  | .registerInvoice _ => Result RegisteredInvoice
  | .deleteUnpaidOlderThan _ => PaymentHash → Bool

def raised {α : Type} : Result α → Except Error α
  | .error error => .error (.app error)
  | .ok value => .ok value

def recordOf (walletInvoice : WalletInvoice) : WalletInvoiceRecord where
  secret := walletInvoice.secret
  walletId := walletInvoice.recipientWalletDescriptor.id
  currency := walletInvoice.recipientWalletDescriptor.currency
  cents := walletInvoice.usdAmount.map (·.amount)
  selfGenerated := walletInvoice.selfGenerated
  pubkey := walletInvoice.pubkey
  paid := walletInvoice.paid

-- The hash is the `_id` of the document.
def persistNew (w : World) (walletInvoice : WalletInvoice) (fault : Option RepositoryFault) :
    Except Error Unit × World :=
  match fault, w.invoices walletInvoice.paymentHash with
  | some fault, _ => (.error (.app fault.error), w)
  | none, some _ =>
    (.error (.app { name := .UnknownRepositoryError, message := "duplicate key" }), w)
  | none, none =>
    (.ok (), { w with
      invoices :=
        Function.update w.invoices walletInvoice.paymentHash (some (recordOf walletInvoice)) })

def deleteUnpaid (w : World) (older : PaymentHash → Bool) : World :=
  { w with
    invoices := fun paymentHash => (w.invoices paymentHash).filter fun record =>
      record.paid || !older paymentHash }

def serve (run : RunId) (w : World) : (c : Call) → Answer c → Option (Reply c × World)
  | .app c, answer => Galoy.serve run w c answer
  | .findById walletId, fault =>
    some (raised (Stores.answer fault
      (Stores.found (w.wallets walletId) .CouldNotFindWalletFromIdError)), w)
  | .consumeLimiter config _, within =>
    some (if within then .ok () else .error (.rateLimiterExceeded config), w)
  | .lndService, answer => some (raised answer, w)
  | .getSatsFromCentsForFutureBuy _, answer => some (raised answer, w)
  | .now, now => some (now, w)
  | .getSecretAndPaymentHash, drawn => some (drawn, w)
  | .registerInvoice _, answer => some (raised answer, w)
  | .persistNew walletInvoice, fault => some (persistNew w walletInvoice fault)
  | .deleteUnpaidOlderThan _, older => some ((), deleteUnpaid w older)

@[reducible] def services : Service World Call Reply where
  Answer := Answer
  serve := serve

abbrev App (α : Type) := ExceptT Error (Prog Call Reply) α

def ask (c : Call) : Prog Call Reply (Reply c) := Prog.request c

section Builder

structure WIBWithRecipientState where
  description : String
  descriptionHash : Option String
  selfGenerated : Bool
  recipientWalletDescriptor : WalletDescriptor
  deriving DecidableEq, Repr

structure WIBWithAmountState extends WIBWithRecipientState where
  hasAmount : Bool
  btcAmount : BtcPaymentAmount
  usdAmount : Option UsdPaymentAmount := none
  invoiceExpiration : Nat
  deriving DecidableEq, Repr

def defaultExpiration : WalletCurrency → Nat
  | .btc => 60 * 60 * 24
  | .usd => 60 * 5

def invoiceExpirationForCurrency (currency : WalletCurrency) (now : Nat) : Nat :=
  now + defaultExpiration currency

namespace WIBWithRecipientState

variable (state : WIBWithRecipientState)

def withAmount (uncheckedAmount : Option ℚ) : App WIBWithAmountState := do
  match state.recipientWalletDescriptor.currency with
  | .usd =>
    let usdAmount ← ofResult (raised (checkedToUsdPaymentAmount uncheckedAmount))
    let btcAmount ← fallible (ask (.getSatsFromCentsForFutureBuy usdAmount))
    let now ← total (ask .now)
    return { state with
      hasAmount := true
      btcAmount
      usdAmount := some usdAmount
      invoiceExpiration := invoiceExpirationForCurrency .usd now }
  | .btc =>
    let now ← total (ask .now)
    let btcAmount ← ofResult (raised (checkedToBtcPaymentAmount uncheckedAmount))
    return { state with
      hasAmount := true
      btcAmount
      invoiceExpiration := invoiceExpirationForCurrency .btc now }

def withoutAmount : App WIBWithAmountState := do
  let now ← total (ask .now)
  return { state with
    hasAmount := false
    btcAmount := zeroSats
    invoiceExpiration := invoiceExpirationForCurrency .btc now }

end WIBWithRecipientState

structure BuiltInvoice where
  walletInvoice : WalletInvoice
  lnInvoice : LnInvoice

def WIBWithAmountState.registerInvoice (state : WIBWithAmountState) : App BuiltInvoice := do
  let drawn ← total (ask .getSecretAndPaymentHash)
  let registered ← fallible (ask (.registerInvoice {
    paymentHash := drawn.paymentHash
    description := state.description
    descriptionHash := state.descriptionHash
    sats := state.btcAmount.amount
    expiresAt := state.invoiceExpiration }))
  if drawn.paymentHash ≠ registered.invoice.paymentHash then throw .invalidWalletInvoiceBuilderState
  else
    return {
      walletInvoice := {
        paymentHash := drawn.paymentHash
        secret := drawn.secret
        selfGenerated := state.selfGenerated
        pubkey := registered.pubkey
        usdAmount := state.usdAmount
        recipientWalletDescriptor :=
          ⟨state.recipientWalletDescriptor.id, state.recipientWalletDescriptor.currency⟩
        paid := false }
      lnInvoice := registered.invoice }

end Builder

structure AddInvoiceArgs where
  walletId : WalletId
  selfGenerated : Bool
  amount : Option (Option ℚ)
  memo : String := ""
  descriptionHash : Option String := none
  deriving DecidableEq

def addInvoiceForSelf (walletId : WalletId) (amount : Option ℚ) (memo : String) : AddInvoiceArgs :=
  { walletId, selfGenerated := true, amount := some amount, memo }

def addInvoiceNoAmountForSelf (walletId : WalletId) (memo : String) : AddInvoiceArgs :=
  { walletId, selfGenerated := true, amount := none, memo }

def addInvoiceForRecipient (recipientWalletId : WalletId) (amount : Option ℚ) (memo : String)
    (descriptionHash : Option String) : AddInvoiceArgs :=
  { walletId := recipientWalletId, selfGenerated := false, amount :=
    some amount, memo, descriptionHash }

def addInvoiceNoAmountForRecipient (recipientWalletId : WalletId) (memo : String) :
    AddInvoiceArgs :=
  { walletId := recipientWalletId, selfGenerated := false, amount := none, memo }

def AddInvoiceArgs.rateLimitConfig (args : AddInvoiceArgs) : RateLimitConfig :=
  if args.selfGenerated then .invoiceCreate else .invoiceCreateForRecipient

def AddInvoiceArgs.withRecipient (args : AddInvoiceArgs) (wallet : WalletDescriptor) :
    WIBWithRecipientState where
  description := args.memo
  descriptionHash := args.descriptionHash
  selfGenerated := args.selfGenerated
  recipientWalletDescriptor := wallet

def AddInvoiceArgs.buildWithAmount (args : AddInvoiceArgs) (wallet : WalletDescriptor) :
    App WIBWithAmountState :=
  match args.amount with
  | some amount => (args.withRecipient wallet).withAmount amount
  | none => (args.withRecipient wallet).withoutAmount

def addInvoice (args : AddInvoiceArgs) : App LnInvoice := do
  let walletIdChecked ← ofResult (raised (checkedToWalletId args.walletId))
  let wallet ← fallible (ask (.findById walletIdChecked))
  fallible (ask (.consumeLimiter args.rateLimitConfig wallet.accountId))
  fallible (ask .lndService)
  let walletIBWithAmount ← args.buildWithAmount wallet
  let invoice ← walletIBWithAmount.registerInvoice
  fallible (ask (.persistNew invoice.walletInvoice))
  return invoice.lnInvoice

def appEmbedding : Embedding Galoy.Call Galoy.Reply Call Reply where
  call := .app
  reply _ reply := reply

inductive Job where
  | addInvoice (args : AddInvoiceArgs)
  | creditInvoices (credits : InvoiceRun)
  | declineHeldInvoice (pubkey : Pubkey) (paymentHash : PaymentHash)
  | deleteExpiredWalletInvoice (before : Nat)

def Job.prog : Job → Prog Call Reply Unit
  | .addInvoice args => do
    let _ ← (Invoicing.addInvoice args).run
    .pure ()
  | .creditInvoices credits => credits.prog.embed appEmbedding
  | .declineHeldInvoice pubkey paymentHash => do
    let _ ← (Galoy.declineHeldInvoice pubkey paymentHash).run.embed appEmbedding
    .pure ()
  | .deleteExpiredWalletInvoice before => ask (.deleteUnpaidOlderThan before)

end Galoy.Invoicing
