import Galoy.Ledger.Entries

set_option autoImplicit false

namespace Galoy

open AmountCalculator

def ofWallet (walletId : WalletId) : Selection :=
  fun account _ => account = toLedgerAccountId walletId

def Amounts.inCurrency (amounts : Amounts) : WalletCurrency → Int
  | .btc => amounts.btc.amount
  | .usd => amounts.usd.amount

section Customer

variable {bank : BankWallets} {walletId : WalletId} (customer : walletId ∉ bank.getDealerWalletIds)

@[simp] theorem ofWallet_lnd (currency : WalletCurrency) :
    ofWallet walletId lndLedgerAccountDescriptor.id currency = false := rfl

@[simp] theorem ofWallet_wallet (id : WalletId) (currency : WalletCurrency) :
    ofWallet walletId (toLedgerAccountId id) currency = decide (id = walletId) := by
  simp [ofWallet, toLedgerAccountId]

include customer

theorem dealerNet_customer (btc usd : Int) :
    dealerNet (ofWallet walletId) bank.staticAccountIds btc usd = 0 := by
  have notDealer : bank.dealerBtc ≠ walletId ∧ bank.dealerUsd ≠ walletId := by
    simpa [BankWallets.getDealerWalletIds, eq_comm] using customer
  simp [dealerNet, BankWallets.staticAccountIds, notDealer]

theorem conversionNet_customer (total : AmountWithFees) (fee : BankFee)
    (debit credit : WalletCurrency) :
    conversionNet (ofWallet walletId) bank.staticAccountIds total fee debit credit = 0 := by
  cases debit <;> cases credit <;> simp [conversionNet, dealerNet_customer customer]

theorem netOver_recordSend (args : RecordSendArgs) (noFee : args.bankFee = none) :
    netOver (ofWallet walletId) (LedgerFacade.recordSend bank args).transactions =
      -if args.senderWalletDescriptor.id = walletId then
        (args.amountToDebitSender.inCurrency args.senderWalletDescriptor.currency : ℚ) else 0 := by
  rcases args with ⟨description, ⟨id, currency, accountId⟩, ⟨btc, usd⟩, bankFee, metadata⟩
  cases noFee
  refine (netOver_builder_free (ofWallet walletId)
    { staticAccountIds := bank.staticAccountIds, entry := { description }, metadata } ⟨usd, btc⟩
    ⟨toLedgerAccountId id, currency⟩ lndLedgerAccountDescriptor {}).trans ?_
  rw [conversionNet_customer customer]
  cases currency <;> simp [AmountWithFees.inCurrency, Amounts.inCurrency]

theorem netOver_recordReceive (args : RecordReceiveArgs)
    (fee : 0 ≤ (LedgerFacade.actualFee args.bankFee).btc.amount) :
    netOver (ofWallet walletId) (LedgerFacade.recordReceive bank args).transactions =
      (if bank.bankOwner = walletId then ((LedgerFacade.actualFee args.bankFee).btc.amount : ℚ)
        else 0) +
        if args.recipientWalletDescriptor.id = walletId then
          (args.amountToCreditReceiver.inCurrency args.recipientWalletDescriptor.currency : ℚ)
            else 0 := by
  rcases args with ⟨description, ⟨id, currency, accountId⟩, ⟨btc, usd⟩, bankFee, metadata⟩
  refine (netOver_builder (ofWallet walletId)
    { staticAccountIds := bank.staticAccountIds, entry := { description }, metadata }
    ⟨add usd (LedgerFacade.actualFee bankFee).usd, add btc (LedgerFacade.actualFee bankFee).btc⟩
    ⟨(LedgerFacade.actualFee bankFee).usd, (LedgerFacade.actualFee bankFee).btc⟩ fee
    lndLedgerAccountDescriptor ⟨toLedgerAccountId id, currency⟩ {}).trans ?_
  rw [conversionNet_customer customer]
  cases currency <;>
    simp [BankFee.inCurrency, AmountWithFees.inCurrency, Amounts.inCurrency, add,
      BankWallets.staticAccountIds]

theorem netOver_recordIntraledger (args : RecordIntraledgerArgs) :
    netOver (ofWallet walletId) (LedgerFacade.recordIntraledger bank args).transactions =
      -(if args.senderWalletDescriptor.id = walletId then
        (args.amount.inCurrency args.senderWalletDescriptor.currency : ℚ) else 0) +
        if args.recipientWalletDescriptor.id = walletId then
          (args.amount.inCurrency args.recipientWalletDescriptor.currency : ℚ) else 0 := by
  rcases args with ⟨description, ⟨sender, debit, _⟩, ⟨recipient, credit, _⟩, ⟨btc, usd⟩,
    metadata, additional⟩
  refine (netOver_builder_free (ofWallet walletId)
    { staticAccountIds := bank.staticAccountIds, entry := { description }, metadata } ⟨usd, btc⟩
    ⟨toLedgerAccountId sender, debit⟩ ⟨toLedgerAccountId recipient, credit⟩ additional).trans ?_
  rw [conversionNet_customer customer]
  cases debit <;> cases credit <;> simp [AmountWithFees.inCurrency, Amounts.inCurrency]

end Customer

end Galoy
