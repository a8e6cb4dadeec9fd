import Galoy.App.Alone
import Galoy.Payments.Requests

set_option autoImplicit false

namespace Galoy

open Interleave App

section Conditions

variable (answers : Answers) (w : World) (paymentFlow : PaymentFlow)
  (senderWallet : WalletDescriptor)

def priceRatioAnswer : Result PriceRatio :=
  if paymentFlow.btcPaymentAmount.amount < minSatsForPriceRatioPrecision.amount then
    (answers (.getMidPriceRatio .checkLimits)).bind fun midPriceRatio =>
      PriceRatio.make (midPriceRatio.convertFromBtc minSatsForPriceRatioPrecision)
        minSatsForPriceRatioPrecision
  else PriceRatio.make paymentFlow.usdPaymentAmount paymentFlow.btcPaymentAmount

def Payable : Prop :=
  answers (.getWalletBalanceAmount senderWallet) = none ∧
    paymentFlow.checkBalanceForSend (w.ledger.getWalletBalanceAmount senderWallet) = .ok () ∧
    (∃ priceRatio,
      PriceRatio.make paymentFlow.usdPaymentAmount paymentFlow.btcPaymentAmount = .ok priceRatio) ∧
    answers (.signalAborted (.wallet senderWallet.id)) = false

def FindsAccount (site : Site) (accountId : AccountId) (account : Account) : Prop :=
  answers (.findAccountById site accountId) = none ∧ w.accounts accountId = some account

def FindsUser (userId : UserId) : Prop :=
  ∃ user, answers (.findUserById userId) = none ∧ w.users userId = some user

end Conditions

namespace LnIntraledgerPayment

variable (payment : LnIntraledgerPayment) (getAccountLimits : AccountLevel → AccountLimits)
  (run : RunId) (answers : Answers) (w : World)

def CommitsBehindLock (paymentHash : PaymentHash) (recipientPubkey : Pubkey)
    (recipientWallet : WalletDescriptor) : Prop :=
  answers (.isLnTxRecorded paymentHash) = none ∧ w.ledger.isLnTxRecorded paymentHash = false ∧
    Payable answers w payment.paymentFlow payment.senderWallet ∧
    ∃ recipientWalletDescriptor,
      payment.paymentFlow.recipientWalletDescriptor = some recipientWalletDescriptor ∧
      (answers (.recordIntraledger (SendLightning.intraledgerArgs payment.paymentFlow
        payment.senderWallet recipientWallet payment.senderUsername payment.memo paymentHash
        recipientPubkey recipientWalletDescriptor))).fault = none

def Commits (holds : PaymentHash → Pubkey → WalletDescriptor → Prop) : Prop :=
  ∃ priceRatio, priceRatioAnswer answers payment.paymentFlow = .ok priceRatio ∧
    ∃ paymentHash, payment.paymentFlow.paymentHashForFlow = .ok paymentHash ∧
    ∃ recipientWalletId, orUndefined payment.paymentFlow.recipientWalletId =
      some recipientWalletId ∧
    payment.paymentFlow.recipientWalletCurrency.isSome = true ∧
    ∃ recipientPubkey, orUndefined payment.paymentFlow.recipientPubkey = some recipientPubkey ∧
    answers (.findWalletById .executePaymentViaIntraledger recipientWalletId) = none ∧
    ∃ recipientWallet, w.wallets recipientWalletId = some recipientWallet ∧
    Passes run answers (checkLimitsFor getAccountLimits payment.senderWallet recipientWallet
      payment.paymentFlow.usdPaymentAmount payment.senderWallet priceRatio) w ∧
    answers (.acquire (.wallet payment.senderWallet.id)) = .done ∧
    payment.CommitsBehindLock answers w paymentHash recipientPubkey recipientWallet ∧
    holds paymentHash recipientPubkey recipientWallet

def Delivers (paymentHash : PaymentHash) (recipientPubkey : Pubkey)
    (recipientWallet : WalletDescriptor) : Prop :=
  (answers (.lndService .executePaymentViaIntraledger)).isOk = true ∧
    answers (.cancelInvoice .executePaymentViaIntraledger recipientPubkey paymentHash) = .ok () ∧
    answers (.markAsPaid .executePaymentViaIntraledger paymentHash) = none ∧
    (w.invoices paymentHash).isSome = true ∧
    ∃ account, FindsAccount answers w .executePaymentViaIntraledger
      recipientWallet.accountId account ∧
      FindsUser answers w account.ownerId

def FailsAfterCommit : Prop :=
  payment.Commits getAccountLimits run answers w fun paymentHash recipientPubkey recipientWallet =>
    ¬(Delivers answers w paymentHash recipientPubkey recipientWallet ∧
      answers (.release (.wallet payment.senderWallet.id)) = .done)

end LnIntraledgerPayment

namespace IntraledgerPayment

variable (payment : IntraledgerPayment) (getAccountLimits : AccountLevel → AccountLimits)
  (run : RunId) (answers : Answers) (w : World)

def Commits : Prop :=
  ∃ priceRatio, priceRatioAnswer answers payment.paymentFlow = .ok priceRatio ∧
    Passes run answers (checkLimitsFor getAccountLimits payment.senderWallet payment.recipientWallet
      payment.paymentFlow.usdPaymentAmount payment.senderWallet priceRatio) w ∧
    (orUndefined payment.paymentFlow.recipientWalletId).isSome = true ∧
    payment.paymentFlow.recipientWalletCurrency.isSome = true ∧
    answers (.acquire (.wallet payment.senderWallet.id)) = .done ∧
    Payable answers w payment.paymentFlow payment.senderWallet ∧
    ∃ recipientWalletDescriptor,
      payment.paymentFlow.recipientWalletDescriptor = some recipientWalletDescriptor ∧
    (answers (.recordIntraledger (SendIntraledger.intraledgerArgs payment.paymentFlow
      payment.senderAccount payment.senderWallet payment.recipientWallet payment.memo
      recipientWalletDescriptor))).fault = none

def FailsAfterCommit : Prop :=
  payment.Commits getAccountLimits run answers w ∧
    ¬(FindsUser answers w payment.recipientAccount.ownerId ∧
      answers (.release (.wallet payment.senderWallet.id)) = .done)

def Pays : Prop :=
  payment.Commits getAccountLimits run answers w ∧
    FindsUser answers w payment.recipientAccount.ownerId ∧
    answers (.release (.wallet payment.senderWallet.id)) = .done

end IntraledgerPayment

inductive IntraledgerSend where
  | viaInvoice (payment : LnIntraledgerPayment)
  | viaWalletId (payment : IntraledgerPayment)

namespace IntraledgerSend

def senderWallet : IntraledgerSend → WalletDescriptor
  | viaInvoice payment => payment.senderWallet
  | viaWalletId payment => payment.senderWallet

def prog (getAccountLimits : AccountLevel → AccountLimits) : IntraledgerSend → App PaymentSendStatus
  | viaInvoice payment => payment.prog getAccountLimits
  | viaWalletId payment => payment.prog getAccountLimits

def FailsAfterCommit (getAccountLimits : AccountLevel → AccountLimits) (run : RunId)
    (answers : Answers) (w : World) : IntraledgerSend → Prop
  | viaInvoice payment => payment.FailsAfterCommit getAccountLimits run answers w
  | viaWalletId payment => payment.FailsAfterCommit getAccountLimits run answers w

end IntraledgerSend

structure NothingMoved (run : RunId) (before after : World) : Prop where
  journals : after.ledger.writtenBy run = before.ledger.writtenBy run
  balances : ∀ account, after.ledger.balance account = before.ledger.balance account

section Exits

variable {run : RunId} {before after : World} {fails : Prop} {result : Result PaymentSendStatus}

def ErrorMovesNothing (run : RunId) (before : World) (result : Result PaymentSendStatus)
    (after : World) : Prop :=
  ∀ error, result = .error error → NothingMoved run before after

theorem exit_uncommitted (none : ¬fails) (same : after.ledger = before.ledger) :
    ErrorMovesNothing run before result after ↔ ¬fails := by
  refine iff_of_true (fun _ _ => ⟨?_, fun _ => ?_⟩) none <;> rw [same]

theorem exit_committed {now : Nat} {entry : Entry}
    (committed : after.ledger = before.ledger.commit run now entry)
    (same : (∃ error, result = .error error) ↔ fails) :
    ErrorMovesNothing run before result after ↔ ¬fails := by
  rw [← same]
  constructor
  · rintro moves ⟨error, failed⟩
    have journals := (moves error failed).journals
    rw [committed, Ledger.writtenBy_commit] at journals
    simp at journals
  · intro ok error failed
    exact absurd ⟨error, failed⟩ ok

theorem released_isError {answer : LockAnswer} :
    (∃ error, released answer result = .error error) ↔
      ¬((∃ status, result = .ok status) ∧ answer = .done) := by
  unfold released
  cases answer <;> cases result <;> simp [Stores.lockError]

theorem released_error {answer : LockAnswer} {error : AppError} :
    ∃ other, released answer (.error error : Result PaymentSendStatus) = .error other :=
  released_isError.mpr (by simp)

end Exits

section Runs

variable {run : RunId} {answers : Answers} {w : World} {α : Type} {paymentFlow : PaymentFlow}
  {senderWallet : WalletDescriptor}

theorem priceRatio_alone {post : Result PriceRatio → World → Prop}
    (h : post (priceRatioAnswer answers paymentFlow) w) :
    EndsAlone run answers (getPriceRatioForLimits paymentFlow) w post := by
  unfold getPriceRatioForLimits
  unfold priceRatioAnswer at h
  split
  · rename_i small
    rw [if_pos small] at h
    refine endsRun_bind.mpr (endsRun_bind.mpr (alone_call rfl ?_))
    cases answered : answers (.getMidPriceRatio .checkLimits) with
    | error error => simpa [answered, Except.bind] using h
    | ok midPriceRatio => simpa [answered, Except.bind] using h
  · rename_i large
    rw [if_neg large] at h
    exact alone_ofResult.mpr h

theorem payable_alone {next : App α} {post : Result α → World → Prop}
    (pays : Payable answers w paymentFlow senderWallet → EndsAlone run answers next w post)
    (refused : ¬Payable answers w paymentFlow senderWallet → ∀ error, post (.error error) w) :
    EndsAlone run answers (do
      checkBalance paymentFlow senderWallet
      let _ ← ofResult (PriceRatio.make paymentFlow.usdPaymentAmount paymentFlow.btcPaymentAmount)
      checkNotAborted senderWallet
      next) w post := by
  refine endsRun_bind.mpr (endsRun_bind.mpr (balance_alone (fun read => ?_) fun fault error => ?_))
  · refine alone_ofResult.mpr ?_
    cases covered : paymentFlow.checkBalanceForSend (w.ledger.getWalletBalanceAmount senderWallet)
      with
    | error error => exact refused (by simp [Payable, covered]) error
    | ok _ =>
      refine endsRun_bind.mpr (alone_ofResult.mpr ?_)
      cases made : PriceRatio.make paymentFlow.usdPaymentAmount paymentFlow.btcPaymentAmount with
      | error error => exact refused (by simp [Payable, made]) error
      | ok priceRatio =>
        refine endsRun_bind.mpr (endsRun_bind.mpr (alone_total.mpr (alone_call rfl ?_)))
        cases aborted : answers (.signalAborted (.wallet senderWallet.id)) with
        | true => exact endsRun_throw.mpr (refused (by simp [Payable, aborted]) _)
        | false => exact endsRun_pure.mpr (pays ⟨read, covered, ⟨priceRatio, made⟩, aborted⟩)
  · exact refused (fun payable => fault payable.1) error

theorem notify_alone {userId : UserId} {notification : User → Notification}
    {post : Result PaymentSendStatus → World → Prop}
    (ends : ∀ result, ((∃ status, result = .ok status) ↔ FindsUser answers w userId) →
      post result w) :
    EndsAlone run answers (do
      let user ← fallible (ask (.findUserById userId))
      total (ask (.notify (notification user)))
      return PaymentSendStatus.success) w post := by
  refine endsRun_bind.mpr (findUser_alone (fun works user found => ?_) fun missing error => ?_)
  · refine endsRun_bind.mpr (alone_total.mpr (alone_call rfl (endsRun_pure.mpr ?_)))
    exact ends _ (iff_of_true ⟨_, rfl⟩ ⟨user, works, found⟩)
  · refine ends _ (iff_of_false ?_ missing)
    rintro ⟨_, impossible⟩
    cases impossible

theorem not_ok_iff {result : Result PaymentSendStatus} {error : AppError} {holds : Prop}
    (failed : result = .error error) (fails : ¬holds) : (∃ status, result = .ok status) ↔
      holds := by
  refine iff_of_false ?_ fails
  rintro ⟨_, ok⟩
  cases failed.symm.trans ok

theorem lnRecordAndNotify_alone {recipientWallet recipientWalletDescriptor : WalletDescriptor}
    {senderUsername : Option Username} {memo : Option String} {paymentHash : PaymentHash}
    {recipientPubkey : Pubkey} {recipientWalletId : WalletId}
    {recipientWalletCurrency : WalletCurrency} {post : Result PaymentSendStatus → World → Prop}
    (refused : (answers (.recordIntraledger (SendLightning.intraledgerArgs paymentFlow senderWallet
      recipientWallet senderUsername memo paymentHash recipientPubkey
      recipientWalletDescriptor))).fault ≠ none → ∀ error, post (.error error) w)
    (committed : (answers
        (.recordIntraledger (SendLightning.intraledgerArgs paymentFlow senderWallet recipientWallet
          senderUsername memo paymentHash recipientPubkey
      recipientWalletDescriptor))).fault = none → ∀ result after now entry,
      after.ledger = w.ledger.commit run now entry →
      ((∃ status, result = .ok status) ↔ LnIntraledgerPayment.Delivers answers w paymentHash
        recipientPubkey recipientWallet) → post result after) :
    EndsAlone run answers (SendLightning.recordAndNotify paymentFlow senderWallet recipientWallet
      senderUsername memo paymentHash recipientPubkey recipientWalletId recipientWalletCurrency
      recipientWalletDescriptor) w post := by
  refine endsRun_bind.mpr (recordIntraledger_alone (fun works now => ?_) refused)
  refine endsRun_bind.mpr (alone_call rfl ?_)
  cases reachable : answers (.lndService .executePaymentViaIntraledger) with
  | error error =>
    refine committed works _ _ now _ rfl (not_ok_iff rfl ?_)
    simp [LnIntraledgerPayment.Delivers, reachable, Except.isOk, Except.toBool]
  | ok pubkey =>
    have up : (answers (.lndService .executePaymentViaIntraledger)).isOk = true := by
      rw [reachable]; rfl
    refine endsRun_bind.mpr (alone_call rfl ?_)
    cases cancelled : answers (.cancelInvoice .executePaymentViaIntraledger recipientPubkey
      paymentHash) with
    | error error =>
      refine committed works _ _ now _ rfl (not_ok_iff rfl ?_)
      simp [LnIntraledgerPayment.Delivers, cancelled]
    | ok _ =>
      refine endsRun_bind.mpr (mark_alone (fun marks record stored _ => ?_) fun kept error => ?_)
      · refine endsRun_bind.mpr (findAccount_alone (fun noFault account found => ?_)
          fun missing error => ?_)
        · refine notify_alone fun result same => committed works _ _ now _ rfl (same.trans ?_)
          constructor
          · intro user
            exact ⟨up, cancelled, marks, Option.isSome_iff_exists.mpr ⟨record, stored⟩, account,
              ⟨noFault, found⟩, user⟩
          · rintro ⟨_, _, _, _, other, finds, user⟩
            obtain rfl := Option.some.inj (finds.2.symm.trans found)
            exact user
        · refine committed works _ _ now _ rfl (not_ok_iff rfl ?_)
          rintro ⟨_, _, _, _, account, finds, _⟩
          exact missing ⟨account, finds⟩
      · refine committed works _ _ now _ rfl (not_ok_iff rfl ?_)
        rintro ⟨_, _, marks, stored, _⟩
        rcases kept with fault | absent
        · exact fault marks
        · simp [show w.invoices paymentHash = none from absent] at stored

theorem recordAndNotify_alone {senderAccount recipientAccount : Account}
    {recipientWallet recipientWalletDescriptor : WalletDescriptor} {memo : Option String}
    {recipientWalletCurrency : WalletCurrency} {post : Result PaymentSendStatus → World → Prop}
    (refused : (answers
        (.recordIntraledger (SendIntraledger.intraledgerArgs paymentFlow senderAccount senderWallet
          recipientWallet memo recipientWalletDescriptor))).fault ≠ none →
      ∀ error, post (.error error) w)
    (committed : (answers
        (.recordIntraledger (SendIntraledger.intraledgerArgs paymentFlow senderAccount senderWallet
          recipientWallet memo recipientWalletDescriptor))).fault = none →
      ∀ result after now entry, after.ledger = w.ledger.commit run now entry →
      ((∃ status, result = .ok status) ↔ FindsUser answers w recipientAccount.ownerId) →
      post result after) :
    EndsAlone run answers (SendIntraledger.recordAndNotify paymentFlow senderAccount senderWallet
      recipientAccount recipientWallet memo recipientWalletCurrency recipientWalletDescriptor) w
    post := by
  refine endsRun_bind.mpr (recordIntraledger_alone (fun works now => ?_) refused)
  exact notify_alone fun result same => committed works result _ now _ rfl same

end Runs

section Sends

variable {getAccountLimits : AccountLevel → AccountLimits} {run : RunId}
  {answers : Answers} {w : World} {post : Result PaymentSendStatus → World → Prop}

theorem lnBehindLock_alone {payment : LnIntraledgerPayment} {recipientWallet : WalletDescriptor}
    {paymentHash : PaymentHash} {recipientPubkey : Pubkey} {recipientWalletId : WalletId}
    {recipientWalletCurrency : WalletCurrency}
    (uncommitted : ¬payment.CommitsBehindLock answers w paymentHash recipientPubkey
      recipientWallet →
      ∀ result, post result w)
    (committed : payment.CommitsBehindLock answers w paymentHash recipientPubkey recipientWallet →
      ∀ result after now entry, after.ledger = w.ledger.commit run now entry →
      ((∃ status, result = .ok status) ↔ LnIntraledgerPayment.Delivers answers w paymentHash
        recipientPubkey recipientWallet) → post result after) :
    EndsAlone run answers (SendLightning.executePaymentViaIntraledgerBehindLock payment.paymentFlow
      payment.senderWallet recipientWallet payment.senderUsername payment.memo paymentHash
      recipientPubkey
      recipientWalletId recipientWalletCurrency) w post := by
  unfold LnIntraledgerPayment.CommitsBehindLock at uncommitted committed
  refine endsRun_bind.mpr (isLnTxRecorded_alone (fun works => ?_) fun fault error => ?_)
  · cases recorded : w.ledger.isLnTxRecorded paymentHash with
    | true => exact endsRun_pure.mpr (uncommitted (by simp [recorded]) _)
    | false =>
      refine payable_alone (fun payable => ?_) fun refused error => ?_
      · cases descriptor : payment.paymentFlow.recipientWalletDescriptor with
        | none => exact endsRun_throw.mpr (uncommitted (by simp [descriptor]) _)
        | some recipientWalletDescriptor =>
          refine lnRecordAndNotify_alone (fun fault error => ?_) fun commits => ?_
          · exact uncommitted (by simp [descriptor, fault]) _
          · exact committed ⟨works, recorded, payable, recipientWalletDescriptor,
              descriptor, commits⟩
      · exact uncommitted (by simp [refused]) _
  · exact uncommitted (by simp [fault]) _

theorem viaInvoice_alone (payment : LnIntraledgerPayment)
    (free : w.locks (.wallet payment.senderWallet.id) = none)
    (uncommitted : (∀ holds, ¬payment.Commits getAccountLimits run answers w holds) →
      ∀ result after, after.ledger = w.ledger → post result after)
    (committed : ∀ paymentHash recipientPubkey recipientWallet,
      (∀ holds, payment.Commits getAccountLimits run answers w holds ↔
        holds paymentHash recipientPubkey recipientWallet) →
      ∀ result after now entry, after.ledger = w.ledger.commit run now entry →
      ((∃ status, result = .ok status) ↔ LnIntraledgerPayment.Delivers answers w paymentHash
        recipientPubkey recipientWallet) →
      post (released (answers (.release (.wallet payment.senderWallet.id))) result) after) :
    EndsAlone run answers (payment.prog getAccountLimits) w post := by
  unfold LnIntraledgerPayment.Commits at uncommitted committed
  refine endsRun_bind.mpr (priceRatio_alone ?_)
  cases priced : priceRatioAnswer answers payment.paymentFlow with
  | error error => exact uncommitted (by simp [priced]) _ _ rfl
  | ok priceRatio =>
  refine endsRun_bind.mpr (alone_ofResult.mpr ?_)
  cases hashed : payment.paymentFlow.paymentHashForFlow with
  | error error => exact uncommitted (by simp [hashed]) _ _ rfl
  | ok paymentHash =>
  dsimp only [outcome_ok]
  split
  · rename_i recipientWalletId recipientWalletCurrency recipientPubkey walletId currency pubkey
    refine endsRun_bind.mpr (findWallet_alone (fun noFault recipientWallet found => ?_)
      fun missing error => ?_)
    · refine endsRun_bind.mpr (alone_check (checkLimitsFor_only (fun _ h => h) _ _ _ _ _ _)
        (fun passes _ now => ?_) fun refused error now => ?_)
      · by_cases granted : answers (.acquire (.wallet payment.senderWallet.id)) = .done
        · refine alone_withLock_granted free granted
            (lnBehindLock_alone (fun refused result locks => ?_)
              fun commits result after later entry ledger delivers locks => ?_)
          · have refused : ¬payment.CommitsBehindLock answers w paymentHash recipientPubkey
                recipientWallet := refused
            exact uncommitted (by simp [hashed, walletId, pubkey, found, refused]) _ _ rfl
          · have commits : payment.CommitsBehindLock answers w paymentHash recipientPubkey
                recipientWallet := commits
            refine committed paymentHash recipientPubkey recipientWallet ?_ result
              _ later entry ledger delivers
            simp [priced, hashed, walletId, currency, pubkey, noFault, found, passes,
              granted, commits]
        · refine alone_withLock_refused granted fun error => ?_
          exact uncommitted (by simp [granted]) _ _ rfl
      · exact uncommitted (by simp [priced, walletId, found, refused]) _ _ rfl
    · refine uncommitted ?_ _ _ rfl
      simp only [walletId, Option.some.injEq, exists_eq_left']
      rintro holds ⟨_, _, _, _, _, _, _, works, wallet, found, _⟩
      exact missing ⟨wallet, works, found⟩
  · rename_i incomplete
    refine endsRun_throw.mpr (uncommitted ?_ _ _ rfl)
    rintro holds ⟨_, _, _, _, walletId, isWalletId, isCurrency, pubkey, isPubkey, _⟩
    obtain ⟨currency, isCurrency⟩ := Option.isSome_iff_exists.mp isCurrency
    exact incomplete walletId currency pubkey isWalletId isCurrency isPubkey

theorem viaWalletId_alone (payment : IntraledgerPayment)
    (free : answers (.acquire (.wallet payment.senderWallet.id)) = .done →
      w.locks (.wallet payment.senderWallet.id) = none)
    (uncommitted : ¬payment.Commits getAccountLimits run answers w →
      ∀ result after, (∃ error, result = .error error) → after.ledger = w.ledger →
      post result after)
    (committed : payment.Commits getAccountLimits run answers w →
      ∀ result after now entry, after.ledger = w.ledger.commit run now entry →
      ((∃ status, result = .ok status) ↔ FindsUser answers w payment.recipientAccount.ownerId) →
      post (released (answers (.release (.wallet payment.senderWallet.id))) result) after) :
    EndsAlone run answers (payment.prog getAccountLimits) w post := by
  unfold IntraledgerPayment.Commits at uncommitted committed
  refine endsRun_bind.mpr (priceRatio_alone ?_)
  cases priced : priceRatioAnswer answers payment.paymentFlow with
  | error error => exact uncommitted (by simp [priced]) _ _ ⟨_, rfl⟩ rfl
  | ok priceRatio =>
  refine endsRun_bind.mpr (alone_check (checkLimitsFor_only (fun _ h => h) _ _ _ _ _ _)
    (fun passes _ now => ?_) fun refused error now => ?_)
  · dsimp only [outcome_ok]
    split
    · rename_i recipientWalletId recipientWalletCurrency walletId currency
      by_cases granted : answers (.acquire (.wallet payment.senderWallet.id)) = .done
      · refine alone_withLock_granted (free granted) granted (payable_alone (fun payable => ?_)
          fun refused error locks => ?_)
        · cases descriptor : payment.paymentFlow.recipientWalletDescriptor with
          | none =>
            refine endsRun_throw.mpr fun locks => ?_
            exact uncommitted (by simp [descriptor]) _ _ released_error rfl
          | some recipientWalletDescriptor =>
            refine recordAndNotify_alone (fun fault error locks => ?_)
              fun commits result after later entry ledger finds locks => ?_
            · exact uncommitted (by simp [descriptor, fault]) _ _ released_error rfl
            · exact committed ⟨priceRatio, priced, passes, by simp [walletId], by simp [currency],
                granted, payable, recipientWalletDescriptor, descriptor, commits⟩ result _ later
                  entry ledger finds
        · have refused : ¬Payable answers w payment.paymentFlow payment.senderWallet := refused
          exact uncommitted (by simp [refused]) _ _ released_error rfl
      · refine alone_withLock_refused granted fun error => ?_
        exact uncommitted (by simp [granted]) _ _ ⟨error, rfl⟩ rfl
    · rename_i incomplete
      refine endsRun_throw.mpr (uncommitted ?_ _ _ ⟨_, rfl⟩ rfl)
      rintro ⟨_, _, _, isWalletId, isCurrency, _⟩
      obtain ⟨walletId, isWalletId⟩ := Option.isSome_iff_exists.mp isWalletId
      obtain ⟨currency, isCurrency⟩ := Option.isSome_iff_exists.mp isCurrency
      exact incomplete walletId currency isWalletId isCurrency
  · exact uncommitted (by simp [priced, refused]) _ _ ⟨error, rfl⟩ rfl

theorem viaWalletId_succeeds_iff (payment : IntraledgerPayment)
    (free : answers (.acquire (.wallet payment.senderWallet.id)) = .done →
      w.locks (.wallet payment.senderWallet.id) = none) :
    EndsAlone run answers (payment.prog getAccountLimits) w (fun result _ =>
      (∃ error, result = .error error) ↔ ¬payment.Pays getAccountLimits run answers w) := by
  refine viaWalletId_alone payment free (fun none result after failed _ => ?_)
    fun commits result after now entry committed finds => ?_
  · exact iff_of_true failed fun pays => none pays.1
  · rw [released_isError, finds]
    exact not_congr (and_iff_right commits).symm

end Sends

theorem intraledger_error_moves_nothing_iff (send : IntraledgerSend)
    (getAccountLimits : AccountLevel → AccountLimits) (run : RunId) (answers : Answers) (w : World)
    (free : w.locks (.wallet send.senderWallet.id) = none) :
    EndsAlone run answers (send.prog getAccountLimits) w (fun result after =>
      ErrorMovesNothing run w result after ↔
        ¬send.FailsAfterCommit getAccountLimits run answers w) := by
  cases send with
  | viaInvoice payment =>
    refine viaInvoice_alone payment free (fun none result after same => ?_)
      fun paymentHash recipientPubkey recipientWallet unique result after now entry committed
        delivers => ?_
    · exact exit_uncommitted (none _) same
    · refine exit_committed committed ?_
      rw [released_isError, delivers, IntraledgerSend.FailsAfterCommit,
        LnIntraledgerPayment.FailsAfterCommit, unique]
  | viaWalletId payment =>
    refine viaWalletId_alone payment (fun _ => free) (fun none result after _ same => ?_)
      fun commits result after now entry committed finds => ?_
    · exact exit_uncommitted (fun fails => none fails.1) same
    · refine exit_committed committed ?_
      rw [released_isError, finds]
      exact (and_iff_right commits).symm

section Example

def walletPayment : IntraledgerPayment where
  paymentFlow :=
    { sendFlow "alice" with
      hash := .intraLedgerHash "fresh"
      settlementMethod := .intraLedger
      paymentInitiationMethod := .intraLedger
      recipientWalletId := some "bob"
      recipientWalletCurrency := some .btc
      recipientAccountId := some "bobAccount"
      btcProtocolFee := ⟨0⟩
      usdProtocolFee := ⟨0⟩ }
  senderAccount := ⟨"aliceAccount", "user", none, .one⟩
  senderWallet := sendWallet "alice"
  recipientAccount := ⟨"bobAccount", "user", none, .one⟩
  recipientWallet := sendWallet "bob"

def allWorks : Answers := (sendOutside paymentNoRoute .pending).answers

def usersUnreachable : Answers
  | .findUserById _ => some .cannotConnectToDb
  | c => allWorks c

def cancelFails : Answers
  | .cancelInvoice _ _ _ => .error { name := .UnknownLightningServiceError }
  | c => allWorks c

def commitFails : Answers
  | .recordIntraledger _ => { fault := some "no connection" }
  | c => allWorks c

theorem uncommitted_payments_move_nothing :
    sendWorld.locks (.wallet "alice") = none ∧
    (∃ error after, eval services 0 commitFails (walletPayment.prog sendLimits).run sendWorld =
        some (.error error, after) ∧ NothingMoved 0 sendWorld after) ∧
    ∃ error after, eval services 0 commitFails ((invoicePayment "alice").prog sendLimits).run
      sendWorld =
        some (.error error, after) ∧ NothingMoved 0 sendWorld after := by
  have moved (send : IntraledgerSend) (free : sendWorld.locks (.wallet send.senderWallet.id) = none)
      (uncommitted : ¬send.FailsAfterCommit sendLimits 0 commitFails sendWorld)
      (failed : (eval services 0 commitFails (send.prog sendLimits).run sendWorld).map (·.1.isOk) =
        some false) :
      ∃ error after, eval services 0 commitFails (send.prog sendLimits).run sendWorld =
        some (.error error, after) ∧ NothingMoved 0 sendWorld after := by
    obtain ⟨result, after, evaluated, holds⟩ :=
      intraledger_error_moves_nothing_iff send sendLimits 0 commitFails sendWorld free
    cases result with
    | ok status => simp [evaluated, Except.isOk, Except.toBool] at failed
    | error error => exact ⟨error, after, evaluated, holds.mpr uncommitted error rfl⟩
  refine ⟨rfl, moved (.viaWalletId walletPayment) rfl ?_ (by decide +kernel),
    moved (.viaInvoice (invoicePayment "alice")) rfl ?_ (by decide +kernel)⟩
  · rintro ⟨⟨_, _, _, _, _, _, _, _, _, commits⟩, _⟩
    cases commits
  · rintro ⟨_, _, _, _, _, _, _, _, _, _, _, _, _, _, ⟨_, _, _, _, _, commits⟩, _⟩
    cases commits

theorem intraledger_error_after_payment :
    sendWorld.balance "alice" = 10000 ∧
    (∃ error after, eval services 0 usersUnreachable (walletPayment.prog sendLimits).run sendWorld =
        some (.error error, after) ∧ after.balance "alice" = 9000 ∧ after.balance "bob" = 11000) ∧
    ∃ error after, eval services 0 cancelFails ((invoicePayment "alice").prog sendLimits).run
      sendWorld =
        some (.error error, after) ∧ after.balance "alice" = 9000 ∧
          after.balance "carol" = 1000 := by
  have errors {answers : Answers} {x : App PaymentSendStatus} {recipient : WalletId} {left got : ℚ}
      (played : (eval services 0 answers x.run sendWorld).map (fun ended =>
        (ended.1.isOk, ended.2.balance "alice", ended.2.balance recipient)) =
          some (false, left, got)) :
      ∃ error after, eval services 0 answers x.run sendWorld = some (.error error, after) ∧
        after.balance "alice" = left ∧ after.balance recipient = got := by
    obtain ⟨⟨result, after⟩, ended, shown⟩ := Option.map_eq_some_iff.mp played
    simp only [Prod.mk.injEq] at shown
    cases result with
    | ok status => cases shown.1
    | error error => exact ⟨error, after, ended, shown.2⟩
  have viaWalletId : (eval services 0 usersUnreachable (walletPayment.prog sendLimits).run
      sendWorld).map (fun ended => (ended.1.isOk, ended.2.balance "alice", ended.2.balance "bob")) =
      some (false, 9000, 11000) := by
    decide +kernel
  have viaInvoice : (eval services 0 cancelFails ((invoicePayment "alice").prog sendLimits).run
      sendWorld).map (fun ended =>
        (ended.1.isOk, ended.2.balance "alice", ended.2.balance "carol")) =
      some (false, 9000, 1000) := by
    decide +kernel
  exact ⟨by decide +kernel, errors viaWalletId, errors viaInvoice⟩

end Example

end Galoy
