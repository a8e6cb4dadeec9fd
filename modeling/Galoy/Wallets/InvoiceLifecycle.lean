import Galoy.Ledger.Customers
import Galoy.Wallets.AddInvoice

set_option autoImplicit false

namespace Galoy.Invoicing

open Interleave

structure Made where
  walletId : WalletId
  currency : WalletCurrency
  cents : Option Int
  deriving DecidableEq, Repr

def madeOf (record : WalletInvoiceRecord) : Made := ⟨record.walletId, record.currency, record.cents⟩

def AddInvoiceArgs.cents (args : AddInvoiceArgs) : WalletCurrency → Option Int
  | .btc => none
  | .usd => args.amount.bind fun amount => amount.map fun cents => ⌊cents⌋

def AddInvoiceArgs.made (args : AddInvoiceArgs) (wallets : WalletId → Option WalletDescriptor) :
    Option Made :=
  (wallets args.walletId).map fun wallet => ⟨wallet.id, wallet.currency, args.cents wallet.currency⟩

structure CreditsOnly (bank : BankWallets) (made : Made) (journal : Journal) : Prop where
  others : ∀ walletId ∉ bank.getDealerWalletIds, walletId ≠ made.walletId →
    netOver (ofWallet walletId) journal.legs = 0
  btc : made.walletId ∉ bank.getDealerWalletIds → made.currency = .btc →
    0 < netOver (ofWallet made.walletId) journal.legs
  usd : made.walletId ∉ bank.getDealerWalletIds → made.currency = .usd →
    ∀ cents, made.cents = some cents → cents ≠ 0 →
      netOver (ofWallet made.walletId) journal.legs = cents

def Call.steady : Call → Bool
  | .app _ | .persistNew _ | .deleteUnpaidOlderThan _ => false
  | _ => true

structure Scene where
  start : World
  jobs : RunId → Job
  owner : PaymentHash → RunId

namespace Scene

variable (S : Scene)

def origin (paymentHash : PaymentHash) : Option Made :=
  match S.start.invoices paymentHash, S.jobs (S.owner paymentHash) with
  | some record, _ => some (madeOf record)
  | none, .addInvoice args => args.made S.start.wallets
  | none, _ => none

/-- No two runs draw the same secret, and none draws that of a stored invoice. -/
def drawsFresh : Permit services := fun run _ c a =>
  match c, a with
  | .getSecretAndPaymentHash, drawn =>
    S.owner drawn.paymentHash = run ∧ S.start.invoices drawn.paymentHash = none
  | _, _ => True

instance (run : RunId) (w : World) (c : Call) (a : services.Answer c) :
    Decidable (S.drawsFresh run w c a) :=
  match c, a with
  | .getSecretAndPaymentHash, _ => inferInstanceAs (Decidable (_ ∧ _))
  | .app _, _ | .findById _, _ | .consumeLimiter _ _, _ | .lndService,
    _ | .getSatsFromCentsForFutureBuy _, _
  | .now, _ | .registerInvoice _, _ | .persistNew _, _ | .deleteUnpaidOlderThan _, _ =>
    isTrue trivial

structure Faithful (w : World) : Prop where
  bank : w.bank = S.start.bank
  wallets : w.wallets = S.start.wallets
  stored : ∀ paymentHash record, w.invoices paymentHash = some record →
    S.origin paymentHash = some (madeOf record)
  grown : S.start.ledger.journals.length ≤ w.ledger.journals.length
  credited : ∀ journal ∈ w.ledger.journals.drop S.start.ledger.journals.length, ∀ paymentHash,
    journal.isReceiveFor paymentHash = true →
    ∃ made, S.origin paymentHash = some made ∧ CreditsOnly S.start.bank made journal

def lifecycle : Discipline World where
  inv := S.Faithful
  rely _ _ _ := True
  rely_refl _ _ := trivial
  rely_trans _ _ _ _ _ _ := trivial

abbrev AppSpec {α : Type} (run : RunId) (x : Galoy.App α) (ok : α → World → Prop) : Prop :=
  Spec Galoy.services (anyStep _) S.lifecycle run (fun _ => True) x ok (fun _ _ => True)

abbrev JobSpec {α : Type} (run : RunId) (x : App α) (ok : α → World → Prop) : Prop :=
  Spec services S.drawsFresh S.lifecycle run (fun _ => True) x ok (fun _ _ => True)

variable {S} {run : RunId} {before after : World}

theorem faithful_start : S.Faithful S.start := by
  refine ⟨rfl, rfl, fun paymentHash record stored => ?_, le_refl _, fun journal member => ?_⟩
  · rw [origin, stored]
  · simp at member

theorem Faithful.step (good : S.Faithful before) (bank : after.bank = before.bank)
    (wallets : after.wallets = before.wallets) (ledger : after.ledger = before.ledger)
    (invoices : ∀ paymentHash record, after.invoices paymentHash = some record →
      ∃ old, before.invoices paymentHash = some old ∧ madeOf old = madeOf record) :
    S.Faithful after := by
  refine ⟨bank.trans good.bank, wallets.trans good.wallets, fun paymentHash record stored =>
    ?_, ?_, ?_⟩
  · obtain ⟨old, found, same⟩ := invoices paymentHash record stored
    rw [← same]
    exact good.stored paymentHash old found
  · rw [ledger]
    exact good.grown
  · rw [ledger]
    exact good.credited

section App

open App

theorem invoices_kept {c : Galoy.Call} {a : Galoy.Answer c} {reply : Galoy.Reply c}
    (served : Galoy.serve run before c a = some (reply, after)) (paymentHash : PaymentHash)
    (record : WalletInvoiceRecord) (stored : after.invoices paymentHash = some record) :
    ∃ old, before.invoices paymentHash = some old ∧ madeOf old = madeOf record := by
  by_cases part : c.part = .invoices
  · cases c
    case markAsPaid site hash =>
      obtain ⟨_, rfl⟩ | ⟨paid, found, _, rfl⟩ := World.markAsPaid_inversion served
      · exact ⟨record, stored, rfl⟩
      · by_cases same : paymentHash = hash
        · subst same
          simp only [Function.update_self, Option.some.injEq] at stored
          exact ⟨paid, found, by rw [← stored]; rfl⟩
        · exact ⟨record, (Function.update_of_ne same ..).symm.trans stored, rfl⟩
    case deleteByPaymentHash site hash =>
      obtain ⟨_, rfl⟩ | ⟨_, rfl⟩ := World.deleteByPaymentHash_inversion served
      · exact ⟨record, stored, rfl⟩
      · by_cases same : paymentHash = hash
        · subst same
          simp at stored
        · exact ⟨record, (Function.update_of_ne same ..).symm.trans stored, rfl⟩
    all_goals cases part
  · rw [(serve_frame served).invoices part] at stored
    exact ⟨record, stored, rfl⟩

theorem quiet_guaranteed {c : Galoy.Call} {a : Galoy.Answer c} {reply : Galoy.Reply c}
    (quiet : c.part ≠ .ledger) (good : S.Faithful before)
    (served : Galoy.serve run before c a = some (reply, after)) :
    S.lifecycle.Guaranteed run before after := by
  have frame := serve_frame served
  exact ⟨good.step frame.bank frame.wallets (frame.ledger quiet) (invoices_kept served),
    fun _ _ => trivial⟩

def Known (S : Scene) (walletInvoice : WalletInvoice) : Prop :=
  ∃ made, S.origin walletInvoice.paymentHash = some made ∧
    walletInvoice.recipientWalletDescriptor = ⟨made.walletId, made.currency⟩ ∧
    walletInvoice.usdAmount = (made.cents.filter (· ≠ 0)).map (⟨·⟩)

theorem stored_known {w : World} {paymentHash : PaymentHash} {record : WalletInvoiceRecord}
    (good : S.Faithful w) (stored : w.invoices paymentHash = some record) :
    S.Known (walletInvoiceFromRaw paymentHash record) :=
  ⟨madeOf record, good.stored paymentHash record stored, rfl, rfl⟩

structure ReceiverOf (walletInvoice : WalletInvoice) (receivedBtc : BtcPaymentAmount)
    (receiver : WalletInvoiceReceiver) : Prop where
  descriptor : receiver.recipientWalletDescriptor = walletInvoice.recipientWalletDescriptor
  btc : receiver.btcToCreditReceiver = receivedBtc
  fee : receiver.btcBankFee = zeroSats
  usd : walletInvoice.recipientWalletDescriptor.currency = .usd → ∀ usdAmount,
    walletInvoice.usdAmount = some usdAmount → receiver.usdToCreditReceiver = usdAmount

section Credits

variable {walletInvoice : WalletInvoice} {receivedBtc : BtcPaymentAmount}
  {receiver : WalletInvoiceReceiver}

theorem creditsOnly_of_receiver {made : Made} {bank : BankWallets} {journal : Journal}
    (description : String) (accountId : AccountId)
    (legs : journal.legs = (LedgerFacade.recordReceive bank
      (lightningReceiveArgs walletInvoice description receiver accountId)).transactions)
    (descriptor : walletInvoice.recipientWalletDescriptor = ⟨made.walletId, made.currency⟩)
    (usdAmount : walletInvoice.usdAmount = (made.cents.filter (· ≠ 0)).map (⟨·⟩))
    (receives : ReceiverOf walletInvoice receivedBtc receiver) (positive : 0 < receivedBtc.amount) :
    CreditsOnly bank made journal := by
  have sameDescriptor := receives.descriptor.trans descriptor
  have net : ∀ walletId ∉ bank.getDealerWalletIds,
      netOver (ofWallet walletId) journal.legs = if made.walletId = walletId then
        ((Amounts.inCurrency ⟨receiver.btcToCreditReceiver, receiver.usdToCreditReceiver⟩
          made.currency : Int) : ℚ)
        else 0 := by
    intro walletId customer
    have noFee : (LedgerFacade.actualFee
        (lightningReceiveArgs walletInvoice description receiver accountId).bankFee).btc.amount =
          0 :=
      congrArg Amount.amount receives.fee
    rw [legs, netOver_recordReceive customer _ noFee.ge, noFee]
    simp [lightningReceiveArgs, sameDescriptor]
  refine ⟨fun walletId customer other => ?_, fun customer isBtc =>
    ?_, fun customer isUsd cents isCents nonzero => ?_⟩
  · rw [net walletId customer, if_neg fun same => other same.symm]
  · rw [net made.walletId customer, if_pos rfl, isBtc, receives.btc]
    exact_mod_cast positive
  · have amount : walletInvoice.usdAmount = some ⟨cents⟩ := by
      rw [usdAmount, isCents]
      simp [Option.filter, nonzero]
    have credit := receives.usd (by rw [descriptor]; exact isUsd) ⟨cents⟩ amount
    rw [net made.walletId customer, if_pos rfl, isUsd, credit]
    rfl

theorem receive_guaranteed {description : String} {accountId : AccountId} {a : TimedAnswer}
    {reply : Result LedgerJournalId} (known : S.Known walletInvoice)
    (receives : ReceiverOf walletInvoice receivedBtc receiver) (positive : 0 < receivedBtc.amount)
    (good : S.Faithful before)
    (served : Galoy.serve run before
      (.recordReceive (lightningReceiveArgs walletInvoice description receiver accountId)) a =
        some (reply, after)) :
    S.lifecycle.Guaranteed run before after := by
  refine ⟨?_, fun _ _ => trivial⟩
  obtain ⟨_, _, rfl⟩ | ⟨_, now, rfl⟩ := World.commit_inversion served
  · exact good
  obtain ⟨made, isMade, descriptor, usdAmount⟩ := known
  refine ⟨good.bank, good.wallets, good.stored, ?_, fun journal member paymentHash receive => ?_⟩
  · simp only [Ledger.commit, List.length_append]
    exact Nat.le_add_right_of_le good.grown
  · simp only [Ledger.commit, List.drop_append_of_le_length good.grown, List.mem_append, List.mem_singleton] at member
    rcases member with old | rfl
    · exact good.credited journal old paymentHash receive
    · -- Every leg of the new entry carries the hash of the invoice.
      have isHash : walletInvoice.paymentHash = paymentHash := by
        obtain ⟨leg, inEntry, isReceive⟩ := List.any_eq_true.mp receive
        obtain ⟨additional, tagged⟩ := recordReceive_tagged before.bank _ leg inEntry
        simp only [Bool.and_eq_true, Leg.ofHash, decide_eq_true_eq, tagged,
          TxMetadata.override] at isReceive
        exact Option.some.inj isReceive.2
      rw [isHash] at isMade
      refine ⟨made, isMade, ?_⟩
      rw [← good.bank]
      exact creditsOnly_of_receiver description accountId rfl descriptor usdAmount receives positive

end Credits

section Runs

variable {walletInvoice : WalletInvoice} {receivedBtc : BtcPaymentAmount}

theorem quiet_spec {α : Type} {x : Galoy.App α} (only : OnlyRun (fun c => c.part ≠ .ledger) x) :
    S.AppSpec run x (fun _ _ => True) :=
  Spec.ofOnly (S.lifecycle.stable_true run)
    (fun _ quiet _ _ _ _ good _ _ served => ⟨quiet_guaranteed quiet good served, trivial⟩) only

theorem reads_quiet (c : Galoy.Call) (reads : c.reads) : c.part ≠ .ledger := by
  rw [reads]
  decide

theorem walletInvoiceReceiver_spec : S.AppSpec run (walletInvoiceReceiver walletInvoice receivedBtc)
    (fun receiver _ => ReceiverOf walletInvoice receivedBtc receiver) := by
  unfold walletInvoiceReceiver
  dsimp only
  split
  · rename_i isBtc
    refine Spec.bind (quiet_spec (usdFromBtcMidPriceFn_only reads_quiet _ _)) fun _ => ?_
    exact Spec.pure fun _ _ _ => ⟨rfl, rfl, rfl, fun isUsd => by rw [isBtc] at isUsd; cases isUsd⟩
  · rename_i usdAmount _ isAmount
    refine Spec.pure fun _ _ _ => ⟨rfl, rfl, rfl, fun _ amount isSome => ?_⟩
    exact Option.some.inj (isAmount.symm.trans isSome)
  · rename_i noAmount
    refine Spec.bind (quiet_spec (only_fallible (ask_reads reads_quiet rfl))) fun _ => ?_
    exact Spec.pure fun _ _ _ =>
      ⟨rfl, rfl, rfl, fun _ amount isSome => by rw [noAmount] at isSome; cases isSome⟩

theorem creditPendingInvoice_spec (lookup : LnInvoiceLookup) (known : S.Known walletInvoice)
    (positive : 0 < receivedBtc.amount) :
    S.AppSpec run (creditPendingInvoice walletInvoice lookup receivedBtc) (fun _ _ => True) := by
  refine Spec.bind walletInvoiceReceiver_spec fun receiver => Spec.of_fact fun receives => ?_
  refine Spec.bind (quiet_spec (settleHeldInvoice_only reads_quiet _ _)) fun _ => ?_
  refine Spec.bind (quiet_spec (only_fallible (only_ask (by simp [Galoy.Call.part])))) fun _ => ?_
  refine Spec.bind (quiet_spec (only_fallible (ask_reads reads_quiet rfl)))
    fun recipientWallet => ?_
  refine Spec.bind (quiet_spec (only_fallible (ask_reads reads_quiet rfl)))
    fun recipientAccount => ?_
  refine Spec.seq (fun _ _ => True) (fallible_spec (ask_triple (Discipline.stable_true _ run) ?_))
    fun _ => ?_
  · intro before a reply after good _ _ served
    refine ⟨receive_guaranteed known receives positive good served, ?_⟩
    cases reply <;> trivial
  refine Spec.bind (quiet_spec (only_fallible (ask_reads reads_quiet rfl))) fun _ => ?_
  exact Spec.bind (quiet_spec (only_total (ask_reads reads_quiet rfl))) fun _ =>
    Spec.pure fun _ _ h => h

theorem locked_spec (lookup : LnInvoiceLookup) (known : S.Known walletInvoice)
    (positive : 0 < receivedBtc.amount) :
    S.AppSpec run (withLock (.paymentHash walletInvoice.paymentHash)
      (updatePendingInvoiceBehindLock walletInvoice lookup receivedBtc)) (fun _ _ => True) := by
  have lock {c : Galoy.Call} (isLock : c.part = .locks) : (Galoy.ask c).Only
      (fun c => c.part ≠ .ledger) :=
    only_ask (by simp [isLock])
  refine withLock_spec (quiet_spec (only_fallible (lock rfl))) ?_
    (fun _ => quiet_spec (only_fallible (lock rfl)))
      (fun _ => quiet_spec (only_fallible (lock rfl)))
  refine Spec.bind (quiet_spec (only_attempt (only_fallible (ask_reads reads_quiet rfl))))
    fun result => ?_
  cases result with
  | error error =>
    dsimp only
    split
    · exact Spec.pure fun _ _ h => h
    · exact Spec.throw fun _ _ h => h
  | ok invoice =>
    dsimp only
    split
    · exact Spec.pure fun _ _ h => h
    · exact creditPendingInvoice_spec lookup known positive

theorem credits_spec (credits : InvoiceRun) :
    Triple Galoy.services (anyStep _) S.lifecycle run (fun _ => True) credits.prog
      (fun _ _ => True) := by
  refine invoiceRun_run ?_ (fun _ lookup _ known positive => locked_spec lookup known positive)
    (fun w paymentHash record good stored => stored_known good stored) credits
  intro c quiet before a reply after good _ served
  refine quiet_guaranteed ?_ good served
  rcases quiet with part | part <;> simp [part]

theorem decline_spec (pubkey : Pubkey) (paymentHash : PaymentHash) :
    S.AppSpec run (Galoy.declineHeldInvoice pubkey paymentHash) (fun _ _ => True) := by
  refine quiet_spec (declineHeldInvoice_only reads_quiet (fun c part => ?_) pubkey paymentHash)
  simp [part]

end Runs

end App

theorem app_within : appEmbedding.Within Galoy.services (anyStep _) S.lifecycle services
    S.drawsFresh S.lifecycle run id where
  inv _ good := good
  rely _ _ _ := trivial
  step _ _ a _ _ _ _ served := ⟨a, trivial, served, fun kept => kept⟩

open Interleave.Failing

section AddInvoice

theorem serve_steady {c : Call} {a : Answer c} {reply : Reply c} (steady : c.steady = true)
    (served : serve run before c a = some (reply, after)) : after = before := by
  cases c <;> first | (cases served; rfl) | cases steady

theorem steady_triple {c : Call} {fact : Reply c → Prop} (steady : c.steady = true)
    (said : ∀ before a reply after, S.Faithful before → S.drawsFresh run before c a →
      serve run before c a = some (reply, after) → fact reply) :
    Triple services S.drawsFresh S.lifecycle run (fun _ => True) (ask c)
      (fun reply _ => fact reply) := by
  refine Triple.request (S.lifecycle.stable_true run)
    fun before a reply after good _ permitted served => ?_
  have holds := said before a reply after good permitted served
  obtain rfl := serve_steady steady served
  exact ⟨⟨good, fun _ _ => trivial⟩, holds⟩

theorem steady_spec {α : Type} {x : App α} (only : OnlyRun (fun c => c.steady = true) x) :
    S.JobSpec run x (fun _ _ => True) := by
  refine Spec.ofOnly (S.lifecycle.stable_true run)
    (fun c steady before a reply after good _ _ served => ?_) only
  obtain rfl := serve_steady steady served
  exact ⟨⟨good, fun _ _ => trivial⟩, trivial⟩

theorem steady_request {c : Call} (steady : c.steady = true) :
    (ask c).Only (fun c => c.steady = true) :=
  Prog.only_request steady

theorem raised_ok {α : Type} {result : Result α} {value : α} (ok : raised result = .ok value) :
    result = .ok value := by
  cases result with
  | error error => cases ok
  | ok found => exact congrArg Except.ok (Except.ok.inj ok)

theorem checkedToUsdPaymentAmount_floor {amount : Option ℚ} {usdAmount : UsdPaymentAmount}
    (checked : checkedToUsdPaymentAmount amount = .ok usdAmount) :
    amount.map (fun cents => ⌊cents⌋) = some usdAmount.amount := by
  unfold checkedToUsdPaymentAmount checkedToPaymentAmount at checked
  cases amount with
  | none => cases checked
  | some amount =>
    dsimp only at checked
    split_ifs at checked
    rw [← paymentAmountFromNumber_exact checked]
    simp

theorem findById_spec (walletId : WalletId) : S.JobSpec run (fallible (ask (.findById walletId)))
    (fun wallet _ => S.start.wallets walletId = some wallet) := by
  have found : ∀ before a reply after, S.Faithful before →
      S.drawsFresh run before (.findById walletId) a →
      serve run before (.findById walletId) a = some (reply, after) →
      ∀ wallet, reply = .ok wallet → S.start.wallets walletId = some wallet := by
    rintro before fault reply after good _ served wallet rfl
    obtain ⟨shown, -⟩ := Prod.mk.inj (Option.some.inj served)
    cases fault with
    | some fault => cases shown
    | none =>
      rw [← good.wallets]
      exact Stores.found_ok (raised_ok shown)
  refine fallible_spec (Triple.conseq (steady_triple rfl found) (fun _ _ holds => holds)
    fun result _ _ said => ?_)
  cases result with
  | error error => trivial
  | ok wallet => exact said wallet rfl

theorem buildWithAmount_spec (args : AddInvoiceArgs) (wallet : WalletDescriptor) :
    S.JobSpec run (args.buildWithAmount wallet)
      (fun state _ => state.recipientWalletDescriptor = wallet ∧
      state.usdAmount.map (·.amount) = args.cents wallet.currency) := by
  unfold AddInvoiceArgs.buildWithAmount
  split
  · rename_i amount isAmount
    unfold WIBWithRecipientState.withAmount
    dsimp only [AddInvoiceArgs.withRecipient]
    split
    · rename_i isUsd
      refine ofResult_bind_spec (fun usdAmount checked => ?_) (fun _ _ _ _ _ => trivial)
      refine Spec.bind (steady_spec (fallible_only (steady_request rfl))) fun btcAmount => ?_
      refine Spec.bind (steady_spec (total_only (steady_request rfl))) fun now => ?_
      refine Spec.pure fun _ _ _ => ⟨rfl, ?_⟩
      rw [isUsd, AddInvoiceArgs.cents, isAmount]
      exact (checkedToUsdPaymentAmount_floor (raised_ok checked)).symm
    · rename_i isBtc
      refine Spec.bind (steady_spec (total_only (steady_request rfl))) fun now => ?_
      refine ofResult_bind_spec (fun btcAmount _ => ?_) (fun _ _ _ _ _ => trivial)
      exact Spec.pure fun _ _ _ => ⟨rfl, by rw [isBtc]; rfl⟩
  · rename_i noAmount
    refine Spec.bind (steady_spec (total_only (steady_request rfl))) fun now =>
      Spec.pure fun _ _ _ => ⟨rfl, ?_⟩
    cases isCurrency : wallet.currency with
    | btc => rfl
    | usd =>
      rw [AddInvoiceArgs.cents, noAmount]
      rfl

structure Drawn (S : Scene) (run : RunId) (state : WIBWithAmountState)
    (walletInvoice : WalletInvoice) : Prop where
  owner : S.owner walletInvoice.paymentHash = run
  fresh : S.start.invoices walletInvoice.paymentHash = none
  usdAmount : walletInvoice.usdAmount = state.usdAmount
  descriptor : walletInvoice.recipientWalletDescriptor =
    ⟨state.recipientWalletDescriptor.id, state.recipientWalletDescriptor.currency⟩

theorem registerInvoice_spec (state : WIBWithAmountState) :
    S.JobSpec run state.registerInvoice
      (fun invoice _ => S.Drawn run state invoice.walletInvoice) := by
  have drawn : ∀ before a reply after, S.Faithful before →
      S.drawsFresh run before .getSecretAndPaymentHash a →
      serve run before .getSecretAndPaymentHash a = some (reply, after) →
      S.owner reply.paymentHash = run ∧ S.start.invoices reply.paymentHash = none := by
    intro before a reply after _ fresh served
    cases served
    exact fresh
  refine Spec.bind (total_spec (steady_triple rfl drawn)) fun secret => Spec.of_fact fun fresh => ?_
  refine Spec.bind (steady_spec (fallible_only (steady_request rfl))) fun registered => ?_
  split
  · exact Spec.throw fun _ _ _ => trivial
  · exact Spec.pure fun _ _ _ => ⟨fresh.1, fresh.2, rfl, rfl⟩

theorem origin_drawn {args : AddInvoiceArgs} {wallet : WalletDescriptor}
    {state : WIBWithAmountState} {walletInvoice : WalletInvoice}
    (job : S.jobs run = .addInvoice args) (found : S.start.wallets args.walletId = some wallet)
    (recipient : state.recipientWalletDescriptor = wallet)
    (cents : state.usdAmount.map (·.amount) = args.cents wallet.currency)
    (drawn : S.Drawn run state walletInvoice) :
    S.origin walletInvoice.paymentHash = some (madeOf (recordOf walletInvoice)) := by
  rw [origin, drawn.fresh, drawn.owner, job]
  simp only [AddInvoiceArgs.made, found, Option.map_some, madeOf, recordOf, drawn.usdAmount,
    drawn.descriptor, recipient, cents]

theorem persistNew_spec {walletInvoice : WalletInvoice}
    (isOrigin : S.origin walletInvoice.paymentHash = some (madeOf (recordOf walletInvoice))) :
    S.JobSpec run (fallible (ask (.persistNew walletInvoice))) (fun _ _ => True) := by
  refine fallible_spec (Triple.request (S.lifecycle.stable_true run)
    fun before a reply after good _ _ served => ?_)
  refine ⟨⟨?_, fun _ _ => trivial⟩, by cases reply <;> trivial⟩
  obtain ⟨-, rfl⟩ := Prod.mk.inj (Option.some.inj served)
  split
  · exact good
  · exact good
  · refine ⟨good.bank, good.wallets, fun paymentHash record stored => ?_, good.grown, good.credited⟩
    by_cases same : paymentHash = walletInvoice.paymentHash
    · subst same
      simp only [Function.update_self, Option.some.injEq] at stored
      rw [← stored]
      exact isOrigin
    · exact good.stored paymentHash record ((Function.update_of_ne same ..).symm.trans stored)

theorem addInvoice_spec {args : AddInvoiceArgs} (job : S.jobs run = .addInvoice args) :
    S.JobSpec run (addInvoice args) (fun _ _ => True) := by
  refine ofResult_bind_spec (fun walletId checked => ?_) (fun _ _ _ _ _ => trivial)
  obtain rfl : walletId = args.walletId := by
    have same := raised_ok checked
    unfold checkedToWalletId at same
    dsimp only at same
    split_ifs at same
    exact (Except.ok.inj same).symm
  refine Spec.bind (findById_spec _) fun wallet => Spec.of_fact fun found => ?_
  refine Spec.bind (steady_spec (fallible_only (steady_request rfl))) fun _ => ?_
  refine Spec.bind (steady_spec (fallible_only (steady_request rfl))) fun _ => ?_
  refine Spec.bind (buildWithAmount_spec args wallet) fun state => Spec.of_fact fun built => ?_
  refine Spec.bind (registerInvoice_spec state) fun invoice => Spec.of_fact fun drawn => ?_
  refine Spec.bind (persistNew_spec (origin_drawn job found built.1 built.2 drawn)) fun _ => ?_
  exact Spec.pure fun _ _ h => h

end AddInvoice

theorem deleteUnpaid_triple (limit : Nat) :
    Triple services S.drawsFresh S.lifecycle run (fun _ => True)
      (ask (.deleteUnpaidOlderThan limit)) (fun _ _ => True) := by
  refine Triple.request (S.lifecycle.stable_true run)
    fun before older reply after good _ _ served => ?_
  obtain ⟨-, rfl⟩ := Prod.mk.inj (Option.some.inj served)
  refine ⟨⟨good.step rfl rfl rfl fun paymentHash record stored => ?_, fun _ _ => trivial⟩, trivial⟩
  exact ⟨record, (Option.filter_eq_some_iff.mp stored).1, rfl⟩

theorem job_triple (run : RunId) :
    Triple services S.drawsFresh S.lifecycle run (fun _ => True) (S.jobs run).prog
      (fun _ _ => True) := by
  cases job : S.jobs run with
  | addInvoice args => exact Triple.discard (addInvoice_spec job)
  | creditInvoices credits => exact app_within.triple (credits_spec credits)
  | declineHeldInvoice pubkey paymentHash =>
    exact Triple.discard (app_within.triple (decline_spec pubkey paymentHash))
  | deleteExpiredWalletInvoice limit => exact deleteUnpaid_triple limit

end Scene

/-- However the runs that make, credit, decline and expire invoices interleave, an entry written in
the meantime that receives for a hash credits the wallet that the invoice was made for, a dollar
wallet with exactly the cents that were asked for, and no other customer. -/
theorem receives_credit_what_was_asked (S : Scene) {after : Config World Call Reply Unit}
    (reach : Reach services S.drawsFresh ⟨S.start, fun run => (S.jobs run).prog⟩ after)
    {journal : Journal}
    (written : journal ∈ after.world.ledger.journals.drop S.start.ledger.journals.length)
    {paymentHash : PaymentHash} (receive : journal.isReceiveFor paymentHash = true) :
    ∃ made, CreditsOnly S.start.bank made journal ∧
      ((∃ record, S.start.invoices paymentHash = some record ∧ made = madeOf record) ∨
        ∃ args, S.jobs (S.owner paymentHash) = .addInvoice args ∧
        args.made S.start.wallets = some made) := by
  have good : S.lifecycle.inv S.start := Scene.faithful_start
  have last := reach_inv good (fun run => Scene.job_triple run S.start good trivial) reach
  obtain ⟨made, isOrigin, credits⟩ := last.credited journal written paymentHash receive
  refine ⟨made, credits, ?_⟩
  unfold Scene.origin at isOrigin
  split at isOrigin
  · rename_i record stored
    exact .inl ⟨record, stored, (Option.some.inj isOrigin).symm⟩
  · rename_i args _ job
    exact .inr ⟨args, job, isOrigin⟩
  · cases isOrigin

section Example

def aliceUsd : WalletDescriptor := ⟨"01234567-89ab-4def-8123-456789abcdef", .usd, "aliceAccount"⟩

def askingWorld : World :=
  { heldInvoiceWorld with
    invoices := fun _ => none
    wallets := fun walletId => if walletId = aliceUsd.id then some aliceUsd else none }

def askingJobs : RunId → Job
  | 0 => .addInvoice (addInvoiceForSelf aliceUsd.id (some 250) "coffee")
  | _ => .creditInvoices (.updatePendingInvoiceByPaymentHash "hash")

def askingScene : Scene := ⟨askingWorld, askingJobs, fun _ => 0⟩

def askingScript : Script services := fun _ c =>
  match c with
  | .app c => heldInvoiceOutside.answers c
  | .findById _ | .persistNew _ => none
  | .consumeLimiter _ _ => true
  | .lndService => .ok ()
  | .getSatsFromCentsForFutureBuy _ => .ok ⟨1000⟩
  | .now => 0
  | .getSecretAndPaymentHash => ⟨"secret", "hash"⟩
  | .registerInvoice _ =>
    .ok ⟨{ paymentHash := "hash", paymentRequest := "lnbc", destination := "node" }, "node"⟩
  | .deleteUnpaidOlderThan _ => fun _ => false

theorem asked_cents_received :
    ∃ after journal, Reach services askingScene.drawsFresh ⟨askingWorld, fun run =>
      (askingJobs run).prog⟩ after ∧
      journal ∈ after.world.ledger.journals ∧ journal.isReceiveFor "hash" = true ∧
      netOver (ofWallet aliceUsd.id) journal.legs = 250 := by
  have played : (play services askingScene.drawsFresh askingScript
      (List.replicate 8 0 ++ List.replicate 14 1)
      ⟨askingWorld, fun run => (askingJobs run).prog⟩).map
        (fun after => ((after.pool 1).result?, after.world.ledger.journals.map
          (·.isReceiveFor "hash"))) =
      some (some (), [true]) := by
    decide +kernel
  obtain ⟨after, run, shown⟩ := Option.map_eq_some_iff.mp played
  obtain ⟨journal, journals, receive⟩ := List.map_eq_singleton_iff.mp (Prod.mk.inj shown).2
  have reach := play_reach _ _ _ _ _ _ run
  have written : journal ∈ after.world.ledger.journals := by simp [journals]
  obtain ⟨made, credits, ⟨_, stored, _⟩ | ⟨args, job, isMade⟩⟩ := receives_credit_what_was_asked
    askingScene reach written receive
  · cases stored
  · obtain rfl := Job.addInvoice.inj job
    have same : made = ⟨aliceUsd.id, .usd, some 250⟩ := by
      refine Option.some.inj (isMade.symm.trans ?_)
      decide +kernel
    subst same
    exact ⟨after, journal, reach, written, receive, credits.usd (by decide +kernel) rfl 250
      rfl (by decide)⟩

end Example

end Galoy.Invoicing
