import Galoy.Ledger.Conservation
import Galoy.Payments.FlowStore
import Galoy.Payments.PendingMark

set_option autoImplicit false

namespace Galoy

open Interleave App SendLightning AmountCalculator

structure LeftPending (decodedInvoice : LnInvoice) (flow : PaymentFlow) (pubkey : Pubkey)
    (journal : Journal) (w : World) : Prop where
  numbered : w.ledger.Numbered
  stored : w.ledger.journals[journal.id]? = some journal
  legs : journal.legs = (lnSendEntry w.bank decodedInvoice flow pubkey).transactions
  customer : flow.senderWalletId ≠ w.bank.dealerUsd
  sats : 0 < flow.totalAmountsForPayment.btc.amount
  cents : 0 < flow.totalAmountsForPayment.usd.amount

def PaymentFlow.converted (flow : PaymentFlow) (bank : BankWallets) (btcWalletId : WalletId)
    (q : Selection) : ℚ :=
  (if q (toLedgerAccountId btcWalletId) .btc then (flow.totalAmountsForPayment.btc.amount : ℚ)
    else 0) - (if q (toLedgerAccountId flow.senderWalletId) .usd then
      (flow.totalAmountsForPayment.usd.amount : ℚ) else 0) -
    dealerNet q bank.staticAccountIds flow.totalAmountsForPayment.btc.amount
      flow.totalAmountsForPayment.usd.amount

structure Compensated (flow : PaymentFlow) (w : World) (legs : List Leg) : Prop where
  lightning : ∀ currency, netOver (fun account held => account = .lnd && held = currency) legs = 0
  balanced : BalancedLegs legs
  accounts : match flow.senderWalletCurrency with
    | .btc => ∀ q, netOver q legs = 0
    | .usd => ∃ btcWallet, w.HasBtcWallet flow.senderWalletId btcWallet ∧
        ∀ q, netOver q legs = flow.converted w.bank btcWallet.id q

def PaymentFlow.OwedTo (flow : PaymentFlow) (w : World) (walletId : WalletId) : Prop :=
  match flow.senderWalletCurrency with
  | .btc => walletId = flow.senderWalletId
  | .usd => ∃ btcWallet, w.HasBtcWallet flow.senderWalletId btcWallet ∧ btcWallet.id = walletId

def PaymentFlow.Repays (named flow : PaymentFlow) (w : World) : Prop :=
  match named.senderWalletCurrency with
  | .btc => flow.senderWalletCurrency = .btc
  | .usd => named.totalAmountsForPayment.btc = flow.totalAmountsForPayment.btc ∧
      ∃ btcWallet, w.btcWalletOf named.senderWalletId = some btcWallet ∧ flow.OwedTo w btcWallet.id

def PendingUpdate.Names (update : PendingUpdate) (w : World) (named : PaymentFlow) : Prop :=
  ∃ paymentHash amount, update.pendingPayment.paymentHash = some paymentHash ∧
    inputAmountFromLedgerTransaction update.pendingPayment = .ok amount ∧
    w.Names ⟨paymentHash, update.walletId, amount⟩ named

section Names

variable {w : World} {named other flow : PaymentFlow}

theorem paymentFlowFromLedgerTransaction_matches {tx : LedgerTransaction}
    {accountId otherId : AccountId}
    (made : paymentFlowFromLedgerTransaction tx accountId = .ok named)
    (again : paymentFlowFromLedgerTransaction tx otherId = .ok other) : named.Matches other := by
  unfold paymentFlowFromLedgerTransaction at made again
  split at made
  · cases made
  · rename_i isPayment
    rw [if_neg isPayment] at again
    split at made
    · rename_i sender hash satsAmount centsAmount satsFee centsFee
      simp only [sender, hash, satsAmount, centsAmount, satsFee, centsFee] at again
      cases made
      cases again
      exact ⟨rfl, rfl, rfl⟩
    · cases made

theorem World.Names.unique {index : PaymentFlowStateIndex} (isNamed : w.Names index named)
    (alsoNamed : w.Names index other) : named.Matches other := by
  cases isNamed with
  | stored found =>
    cases alsoNamed with
    | stored again =>
      obtain rfl := Option.some.inj (found.symm.trans again)
      exact ⟨rfl, rfl, rfl⟩
    | shown missing => rw [found] at missing; cases missing
  | shown missing found made =>
    cases alsoNamed with
    | stored again => rw [missing] at again; cases again
    | shown _ again remade =>
      obtain rfl := Option.some.inj (found.symm.trans again)
      exact paymentFlowFromLedgerTransaction_matches made remade

theorem PendingUpdate.Names.unique {update : PendingUpdate} (isNamed : update.Names w named)
    (alsoNamed : update.Names w other) : named.Matches other := by
  obtain ⟨paymentHash, amount, hash, input, names⟩ := isNamed
  obtain ⟨_, _, sameHash, sameInput, alsoNames⟩ := alsoNamed
  obtain rfl := Option.some.inj (hash.symm.trans sameHash)
  obtain rfl := Except.ok.inj (input.symm.trans sameInput)
  exact names.unique alsoNames

theorem PaymentFlow.Matches.repays (same : named.Matches other) (repays : named.Repays flow w) :
    other.Repays flow w := by
  unfold PaymentFlow.Repays at *
  rwa [same.currency, same.btc, same.sender] at repays

end Names

section Nets

variable {w : World} {flow named : PaymentFlow}

theorem netOver_lnSendEntry (q : Selection) (bank : BankWallets) (decodedInvoice : LnInvoice)
    (flow : PaymentFlow) (pubkey : Pubkey) :
    netOver q (lnSendEntry bank decodedInvoice flow pubkey).transactions =
      (if q .lnd .btc then (flow.totalAmountsForPayment.btc.amount : ℚ) else 0) -
        match flow.senderWalletCurrency with
        | .btc => if q (toLedgerAccountId flow.senderWalletId) .btc then
            (flow.totalAmountsForPayment.btc.amount : ℚ) else 0
        | .usd => (if q (toLedgerAccountId flow.senderWalletId) .usd then
            (flow.totalAmountsForPayment.usd.amount : ℚ) else 0) +
              dealerNet q bank.staticAccountIds flow.totalAmountsForPayment.btc.amount
                flow.totalAmountsForPayment.usd.amount := by
  refine (netOver_builder q
    { staticAccountIds := bank.staticAccountIds
      entry := { description := flow.descriptionFromInvoice }
      metadata := (lnSendArgs decodedInvoice flow pubkey).metadata }
    ⟨flow.totalAmountsForPayment.usd, flow.totalAmountsForPayment.btc⟩ zeroBankFee
    (by simp [BankFee.inCurrency, zeroBankFee, zeroSats])
    ⟨toLedgerAccountId flow.senderWalletId, flow.senderWalletCurrency⟩
    lndLedgerAccountDescriptor {}).trans ?_
  cases flow.senderWalletCurrency <;>
    simp only [BankFee.inCurrency, AmountWithFees.inCurrency, zeroBankFee, zeroSats, conversionNet,
      lndLedgerAccountDescriptor, netOver_nil, Int.cast_zero, ite_self, add_zero, sub_zero] <;>
    ring

def PaymentFlow.Returned (named : PaymentFlow) (w : World) (sent second : List Leg) : Prop :=
  match named.senderWalletCurrency with
  | .btc => ∀ q, netOver q second = -netOver q sent
  | .usd => ∃ btcWallet, w.btcWalletOf named.senderWalletId = some btcWallet ∧ ∀ q,
      netOver q second =
        (if q (toLedgerAccountId btcWallet.id) .btc then
          (named.totalAmountsForPayment.btc.amount : ℚ) else 0) -
          if q .lnd .btc then (named.totalAmountsForPayment.btc.amount : ℚ) else 0

theorem GivesBack.second {run : RunId} {journal : Journal} {after : World}
    (given : GivesBack run named journal.id w after)
    (stored : w.ledger.journal? journal.id = some journal) :
    ∃ second ∈ after.ledger.journals, after.ledger.legs = w.ledger.legs ++ second.legs ∧
      named.Returned w journal.legs second.legs := by
  unfold PaymentFlow.Returned
  cases given with
  | @voids now ledger btc voided =>
    obtain ⟨original, found, _, _, journals⟩ := Ledger.void_inversion voided
    obtain rfl := Option.some.inj (found.symm.trans stored)
    refine ⟨_, by rw [journals]; exact List.mem_append_right _ (List.mem_singleton.mpr rfl), ?_, ?_⟩
    · simp [Ledger.legs, journals]
    · rw [btc]
      exact fun q => netOver_map_reversed q original.legs
  | @refunds now paymentHash btcWallet usd hash chosen =>
    refine ⟨_, List.mem_append_right _ (List.mem_singleton.mpr rfl), Ledger.legs_commit _ _ _ _, ?_⟩
    rw [usd]
    refine ⟨btcWallet, chosen, fun q => ?_⟩
    exact netOver_recordReceive_btc q w.bank
      (failedUsdPaymentArgs named paymentHash journal.id btcWallet) rfl
        (World.btcWalletOf_inversion chosen).1

theorem PaymentFlow.Returned.settled {paymentHash : PaymentHash} {journal : Journal}
    {second : List Leg} {mark : Bool} {now : World} (wallets : now.wallets = w.wallets)
    (accounts : now.walletsOfAccount = w.walletsOfAccount)
      (returned : PaymentFlow.Returned { named with paymentSentAndPending := mark } now
        (journal.settleFor paymentHash).legs second) : named.Returned w journal.legs second := by
  have choice : now.btcWalletOf named.senderWalletId = w.btcWalletOf named.senderWalletId := by
    rw [World.btcWalletOf, World.btcWalletOf, wallets, accounts]
  unfold PaymentFlow.Returned at *
  dsimp only [Journal.settleFor] at returned
  simp only [netOver_map_settleFor, choice] at returned
  exact returned

end Nets

section Compensation

variable {w : World} {flow named : PaymentFlow} {legs : List Leg}

theorem Compensated.of_accounts
    (accounts : match flow.senderWalletCurrency with
      | .btc => ∀ q, netOver q legs = 0
      | .usd => ∃ btcWallet, w.HasBtcWallet flow.senderWalletId btcWallet ∧
          ∀ q, netOver q legs = flow.converted w.bank btcWallet.id q) : Compensated
    flow w legs := by
  refine ⟨fun currency => ?_, fun currency => ?_, accounts⟩
  all_goals
    cases sender : flow.senderWalletCurrency with
    | btc =>
      rw [sender] at accounts
      exact accounts _
    | usd =>
      rw [sender] at accounts
      obtain ⟨btcWallet, _, nets⟩ := accounts
      rw [nets]
      cases currency <;>
        simp [PaymentFlow.converted, dealerNet, BankWallets.staticAccountIds, toLedgerAccountId]

section Cases

variable {decodedInvoice : LnInvoice} {pubkey : Pubkey} {journal : Journal} {second : List Leg}
  {payee : WalletDescriptor} (pending : LeftPending decodedInvoice flow pubkey journal w)

include pending

theorem LeftPending.nonzero :
    (flow.totalAmountsForPayment.btc.amount : ℚ) ≠ 0 ∧
      (flow.totalAmountsForPayment.usd.amount : ℚ) ≠ 0 := by
  have sats := pending.sats
  have cents := pending.cents
  constructor <;> norm_cast <;> omega

theorem void_compensates_iff (reverses : ∀ q, netOver q second = -netOver q journal.legs) :
    Compensated flow w (journal.legs ++ second) ↔ flow.senderWalletCurrency = .btc := by
  have cancels : ∀ q, netOver q (journal.legs ++ second) = 0 := fun q => by
    rw [netOver_append, reverses, add_neg_cancel]
  constructor
  · intro compensated
    cases sender : flow.senderWalletCurrency with
    | btc => rfl
    | usd =>
      have accounts := compensated.accounts
      rw [sender] at accounts
      obtain ⟨btcWallet, _, nets⟩ := accounts
      have own := nets fun account held =>
        account = toLedgerAccountId flow.senderWalletId && held = .usd
      rw [cancels] at own
      simp [PaymentFlow.converted, dealerNet, BankWallets.staticAccountIds, toLedgerAccountId,
        pending.customer.symm, pending.nonzero.2] at own
  · intro sender
    refine .of_accounts ?_
    rw [sender]
    exact cancels

variable (given : ∀ q, netOver q second =
    (if q (toLedgerAccountId payee.id) .btc then (named.totalAmountsForPayment.btc.amount : ℚ)
      else 0) - if q .lnd .btc then (named.totalAmountsForPayment.btc.amount : ℚ) else 0)

include given

theorem refund_amount (compensated : Compensated flow w (journal.legs ++ second)) :
    named.totalAmountsForPayment.btc = flow.totalAmountsForPayment.btc := by
  have node := compensated.lightning .btc
  rw [netOver_append, pending.legs, netOver_lnSendEntry, given] at node
  have amounts : (named.totalAmountsForPayment.btc.amount : ℚ) =
      flow.totalAmountsForPayment.btc.amount := by
    cases sender : flow.senderWalletCurrency <;>
      simp [sender, dealerNet, BankWallets.staticAccountIds, toLedgerAccountId] at node <;>
      linarith
  exact congrArg Amount.mk (by exact_mod_cast amounts)

theorem refund_compensates_iff :
    Compensated flow w (journal.legs ++ second) ↔
      named.totalAmountsForPayment.btc = flow.totalAmountsForPayment.btc ∧
        flow.OwedTo w payee.id := by
  have sent := fun q => netOver_lnSendEntry q w.bank decodedInvoice flow pubkey
  rw [← pending.legs] at sent
  constructor
  · intro compensated
    have amount := refund_amount pending given compensated
    refine ⟨amount, ?_⟩
    have accounts := compensated.accounts
    unfold PaymentFlow.OwedTo
    cases sender : flow.senderWalletCurrency with
    | btc =>
      rw [sender] at accounts sent
      have own := accounts fun account held => account = toLedgerAccountId flow.senderWalletId &&
        held = .btc
      rw [netOver_append, sent, given, amount] at own
      by_contra other
      simp [toLedgerAccountId, other, pending.nonzero.1] at own
    | usd =>
      rw [sender] at accounts sent
      obtain ⟨btcWallet, owned, nets⟩ := accounts
      refine ⟨btcWallet, owned, ?_⟩
      have credited := nets fun account held => account = toLedgerAccountId payee.id && held = .btc
      rw [netOver_append, sent, given, amount] at credited
      by_contra other
      simp [PaymentFlow.converted, toLedgerAccountId, other, pending.nonzero.1] at credited
  · rintro ⟨amount, owed⟩
    refine .of_accounts ?_
    unfold PaymentFlow.OwedTo at owed
    cases sender : flow.senderWalletCurrency with
    | btc =>
      rw [sender] at owed sent
      intro q
      rw [netOver_append, sent, given, amount, owed]
      ring
    | usd =>
      rw [sender] at owed sent
      obtain ⟨btcWallet, owned, same⟩ := owed
      refine ⟨btcWallet, owned, fun q => ?_⟩
      rw [netOver_append, sent, given, amount, same]
      unfold PaymentFlow.converted
      ring

end Cases

theorem LeftPending.compensated_iff {decodedInvoice : LnInvoice} {pubkey : Pubkey}
    {journal : Journal} (pending : LeftPending decodedInvoice flow pubkey journal w)
    {second : List Leg} (returned : named.Returned w journal.legs second) :
    Compensated flow w (journal.legs ++ second) ↔ named.Repays flow w := by
  unfold PaymentFlow.Returned at returned
  unfold PaymentFlow.Repays
  cases takes : named.senderWalletCurrency with
  | btc =>
    rw [takes] at returned
    exact void_compensates_iff pending returned
  | usd =>
    rw [takes] at returned
    obtain ⟨payee, chosen, given⟩ := returned
    rw [refund_compensates_iff pending given]
    simp [chosen]

end Compensation

section Run

variable {update : PendingUpdate} {w : World} {decodedInvoice : LnInvoice} {flow : PaymentFlow}
  {pubkey : Pubkey} {journal : Journal}

def Untouched (w now : World) : Prop := ∃ locks clock, now = { w with locks, clock }

theorem Untouched.frame {before after : World} (frame : Frame .nothing before after)
    (untouched : Untouched w before) : Untouched w after := by
  obtain ⟨locks, clock, rfl⟩ := untouched
  exact ⟨locks, after.clock, frame.clock⟩

structure Finalised (update : PendingUpdate) (paymentHash : PaymentHash)
    (journal : Journal) (w : World) (named : PaymentFlow) (second : Journal)
    (after : World) : Prop where
  names : update.Names w named
  written : second ∈ after.ledger.journals
  legs : after.ledger.legs = (w.ledger.settlePending update.run paymentHash).legs ++ second.legs
  returned : named.Returned w journal.legs second.legs

theorem LeftPending.settled (pending : LeftPending decodedInvoice flow pubkey journal w)
    (run : RunId) (paymentHash : PaymentHash) :
    (w.ledger.settlePending run paymentHash).journal? journal.id =
      some (journal.settleFor paymentHash) := by
  rw [Ledger.journal?_eq_getElem? (pending.numbered.settlePending _ _)]
  simp [Ledger.settlePending, pending.stored]

theorem failed_behindLock_spec {lookup : LnPaymentLookup}
    (works : ∀ c : Call, c.ledgerWorks (update.answers c))
    (found : ∀ c : Call, c.repositoryWorks (update.answers c))
    (pending : LeftPending decodedInvoice flow pubkey journal w) {paymentHash : PaymentHash}
    (listed : Listed paymentHash journal update) (failed : lookup.status = .failed)
    (unrecorded : w.ledger.isLnTxRecorded paymentHash = false) :
    SoloSpec update.run update.answers (Untouched w)
      (updatePendingPaymentBehindLock update.walletId update.pendingPayment paymentHash lookup)
      (fun _ after => ∃ named second, Finalised update paymentHash journal w named second after)
      (fun _ _ => True) := by
  obtain ⟨leg, _, _, shown⟩ := listed.leg
  have ofJournal : update.pendingPayment.journalId = journal.id := by rw [shown]; rfl
  refine Spec.seq (fun recorded now => Untouched w now ∧ recorded = false)
    (fallible_spec (solo_ask ?_)) fun recorded => Spec.pre_fact fun isFalse => ?_
  · rintro before reply after ⟨locks, clock, rfl⟩ served
    obtain rfl := Stores.read_unchanged served
    cases reply with
    | error error => trivial
    | ok recorded =>
      exact ⟨⟨locks, clock, rfl⟩, (Except.ok.inj (Stores.read_ok served)).symm.trans unrecorded⟩
  subst isFalse
  refine Spec.from_state ?_
  rintro _ ⟨locks, clock, rfl⟩
  refine ofResult_bind_spec (fun amount input => ?_) fun _ _ _ _ _ => trivial
  refine Spec.bind (Spec.weaken_err (flowOfPendingPayment_exact found _) (fun _ _ _ _ => trivial))
    fun taken => ?_
  refine Spec.pre_fact ?_
  rintro ⟨named, mark, isNamed, rfl⟩
  have names : update.Names w named := by
    refine ⟨paymentHash, amount, listed.hash, input, ?_⟩
    cases isNamed with
    | stored isFirst => exact .stored isFirst
    | shown missing isFirst made => exact .shown missing isFirst made
  refine Spec.seq (fun _ now => ∃ flows, now = { w with
      locks, clock, flows, ledger := w.ledger.settlePending update.run paymentHash })
    (fallible_spec (solo_ask ?_)) fun _ => ?_
  · rintro before reply after ⟨flows, rfl⟩ served
    obtain ⟨_, ⟨error, rfl⟩, _⟩ | ⟨rfl, ⟨rfl, _⟩ | ⟨⟨error, rfl⟩, _⟩⟩ :=
      World.settle_inversion served
    · trivial
    · exact ⟨flows, rfl⟩
    · trivial
  rw [failed]
  refine Spec.from_state ?_
  rintro _ ⟨flows, rfl⟩
  refine Spec.conseq (failPendingPayment_exact works found update.pendingPayment _)
    (fun _ _ same => same) ?_ fun _ _ _ _ => trivial
  intro _ after _ given
  have ofSettled : update.pendingPayment.journalId = (journal.settleFor paymentHash).id := ofJournal
  rw [ofSettled] at given
  obtain ⟨second, written, legs, returned⟩ := given.second (pending.settled update.run paymentHash)
  exact ⟨named, second, names, written, legs, returned.settled rfl rfl⟩

theorem failed_spec (works : ∀ c : Call, c.ledgerWorks (update.answers c))
    (found : ∀ c : Call, c.repositoryWorks (update.answers c))
    (pending : LeftPending decodedInvoice flow pubkey journal w) {paymentHash : PaymentHash}
    (listed : Listed paymentHash journal update) (reports : update.Reports .failed)
    (unrecorded : w.ledger.isLnTxRecorded paymentHash = false) :
    SoloSpec update.run update.answers (Untouched w)
      (updatePendingPayment update.walletId update.pendingPayment)
      (fun _ after => ∃ named second, Finalised update paymentHash journal w named second after)
      (fun _ _ => True) := by
  obtain ⟨_, pubkey, lookup, hash, hasPubkey, answered, failed⟩ := reports
  obtain rfl := Option.some.inj (hash.symm.trans listed.hash)
  refine Spec.bind (solo_reads_or (fun _ _ => Untouched.frame) (fun _ _ => trivial)
    (only_fallible (only_ask rfl))) fun _ => ?_
  rw [hash, hasPubkey]
  refine Spec.seq (fun reply now => Untouched w now ∧ reply = lookup) (fallible_spec (solo_ask ?_))
    fun reply => Spec.pre_fact fun same => ?_
  · intro before reply after untouched served
    rw [answered] at served
    cases served
    exact ⟨untouched, rfl⟩
  subst same
  have decided : reply.status ≠ .pending := by
    rw [failed]
    decide
  rw [if_neg decided]
  refine solo_withLock ?_ ?_ (fun _ _ _ => trivial) (fun _ _ => trivial) (fun _ _ _ => trivial)
    (failed_behindLock_spec works found pending listed failed unrecorded)
  · rintro _ locks ⟨_, clock, rfl⟩
    exact ⟨locks, clock, rfl⟩
  · rintro _ now locks ⟨named, second, names, written, legs, returned⟩
    exact ⟨named, second, names, written, legs, returned⟩

end Run

theorem Waiting.repays {update : PendingUpdate} {paymentHash : PaymentHash} {attempt : LnAttempt}
    {journal : Journal} {w : World} {named : PaymentFlow}
    (waiting : Waiting paymentHash attempt journal w) (listed : Listed paymentHash journal update)
    (nonempty : paymentHash ≠ "") (names : update.Names w named) :
    named.Repays attempt.paymentFlow w := by
  obtain ⟨_, amount, hash, input, isNamed⟩ := names
  obtain rfl := Option.some.inj (hash.symm.trans listed.hash)
  have flowFor := waiting.1.names listed nonempty input isNamed
  unfold PaymentFlow.Repays
  cases currency : named.senderWalletCurrency with
  | btc => exact flowFor.1.currency ▸ currency
  | usd =>
    refine ⟨flowFor.1.btc, ?_⟩
    have usd : attempt.paymentFlow.senderWalletCurrency = .usd := flowFor.1.currency ▸ currency
    cases chosen : w.btcWalletOf named.senderWalletId with
    | none => exact absurd chosen (waiting.2.chosen usd flowFor.1.sender)
    | some btcWallet =>
      refine ⟨btcWallet, rfl, ?_⟩
      unfold PaymentFlow.OwedTo
      rw [usd]
      exact ⟨btcWallet, flowFor.1.sender ▸ World.btcWalletOf_inversion chosen, rfl⟩

theorem waiting_payment_compensated {update : PendingUpdate} {attempt : LnAttempt}
    {journal : Journal} {pubkey : Pubkey} {w after : World}
    (works : ∀ c : Call, c.ledgerWorks (update.answers c))
    (found : ∀ c : Call, c.repositoryWorks (update.answers c))
    (waiting : Waiting attempt.decodedInvoice.paymentHash attempt journal w)
    (pending : LeftPending attempt.decodedInvoice attempt.paymentFlow pubkey journal w)
    (listed : Listed attempt.decodedInvoice.paymentHash journal update)
    (nonempty : attempt.decodedInvoice.paymentHash ≠ "") (reports : update.Reports .failed)
    (returned : update.perform w = some (.ok (), after)) :
    ∃ second ∈ after.ledger.journals, Compensated attempt.paymentFlow w
      (journal.legs ++ second.legs) := by
  obtain ⟨named, second, final⟩ := solo_sound
    (failed_spec works found pending listed reports waiting.1.unrecorded)
      ⟨w.locks, w.clock, rfl⟩ returned
  refine ⟨second, final.written, ?_⟩
  rw [pending.compensated_iff final.returned]
  exact waiting.repays listed nonempty final.names

theorem failed_payment_compensated_iff (update : PendingUpdate) (decodedInvoice : LnInvoice)
    (flow : PaymentFlow) (pubkey : Pubkey) (journal : Journal) (w after : World)
    (works : ∀ c : Call, c.ledgerWorks (update.answers c))
    (found : ∀ c : Call, c.repositoryWorks (update.answers c))
    (pending : LeftPending decodedInvoice flow pubkey journal w)
    (listed : Listed decodedInvoice.paymentHash journal update) (reports : update.Reports .failed)
    (unrecorded : w.ledger.isLnTxRecorded decodedInvoice.paymentHash = false)
    (returned : update.perform w = some (.ok (), after)) :
    ∃ second ∈ after.ledger.journals,
      after.ledger.legs = (w.ledger.settlePending update.run decodedInvoice.paymentHash).legs ++
        second.legs ∧
      (Compensated flow w (journal.legs ++ second.legs) ↔ ∃ named, update.Names w named ∧
        named.Repays flow w) := by
  have ended := solo_sound (failed_spec works found pending listed reports unrecorded)
    ⟨w.locks, w.clock, rfl⟩ returned
  obtain ⟨named, second, final⟩ := ended
  refine ⟨second, final.written, final.legs, ?_⟩
  rw [pending.compensated_iff final.returned]
  constructor
  · exact fun repays => ⟨named, final.names, repays⟩
  · rintro ⟨other, names, repays⟩
    exact (names.unique final.names).repays repays

section Example

def sentFlow : PaymentFlow := outsideFlow 14600 730 730 80 4

def failedUsdWorld (flows : List PaymentFlow) : World :=
  { markWorld sentFlow with
    flows
    wallets := fun _ => some ⟨"alice", .usd, "account"⟩
    walletsOfAccount := fun _ => [⟨"alice", .usd, "account"⟩, ⟨"aliceBtc", .btc, "account"⟩] }

def failedUsdUpdate : PendingUpdate where
  run := 1
  answers := (sendOutside paymentTimeout .failed).answers
  walletId := "alice"
  pendingPayment := translateToLedgerTx (markJournal sentFlow)
    (senderLeg markInvoice sentFlow "node")

theorem sentFlow_pending (flows : List PaymentFlow) :
    LeftPending markInvoice sentFlow "node" (markJournal sentFlow) (failedUsdWorld flows) where
  numbered := by
    intro index journal stored
    cases index with
    | zero =>
      cases stored
      rfl
    | succ index => cases stored
  stored := rfl
  legs := rfl
  customer := by
    change "alice" ≠ "dealerUsd"
    decide
  sats := by decide
  cents := by decide

theorem failedUsdUpdate_listed : Listed "hash" (markJournal sentFlow) failedUsdUpdate :=
  ⟨⟨_, senderLeg_mem (by decide), rfl, rfl⟩, by decide +kernel⟩

theorem failedUsdUpdate_reports : failedUsdUpdate.Reports .failed :=
  ⟨"hash", "node", _, by decide +kernel, by decide +kernel, rfl, rfl⟩

theorem sent_flow_compensated :
    ∃ after second, failedUsdUpdate.perform (failedUsdWorld [sentFlow.marked true]) =
      some (.ok (), after) ∧
      second ∈ after.ledger.journals ∧
      Compensated sentFlow (failedUsdWorld [sentFlow.marked true])
        ((markJournal sentFlow).legs ++ second.legs) := by
  have played : (failedUsdUpdate.perform (failedUsdWorld [sentFlow.marked true])).map (·.1.isOk) =
      some true := by
    decide +kernel
  obtain ⟨⟨result, after⟩, returned, isOk⟩ := Option.map_eq_some_iff.mp played
  cases result with
  | error error => cases isOk
  | ok _ =>
    obtain ⟨second, written, _, compensated⟩ := failed_payment_compensated_iff failedUsdUpdate
      markInvoice sentFlow "node" (markJournal sentFlow) (failedUsdWorld [sentFlow.marked true])
        after (Outside.ledgerWorks _)
      (Outside.repositoryWorks _) (sentFlow_pending _) failedUsdUpdate_listed
        failedUsdUpdate_reports
      (by decide +kernel) returned
    refine ⟨after, second, returned, written, compensated.mpr
      ⟨paymentFlowFromRaw (sentFlow.marked true), ?_, rfl, ?_⟩⟩
    · exact ⟨"hash", 730, by decide +kernel, by decide +kernel, .stored (by rfl)⟩
    · exact ⟨⟨"aliceBtc", .btc, "account"⟩, rfl, _,
        ⟨rfl, ⟨"alice", .usd, "account"⟩, rfl,
          .inr (List.mem_cons_of_mem _ (List.mem_singleton.mpr rfl))⟩, rfl⟩

-- While the payment is in flight its flow expires and the cron deletes it.
def expiredStore : FlowStore :=
  (FlowStore.deleteExpiredLightningPaymentFlows ⟨failedUsdWorld [sentFlow], []⟩ 300 310 none).2

def probedWorld : World :=
  (expiredStore.persistNew { outsideFlow 15330 730 730 84 4 with createdAt := 340 } none).2.world

theorem later_estimate_refunded :
    serve 0 expiredStore.world (.updateLightningPaymentFlow (sentFlow.marked true)) none =
        some ((), expiredStore.world) ∧
      probedWorld.ledger.isLnTxRecorded "hash" = false ∧
      ∃ after settled second, failedUsdUpdate.perform probedWorld = some (.ok (), after) ∧
        after.ledger.journals = [settled, second] ∧
        netOver (fun account held => account = .lnd && held = .btc)
          ((markJournal sentFlow).legs ++ second.legs) = -734 ∧
        ¬Compensated sentFlow probedWorld ((markJournal sentFlow).legs ++ second.legs) := by
  refine ⟨rfl, by decide +kernel, ?_⟩
  have played : (failedUsdUpdate.perform probedWorld).map (fun ended =>
      (ended.1.isOk, match ended.2.ledger.journals with
        | [_, second] => some (netOver (fun account held => account = .lnd && held = .btc)
          ((markJournal sentFlow).legs ++ second.legs))
        | _ => none)) = some (true, some (-734)) := by
    decide +kernel
  obtain ⟨⟨result, after⟩, returned, shown⟩ := Option.map_eq_some_iff.mp played
  simp only [Prod.mk.injEq] at shown
  obtain ⟨isOk, lightning⟩ := shown
  split at lightning
  · rename_i settled second journals
    cases result with
    | error error => cases isOk
    | ok _ =>
      have missing := Option.some.inj lightning
      refine ⟨after, settled, second, returned, journals, missing, fun compensated => ?_⟩
      have restored := compensated.lightning .btc
      rw [missing] at restored
      norm_num at restored
  · cases lightning

end Example

end Galoy
