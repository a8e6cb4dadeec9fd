import Galoy.Interleave.Alone
import Galoy.OnChain.SendOnChain
import Galoy.Payments.Volumes

set_option autoImplicit false

namespace Galoy.Withdrawal

open Interleave Interleave.Failing

def OnChainPayment.debits (payment : OnChainPayment) (leg : Leg) : Bool :=
  leg.account = toLedgerAccountId payment.senderWallet.id

section Ledger

structure SameDebits (before after : Journal) : Prop where
  original : after.originalJournal = before.originalJournal
  writer : after.writtenBy = before.writtenBy
  outgoing : ∀ payment : OnChainPayment,
    outgoing payment.debits after.legs = outgoing payment.debits before.legs

theorem SameDebits.refl (journal : Journal) : SameDebits journal journal := ⟨rfl, rfl, fun _ => rfl⟩

theorem SameDebits.mapLegs (journal : Journal) {change : Leg → Leg}
    (same : ∀ leg, (change leg).account = leg.account ∧ (change leg).debit = leg.debit) :
    SameDebits journal { journal with legs := journal.legs.map change } := by
  refine ⟨rfl, rfl, fun payment => legSum_map (fun leg => ⟨?_, (same leg).2⟩) journal.legs⟩
  simp [OnChainPayment.debits, (same leg).1]

structure Recasts (since : Nat) (before after : Ledger) : Prop where
  length : before.journals.length ≤ after.journals.length
  earlier : since ≤ before.journals.length → ∀ journal ∈ after.journals.drop since,
    journal.originalJournal = none → ∃ earlier ∈ before.journals.drop since,
      SameDebits earlier journal

variable {since : Nat} {before middle after ledger : Ledger}

theorem Recasts.refl (ledger : Ledger) : Recasts since ledger ledger :=
  ⟨le_rfl, fun _ journal member _ => ⟨journal, member, .refl journal⟩⟩

theorem Recasts.trans (first : Recasts since before middle) (second : Recasts since middle after) :
    Recasts since before after := by
  refine ⟨first.length.trans second.length, fun reaches journal member original => ?_⟩
  obtain ⟨between, inMiddle, later⟩ := second.earlier (reaches.trans first.length) journal
    member original
  obtain ⟨earlier, inBefore, sooner⟩ :=
    first.earlier reaches between inMiddle (later.original ▸ original)
  exact ⟨earlier, inBefore, later.original.trans sooner.original, later.writer.trans sooner.writer,
    fun payment => (later.outgoing payment).trans (sooner.outgoing payment)⟩

theorem recasts_map {change : Journal → Journal}
    (same : ∀ journal, SameDebits journal (change journal)) :
    Recasts since ledger { ledger with journals := ledger.journals.map change } := by
  refine ⟨by simp, fun _ journal member _ => ?_⟩
  rw [← List.map_drop] at member
  obtain ⟨earlier, inBefore, rfl⟩ := List.mem_map.mp member
  exact ⟨earlier, inBefore, same earlier⟩

theorem mem_drop_concat {journals : List Journal} {journal last : Journal}
    (reaches : since ≤ journals.length) (member : journal ∈ (journals ++ [last]).drop since) :
    journal ∈ journals.drop since ∨ journal = last := by
  rw [List.drop_append_of_le_length reaches] at member
  simpa using member

theorem recasts_settleJournal (id : LedgerJournalId) : Recasts since ledger
    (ledger.settleJournal id) := by
  refine recasts_map fun journal => ?_
  split
  · exact .mapLegs journal fun _ => ⟨rfl, rfl⟩
  · exact .refl journal

theorem recasts_void {run : RunId} {clock : Nat} {id : LedgerJournalId} {reason : String}
    (voided : ledger.void run clock id reason = some after) : Recasts since ledger after := by
  obtain ⟨_, _, _, _, journals⟩ := Ledger.void_inversion voided
  have marked : Recasts since ledger
      { ledger with journals := ledger.journals.map (Journal.markVoided id) } := by
    refine recasts_map fun journal => ?_
    unfold Journal.markVoided
    split
    · exact ⟨rfl, rfl, fun _ => rfl⟩
    · exact .refl journal
  refine ⟨by simp [journals], fun reaches journal member original => ?_⟩
  rw [journals] at member
  rcases mem_drop_concat (by simpa using reaches) member with inMarked | rfl
  · exact marked.earlier reaches journal inMarked original
  · cases original

theorem recasts_revert {run : RunId} {clock : Nat} {id : LedgerJournalId} {description : String} :
    Recasts since ledger (ledger.revertOnChainPayment run clock id description).2 := by
  have settled : Recasts since ledger (ledger.settleJournal id) := recasts_settleJournal id
  unfold Ledger.revertOnChainPayment
  dsimp only
  split
  · rename_i reverted voided
    exact settled.trans (recasts_void voided)
  · exact settled

theorem recasts_setHash {id : LedgerJournalId} {newTxHash : OnChainTxHash} :
    Recasts since ledger
      { ledger with journals := ledger.journals.map (Journal.setHash id newTxHash) } := by
  refine recasts_map fun journal => ?_
  unfold Journal.setHash
  split
  · exact .mapLegs journal fun _ => ⟨rfl, rfl⟩
  · exact .refl journal

section Entry

variable {bank : BankWallets} {entry : Entry} {payment : OnChainPayment}

theorem outgoing_sendEntry (description : String) (metadata : TxMetadata)
    (fee sats : BtcPaymentAmount) :
    outgoing payment.debits
      (LegacyEntryBuilderCreditWithBtcDebit.creditLnd
        (((legacyEntryBuilder bank description metadata).withFee fee).debitAccount
          (toLedgerAccountId payment.senderWallet.id) sats)).transactions = sats.amount := by
  have own : payment.debits ⟨toLedgerAccountId payment.senderWallet.id, sats.amount, 0, .btc,
      metadata.override {}⟩ = true := by
    simp [OnChainPayment.debits]
  simp only [LegacyEntryBuilderCreditWithBtcDebit.creditLnd, LegacyEntryBuilderDebit.debitAccount,
    LegacyEntryBuilder.withFee, legacyEntryBuilder, outgoing_removeZero, outgoing_credit,
    outgoing_debit,
    own, if_true]
  split <;> simp

theorem outgoing_addOnChainTxSend {args : LedgerService.AddOnChainTxSendArgs}
    (btc : args.walletCurrency = .btc)
    (built : LedgerService.addOnChainTxSend bank args = .ok entry)
    (sender : args.walletId = payment.senderWallet.id) :
    outgoing payment.debits entry.transactions = args.sats := by
  unfold LedgerService.addOnChainTxSend at built
  dsimp only at built
  split at built
  · unfold LedgerService.addSendInternalFee at built
    simp only [btc, ne_eq, not_true_eq_false, if_false, sender] at built
    obtain ⟨fee, _, built⟩ := bind_eq_ok built
    obtain ⟨sats, converted, built⟩ := bind_eq_ok built
    cases built
    have whole : (sats.amount : ℚ) = args.sats := paymentAmountFromNumber_exact converted
    rw [← whole]
    exact outgoing_sendEntry _ _ fee sats
  · unfold LedgerService.addSendNoInternalFee at built
    obtain ⟨sats, converted, built⟩ := bind_eq_ok built
    simp only [btc, sender] at built
    cases built
    have whole : (sats.amount : ℚ) = args.sats := paymentAmountFromNumber_exact converted
    rw [← whole]
    exact outgoing_sendEntry _ _ zeroSats sats

end Entry

end Ledger

inductive PayeeLookup where
  | wallet
  | notFound
  | fault (fault : RepositoryFault)
  deriving DecidableEq, Repr

def World.payeeLookup (w : World) (address : OnChainAddress) (fault : Option RepositoryFault) :
    PayeeLookup :=
  match fault, w.findByAddress address with
  | some fault, _ => .fault fault
  | none, .ok _ => .wallet
  | none, .error _ => .notFound

def payeeIs (payments : RunId → OnChainPayment) (payee : PayeeLookup) :
    Permit services := fun run w c a =>
  match c, a with
  | .findByAddress .lockedEstimate address, fault =>
    address = (payments run).address → w.payeeLookup address fault = payee
  | _, _ => True

def Within (payments : RunId → OnChainPayment) (since : Nat) (w : World) : Prop :=
  ∀ journal ∈ w.ledger.journals.drop since, journal.originalJournal = none →
    ∃ balance, w.balances journal.writtenBy = some balance ∧
      outgoing (payments journal.writtenBy).debits journal.legs ≤ balance

def Unwritten (since : Nat) (run : RunId) (w : World) : Prop :=
  ∀ journal ∈ w.ledger.journals.drop since, journal.originalJournal = none → journal.writtenBy ≠ run

def HasRead (since : Nat) (run : RunId) (balance : ℚ) (w : World) : Prop :=
  Unwritten since run w ∧ w.balances run = some balance

def withdrawalDiscipline (payments : RunId → OnChainPayment) (start : World) :
    Discipline World where
  inv w := w.conditions = start.conditions ∧
    start.ledger.journals.length ≤ w.ledger.journals.length ∧
    Within payments start.ledger.journals.length w
  rely run before after := after.balances run = before.balances run ∧
    (Unwritten start.ledger.journals.length run before →
      Unwritten start.ledger.journals.length run after)
  rely_refl _ _ := ⟨rfl, fun unwritten => unwritten⟩
  rely_trans _ _ _ _ first second :=
    ⟨second.1.trans first.1, fun unwritten => second.2 (first.2 unwritten)⟩

section Frame

structure Frame (since : Nat) (before after : World) : Prop where
  wallets : after.wallets = before.wallets
  conditions : after.conditions = before.conditions
  balances : after.balances = before.balances
  ledger : Recasts since before.ledger after.ledger

def Call.quiet : Call → Bool
  | .addOnChainTxSend _ | .getWalletBalance .withdrawal _ => false
  | _ => true

variable {since : Nat} {before after : World} {run : RunId}

theorem Frame.refl (w : World) : Frame since w w := ⟨rfl, rfl, rfl, .refl _⟩

theorem getWalletBalance_frame {asker : Asker} (other : asker ≠ .withdrawal) {walletId : WalletId}
    {fault : Option String} {reply : Result ℚ}
    (served : before.getWalletBalance run asker walletId fault = some (reply, after)) :
    Frame since before after := by
  unfold World.getWalletBalance at served
  split at served
  · cases served
    exact .refl _
  · simp only [other, if_false] at served
    cases served
    exact .refl _

theorem lock_frame {walletId : WalletId} {answer : LockAnswer} {reply : Result Unit}
    (served : before.acquire run walletId answer = some (reply, after) ∨
      before.release run walletId answer = some (reply, after)) : Frame since before after := by
  rcases served with served | served
  · unfold World.acquire Stores.acquire at served
    split at served
    · split at served <;> cases served
      exact ⟨rfl, rfl, rfl, .refl _⟩
    · cases served
      exact .refl _
  · cases served
    exact ⟨rfl, rfl, rfl, .refl _⟩

theorem revert_frame {journalId : LedgerJournalId} {answer : RevertAnswer} {reply : Result Unit}
    (served : before.revertOnChainPayment run journalId answer = some (reply, after)) :
    Frame since before after := by
  unfold World.revertOnChainPayment at served
  split at served <;> cases served
  · exact .refl _
  · exact ⟨rfl, rfl, rfl, recasts_settleJournal journalId⟩
  · exact ⟨rfl, rfl, rfl, recasts_revert⟩

theorem setHash_frame {journalId : LedgerJournalId} {newTxHash : OnChainTxHash}
    {fault : Option String} {reply : Result Unit}
    (served : before.setOnChainTxSendHash journalId newTxHash fault = some (reply, after)) :
    Frame since before after := by
  unfold World.setOnChainTxSendHash at served
  split at served <;> cases served
  · exact .refl _
  · exact ⟨rfl, rfl, rfl, recasts_setHash⟩

theorem serve_frame {c : Call} (quiet : c.quiet) {a : Answer c} {reply : Reply c}
    (served : serve run before c a = some (reply, after)) : Frame since before after := by
  cases c with
  | findWalletById | findByAddress =>
    obtain rfl := Stores.read_unchanged served
    exact .refl _
  | lightningTxBaseVolumeSince | onChainTxBaseVolumeSince =>
    obtain rfl := Stores.read_unchanged served
    exact .refl _
  | getWalletBalance asker walletId =>
    refine getWalletBalance_frame (fun isWithdrawal => ?_) served
    subst isWithdrawal
    cases quiet
  | getOnChainFeeEstimate =>
    cases a <;> cases served <;> exact .refl _
  | acquire => exact lock_frame (.inl served)
  | release => exact lock_frame (.inr served)
  | revertOnChainPayment => exact revert_frame served
  | setOnChainTxSendHash => exact setHash_frame served
  | addOnChainTxSend => cases quiet
  | onChainService | getCurrentPrice | checkWithdrawalLimits | getBalance | signalAborted | payToAddress
  | lookupOnChainFee =>
    cases served
    exact .refl _

theorem serve_unchanged {c : Call} {a : Answer c} {reply : Reply c}
    (served : serve run before c a = some (reply, after)) :
    after.wallets = before.wallets ∧ after.conditions = before.conditions := by
  by_cases quiet : c.quiet
  · have frame : Frame 0 before after := serve_frame quiet served
    exact ⟨frame.wallets, frame.conditions⟩
  · cases c with
    | getWalletBalance asker walletId =>
      simp only [serve, World.getWalletBalance] at served
      split at served <;> cases served
      · exact ⟨rfl, rfl⟩
      · split <;> exact ⟨rfl, rfl⟩
    | addOnChainTxSend args =>
      simp only [serve, World.addOnChainTxSend] at served
      split at served
      · cases served
        exact ⟨rfl, rfl⟩
      · split at served <;> cases served <;> exact ⟨rfl, rfl⟩
    | _ => exact absurd rfl quiet

theorem Frame.unwritten (frame : Frame since before after)
    (reaches : since ≤ before.ledger.journals.length) (unwritten : Unwritten since run before) :
    Unwritten since run after := by
  intro journal member original
  obtain ⟨earlier, inBefore, same⟩ := frame.ledger.earlier reaches journal member original
  rw [same.writer]
  exact unwritten earlier inBefore (same.original ▸ original)

variable {payments : RunId → OnChainPayment} {start : World}

theorem Frame.within (frame : Frame since before after)
    (reaches : since ≤ before.ledger.journals.length) (within : Within payments since before) :
    Within payments since after := by
  intro journal member original
  obtain ⟨earlier, inBefore, same⟩ := frame.ledger.earlier reaches journal member original
  obtain ⟨balance, read, covered⟩ := within earlier inBefore (same.original ▸ original)
  refine ⟨balance, ?_, ?_⟩
  · rw [frame.balances, same.writer]
    exact read
  · rw [same.writer, same.outgoing]
    exact covered

theorem Frame.guaranteed (frame : Frame start.ledger.journals.length before after)
    (good : (withdrawalDiscipline payments start).inv before) :
    (withdrawalDiscipline payments start).Guaranteed run before after := by
  obtain ⟨conditions, reaches, within⟩ := good
  refine ⟨⟨frame.conditions.trans conditions, reaches.trans frame.ledger.length,
    frame.within reaches within⟩, fun other _ => ⟨by rw [frame.balances], frame.unwritten reaches⟩⟩

end Frame

def Config.imbalance (config : Config) (conditions : Conditions) (walletId : WalletId) : ℚ :=
  if config.withdraw.method = .flat then 0
  else netInboundFlow (conditions.lightningVolume walletId) -
    netInboundFlow (conditions.onChainVolume walletId)

def OnChainPayment.totalFee (payment : OnChainPayment) (config : Config) (conditions : Conditions)
    (amount minBankFee : ℚ) : ℚ :=
  (WithdrawalFeeCalculator.onChainWithdrawalFee config.calculator
    (conditions.minerFee payment.address payment.targetConfirmations amount) amount minBankFee
    (config.imbalance conditions payment.senderWallet.id)).totalFee

section Specs

variable {payments : RunId → OnChainPayment} {start : World} {payee : PayeeLookup} {run : RunId}

abbrev WithdrawalSpec {α : Type} (payments : RunId → OnChainPayment) (start : World)
    (payee : PayeeLookup) (run : RunId) (pre : World → Prop) (x : App α)
    (ok : α → World → Prop) : Prop :=
  Spec services (payeeIs payments payee) (withdrawalDiscipline payments start) run pre x ok
    (fun _ _ => True)

structure Persists (payments : RunId → OnChainPayment) (start : World) (run : RunId)
    (keep : World → Prop) : Prop where
  stable : (withdrawalDiscipline payments start).Stable run keep
  frame : ∀ before after, (withdrawalDiscipline payments start).inv before →
    Frame start.ledger.journals.length before after → keep before → keep after

theorem unwritten_persists : Persists payments start run
    (Unwritten start.ledger.journals.length run) where
  stable := fun _ _ between _ unwritten => between.2 unwritten
  frame := fun _ _ good frame unwritten => frame.unwritten good.2.1 unwritten

theorem hasRead_persists {balance : ℚ} :
    Persists payments start run (HasRead start.ledger.journals.length run balance) where
  stable := fun _ _ between _ hasRead => ⟨between.2 hasRead.1, between.1.trans hasRead.2⟩
  frame := fun _ _ good frame hasRead =>
    ⟨frame.unwritten good.2.1 hasRead.1, (congrFun frame.balances run).trans hasRead.2⟩

theorem true_persists : Persists payments start run (fun _ => True) where
  stable := Discipline.stable_true _ _
  frame := fun _ _ _ _ _ => trivial

variable {keep : World → Prop}

theorem quiet_triple (persists : Persists payments start run keep) {c : Call} (quiet : c.quiet)
    {fact : Reply c → Prop}
    (known : ∀ before a reply after, (withdrawalDiscipline payments start).inv before →
      payeeIs payments payee run before c a → serve run before c a = some (reply, after) →
      fact reply) :
    Triple services (payeeIs payments payee) (withdrawalDiscipline payments start) run keep (ask c)
      (fun reply w => keep w ∧ fact reply) := by
  refine Triple.request persists.stable fun before a reply after good holds allowed served => ?_
  have frame : Frame start.ledger.journals.length before after := serve_frame quiet served
  exact ⟨frame.guaranteed good, persists.frame before after good frame holds,
    known before a reply after good allowed served⟩

theorem ask_quiet {c : Call} (quiet : c.quiet) : (ask c).Only (fun c => c.quiet = true) :=
  Prog.only_request quiet

theorem quiet_keeps (persists : Persists payments start run keep) {α : Type} {x : App α}
    (only : OnlyRun (fun c => c.quiet = true) x) :
    WithdrawalSpec payments start payee run keep x (fun _ => keep) := by
  refine Spec.weaken_err (Spec.ofOnly persists.stable ?_ only) (fun _ _ _ _ => trivial)
  intro c quiet before a reply after good holds _ served
  have frame : Frame start.ledger.journals.length before after := serve_frame quiet served
  exact ⟨frame.guaranteed good, persists.frame before after good frame holds⟩

theorem known_spec {α : Type} {p : Prog Call Reply (Result α)} {value : α}
    (h : Triple services (payeeIs payments payee) (withdrawalDiscipline payments start) run keep p
      (fun reply w => keep w ∧ ∀ found, reply = .ok found → found = value)) :
    WithdrawalSpec payments start payee run keep (fallible p)
      (fun found w => keep w ∧ found = value) := by
  refine fallible_spec (Triple.conseq h (fun _ _ holds => holds) fun reply w _ holds => ?_)
  cases reply with
  | error error => trivial
  | ok found => exact ⟨holds.1, holds.2 found rfl⟩

theorem minerFee_spec (persists : Persists payments start run keep) (amount : ℚ)
    (address : OnChainAddress) (targetConfirmations : Int) :
    WithdrawalSpec payments start payee run keep
      (fallible (ask (.getOnChainFeeEstimate amount address targetConfirmations)))
      (fun fee w => keep w ∧ fee = start.conditions.minerFee address
        targetConfirmations amount) := by
  refine known_spec (quiet_triple persists rfl ?_)
  intro before error reply after good _ served fee isFee
  cases error with
  | some error => cases served; cases isFee
  | none =>
    cases served
    cases isFee
    rw [good.1]

theorem lightningVolume_spec (persists : Persists payments start run keep) (walletId : WalletId)
    (sinceDaysAgo : Nat) :
    WithdrawalSpec payments start payee run keep
      (fallible (ask (.lightningTxBaseVolumeSince walletId sinceDaysAgo)))
      (fun volume w => keep w ∧ volume = start.conditions.lightningVolume walletId) := by
  refine known_spec (quiet_triple persists rfl ?_)
  rintro before fault _ after good _ served volume rfl
  rw [← good.1]
  exact (Except.ok.inj (Stores.read_ok served)).symm

theorem onChainVolume_spec (persists : Persists payments start run keep) (walletId : WalletId)
    (sinceDaysAgo : Nat) :
    WithdrawalSpec payments start payee run keep
      (fallible (ask (.onChainTxBaseVolumeSince walletId sinceDaysAgo)))
      (fun volume w => keep w ∧ volume = start.conditions.onChainVolume walletId) := by
  refine known_spec (quiet_triple persists rfl ?_)
  rintro before fault _ after good _ served volume rfl
  rw [← good.1]
  exact (Except.ok.inj (Stores.read_ok served)).symm

theorem imbalance_spec (persists : Persists payments start run keep) (config : Config)
    (walletId : WalletId) :
    WithdrawalSpec payments start payee run keep (getSwapOutImbalance config walletId)
      (fun imbalance w => keep w ∧ imbalance = config.imbalance start.conditions walletId) := by
  unfold getSwapOutImbalance Config.imbalance
  by_cases flat : config.withdraw.method = .flat
  · simp only [getFeesConfig, flat, if_true]
    exact Spec.pure fun _ _ holds => ⟨holds, rfl⟩
  · simp only [getFeesConfig, flat, if_false]
    refine (lightningVolume_spec persists walletId _).bind fun lightning =>
      Spec.pre_fact fun isLightning => ?_
    refine (onChainVolume_spec persists walletId _).bind fun onChain =>
      Spec.pre_fact fun isOnChain => ?_
    subst isLightning isOnChain
    exact Spec.pure fun _ _ holds => ⟨holds, rfl⟩

-- The estimate that has been asked for the fee takes it for a payment to somebody outside.
def PayeeLookup.charged : PayeeLookup → Bool
  | .notFound | .fault (.unknown _) => true
  | _ => false

theorem findByAddress_triple (persists : Persists payments start run keep) {asker : Asker}
    (charged : asker = .lockedEstimate → payee.charged) :
    Triple services (payeeIs payments payee) (withdrawalDiscipline payments start) run keep
      (ask (.findByAddress asker (payments run).address))
      (fun reply w => keep w ∧ (asker = .lockedEstimate → ∃ error, reply = .error error ∧
        (error.name = .UnknownRepositoryError ∨
          error.name = .CouldNotFindWalletFromOnChainAddressError ∧ payee = .notFound))) := by
  refine quiet_triple persists rfl ?_
  rintro before fault reply after _ allowed served rfl
  have isPayee : before.payeeLookup (payments run).address fault = payee := allowed rfl
  have isCharged := charged rfl
  rw [← isPayee] at isCharged
  unfold World.payeeLookup at isCharged
  cases fault with
  | some fault =>
    cases served
    refine ⟨fault.error, rfl, .inl ?_⟩
    cases fault with
    | unknown message => rfl
    | cannotConnectToDb => cases isCharged
    | dbConnectionClosed => cases isCharged
  | none =>
    cases served
    unfold World.findByAddress at isCharged ⊢
    cases found : before.wallets.find? ((payments run).address ∈ ·.onChainAddresses) with
    | none =>
      exact ⟨_, rfl, .inr ⟨rfl, by simp [← isPayee, World.payeeLookup, World.findByAddress, found]⟩⟩
    | some wallet => simp [found, PayeeLookup.charged] at isCharged

theorem checkedToSats_ok {amount checked : ℚ} (passed : checkedToSats amount = .ok checked) :
    checked = amount := by
  unfold checkedToSats at passed
  split at passed
  · cases passed
  · split at passed <;> cases passed
    rfl

theorem checkedToTargetConfs_ok {confs checked : Int}
    (passed : checkedToTargetConfs confs = .ok checked) :
    checked = confs := by
  unfold checkedToTargetConfs at passed
  split at passed <;> cases passed
  rfl

theorem getOnChainFee_spec (persists : Persists payments start run keep) (config : Config)
    {asker : Asker} (estimates : asker ≠ .withdrawal)
    (charged : asker = .lockedEstimate → payee.charged) :
    WithdrawalSpec payments start payee run keep
      (getOnChainFee config asker (payments run).senderWallet.id (payments run).senderAccount
        (payments run).amount (payments run).address (payments run).targetConfirmations)
      (fun fee w => keep w ∧
        (fee = (payments run).totalFee config start.conditions (payments run).amount
            (payments run).senderAccount.withdrawFee ∧
            (asker = .lockedEstimate → payee = .notFound) ∨
          asker = .estimate ∧ fee = 0)) := by
  unfold getOnChainFee
  refine ofResult_bind_spec (fun amount checked => ?_) fun _ _ _ _ _ => trivial
  obtain rfl := checkedToSats_ok checked
  refine ofResult_bind_spec (fun confs confsChecked => ?_) fun _ _ _ _ _ => trivial
  obtain rfl := checkedToTargetConfs_ok confsChecked
  refine ofResult_bind_spec (fun _ _ => ?_) fun _ _ _ _ _ => trivial
  refine (quiet_keeps persists (fallible_only (ask_quiet rfl))).bind fun wallet => ?_
  refine (total_spec (findByAddress_triple persists charged)).bind fun payeeWallet =>
    Spec.pre_fact fun known => ?_
  split
  · exact Spec.throw fun _ _ _ => trivial
  · split
    · exact Spec.throw fun _ _ _ => trivial
    · have quiet : (Call.getWalletBalance asker wallet.id).quiet := by
        cases asker <;> first | rfl | exact absurd rfl estimates
      refine (quiet_keeps persists (fallible_only (ask_quiet quiet))).bind fun balance => ?_
      split
      · exact Spec.throw fun _ _ _ => trivial
      · refine (quiet_keeps persists (fallible_only (ask_quiet rfl))).bind fun _ => ?_
        refine (minerFee_spec persists _ _ _).bind fun minerFee =>
          Spec.pre_fact fun isMinerFee => ?_
        refine (imbalance_spec persists config _).bind fun imbalance =>
          Spec.pre_fact fun isImbalance => ?_
        subst isMinerFee isImbalance
        refine Spec.pure fun _ _ holds => ⟨holds, .inl ⟨rfl, fun locked => ?_⟩⟩
        obtain ⟨error, isError, unknown | missing⟩ := known locked
        · cases isError
          cases unknown
        · exact missing.2
  · rename_i notUnknown notMissing
    cases asker with
    | estimate => exact Spec.pure fun _ _ holds => ⟨holds, .inr ⟨rfl, rfl⟩⟩
    | lockedEstimate =>
      obtain ⟨⟨name, message⟩, isError, unknown | ⟨missing, _⟩⟩ := known rfl
      · subst unknown
        exact (notUnknown message isError).elim
      · subst missing
        exact (notMissing message isError).elim
    | withdrawal => exact absurd rfl estimates

section Covered

variable {config : Config} {payment : OnChainPayment}

theorem totalFee_le_estimate {conditions : Conditions} (ratio : 0 ≤ config.withdraw.ratio)
    (covered : payment.senderAccount.withdrawFee ≠ 0 ∨ config.withdraw.defaultMin ≤ 0)
    {amount larger : ℚ} (le : amount ≤ larger) :
    payment.totalFee config conditions amount (minBankFee config payment.senderAccount) ≤
      payment.totalFee config conditions larger payment.senderAccount.withdrawFee := by
  have calculated : 0 ≤ config.calculator.feeRatio := by
    unfold Config.calculator getFeesConfig
    dsimp only
    split
    · exact le_rfl
    · exact ratio
  have miner : (conditions.minerFee payment.address payment.targetConfirmations amount : ℚ) ≤
      conditions.minerFee payment.address payment.targetConfirmations larger := by
    exact_mod_cast conditions.minerFee_mono _ _ le
  unfold OnChainPayment.totalFee minBankFee
  refine add_le_add ?_ miner
  by_cases free : payment.senderAccount.withdrawFee = 0
  · have nonpos : ((getFeesConfig config.withdraw).withdrawDefaultMin : ℚ) ≤ 0 := by
      exact_mod_cast covered.resolve_left (not_not.mpr free)
    simp only [free, ne_eq, not_true_eq_false, if_false]
    rw [WithdrawalFeeCalculator.bankFee_of_nonpos calculated nonpos]
    exact WithdrawalFeeCalculator.bankFee_mono calculated le _
  · simp only [free, ne_eq, not_false_eq_true, if_true]
    exact WithdrawalFeeCalculator.bankFee_mono calculated le _

theorem totalFee_nonneg {conditions : Conditions} {amount minBankFee : ℚ}
    (nonneg : 0 ≤ minBankFee) :
    0 ≤ payment.totalFee config conditions amount minBankFee := by
  have bank : 0 ≤ WithdrawalFeeCalculator.bankFee config.calculator amount minBankFee
      (config.imbalance conditions payment.senderWallet.id) :=
    nonneg.trans (WithdrawalFeeCalculator.le_bankFee _ _ _)
  exact add_nonneg bank (Nat.cast_nonneg _)

end Covered

theorem balance_spec (walletId : WalletId) :
    WithdrawalSpec payments start payee run (Unwritten start.ledger.journals.length run)
      (fallible (ask (.getWalletBalance .withdrawal walletId)))
      (HasRead start.ledger.journals.length run) := by
  refine fallible_spec (Triple.request unwritten_persists.stable ?_)
  intro before fault reply after good unwritten _ served
  cases fault with
  | some message =>
    cases served
    exact ⟨(Frame.refl before).guaranteed good, trivial⟩
  | none =>
    cases served
    obtain ⟨conditions, reaches, within⟩ := good
    refine ⟨⟨⟨conditions, reaches, ?_⟩, fun other different => ⟨?_, fun holds => holds⟩⟩,
      unwritten, ?_⟩
    · intro journal member original
      obtain ⟨balance, read, covered⟩ := within journal member original
      exact ⟨balance, (Function.update_of_ne (unwritten journal member original) _ _).trans read,
        covered⟩
    · exact Function.update_of_ne different _ _
    · exact Function.update_self run _ _

theorem commit_guaranteed {before : World} {balance : ℚ} {entry : Entry} (clock : Nat)
    (good : (withdrawalDiscipline payments start).inv before)
    (hasRead : HasRead start.ledger.journals.length run balance before)
    (covered : outgoing (payments run).debits entry.transactions ≤ balance) :
    (withdrawalDiscipline payments start).Guaranteed run before
      { before with clock, ledger := before.ledger.commit run clock entry } := by
  obtain ⟨conditions, reaches, within⟩ := good
  refine ⟨⟨conditions, ?_, ?_⟩, fun other different => ⟨rfl, ?_⟩⟩
  · simpa [Ledger.commit] using reaches.trans (Nat.le_succ _)
  · intro journal member original
    rcases mem_drop_concat reaches member with earlier | rfl
    · exact within journal earlier original
    · exact ⟨balance, hasRead.2, covered⟩
  · intro unwritten journal member original
    rcases mem_drop_concat reaches member with earlier | rfl
    · exact unwritten journal earlier original
    · exact Ne.symm different

theorem addOnChainTxSend_spec {args : LedgerService.AddOnChainTxSendArgs} {balance : ℚ}
    (btc : args.walletCurrency = .btc) (sender : args.walletId = (payments run).senderWallet.id)
    (covered : args.sats ≤ balance) :
    WithdrawalSpec payments start payee run (HasRead start.ledger.journals.length run balance)
      (fallible (ask (.addOnChainTxSend args))) (fun _ _ => True) := by
  refine fallible_spec (Triple.request hasRead_persists.stable ?_)
  intro before answer reply after good hasRead _ served
  have unchanged : (withdrawalDiscipline payments start).Guaranteed run before before :=
    (Frame.refl before).guaranteed good
  simp only [serve, World.addOnChainTxSend] at served
  cases built : LedgerService.addOnChainTxSend before.bank args with
  | error error =>
    simp only [built] at served
    cases served
    exact ⟨unchanged, trivial⟩
  | ok entry =>
    simp only [built] at served
    cases fault : answer.fault with
    | some message =>
      simp only [fault] at served
      cases served
      exact ⟨unchanged, trivial⟩
    | none =>
      simp only [fault] at served
      cases served
      refine ⟨commit_guaranteed _ good hasRead ?_, trivial⟩
      rw [outgoing_addOnChainTxSend btc built sender]
      exact covered

theorem payAndSetHash_spec (payment : OnChainPayment) (amountToSend : ℚ)
    (journalId : LedgerJournalId) :
    WithdrawalSpec payments start payee run (fun _ => True)
      (payAndSetHash payment amountToSend journalId) (fun _ _ => True) := by
  refine quiet_keeps true_persists ?_
  unfold payAndSetHash
  refine OnlyRun.bind (total_only (ask_quiet rfl)) fun txHash => ?_
  split
  · split
    · exact OnlyRun.bind (fallible_only (ask_quiet rfl)) fun _ => OnlyRun.throw _
    · exact OnlyRun.throw _
  · refine OnlyRun.bind (fallible_only (ask_quiet rfl)) fun _ => ?_
    exact OnlyRun.bind (total_only (ask_quiet rfl)) fun _ => OnlyRun.pure _

section Run

variable {config : Config} (ratio : 0 ≤ config.withdraw.ratio) (charged : payee.charged)
  (covered : payee = .notFound →
    (payments run).senderAccount.withdrawFee ≠ 0 ∨ config.withdraw.defaultMin ≤ 0)

include ratio charged covered

theorem withdrawUnderLock_spec (btc : (payments run).senderWallet.currency = .btc)
    {amountToSend : ℚ} (le : amountToSend ≤ (payments run).amount) (displayCurrencyPerSat : ℚ) :
    WithdrawalSpec payments start payee run (Unwritten start.ledger.journals.length run)
      (withdrawUnderLock config (payments run) amountToSend displayCurrencyPerSat)
      (fun _ _ => True) := by
  unfold withdrawUnderLock
  refine (balance_spec _).bind fun balance => ?_
  refine (getOnChainFee_spec hasRead_persists config (by decide) fun _ => charged).bind
    fun estimatedFee => Spec.pre_fact fun estimate => ?_
  split
  · exact Spec.throw fun _ _ _ => trivial
  · rename_i enough
    refine (quiet_keeps hasRead_persists (total_only (ask_quiet rfl))).bind fun aborted => ?_
    split
    · exact Spec.throw fun _ _ _ => trivial
    · refine (imbalance_spec hasRead_persists config _).bind fun imbalance =>
        Spec.pre_fact fun isImbalance => ?_
      refine (minerFee_spec hasRead_persists _ _ _).bind fun minerFee =>
        Spec.pre_fact fun isMinerFee => ?_
      subst isImbalance isMinerFee
      obtain ⟨isEstimate, notFound⟩ := estimate.resolve_right fun other => by cases other.1
      have fee : (payments run).totalFee config start.conditions amountToSend
          (minBankFee config (payments run).senderAccount) ≤ _ :=
        totalFee_le_estimate ratio (covered (notFound rfl)) le
      refine (addOnChainTxSend_spec btc rfl ?_).bind fun journalId =>
        payAndSetHash_spec _ _ journalId
      rw [isEstimate] at enough
      exact (add_le_add_right fee amountToSend).trans (not_lt.mp enough)

theorem executePaymentViaOnChain_spec (nonneg : 0 ≤ (payments run).senderAccount.withdrawFee) :
    WithdrawalSpec payments start payee run (Unwritten start.ledger.journals.length run)
      (executePaymentViaOnChain config (payments run)) (fun _ _ => True) := by
  unfold executePaymentViaOnChain
  dsimp only
  split
  · exact Spec.throw fun _ _ _ => trivial
  · rename_i btc
    refine (quiet_keeps unwritten_persists (fallible_only (ask_quiet rfl))).bind fun _ => ?_
    refine (quiet_keeps unwritten_persists (fallible_only (ask_quiet rfl))).bind fun price => ?_
    refine (quiet_keeps unwritten_persists (fallible_only (ask_quiet rfl))).bind fun _ => ?_
    refine (quiet_keeps unwritten_persists (fallible_only (ask_quiet rfl))).bind fun available => ?_
    refine (getOnChainFee_spec unwritten_persists config (by decide)
      (fun other => by cases other)).bind fun estimatedFee => Spec.pre_fact fun estimate => ?_
    have feeNonneg : 0 ≤ estimatedFee := by
      rcases estimate with ⟨rfl, _⟩ | ⟨_, rfl⟩
      · exact totalFee_nonneg nonneg
      · exact le_rfl
    have le : (if (payments run).sendAll then (payments run).amount - estimatedFee
        else (payments run).amount) ≤ (payments run).amount := by
      split
      · exact sub_le_self _ feeNonneg
      · exact le_rfl
    generalize (if (payments run).sendAll then (payments run).amount - estimatedFee
        else (payments run).amount) = amountToSend at le ⊢
    split
    · exact Spec.throw fun _ _ _ => trivial
    · split
      · exact Spec.throw fun _ _ _ => trivial
      · refine bracket_spec (quiet_keeps unwritten_persists (fallible_only (ask_quiet rfl)))
          (withdrawUnderLock_spec ratio charged covered (not_not.mp btc) le price) ?_ ?_
        · exact fun _ => quiet_keeps true_persists (fallible_only (ask_quiet rfl))
        · exact fun _ => quiet_keeps true_persists (fallible_only (ask_quiet rfl))

end Run

end Specs

end Galoy.Withdrawal
