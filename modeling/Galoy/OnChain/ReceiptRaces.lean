import Galoy.OnChain.ReceiptRuns

set_option autoImplicit false

namespace Galoy.OnChain

open Interleave Failing

structure OneOwner (w : World) : Prop where
  ids : ∀ wallet ∈ w.wallets, ∀ other ∈ w.wallets, wallet.id = other.id → wallet = other
  addresses : ∀ wallet ∈ w.wallets, ∀ other ∈ w.wallets, ∀ address ∈ wallet.onChainAddresses,
    address ∈ other.onChainAddresses → wallet = other

def FeesLeaveSomething (w : World) (tx : OnChainTransaction) : Prop :=
  ∀ wallet ∈ w.wallets, ∀ account, w.accounts wallet.accountId = some account →
    ∀ out ∈ tx.outs, (wallet.paidBy out).isSome → out.sats ≠ 0 →
      onChainDepositFee out.sats account.depositFeeRatio ≠ out.sats

def belongsTo (wallet : Wallet) (payment : Payment) : Bool :=
  payment.1.all (· ∈ wallet.onChainAddresses)

def paidInto (wallet : Wallet) (txHash : OnChainTxHash) (ledger : Ledger) : List Payment :=
  (receipts anyWallet txHash ledger).filter (belongsTo wallet)

structure Once (start : World) (tx : OnChainTransaction) (w : World) : Prop where
  fixed : Fixed start w
  owned : ∀ payment ∈ receipts anyWallet tx.txHash w.ledger, ∃ wallet ∈ start.wallets,
    ∃ address ∈ wallet.onChainAddresses, payment.1 = [address]
  once : ∀ wallet ∈ start.wallets, (paidInto wallet tx.txHash w.ledger).Sublist
    (wallet.payments tx.outs)
  marked : ∀ wallet ∈ start.wallets, ¬Recorded wallet.id tx.txHash w.ledger →
    paidInto wallet tx.txHash w.ledger = []

theorem Once.protocol (start : World) (tx : OnChainTransaction) :
    Protocol start tx.txHash (Once start tx) fun _ => True where
  fixed w good := good.fixed
  quiet before after good fixed _ same := by
    have payments : receipts anyWallet tx.txHash after.ledger =
        receipts anyWallet tx.txHash before.ledger :=
      receipts_congr same
    refine ⟨fixed, ?_, ?_, ?_⟩
    · rw [payments]
      exact good.owned
    · simpa only [paidInto, payments] using good.once
    · intro wallet member
      rw [Recorded.congr same]
      simpa only [paidInto, payments] using good.marked wallet member
  ofReceipts _ _ _ holds := holds
  entered w run good _ := ⟨trivial, ⟨good.fixed.locks _, good.owned, good.once, good.marked⟩⟩
  left w good _ := ⟨good.fixed.locks _, good.owned, good.once, good.marked⟩

section Receive

variable {start : World} {tx : OnChainTransaction} {wallet : Wallet} {account : Account}
  {displayCurrencyPerSat : ℚ} {out : TxOut} {address : OnChainAddress} {run : RunId}

theorem credits_wallet {bank : BankWallets}
    (leaves : out.sats ≠ 0 → onChainDepositFee out.sats account.depositFeeRatio ≠ out.sats)
    (anything : credits anyWallet bank
      (receiveArgs wallet tx.txHash account displayCurrencyPerSat out.sats address)) :
    credits (onlyWallet wallet.id) bank
      (receiveArgs wallet tx.txHash account displayCurrencyPerSat out.sats address) := by
  by_cases empty : out.sats = 0
  · simp [credits, receiveArgs, empty, onChainDepositFee_zero] at anything
  · exact credits_own (leaves empty)

variable {entry : Entry} {now : Nat} {before : World} {done : List TxOut}

theorem paidInto_commit (wallet : Wallet) (txHash : OnChainTxHash) (ledger : Ledger) :
    paidInto wallet txHash (ledger.commit run now entry) =
      paidInto wallet txHash ledger ++
        (receipt? anyWallet txHash (ledger.newJournal run now entry)).toList.filter
          (belongsTo wallet) := by
  simp [paidInto, receipts_commit]

theorem paidInto_other {ledger : Ledger} {bank : BankWallets} (oneOwner : OneOwner start)
    (member : wallet ∈ start.wallets) (paid : wallet.paidBy out = some address)
    (built : LedgerService.addOnChainTxReceive bank
      (receiveArgs wallet tx.txHash account displayCurrencyPerSat out.sats address) = .ok entry)
    {other : Wallet} (present : other ∈ start.wallets) (different : other ≠ wallet) :
    paidInto other tx.txHash (ledger.commit run now entry) = paidInto other tx.txHash ledger := by
  have elsewhere : address ∉ other.onChainAddresses := fun shared =>
    different (oneOwner.addresses other present wallet member address shared (paidBy_mem paid).2)
  rw [paidInto_commit]
  cases receipt : receipt? anyWallet tx.txHash (ledger.newJournal run now entry) with
  | none => simp
  | some payment =>
    obtain ⟨rfl, _⟩ := receipt?_output built receipt
    simp [belongsTo, elsewhere]

theorem Once.received (good : Once start tx before) (oneOwner : OneOwner start)
    (leaves : FeesLeaveSomething start tx) (member : wallet ∈ start.wallets)
    (found : start.accounts wallet.accountId = some account)
    (paid : wallet.paidBy out = some address)
    (built : LedgerService.addOnChainTxReceive before.bank
      (receiveArgs wallet tx.txHash account displayCurrencyPerSat out.sats address) = .ok entry)
    (split : done ++ [out] <+: tx.outs)
    (progress : (paidInto wallet tx.txHash before.ledger).Sublist (wallet.payments done)) :
    Once start tx { before with clock := now, ledger := before.ledger.commit run now entry } ∧
      (paidInto wallet tx.txHash (before.ledger.commit run now entry)).Sublist
        (wallet.payments (done ++ [out])) := by
  have listed : out ∈ tx.outs := split.subset (by simp)
  have isPayment : wallet.payment? out = some ([address], (out.sats : ℚ)) := by
    simp [Wallet.payment?, paid]
  have further : (paidInto wallet tx.txHash (before.ledger.commit run now entry)).Sublist
      (wallet.payments (done ++ [out])) := by
    rw [paidInto_commit, payments_append, isPayment]
    refine progress.append ((List.filter_sublist).trans ?_)
    cases receipt : receipt? anyWallet tx.txHash (before.ledger.newJournal run now entry) with
    | none => exact List.nil_sublist _
    | some payment =>
      obtain ⟨rfl, _⟩ := receipt?_output built receipt
      exact List.Sublist.refl _
  refine ⟨⟨⟨good.fixed.bank, good.fixed.wallets, good.fixed.accounts, good.fixed.users⟩, ?_,
    ?_, ?_⟩, further⟩
  · intro payment here
    rw [receipts_commit, List.mem_append, Option.mem_toList] at here
    rcases here with old | new
    · exact good.owned payment old
    · obtain ⟨rfl, _⟩ := receipt?_output built new
      exact ⟨wallet, member, address, (paidBy_mem paid).2, rfl⟩
  · intro other present
    by_cases same : other = wallet
    · subst same
      exact further.trans (split.sublist.filterMap _)
    · rw [paidInto_other oneOwner member paid built present same]
      exact good.once other present
  · intro other present unrecorded
    have earlier := good.marked other present fun recorded =>
      unrecorded (recorded.grow (List.prefix_append _ _))
    by_cases same : other = wallet
    · subst same
      rw [paidInto_commit, earlier]
      cases receipt : receipt? anyWallet tx.txHash (before.ledger.newJournal run now entry) with
      | none => rfl
      | some payment =>
        obtain ⟨rfl, credits⟩ := receipt?_output built receipt
        have own := credits_wallet (leaves other member account found out listed (by simp [paid]))
          credits
        have kept : receipt? (onlyWallet other.id) tx.txHash
            (before.ledger.newJournal run now entry) =
            some ([address], (out.sats : ℚ)) :=
          (receipt?_receive built tx.txHash _).mpr ⟨rfl, own, rfl⟩
        have none := receipts_of_unrecorded unrecorded
        rw [receipts_commit, kept] at none
        simp at none
    · rw [paidInto_other oneOwner member paid built present same]
      exact earlier

end Receive

section Spec

variable {start : World} {tx : OnChainTransaction} {wallet : Wallet} {account : Account}
  {permit : Permit services} {run : RunId}

def creditedUpTo (wallet : Wallet) (txHash : OnChainTxHash) (done : List TxOut)
    (ledger : Ledger) : Prop :=
  (paidInto wallet txHash ledger).Sublist (wallet.payments done)

theorem creditedUpTo_ofReceipts (wallet : Wallet) (txHash : OnChainTxHash) (done : List TxOut) :
    OfReceipts txHash (creditedUpTo wallet txHash done) := by
  intro ledger after same holds
  unfold creditedUpTo paidInto at holds ⊢
  rwa [receipts_congr same]

theorem receiveOutput_once (oneOwner : OneOwner start) (leaves : FeesLeaveSomething start tx)
    (member : wallet ∈ start.wallets) (found : start.accounts wallet.accountId = some account)
    (displayCurrencyPerSat : ℚ)
    {done : List TxOut} {out : TxOut} (split : done ++ [out] <+: tx.outs) :
    Spec services permit (receiptDiscipline tx.txHash (Once start tx)) run
      (heldBy tx.txHash run (creditedUpTo wallet tx.txHash done))
      (receiveOutput wallet tx.txHash account displayCurrencyPerSat out)
      (fun _ => heldBy tx.txHash run (creditedUpTo wallet tx.txHash (done ++ [out])))
      (fun _ => heldBy tx.txHash run fun _ => True) := by
  unfold receiveOutput
  split
  · rename_i unpaid
    refine Spec.pure fun w _ holds => ⟨holds.1, ?_⟩
    have none : wallet.payment? out = none := by simp [Wallet.payment?, unpaid]
    simpa [creditedUpTo, payments_append, none] using holds.2
  · rename_i address paid
    have later := creditedUpTo_ofReceipts wallet tx.txHash (done ++ [out])
    refine Spec.seq (fun _ => heldBy tx.txHash run (creditedUpTo wallet tx.txHash (done ++ [out])))
      (fallible_spec (ask_triple (heldBy_stable (creditedUpTo_ofReceipts _ _ _)) ?_)) fun _ => ?_
    · intro before a reply after good holds _ served
      have effect := serve_effect served
      obtain ⟨rfl, error, rfl⟩ | ⟨entry, now, id, built, rfl, rfl⟩ := World.receive_effect served
      · exact ⟨effect.guaranteed (.inr holds.1) good, holds.1, trivial⟩
      · obtain ⟨kept, further⟩ := good.received oneOwner leaves member found paid built split holds.2
        exact ⟨effect.guaranteed (.inr holds.1) kept, holds.1, further⟩
    · refine Spec.conseq ((Once.protocol start tx).quiet_held later ?_) (fun _ _ holds => holds)
        (fun _ _ _ holds => holds) fun _ _ _ holds => ⟨holds.1, trivial⟩
      exact OnlyRun.bind (fallible_only (Protocol.quiet_ask rfl)) fun _ =>
        OnlyRun.bind (fallible_only (Protocol.quiet_ask rfl)) fun _ =>
          total_only (Protocol.quiet_ask rfl)

theorem processTxForWallet_once (oneOwner : OneOwner start) (leaves : FeesLeaveSomething start tx)
    (member : wallet ∈ start.wallets) {incoming : IncomingOnChainTransaction}
    (same : incoming.rawTx = tx) :
    Keeps tx (Once start tx) permit run (processTxForWallet wallet incoming) := by
  have empty := creditedUpTo_ofReceipts wallet tx.txHash []
  refine Spec.conseq ((Once.protocol start tx).wallet_spec
    (fun recorded ledger => recorded = false → creditedUpTo wallet tx.txHash [] ledger)
    (fun _ => True)
    ?_ (fun _ _ _ _ => trivial) ?_ (fun _ _ _ => trivial) (fun _ _ => trivial)
    (fun _ _ => trivial) ?_ same)
    (fun _ _ _ => trivial) (fun _ _ _ _ => trivial) fun _ _ _ _ => trivial
  · exact fun _ ledger after equal holds unrecorded => empty ledger after equal (holds unrecorded)
  · intro w good _ unrecorded
    have missing := mt isOnChainTxRecorded_iff.mpr (Bool.eq_false_iff.mp unrecorded)
    simp [creditedUpTo, good.marked wallet member missing]
  · intro account displayCurrencyPerSat found
    refine Spec.conseq
      (each_spec (fun done => heldBy tx.txHash run (creditedUpTo wallet tx.txHash done))
        fun done out rest split => ?_) (fun _ _ holds => ⟨holds.1, holds.2 rfl⟩)
      (fun _ _ _ holds => ⟨holds.1, trivial⟩) fun _ _ _ holds => holds
    exact receiveOutput_once oneOwner leaves member found displayCurrencyPerSat
      ⟨rest, by simp [split]⟩

end Spec

theorem payments_sublist (wallet : Wallet) (outs : List TxOut) :
    (wallet.payments outs).Sublist
      (outs.filterMap fun out => out.address.map fun address => ([address], (out.sats : ℚ))) := by
  induction outs with
  | nil => exact List.Sublist.refl _
  | cons out rest ih =>
    cases paid : wallet.paidBy out with
    | none =>
      have unpaid : wallet.payment? out = none := by simp [Wallet.payment?, paid]
      rw [Wallet.payments, List.filterMap_cons_none unpaid, ← Wallet.payments]
      cases addressed : out.address with
      | none => simpa [addressed] using ih
      | some address => simpa [addressed] using ih.cons ([address], (out.sats : ℚ))
    | some address =>
      have payment : wallet.payment? out = some ([address], (out.sats : ℚ)) := by
        simp [Wallet.payment?, paid]
      rw [Wallet.payments, List.filterMap_cons_some payment, ← Wallet.payments]
      simpa [(paidBy_mem paid).1] using ih.cons_cons ([address], (out.sats : ℚ))

theorem Once.subperm {start w : World} {tx : OnChainTransaction} (good : Once start tx w) :
    (receipts anyWallet tx.txHash w.ledger).Subperm tx.payments := by
  rw [List.subperm_ext_iff]
  intro payment here
  obtain ⟨wallet, member, address, own, single⟩ := good.owned payment here
  have belongs : belongsTo wallet payment = true := by simp [belongsTo, single, own]
  calc (receipts anyWallet tx.txHash w.ledger).count payment
      = (paidInto wallet tx.txHash w.ledger).count payment := (List.count_filter belongs).symm
    _ ≤ (wallet.payments tx.outs).count payment := (good.once wallet member).count_le _
    _ ≤ tx.payments.count payment := (payments_sublist wallet tx.outs).count_le _

theorem Once.start {start : World} {tx : OnChainTransaction}
    (fresh : ∀ leg ∈ start.ledger.legs, isReceiptOf tx.txHash leg = false) :
    Once start tx start := by
  have empty : receipts anyWallet tx.txHash start.ledger = [] := by
    rw [receipts_eq, receiptJournals_of_fresh fresh]
    rfl
  exact ⟨Fixed.refl start, by simp [empty], by simp [paidInto, empty], by simp [paidInto, empty]⟩

/-- A recorded output is found by its amount less the fee, so a run credits it again only if the fee
leaves nothing. -/
theorem outputs_credited_at_most_once (onchainMinConfirmations : Nat)
    (activities : RunId → Activity) (start : World) (tx : OnChainTransaction)
    (oneOwner : OneOwner start) (leaves : FeesLeaveSomething start tx)
    (fresh : ∀ leg ∈ start.ledger.legs, isReceiptOf tx.txHash leg = false)
    (known : ∀ run, (activities run).Known start tx) {after : Config World Call Reply (Result Unit)}
    (reach : Reach services (listsKnown tx)
      ⟨start, fun run => ((activities run).prog onchainMinConfirmations).run⟩ after) :
    (receipts anyWallet tx.txHash after.world.ledger).Subperm tx.payments := by
  have protocol := Once.protocol start tx
  have runs : ∀ run, Keeps tx (Once start tx) (listsKnown tx) run
      ((activities run).prog onchainMinConfirmations) := fun run =>
    protocol.activity_keeps (fun _ _ _ _ listed => listed) onchainMinConfirmations
      (fun wallet member incoming same => processTxForWallet_once oneOwner leaves member same)
        (known run)
  exact (Keeps.reach runs (Once.start fresh) reach).subperm

section Example

def twoScans (depositFeeRatio : ℚ) : Config World Call Reply (Result Unit) :=
  ⟨depositWorld depositFeeRatio, fun _ => ((Activity.scan 10).prog 2).run⟩

theorem depositWorld_oneOwner (depositFeeRatio : ℚ) : OneOwner (depositWorld depositFeeRatio) := by
  constructor <;> simp [depositWorld]

theorem two_scans_credit_each_output_once :
    FeesLeaveSomething (depositWorld (1 / 10)) depositTx ∧
      ∃ after, Reach services (listsKnown depositTx) (twoScans (1 / 10)) after ∧
        (receipts anyWallet "tx" after.world.ledger).length = 2 ∧
        (receipts anyWallet "tx" after.world.ledger).Subperm depositTx.payments := by
  have played : (play services (listsKnown depositTx) (fun _ => allWorks)
      (List.replicate 16 0 ++ List.replicate 8 1) (twoScans (1 / 10))).map
        (fun after => (receipts anyWallet "tx" after.world.ledger).length) = some 2 := by
    decide +kernel
  have leaves : FeesLeaveSomething (depositWorld (1 / 10)) depositTx := by
    intro wallet member account found out listed _ _
    obtain rfl : wallet = aliceOnChain := by simpa [depositWorld] using member
    obtain rfl : account = ⟨"aliceAccount", "aliceUser", 1 / 10⟩ := by
      simpa [depositWorld, aliceOnChain] using found.symm
    revert out
    decide +kernel
  obtain ⟨after, run, twice⟩ := Option.map_eq_some_iff.mp played
  have reach := play_reach _ _ _ _ _ _ run
  exact ⟨leaves, after, reach, twice,
    outputs_credited_at_most_once 2 (fun _ => .scan 10) (depositWorld (1 / 10)) depositTx
      (depositWorld_oneOwner _) leaves (fun _ none => by cases none) (fun _ => trivial) reach⟩

theorem whole_fee_credited_by_every_scan :
    OneOwner (depositWorld 1) ∧
      ∃ after, Reach services (listsKnown depositTx) (twoScans 1) after ∧
        receipts anyWallet "tx" after.world.ledger =
          [(["alice1"], 1000), (["alice2"], 2000), (["alice1"], 1000), (["alice2"], 2000)] ∧
        ¬(receipts anyWallet "tx" after.world.ledger).Subperm depositTx.payments := by
  have played : (play services (listsKnown depositTx) (fun _ => allWorks)
      (List.replicate 16 0 ++ List.replicate 16 1) (twoScans 1)).map
        (fun after => receipts anyWallet "tx" after.world.ledger) =
          some [(["alice1"], 1000), (["alice2"], 2000), (["alice1"], 1000),
            (["alice2"], 2000)] := by
    decide +kernel
  obtain ⟨after, run, again⟩ := Option.map_eq_some_iff.mp played
  refine ⟨depositWorld_oneOwner 1, after, play_reach _ _ _ _ _ _ run, again, fun once => ?_⟩
  have atMostThree := once.length_le
  rw [again] at atMostThree
  exact absurd atMostThree (by decide)

end Example

end Galoy.OnChain
