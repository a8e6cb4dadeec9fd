import Galoy.Ledger.Journals
import Galoy.Wallets.TxHistory
import Mathlib.Algebra.BigOperators.Ring.Finset

set_option autoImplicit false

namespace Galoy.TxHistory

open OnChain Keyed IncomingOnChainTxHandler

def satsAt (wanted : OnChainAddress → Bool) (out : TxOut) : Int :=
  if (orUndefined out.address).any wanted then out.sats else 0

def satsOf (wanted : OnChainAddress → Bool) (tx : IncomingTransaction) : Int :=
  (tx.rawTx.outs.map (satsAt wanted)).sum

section Balances

variable (wanted : OnChainAddress → Bool)

theorem total_addBalance {κ : Type} [DecidableEq κ] (wanted : κ → Bool)
    (balances : Record κ BtcPaymentAmount) (key : κ) (amount : BtcPaymentAmount) :
    (addBalance balances key amount).total Amount.amount wanted =
      balances.total Amount.amount wanted + if wanted key then amount.amount else 0 := by
  unfold addBalance
  rw [Record.total_set]
  cases balances.get? key <;> simp [AmountCalculator.add, zeroSats]

theorem foldlM_adds {α σ : Type} {step : σ → α → Result σ} {measure : σ → Int} {amount : α → Int}
    (items : List α) (adds : ∀ state, ∀ item ∈ items, ∃ next, step state item = .ok next ∧
      measure next = measure state + amount item)
    (start : σ) :
    ∃ last, items.foldlM step start = .ok last ∧ measure last = measure start +
      (items.map amount).sum := by
  induction items generalizing start with
  | nil => exact ⟨start, rfl, by simp⟩
  | cons item rest ih =>
    obtain ⟨next, stepped, added⟩ := adds start item List.mem_cons_self
    obtain ⟨last, folded, summed⟩ :=
      ih (fun state other member => adds state other (List.mem_cons_of_mem _ member)) next
    refine ⟨last, ?_, ?_⟩
    · rw [List.foldlM_cons, stepped]
      exact folded
    · rw [summed, added, List.map_cons, List.sum_cons, add_assoc]

theorem addOutput_total (balances : Record OnChainAddress BtcPaymentAmount) (out : TxOut) :
    ∃ next, addOutput balances out = .ok next ∧
      next.total Amount.amount wanted = balances.total Amount.amount wanted +
        satsAt wanted out := by
  have amount := paymentAmountFromNumber_int .btc out.sats
  rw [Int.cast_natCast] at amount
  cases isAddress : orUndefined out.address with
  | none => exact ⟨balances, by simp [addOutput, isAddress], by simp [satsAt, isAddress]⟩
  | some address =>
    refine ⟨addBalance balances address ⟨out.sats⟩, by simp [addOutput, isAddress, amount], ?_⟩
    rw [total_addBalance]
    simp [satsAt, isAddress]

theorem balanceFromIncomingTx_total (tx : IncomingTransaction) :
    ∃ balances, balanceFromIncomingTx tx = .ok balances ∧
      balances.total Amount.amount wanted = satsOf wanted tx := by
  have summed := foldlM_adds tx.rawTx.outs (fun state out _ => addOutput_total wanted state out)
    Record.empty
  simpa [balanceFromIncomingTx, satsOf] using summed

theorem total_entries {κ : Type} [DecidableEq κ] (wanted : κ → Bool)
    (entries : List (κ × BtcPaymentAmount)) (start : Record κ BtcPaymentAmount) :
    (entries.foldl (fun sums entry => addBalance sums entry.1 entry.2) start).total
      Amount.amount wanted =
      start.total Amount.amount wanted +
        ((entries.filter fun entry => wanted entry.1).map fun entry => entry.2.amount).sum := by
  induction entries generalizing start with
  | nil => simp
  | cons entry rest ih =>
    rw [List.foldl_cons, ih, total_addBalance]
    by_cases isWanted : wanted entry.1 <;> simp [isWanted, add_assoc]

theorem balancesByAddresses_total (txns : List IncomingTransaction) :
    ∃ balances, balancesByAddresses txns = .ok balances ∧
      balances.total Amount.amount wanted = (txns.map (satsOf wanted)).sum := by
  have adds (state : Record OnChainAddress BtcPaymentAmount) (tx : IncomingTransaction) :
      ∃ next, addBalances state (balanceFromIncomingTx tx) = .ok next ∧
        next.total Amount.amount wanted = state.total Amount.amount wanted + satsOf wanted tx := by
    obtain ⟨ofTx, isOfTx, totalOfTx⟩ := balanceFromIncomingTx_total wanted tx
    refine ⟨_, by rw [isOfTx]; rfl, ?_⟩
    rw [total_entries, ← totalOfTx]
    rfl
  have summed := foldlM_adds txns (fun state tx _ => adds state tx) Record.empty
  rw [← List.foldlM_map] at summed
  simpa [balancesByAddresses] using summed

end Balances

theorem foldl_get?_listed {β : Type} {step : Record WalletId β → Wallet → Record WalletId β}
    {value : Wallet → β} (sets : ∀ record wallet walletId, (step record wallet).get? walletId =
      if walletId = wallet.id then some (value wallet) else record.get? walletId)
    {wallets : List Wallet} (distinct : (wallets.map Wallet.id).Nodup) (record : Record WalletId β)
    {wallet : Wallet} (listed : wallet ∈ wallets) :
    (wallets.foldl step record).get? wallet.id = some (value wallet) := by
  induction wallets using List.reverseRecOn with
  | nil => cases listed
  | append_singleton earlier last ih =>
    rw [List.foldl_append, List.foldl_cons, List.foldl_nil, sets]
    rw [List.map_append, List.nodup_append] at distinct
    obtain ⟨earlierDistinct, _, apart⟩ := distinct
    rcases List.mem_append.mp listed with isEarlier | isLast
    · have other : wallet.id ≠ last.id :=
        apart wallet.id (List.mem_map_of_mem isEarlier) last.id (by simp)
      rw [if_neg other]
      exact ih earlierDistinct isEarlier
    · obtain rfl := List.mem_singleton.mp isLast
      rw [if_pos rfl]

theorem byWalletId_listed {β : Type} (value : Wallet → β) {wallets : List Wallet}
    (distinct : (wallets.map Wallet.id).Nodup) {wallet : Wallet} (listed : wallet ∈ wallets) :
    (byWalletId value wallets).get? wallet.id = some (value wallet) := by
  apply foldl_get?_listed _ distinct _ listed
  intro record other walletId
  exact record.get?_set other.id walletId (value other)

section Wallets

variable (balancesByAddress : Record OnChainAddress BtcPaymentAmount)

theorem foldl_addBalance_get? (entries : List (OnChainAddress × BtcPaymentAmount)) (wallet : Wallet)
    {sum : Int} {start : Record WalletId BtcPaymentAmount}
    (held : start.get? wallet.id = some ⟨sum⟩) (walletId : WalletId) :
    (entries.foldl (fun balances entry =>
      if entry.1 ∈ wallet.onChainAddresses then addBalance balances wallet.id entry.2 else balances)
      start).get? walletId =
    if walletId = wallet.id then
      some ⟨sum + ((entries.filter fun entry => entry.1 ∈ wallet.onChainAddresses).map
        fun entry => entry.2.amount).sum⟩
    else start.get? walletId := by
  induction entries generalizing sum start with
  | nil => by_cases same : walletId = wallet.id <;> simp [same, held]
  | cons entry rest ih =>
    by_cases ours : entry.1 ∈ wallet.onChainAddresses
    · have next : (addBalance start wallet.id entry.2).get? wallet.id =
          some ⟨sum + entry.2.amount⟩ := by
        simp [addBalance, held, AmountCalculator.add]
      have others : walletId ≠ wallet.id → (addBalance start wallet.id entry.2).get? walletId =
          start.get? walletId := by
        intro other
        simp [addBalance, other]
      rw [List.foldl_cons, if_pos ours, ih next]
      by_cases same : walletId = wallet.id
      · simp [same, ours, add_assoc]
      · simp [same, others same]
    · rw [List.foldl_cons, if_neg ours, ih held]
      simp [ours]

theorem addWallet_get? (balances : Record WalletId BtcPaymentAmount) (wallet : Wallet)
    (walletId : WalletId) :
    (addWallet balancesByAddress balances wallet).get? walletId =
      if walletId = wallet.id then
        some ⟨balancesByAddress.total Amount.amount fun address =>
          address ∈ wallet.onChainAddresses⟩
      else balances.get? walletId := by
  unfold addWallet Record.total
  have fromZero : (balances.set wallet.id zeroSats).get? wallet.id = some ⟨0⟩ := by
    simp [zeroSats]
  rw [foldl_addBalance_get? balancesByAddress.entries wallet fromZero]
  by_cases same : walletId = wallet.id <;> simp [same]

theorem foldl_addWallet_unlisted {wallets : List Wallet} {walletId : WalletId}
    (unlisted : walletId ∉ wallets.map Wallet.id) (balances : Record WalletId BtcPaymentAmount) :
    (wallets.foldl (addWallet balancesByAddress) balances).get? walletId =
      balances.get? walletId := by
  induction wallets generalizing balances with
  | nil => rfl
  | cons wallet rest ih =>
    rw [List.map_cons, List.mem_cons, not_or] at unlisted
    rw [List.foldl_cons, ih unlisted.2, addWallet_get?, if_neg unlisted.1]

end Wallets

def pendingSats (config : Config) (txs : List IncomingTransaction) (wallet : Wallet) : Int :=
  ((txs.filter fun tx => tx.confirmations < config.onchainMinConfirmations).map
    (satsOf fun address => address ∈ wallet.onChainAddresses)).sum

section Filter

variable {wanted : OnChainAddress → Bool} {addresses : List OnChainAddress}

theorem satsOf_eq_zero (within : ∀ address, wanted address → address ∈ addresses)
    {tx : IncomingTransaction} (elsewhere : ¬tx.rawTx.outs.any fun out =>
      out.address.any fun address => address ∈ addresses) :
    satsOf wanted tx = 0 := by
  apply List.sum_eq_zero
  intro sats isSats
  obtain ⟨out, member, rfl⟩ := List.mem_map.mp isSats
  cases isAddress : orUndefined out.address with
  | none => simp [satsAt, isAddress]
  | some address =>
    have outside : address ∉ addresses := by
      intro inside
      apply elsewhere
      rw [List.any_eq_true]
      exact ⟨out, member, by simp [(Ledger.orUndefined_eq_some isAddress).1, inside]⟩
    have unwanted : ¬wanted address := fun isWanted => outside (within address isWanted)
    simp [satsAt, isAddress, unwanted]

theorem sum_filter_apply (within : ∀ address, wanted address → address ∈ addresses)
    {threshold : Nat} (positive : 0 < threshold) (txs : List IncomingTransaction) :
    ((({ confirmationsLessThan := some threshold, addresses := some addresses } :
        TxFilterArgs).apply txs).map (satsOf wanted)).sum =
      ((txs.filter fun tx => tx.confirmations < threshold).map (satsOf wanted)).sum := by
  unfold TxFilterArgs.apply
  induction txs with
  | nil => rfl
  | cons tx rest ih =>
    rw [List.filter_cons, List.filter_cons]
    by_cases below : tx.confirmations < threshold
    · by_cases paid : tx.rawTx.outs.any fun out => out.address.any fun address =>
        address ∈ addresses
      · simp [TxFilterArgs.keeps, below, paid, ih]
      · simp [TxFilterArgs.keeps, below, paid, ih, satsOf_eq_zero within paid]
    · simp [TxFilterArgs.keeps, below, positive.ne', Nat.le_of_not_lt below, ih]

end Filter

def walletsFilter (config : Config) (wallets : List Wallet) : TxFilterArgs where
  confirmationsLessThan := some config.onchainMinConfirmations
  addresses := some (wallets.flatMap Wallet.onChainAddresses)

theorem sum_walletsFilter {config : Config} (positive : 0 < config.onchainMinConfirmations)
    (txs : List IncomingTransaction) {wallets : List Wallet} {wallet : Wallet}
    (listed : wallet ∈ wallets) :
    (((walletsFilter config wallets).apply txs).map
        (satsOf fun address => address ∈ wallet.onChainAddresses)).sum =
      pendingSats config txs wallet := by
  apply sum_filter_apply _ positive
  intro address isOurs
  exact List.mem_flatMap.mpr ⟨wallet, listed, by simpa using isOurs⟩

theorem balanceByWallet_get? {wallets : List Wallet} (distinct : (wallets.map Wallet.id).Nodup)
    (txns : List IncomingTransaction) :
    ∃ balances, balanceByWallet txns wallets = .ok balances ∧
      (∀ wallet ∈ wallets, balances.get? wallet.id =
        some ⟨(txns.map (satsOf fun address => address ∈ wallet.onChainAddresses)).sum⟩) ∧
      ∀ walletId, walletId ∉ wallets.map Wallet.id → balances.get? walletId = none := by
  obtain ⟨byAddress, isByAddress, _⟩ := balancesByAddresses_total (fun _ => true) txns
  have totals (wanted : OnChainAddress → Bool) :
      byAddress.total Amount.amount wanted = (txns.map (satsOf wanted)).sum := by
    obtain ⟨same, isSame, total⟩ := balancesByAddresses_total wanted txns
    rw [isByAddress] at isSame
    cases isSame
    exact total
  refine ⟨wallets.foldl (addWallet byAddress) .empty,
    by simp [balanceByWallet, isByAddress], ?_, ?_⟩
  · intro wallet listed
    rw [foldl_get?_listed (addWallet_get? byAddress) distinct .empty listed, totals]
  · intro walletId unlisted
    rw [foldl_addWallet_unlisted byAddress unlisted, Record.get?_empty]

theorem pendingBalance_get? {config : Config} (positive : 0 < config.onchainMinConfirmations)
    (txs : List IncomingTransaction) {wallets : List Wallet}
    (distinct : (wallets.map Wallet.id).Nodup) :
    ∃ balances, getPendingOnChainBalanceForWallets config (.ok txs) wallets = .ok balances ∧
      (∀ wallet ∈ wallets, balances.get? wallet.id = some ⟨pendingSats config txs wallet⟩) ∧
      ∀ walletId, walletId ∉ wallets.map Wallet.id → balances.get? walletId = none := by
  obtain ⟨balances, isBalances, held, unheld⟩ :=
    balanceByWallet_get? distinct ((walletsFilter config wallets).apply txs)
  refine ⟨balances, isBalances, ?_, unheld⟩
  intro wallet listed
  rw [held wallet listed, sum_walletsFilter positive txs listed]

section History

def settledFor (walletId : WalletId) (transactions : List WalletTransaction) : ℚ :=
  ((transactions.filter fun txn => txn.walletId = some walletId).map
    WalletTransaction.settlementAmount).sum

theorem settledFor_flatMap {α : Type} (walletId : WalletId) (entries : α → List WalletTransaction)
    (items : List α) :
    settledFor walletId (items.flatMap entries) =
      (items.map fun item => settledFor walletId (entries item)).sum := by
  induction items with
  | nil => rfl
  | cons item rest ih =>
    rw [List.map_cons, List.sum_cons, ← ih]
    simp [settledFor]

variable {args : AddPendingIncomingArgs}

theorem mem_pendingOfOutput {tx : IncomingTransaction} {out : TxOut} {txn : WalletTransaction} :
    txn ∈ args.pendingOfOutput tx out ↔
      ∃ address walletId addresses, orUndefined out.address = some address ∧
        args.addressesByWalletId.get? walletId = some addresses ∧ address ∈ addresses ∧
        txn = args.pendingTransaction tx out.sats address walletId := by
  cases isAddress : orUndefined out.address with
  | none => simp [AddPendingIncomingArgs.pendingOfOutput, isAddress]
  | some address =>
    simp only [AddPendingIncomingArgs.pendingOfOutput, isAddress, List.mem_map, List.mem_filter,
      decide_eq_true_eq, Prod.exists, Option.some.injEq, Record.get?_eq_some]
    constructor
    · rintro ⟨walletId, addresses, ⟨held, paid⟩, rfl⟩
      exact ⟨address, walletId, addresses, rfl, held, paid, rfl⟩
    · rintro ⟨_, walletId, addresses, rfl, held, paid, rfl⟩
      exact ⟨walletId, addresses, ⟨held, paid⟩, rfl⟩

theorem mem_filterPendingIncoming {txn : WalletTransaction} :
    txn ∈ args.filterPendingIncoming ↔
      ∃ tx ∈ args.pendingIncoming, ∃ out ∈ tx.rawTx.outs, txn ∈ args.pendingOfOutput tx out := by
  simp [AddPendingIncomingArgs.filterPendingIncoming, List.mem_flatMap]

variable {walletId : WalletId} {addresses : List OnChainAddress}
    (held : args.addressesByWalletId.get? walletId = some addresses)

include held

theorem settledFor_pendingOfOutput (tx : IncomingTransaction) (out : TxOut) :
    settledFor walletId (args.pendingOfOutput tx out) =
      (satsAt (fun address => address ∈ addresses) out : ℚ) := by
  cases isAddress : orUndefined out.address with
  | none => simp [AddPendingIncomingArgs.pendingOfOutput, settledFor, satsAt, isAddress]
  | some address =>
    have ours := args.addressesByWalletId.filter_key held
    have matching : (args.addressesByWalletId.entries.filter fun entry => address ∈ entry.2).filter
        (fun entry => entry.1 = walletId) = [(walletId, addresses)].filter fun entry =>
          address ∈ entry.2 := by
      rw [List.filter_filter, ← ours, List.filter_filter]
      simp only [Bool.and_comm]
    simp only [settledFor, AddPendingIncomingArgs.pendingOfOutput, isAddress, List.filter_map,
      Function.comp_def, AddPendingIncomingArgs.pendingTransaction, Option.some.injEq,
      matching, List.map_map]
    by_cases paid : address ∈ addresses <;> simp [satsAt, isAddress, paid]

theorem settledFor_filterPendingIncoming :
    settledFor walletId args.filterPendingIncoming =
      (args.pendingIncoming.map (satsOf fun address => address ∈ addresses)).sum := by
  unfold AddPendingIncomingArgs.filterPendingIncoming satsOf
  simp only [settledFor_flatMap, settledFor_pendingOfOutput held]
  simp only [Int.cast_list_sum, List.map_map, Function.comp_def]

end History

section Order

def Rearranged (txs others : List IncomingTransaction) : Prop :=
  ∃ reordered, txs.Perm reordered ∧
    List.Forall₂ (fun tx other => tx.confirmations = other.confirmations ∧
      tx.rawTx.outs.Perm other.rawTx.outs) reordered others

theorem pendingSats_of_perm (config : Config) (wallet : Wallet)
    {txs others : List IncomingTransaction} (reordered : txs.Perm others) :
    pendingSats config txs wallet = pendingSats config others wallet :=
  ((reordered.filter _).map _).sum_eq

theorem satsOf_of_perm (wanted : OnChainAddress → Bool) {tx other : IncomingTransaction}
    (reordered : tx.rawTx.outs.Perm other.rawTx.outs) : satsOf wanted tx = satsOf wanted other :=
  (reordered.map _).sum_eq

theorem pendingSats_rearranged (config : Config) (wallet : Wallet)
    {txs others : List IncomingTransaction} (rearranged : Rearranged txs others) :
    pendingSats config txs wallet = pendingSats config others wallet := by
  obtain ⟨reordered, permuted, matched⟩ := rearranged
  rw [pendingSats_of_perm config wallet permuted]
  clear permuted
  unfold pendingSats
  induction matched with
  | nil => rfl
  | cons same _ ih =>
    rw [List.filter_cons, List.filter_cons, same.1]
    split
    · simp only [List.map_cons, List.sum_cons, ih, satsOf_of_perm _ same.2]
    · exact ih

end Order

theorem pending_balance_is_the_pending_history (config : Config)
    (positive : 0 < config.onchainMinConfirmations) (txs : List IncomingTransaction)
    (wallets : List Wallet) (distinct : (wallets.map Wallet.id).Nodup) :
    ∃ balances, getPendingOnChainBalanceForWallets config (.ok txs) wallets = .ok balances ∧
      (∀ wallet ∈ wallets, balances.get? wallet.id = some ⟨pendingSats config txs wallet⟩) ∧
      (∀ others reordered, Rearranged txs others → wallets.Perm reordered →
        ∃ same, getPendingOnChainBalanceForWallets config (.ok others) reordered = .ok same ∧
          ∀ walletId, same.get? walletId = balances.get? walletId) ∧
      ∀ ledgerTransactions currentPrice, ∃ pending,
        getTransactionsForWallets config ⟨.ok ledgerTransactions, .ok txs, currentPrice⟩ wallets =
          .ok (pending ++ fromLedger config.memoSharing ledgerTransactions) ∧
        (∀ txn ∈ pending, txn.status = .pending) ∧
        ∀ wallet ∈ wallets, settledFor wallet.id pending = pendingSats config txs wallet := by
  obtain ⟨balances, isBalances, held, unheld⟩ := pendingBalance_get? positive txs distinct
  refine ⟨balances, isBalances, held, ?_, ?_⟩
  · intro others reordered rearranged permuted
    have sameIds := permuted.map Wallet.id
    obtain ⟨same, isSame, heldToo, unheldToo⟩ :=
      pendingBalance_get? positive others (sameIds.nodup_iff.mp distinct)
    refine ⟨same, isSame, ?_⟩
    intro walletId
    by_cases listed : walletId ∈ wallets.map Wallet.id
    · obtain ⟨wallet, isListed, rfl⟩ := List.mem_map.mp listed
      rw [held wallet isListed, heldToo wallet (permuted.mem_iff.mp isListed),
        pendingSats_rearranged config wallet rearranged]
    · rw [unheld walletId listed, unheldToo walletId (mt sameIds.mem_iff.mpr listed)]
  · intro ledgerTransactions currentPrice
    refine ⟨_, rfl, ?_, ?_⟩
    · intro txn isPending
      obtain ⟨tx, _, out, _, ofOutput⟩ := mem_filterPendingIncoming.mp isPending
      obtain ⟨address, walletId, addresses, _, _, _, rfl⟩ := mem_pendingOfOutput.mp ofOutput
      rfl
    · intro wallet listed
      rw [settledFor_filterPendingIncoming
        (byWalletId_listed Wallet.onChainAddresses distinct listed),
        ← sum_walletsFilter positive txs listed]
      rfl

def twoConfirmations : Config where
  onchainMinConfirmations := 2
  memoSharing := { satsThreshold := 0, centsThreshold := 0 }

def aliceAndBob : List Wallet :=
  [{ id := "alice", accountId := "first", currency := .btc, onChainAddresses := ["a1", "a2"] },
    { id := "bob", accountId := "second", currency := .usd, onChainAddresses := ["b"] }]

def sharedDeposit : IncomingTransaction where
  confirmations := 1
  rawTx :=
    { txHash := "deposit"
      outs := [⟨3, some "a1"⟩, ⟨5, some "b"⟩, ⟨9, none⟩, ⟨4, some "a2"⟩] }
  fee := 0
  createdAt := 0

theorem pending_of_a_shared_deposit :
    ∃ balances pending,
      getPendingOnChainBalanceForWallets twoConfirmations (.ok [sharedDeposit]) aliceAndBob =
        .ok balances ∧
      getTransactionsForWallets twoConfirmations ⟨.ok [], .ok [sharedDeposit], .ok 1⟩ aliceAndBob =
        .ok pending ∧
      balances.get? "alice" = some ⟨7⟩ ∧ settledFor "alice" pending = 7 := by
  have isAlice : aliceAndBob.head (by decide) ∈ aliceAndBob := by decide
  have owed : pendingSats twoConfirmations [sharedDeposit] (aliceAndBob.head (by decide)) = 7 := by
    decide
  obtain ⟨balances, isBalances, held, _, history⟩ := pending_balance_is_the_pending_history
    twoConfirmations (by decide) [sharedDeposit] aliceAndBob (by decide)
  obtain ⟨pending, isPending, _, settled⟩ := history [] (.ok 1)
  refine ⟨balances, pending, isBalances, ?_, ?_, ?_⟩
  · simpa [fromLedger] using isPending
  · have heldByAlice := held _ isAlice
    rwa [owed] at heldByAlice
  · have settledForAlice := settled _ isAlice
    rw [owed] at settledForAlice
    exact_mod_cast settledForAlice

end Galoy.TxHistory
