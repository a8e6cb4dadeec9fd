import Galoy.Graphql.Connections
import Galoy.Wallets.PendingBalance

set_option autoImplicit false

namespace Galoy.TxHistory

open OnChain Keyed

section Ids

def outputsToWallets (addressesByWalletId : Record WalletId (List OnChainAddress))
    (tx : IncomingTransaction) : Nat :=
  (tx.rawTx.outs.map fun out =>
    addressesByWalletId.entries.countP fun entry => (orUndefined out.address).any fun address =>
      address ∈ entry.2).sum

variable (args : AddPendingIncomingArgs)

theorem pendingOfOutput_ids (tx : IncomingTransaction) (out : TxOut) :
    (args.pendingOfOutput tx out).map WalletTransaction.id =
      List.replicate (args.addressesByWalletId.entries.countP fun entry =>
        (orUndefined out.address).any fun address => address ∈ entry.2) tx.rawTx.txHash := by
  cases isAddress : orUndefined out.address with
  | none => simp [AddPendingIncomingArgs.pendingOfOutput, isAddress]
  | some address =>
    simp [AddPendingIncomingArgs.pendingOfOutput, isAddress, Function.comp_def,
      AddPendingIncomingArgs.pendingTransaction, List.map_const', List.countP_eq_length_filter]

theorem filterPendingIncoming_ids :
    args.filterPendingIncoming.map WalletTransaction.id =
      args.pendingIncoming.flatMap fun tx =>
        List.replicate (outputsToWallets args.addressesByWalletId tx) tx.rawTx.txHash := by
  have ofOutputs (tx : IncomingTransaction) (outs : List TxOut) :
      (outs.flatMap (args.pendingOfOutput tx)).map WalletTransaction.id =
        List.replicate (outs.map fun out => args.addressesByWalletId.entries.countP fun entry =>
          (orUndefined out.address).any fun address => address ∈ entry.2).sum tx.rawTx.txHash := by
    induction outs with
    | nil => rfl
    | cons out rest ih =>
      rw [List.flatMap_cons, List.map_append, ih, pendingOfOutput_ids, List.map_cons, List.sum_cons,
        List.replicate_append_replicate]
  simp only [AddPendingIncomingArgs.filterPendingIncoming, List.map_flatMap, ofOutputs,
    outputsToWallets]

theorem replicated_hashes_nodup {txs : List IncomingTransaction} (count : IncomingTransaction → Nat)
    (distinct : (txs.map fun tx => tx.rawTx.txHash).Nodup) :
    (txs.flatMap fun tx => List.replicate (count tx) tx.rawTx.txHash).Nodup ↔
      ∀ tx ∈ txs, count tx ≤ 1 := by
  rw [List.nodup_flatMap]
  simp only [List.nodup_replicate, and_iff_left_iff_imp]
  intro _
  apply (List.pairwise_map.mp distinct).imp
  intro tx other unequal
  simp only [Function.onFun, List.disjoint_left, List.mem_replicate]
  rintro hash ⟨_, rfl⟩ ⟨_, same⟩
  exact unequal same

theorem history_ids_distinct_iff (sharing : MemoSharing)
    (ledgerTransactions : List LedgerTransactionDetails)
    (ledgerDistinct : (ledgerTransactions.map LedgerTransactionDetails.id).Nodup)
    (pendingDistinct : (args.pendingIncoming.map fun tx => tx.rawTx.txHash).Nodup) :
    ((addPendingIncoming (fromLedger sharing ledgerTransactions) args).map
      WalletTransaction.id).Nodup ↔
      ∀ tx ∈ args.pendingIncoming, outputsToWallets args.addressesByWalletId tx = 0 ∨
        outputsToWallets args.addressesByWalletId tx = 1 ∧
          tx.rawTx.txHash ∉ ledgerTransactions.map LedgerTransactionDetails.id := by
  have ledgerIds : (fromLedger sharing ledgerTransactions).map WalletTransaction.id =
      ledgerTransactions.map LedgerTransactionDetails.id := by
    simp [fromLedger, Function.comp_def, translateLedgerTxnToWalletTxn]
  rw [addPendingIncoming, List.map_append, filterPendingIncoming_ids, ledgerIds, List.nodup_append',
    replicated_hashes_nodup _ pendingDistinct]
  simp only [ledgerDistinct, true_and, List.disjoint_left, List.mem_flatMap, List.mem_replicate]
  constructor
  · rintro ⟨once, fresh⟩ tx isPending
    rcases Nat.le_one_iff_eq_zero_or_eq_one.mp (once tx isPending) with unpaid | paid
    · exact .inl unpaid
    · exact .inr ⟨paid, fresh ⟨tx, isPending, by simp [paid], rfl⟩⟩
  · intro shown
    constructor
    · intro tx isPending
      rcases shown tx isPending with unpaid | ⟨paid, _⟩ <;> omega
    · rintro _ ⟨tx, isPending, paid, rfl⟩
      rcases shown tx isPending with unpaid | ⟨_, fresh⟩
      · exact absurd unpaid paid
      · exact fresh

def deposit (txHash : OnChainTxHash) (confirmations : Nat) (outs : List TxOut) :
    IncomingTransaction where
  confirmations
  rawTx := { txHash, outs }
  fee := 0
  createdAt := 0

def unrelatedDeposits : List IncomingTransaction :=
  [deposit "bobs" 1 [⟨5, some "b"⟩, ⟨9, none⟩],
    deposit "alices" 0 [⟨7, some "stranger"⟩, ⟨3, some "a2"⟩],
    deposit "strangers" 1 [⟨8, some "stranger"⟩], deposit "receipt" 6 [⟨4, some "a1"⟩]]

def ledgerEntry (id : String) (type : LedgerTransactionType) (debit credit : ℚ)
    (pendingConfirmation : Bool) : LedgerTransactionDetails where
  walletId := some "alice"
  type
  debit
  credit
  currency := .btc
  timestamp := 0
  pendingConfirmation
  journalId := 0
  paymentHash := none
  pubkey := none
  feeKnownInAdvance := false
  satsAmount := none
  centsAmount := none
  satsFee := none
  centsFee := none
  displayAmount := none
  displayFee := none
  id
  fee := 0
  usd := 0
  feeUsd := 0
  lnMemo := none
  username := none
  memoFromPayer := none
  address := none
  txHash := some "receipt"
  recipientWalletId := none

def alicesEntries : List LedgerTransactionDetails :=
  [ledgerEntry "third" .payment 2 0 true, ledgerEntry "second" .payment 1 0 false,
    ledgerEntry "first" .onchainReceipt 0 4 false]

theorem history_with_unrelated_deposits_distinct :
    ∃ history, getTransactionsForWallets twoConfirmations
        ⟨.ok alicesEntries, .ok unrelatedDeposits, .ok 1⟩ aliceAndBob = .ok history ∧
      history.map WalletTransaction.id = ["bobs", "alices", "third", "second", "first"] ∧
      (history.map WalletTransaction.id).Nodup := by
  refine ⟨_, rfl, by decide, ?_⟩
  exact (history_ids_distinct_iff _ _ alicesEntries (by decide) (by decide)).mpr (by decide)

theorem shared_deposit_pages_never_end :
    ∃ history, getTransactionsForWallets twoConfirmations ⟨.ok [], .ok [sharedDeposit], .ok 1⟩
      aliceAndBob = .ok history ∧
      ¬(history.map WalletTransaction.id).Nodup ∧
      ∀ calls, pagesForward WalletTransaction.id history 1 calls none = none := by
  refine ⟨_, rfl, by decide, ?_⟩
  intro calls
  apply pagesForward_repeated_id
  · decide
  · rfl

end Ids

section ByAddresses

def LastListed (wallets : List Wallet) (wallet : Wallet) : Prop :=
  wallets.reverse.find? (fun other => other.id = wallet.id) = some wallet

def CountsAsPending (config : Config) (tx : IncomingTransaction) : Prop :=
  config.onchainMinConfirmations = 0 ∨ tx.confirmations < config.onchainMinConfirmations

def LedgerTransactionDetails.isOnChain (txn : LedgerTransactionDetails) : Bool :=
  match txn.txType with
  | .onchainIntraLedger | .onChainTradeIntraAccount | .onchainPayment | .onchainReceipt => true
  | _ => false

theorem LedgerTransactionDetails.initiationVia_onChain {txn : LedgerTransactionDetails}
    {address : OnChainAddress} (hasAddress : orUndefined txn.address = some address)
    (shown : OnChainAddress) :
    txn.initiationVia = .onChain shown ↔ txn.isOnChain ∧ shown = address := by
  unfold initiationVia isOnChain
  cases txn.txType <;> simp [hasAddress, eq_comm]

structure ShownOutput where
  txHash : OnChainTxHash
  walletId : Option WalletId
  amount : ℚ
  initiationVia : InitiationVia
  deriving DecidableEq, Repr

def WalletTransaction.shownOutput (txn : WalletTransaction) : ShownOutput :=
  ⟨txn.id, txn.walletId, txn.settlementAmount, txn.initiationVia⟩

def requestedOutput (addresses : List OnChainAddress) (wallet : Wallet) (tx : IncomingTransaction)
    (out : TxOut) : Option ShownOutput :=
  match orUndefined out.address with
  | none => none
  | some address =>
    if address ∈ wallet.onChainAddresses ∧ address ∈ addresses then
      some ⟨tx.rawTx.txHash, some wallet.id, out.sats, .onChain address⟩
    else none

theorem requestedOutput_eq_some {addresses : List OnChainAddress} {wallet : Wallet}
    {tx : IncomingTransaction} {out : TxOut} {shown : ShownOutput} :
    requestedOutput addresses wallet tx out = some shown ↔
      ∃ address, orUndefined out.address = some address ∧ address ∈ wallet.onChainAddresses ∧
        address ∈ addresses ∧
        shown = ⟨tx.rawTx.txHash, some wallet.id, out.sats, .onChain address⟩ := by
  cases isAddress : orUndefined out.address with
  | none => simp [requestedOutput, isAddress]
  | some address =>
    by_cases requested : address ∈ wallet.onChainAddresses ∧ address ∈ addresses
    · simp [requestedOutput, isAddress, requested, eq_comm]
    · simp only [requestedOutput, isAddress, requested, if_false]
      grind

def requestedOutputs (config : Config) (onChainTxs : List IncomingTransaction)
    (addresses : List OnChainAddress) (wallet : Wallet) : List ShownOutput :=
  (onChainTxs.filter fun tx => tx.confirmations < config.onchainMinConfirmations).flatMap fun tx =>
    tx.rawTx.outs.filterMap (requestedOutput addresses wallet tx)

theorem byWalletId_get?_eq_some {β : Type} {value : Wallet → β} {wallets : List Wallet}
    {walletId : WalletId} {held : β} :
    (byWalletId value wallets).get? walletId = some held ↔
      ∃ wallet, LastListed wallets wallet ∧ wallet.id = walletId ∧ value wallet = held := by
  rw [byWalletId_get?, Option.map_eq_some_iff]
  constructor
  · rintro ⟨wallet, found, rfl⟩
    have same : wallet.id = walletId := by simpa using List.find?_some found
    subst same
    exact ⟨wallet, found, rfl, rfl⟩
  · rintro ⟨wallet, last, rfl, rfl⟩
    exact ⟨wallet, last, rfl⟩

theorem LastListed.unique {wallets : List Wallet} {wallet other : Wallet}
    (last : LastListed wallets wallet) (otherLast : LastListed wallets other)
    (same : wallet.id = other.id) : wallet = other := by
  unfold LastListed at last otherLast
  rw [same, otherLast] at last
  exact (Option.some.inj last).symm

variable (config : Config) (ledgerTransactions : List LedgerTransactionDetails)
    (onChainTxs : List IncomingTransaction) (currentPrice : Result ℚ) (wallets : List Wallet)
    (addresses : List OnChainAddress)

def selectingFilter : TxFilterArgs where
  confirmationsLessThan := some config.onchainMinConfirmations
  addresses := some (addresses.filter fun address =>
    address ∈ wallets.flatMap Wallet.onChainAddresses)

def PaysRequested (tx : IncomingTransaction) : Prop :=
  ∃ out ∈ tx.rawTx.outs, ∃ address, out.address = some address ∧ address ∈ addresses ∧
    ∃ wallet ∈ wallets, address ∈ wallet.onChainAddresses

theorem selectingFilter_keeps (tx : IncomingTransaction) :
    (selectingFilter config wallets addresses).keeps tx ↔
      CountsAsPending config tx ∧ PaysRequested wallets addresses tx := by
  unfold TxFilterArgs.keeps selectingFilter CountsAsPending PaysRequested
  by_cases zero : config.onchainMinConfirmations = 0
  · simp [zero, Option.any_eq_true]
  · by_cases below : tx.confirmations < config.onchainMinConfirmations
    · simp [below, Option.any_eq_true]
    · simp [zero, below, Nat.le_of_not_lt below]

def pendingByAddresses : List WalletTransaction :=
  (addPendingIncomingArgs wallets ((selectingFilter config wallets addresses).apply onChainTxs)
    currentPrice).filterPendingIncoming

theorem mem_pendingByAddresses {txn : WalletTransaction} :
    txn ∈ pendingByAddresses config onChainTxs currentPrice wallets addresses ↔
      ∃ tx ∈ onChainTxs, CountsAsPending config tx ∧ PaysRequested wallets addresses tx ∧
        ∃ out ∈ tx.rawTx.outs, ∃ address wallet, orUndefined out.address = some address ∧
          LastListed wallets wallet ∧ address ∈ wallet.onChainAddresses ∧
          txn = (addPendingIncomingArgs wallets
            ((selectingFilter config wallets addresses).apply onChainTxs)
            currentPrice).pendingTransaction tx out.sats address wallet.id := by
  simp only [pendingByAddresses, mem_filterPendingIncoming, mem_pendingOfOutput,
    addPendingIncomingArgs, TxFilterArgs.apply, List.mem_filter, selectingFilter_keeps,
    byWalletId_get?_eq_some]
  constructor
  · rintro ⟨tx, ⟨isTx, counts, pays⟩, out, isOut, address, _, _, isAddress, ⟨wallet, last, rfl, rfl⟩, paid, rfl⟩
    exact ⟨tx, isTx, counts, pays, out, isOut, address, wallet, isAddress, last, paid, rfl⟩
  · rintro ⟨tx, isTx, counts, pays, out, isOut, address, wallet, isAddress, last, paid, rfl⟩
    exact ⟨tx, ⟨isTx, counts, pays⟩, out, isOut, address, _, _, isAddress,
      ⟨wallet, last, rfl, rfl⟩, paid, rfl⟩

theorem pending_addresses_requested :
    (∀ txn ∈ pendingByAddresses config onChainTxs currentPrice wallets addresses,
      ∃ address ∈ addresses, txn.initiationVia = .onChain address) ↔
      ∀ tx ∈ onChainTxs, CountsAsPending config tx → PaysRequested wallets addresses tx →
        ∀ out ∈ tx.rawTx.outs, ∀ address, orUndefined out.address = some address →
          ∀ wallet, LastListed wallets wallet → address ∈ wallet.onChainAddresses →
            address ∈ addresses := by
  simp only [mem_pendingByAddresses]
  constructor
  · intro requested tx isTx counts pays out isOut address isAddress wallet last paid
    obtain ⟨shown, isRequested, isShown⟩ :=
      requested _ ⟨tx, isTx, counts, pays, out, isOut, address, wallet, isAddress, last, paid, rfl⟩
    cases isShown
    exact isRequested
  · rintro requested _ ⟨tx, isTx, counts, pays, out, isOut, address, wallet, isAddress, last, paid, rfl⟩
    exact ⟨address, requested tx isTx counts pays out isOut address isAddress wallet last paid, rfl⟩

def requestedLedgerTransactions : List LedgerTransactionDetails :=
  ledgerTransactions.filter fun tx => (orUndefined tx.address).any fun address =>
    address ∈ addresses

theorem mem_requestedLedgerTransactions {txn : LedgerTransactionDetails} :
    txn ∈ requestedLedgerTransactions ledgerTransactions addresses ↔
      txn ∈ ledgerTransactions ∧ ∃ address ∈ addresses, orUndefined txn.address = some address := by
  simp [requestedLedgerTransactions, Option.any_eq_true, and_comm]

theorem confirmed_addresses_requested :
    (∀ txn ∈ fromLedger config.memoSharing (requestedLedgerTransactions
      ledgerTransactions addresses), ∃ address ∈ addresses, txn.initiationVia = .onChain address) ↔
      ∀ txn ∈ ledgerTransactions, ∀ address ∈ addresses, orUndefined txn.address = some address →
        txn.isOnChain := by
  simp only [fromLedger, List.forall_mem_map, mem_requestedLedgerTransactions]
  constructor
  · intro requested txn isTxn address isRequested hasAddress
    obtain ⟨shown, _, isShown⟩ := requested txn ⟨isTxn, address, isRequested, hasAddress⟩
    exact ((LedgerTransactionDetails.initiationVia_onChain hasAddress shown).mp isShown).1
  · rintro onChain txn ⟨isTxn, address, isRequested, hasAddress⟩
    have isOnChain := onChain txn isTxn address isRequested hasAddress
    exact ⟨address, isRequested,
      (LedgerTransactionDetails.initiationVia_onChain hasAddress address).mpr ⟨isOnChain, rfl⟩⟩

def KnowsRequested : Prop :=
  ∀ wallet ∈ wallets, ∀ tx ∈ onChainTxs, tx.confirmations < config.onchainMinConfirmations →
    ∀ out ∈ tx.rawTx.outs, ∀ address, orUndefined out.address = some address →
      address ∈ wallet.onChainAddresses → address ∈ addresses →
      ∀ last, LastListed wallets last → last.id = wallet.id → address ∈ last.onChainAddresses

theorem exists_lastListed {wallets : List Wallet} {wallet : Wallet} (listed : wallet ∈ wallets) :
    ∃ last, LastListed wallets last ∧ last.id = wallet.id := by
  have found : (wallets.reverse.find? fun other => other.id = wallet.id).isSome := by
    rw [List.find?_isSome]
    exact ⟨wallet, List.mem_reverse.mpr listed, by simp⟩
  obtain ⟨last, isLast⟩ := Option.isSome_iff_exists.mp found
  have same : last.id = wallet.id := by simpa using List.find?_some isLast
  exact ⟨last, by rw [LastListed, same, isLast], same⟩

section Known

variable {config} {onChainTxs} {wallets} {addresses} {wallet : Wallet} (listed : wallet ∈ wallets)

theorem filterMap_sublist_flatMap {α β γ : Type} {wanted : α → Option γ} {entries : α → List β}
    {shown : β → γ} {items : List α}
    (found : ∀ item ∈ items, ∀ value, wanted item = some value → value ∈ (entries item).map shown) :
    (items.filterMap wanted).Sublist ((items.flatMap entries).map shown) := by
  induction items with
  | nil => simp
  | cons item rest ih =>
    have later := ih fun other isOther => found other (List.mem_cons_of_mem _ isOther)
    rw [List.flatMap_cons, List.map_append]
    cases isWanted : wanted item with
    | none =>
      rw [List.filterMap_cons_none isWanted]
      exact later.trans (List.sublist_append_right _ _)
    | some value =>
      rw [List.filterMap_cons_some isWanted]
      have here := List.singleton_sublist.mpr (found item List.mem_cons_self value isWanted)
      exact here.append later

include listed

theorem requestedOutput_paysRequested {tx : IncomingTransaction} {out : TxOut}
    (isOut : out ∈ tx.rawTx.outs) {shown : ShownOutput}
    (requested : requestedOutput addresses wallet tx out = some shown) :
    PaysRequested wallets addresses tx := by
  obtain ⟨address, isAddress, ours, isRequested, _⟩ := requestedOutput_eq_some.mp requested
  exact ⟨out, isOut, address, (Ledger.orUndefined_eq_some isAddress).1, isRequested,
    wallet, listed, ours⟩

theorem requestedOutput_shown {args : AddPendingIncomingArgs}
    (byWallet : args.addressesByWalletId = byWalletId Wallet.onChainAddresses wallets)
    (known : KnowsRequested config onChainTxs wallets addresses) {tx : IncomingTransaction}
    (isTx : tx ∈ onChainTxs) (below : tx.confirmations < config.onchainMinConfirmations)
    {out : TxOut} (isOut : out ∈ tx.rawTx.outs) {shown : ShownOutput}
    (requested : requestedOutput addresses wallet tx out = some shown) :
    shown ∈ (args.pendingOfOutput tx out).map WalletTransaction.shownOutput := by
  obtain ⟨address, isAddress, ours, isRequested, rfl⟩ := requestedOutput_eq_some.mp requested
  obtain ⟨last, isLast, same⟩ := exists_lastListed listed
  have held := known wallet listed tx isTx below out isOut address isAddress ours isRequested
    last isLast same
  refine List.mem_map.mpr ⟨args.pendingTransaction tx out.sats address wallet.id,
    mem_pendingOfOutput.mpr ?_, rfl⟩
  refine ⟨address, wallet.id, last.onChainAddresses, isAddress, ?_, held, rfl⟩
  rw [byWallet, byWalletId_get?_eq_some]
  exact ⟨last, isLast, same, rfl⟩

theorem dropped_not_requested {tx : IncomingTransaction}
    (below : tx.confirmations < config.onchainMinConfirmations)
    (dropped : ¬(selectingFilter config wallets addresses).keeps tx) :
    tx.rawTx.outs.filterMap (requestedOutput addresses wallet tx) = [] := by
  rw [List.filterMap_eq_nil_iff]
  intro out isOut
  rw [Option.eq_none_iff_forall_not_mem]
  intro shown requested
  apply dropped
  rw [selectingFilter_keeps]
  exact ⟨.inr below, requestedOutput_paysRequested listed isOut requested⟩

theorem requestedOutputs_sublist_flatMap {args : AddPendingIncomingArgs}
    (byWallet : args.addressesByWalletId = byWalletId Wallet.onChainAddresses wallets)
    (known : KnowsRequested config onChainTxs wallets addresses) {txs : List IncomingTransaction}
    (within : txs ⊆ onChainTxs) :
    (requestedOutputs config txs addresses wallet).Sublist
      ((((selectingFilter config wallets addresses).apply txs).flatMap fun tx =>
        tx.rawTx.outs.flatMap (args.pendingOfOutput tx)).map WalletTransaction.shownOutput) := by
  unfold requestedOutputs TxFilterArgs.apply
  induction txs with
  | nil => simp
  | cons tx rest ih =>
    obtain ⟨isTx, within⟩ := List.cons_subset.mp within
    have later := ih within
    rw [List.filter_cons, List.filter_cons]
    by_cases below : tx.confirmations < config.onchainMinConfirmations
    · by_cases keeps : (selectingFilter config wallets addresses).keeps tx
      · have here : (tx.rawTx.outs.filterMap (requestedOutput addresses wallet tx)).Sublist
            ((tx.rawTx.outs.flatMap (args.pendingOfOutput tx)).map
              WalletTransaction.shownOutput) := by
          apply filterMap_sublist_flatMap
          intro out isOut shown requested
          exact requestedOutput_shown listed byWallet known isTx below isOut requested
        simp only [below, decide_true, if_true, keeps, List.flatMap_cons, List.map_append]
        exact here.append later
      · simpa [below, keeps, dropped_not_requested listed below keeps] using later
    · simp only [below, decide_false, Bool.false_eq_true, if_false]
      split
      · rw [List.flatMap_cons, List.map_append]
        exact later.trans (List.sublist_append_right _ _)
      · exact later

theorem requestedOutputs_sublist (known : KnowsRequested config onChainTxs wallets addresses) :
    (requestedOutputs config onChainTxs addresses wallet).Sublist
      ((pendingByAddresses config onChainTxs currentPrice wallets addresses).map
        WalletTransaction.shownOutput) :=
  requestedOutputs_sublist_flatMap listed rfl known (List.Subset.refl _)

end Known

theorem requested_outputs_shown :
    (∀ wallet ∈ wallets, (requestedOutputs config onChainTxs addresses wallet).Sublist
      ((pendingByAddresses config onChainTxs currentPrice wallets addresses).map WalletTransaction.shownOutput)) ↔
      KnowsRequested config onChainTxs wallets addresses := by
  constructor
  · intro shown wallet listed tx isTx below out isOut address isAddress ours requested last isLast same
    have isShown := (shown wallet listed).subset (List.mem_flatMap.mpr ⟨tx, by simp [isTx, below],
      List.mem_filterMap.mpr ⟨out, isOut, requestedOutput_eq_some.mpr
        ⟨address, isAddress, ours, requested, rfl⟩⟩⟩)
    obtain ⟨txn, isPending, sameOutput⟩ := List.mem_map.mp isShown
    obtain ⟨_, _, _, _, _, _, other, holder, _, isHolder, held, rfl⟩ :=
      (mem_pendingByAddresses config onChainTxs currentPrice wallets addresses).mp isPending
    simp only [WalletTransaction.shownOutput, AddPendingIncomingArgs.pendingTransaction,
      ShownOutput.mk.injEq, Option.some.injEq, InitiationVia.onChain.injEq] at sameOutput
    obtain ⟨_, sameId, _, rfl⟩ := sameOutput
    rw [isLast.unique isHolder (same.trans sameId.symm)]
    exact held
  · intro known wallet listed
    exact requestedOutputs_sublist currentPrice listed known

theorem transactions_by_addresses_iff :
    ∃ pending confirmed,
      getTransactionsForWalletsByAddresses config
        ⟨.ok ledgerTransactions, .ok onChainTxs, currentPrice⟩ wallets
        addresses = .ok (pending ++ confirmed) ∧
      confirmed = fromLedger config.memoSharing (ledgerTransactions.filter fun tx =>
        (orUndefined tx.address).any fun address => address ∈ addresses) ∧
      (((∀ txn ∈ pending ++ confirmed, ∃ address ∈ addresses, txn.initiationVia =
        .onChain address) ∧
        ∀ wallet ∈ wallets, (requestedOutputs config onChainTxs addresses wallet).Sublist
          (pending.map WalletTransaction.shownOutput)) ↔
        (∀ txn ∈ ledgerTransactions, ∀ address ∈ addresses, orUndefined txn.address = some address →
          txn.isOnChain) ∧
        (∀ tx ∈ onChainTxs, CountsAsPending config tx → PaysRequested wallets addresses tx →
          ∀ out ∈ tx.rawTx.outs, ∀ address, orUndefined out.address = some address →
            ∀ wallet, LastListed wallets wallet → address ∈ wallet.onChainAddresses →
            address ∈ addresses) ∧
        KnowsRequested config onChainTxs wallets addresses) := by
  refine ⟨pendingByAddresses config onChainTxs currentPrice wallets addresses, _, rfl, rfl, ?_⟩
  rw [List.forall_mem_append, pending_addresses_requested, requested_outputs_shown]
  rw [← confirmed_addresses_requested config ledgerTransactions addresses]
  unfold requestedLedgerTransactions
  tauto

theorem shared_deposit_shown_at_other_address :
    ∃ transactions, getTransactionsForWalletsByAddresses twoConfirmations
      ⟨.ok [], .ok [sharedDeposit], .ok 1⟩
        aliceAndBob ["a1"] = .ok transactions ∧
      ∃ txn ∈ transactions, txn.initiationVia = .onChain "b" := by
  refine ⟨_, rfl, ?_⟩
  decide

end ByAddresses

end Galoy.TxHistory
