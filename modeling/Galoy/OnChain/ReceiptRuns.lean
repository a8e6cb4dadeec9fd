import Galoy.OnChain.ReceiptBook

set_option autoImplicit false

namespace Galoy.OnChain

open Interleave Failing

inductive Effect (run : RunId) (before : World) : Call → World → Prop where
  | nothing (c : Call) : Effect run before c before
  | acquired (txHash : OnChainTxHash) (free : before.locks txHash = none) :
      Effect run before (.acquire txHash)
        { before with locks := Function.update before.locks txHash (some run) }
  | released (txHash : OnChainTxHash) (own : before.locks txHash = some run) :
      Effect run before (.release txHash)
        { before with locks := Function.update before.locks txHash none }
  | received (args : LedgerService.AddOnChainTxReceiveArgs) (entry : Entry) (now : Nat)
      (built : LedgerService.addOnChainTxReceive before.bank args = .ok entry) :
      Effect run before (.addOnChainTxReceive args)
        { before with clock := now, ledger := before.ledger.commit run now entry }
  | deposited (args : LedgerAdmin.ColdStorageArgs) (now : Nat) :
      Effect run before (.addColdStorageTxSend args)
        { before with
          clock := now
          ledger :=
            before.ledger.commit run now (LedgerAdmin.addColdStorageTxSend before.bank args) }

def Call.reads : Call → Bool
  | .acquire _ | .release _ | .addOnChainTxReceive _ | .addColdStorageTxSend _ => false
  | _ => true

section Effects

variable {run : RunId} {before after : World} {c : Call}

theorem World.acquire_inversion {txHash : OnChainTxHash} {answer : LockAnswer} {reply : Result Unit}
    (served : before.acquire run txHash answer = some (reply, after)) :
    ((∃ error, reply = .error error) ∧ after = before) ∨
      (reply = .ok () ∧ before.locks txHash = none ∧
        after = { before with locks := Function.update before.locks txHash (some run) }) :=
  Stores.acquire_inversion served

theorem World.commit_effect {entry : Entry} {answer : TimedAnswer} {reply : Result LedgerJournalId}
    (served : before.commit run entry answer = some (reply, after)) :
    (after = before ∧ ∃ error, reply = .error error) ∨
      ∃ now id, reply = .ok id ∧
        after = { before with clock := now, ledger := before.ledger.commit run now entry } := by
  unfold World.commit at served
  cases fault : answer.fault with
  | some message =>
    simp only [fault, Option.some.injEq, Prod.mk.injEq] at served
    exact .inl ⟨served.2.symm, _, served.1.symm⟩
  | none =>
    simp only [fault, Option.some.injEq, Prod.mk.injEq] at served
    exact .inr ⟨_, _, served.1.symm, served.2.symm⟩

theorem World.receive_effect {args : LedgerService.AddOnChainTxReceiveArgs} {answer : TimedAnswer}
    {reply : Result LedgerJournalId}
    (served : before.addOnChainTxReceive run args answer = some (reply, after)) :
    (after = before ∧ ∃ error, reply = .error error) ∨
      ∃ entry now id, LedgerService.addOnChainTxReceive before.bank args = .ok entry ∧
        reply = .ok id ∧
        after = { before with clock := now, ledger := before.ledger.commit run now entry } := by
  unfold World.addOnChainTxReceive at served
  cases built : LedgerService.addOnChainTxReceive before.bank args with
  | error error =>
    simp only [built, Option.some.injEq, Prod.mk.injEq] at served
    exact .inl ⟨served.2.symm, _, served.1.symm⟩
  | ok entry =>
    simp only [built] at served
    obtain failed | ⟨now, id, done, changed⟩ := World.commit_effect served
    · exact .inl failed
    · exact .inr ⟨entry, now, id, rfl, done, changed⟩

theorem reads_unchanged {a : Answer c} {reply : Reply c} (reads : c.reads = true)
    (served : serve run before c a = some (reply, after)) : after = before := by
  cases c
  case listByAddresses => exact Stores.read_unchanged served
  case findAccountById => exact Stores.read_unchanged served
  case findUserById => exact Stores.read_unchanged served
  case isOnChainTxRecorded => exact Stores.read_unchanged served
  case isToHotWalletTxRecorded => exact Stores.read_unchanged served
  all_goals first | (cases served; rfl) | cases reads

theorem serve_effect {a : Answer c} {reply : Reply c}
    (served : serve run before c a = some (reply, after)) : Effect run before c after := by
  by_cases reads : c.reads = true
  · obtain rfl := reads_unchanged reads served
    exact .nothing c
  · cases c
    case acquire txHash =>
      obtain ⟨_, rfl⟩ | ⟨_, free, rfl⟩ := World.acquire_inversion served
      · exact .nothing _
      · exact .acquired txHash free
    case release txHash =>
      simp only [serve, World.release, Stores.release, Option.some.injEq, Prod.mk.injEq] at served
      obtain ⟨_, rfl⟩ := served
      by_cases own : before.locks txHash = some run
      · simp only [own, if_true]
        exact .released txHash own
      · simp only [own, if_false]
        exact .nothing _
    case addOnChainTxReceive args =>
      obtain ⟨rfl, _⟩ | ⟨entry, now, _, built, _, rfl⟩ := World.receive_effect served
      · exact .nothing _
      · exact .received args entry now built
    case addColdStorageTxSend args =>
      obtain ⟨rfl, _⟩ | ⟨now, _, _, rfl⟩ := World.commit_effect served
      · exact .nothing _
      · exact .deposited args now
    all_goals exact absurd rfl reads

structure Fixed (start w : World) : Prop where
  bank : w.bank = start.bank
  wallets : w.wallets = start.wallets
  accounts : w.accounts = start.accounts
  users : w.users = start.users

theorem Fixed.refl (w : World) : Fixed w w := ⟨rfl, rfl, rfl, rfl⟩

theorem Fixed.locks {start w : World} (fixed : Fixed start w)
    (locks : OnChainTxHash → Option RunId) :
    Fixed start { w with locks } :=
  ⟨fixed.bank, fixed.wallets, fixed.accounts, fixed.users⟩

theorem Effect.fixed {start : World} (effect : Effect run before c after)
    (fixed : Fixed start before) :
    Fixed start after := by
  cases effect <;> exact ⟨fixed.bank, fixed.wallets, fixed.accounts, fixed.users⟩

theorem Effect.grows (effect : Effect run before c after) :
    before.ledger.journals <+: after.ledger.journals := by
  cases effect with
  | nothing | acquired | released => exact List.prefix_rfl
  | received | deposited => exact List.prefix_append _ _

theorem Effect.other_lock (effect : Effect run before c after) {txHash : OnChainTxHash}
    {other : RunId} (different : other ≠ run) (held : before.locks txHash = some other) :
    after.locks txHash = some other := by
  cases effect with
  | nothing | received | deposited => exact held
  | acquired hash free =>
    have elsewhere : txHash ≠ hash := by
      rintro rfl
      rw [held] at free
      cases free
    simpa [Function.update_of_ne elsewhere] using held
  | released hash own =>
    have elsewhere : txHash ≠ hash := by
      rintro rfl
      rw [held] at own
      exact different (Option.some.inj own)
    simpa [Function.update_of_ne elsewhere] using held

def Call.locks (txHash : OnChainTxHash) : Call → Prop
  | .acquire hash | .release hash => hash = txHash
  | _ => False

theorem Effect.lock (effect : Effect run before c after) {txHash : OnChainTxHash}
    (elsewhere : ¬c.locks txHash) : after.locks txHash = before.locks txHash := by
  cases effect with
  | nothing | received | deposited => rfl
  | acquired hash | released hash =>
    have different : txHash ≠ hash := fun same => elsewhere same.symm
    simp [Function.update_of_ne different]

def Harmless (txHash : OnChainTxHash) : Call → Prop
  | .addOnChainTxReceive args => args.txHash ≠ txHash
  | _ => True

theorem receiptJournals_commit_other {txHash : OnChainTxHash} (ledger : Ledger) (now : Nat)
    {entry : Entry} (other : ∀ leg ∈ entry.transactions, isReceiptOf txHash leg = false) :
    receiptJournals txHash (ledger.commit run now entry) = receiptJournals txHash ledger := by
  have none : entry.transactions.any (isReceiptOf txHash) = false := by
    simpa [List.any_eq_false] using other
  simp [receiptJournals, Ledger.journals_commit, Ledger.newJournal, none]

theorem Effect.receiptJournals (effect : Effect run before c after) {txHash : OnChainTxHash}
    (harmless : Harmless txHash c) :
    receiptJournals txHash after.ledger = receiptJournals txHash before.ledger := by
  cases effect with
  | nothing | acquired | released => rfl
  | received args entry now built =>
    refine receiptJournals_commit_other _ _ fun leg member => ?_
    have different : args.txHash ≠ txHash := harmless
    simp [(isReceiptOf_receive built txHash member).2, different]
  | deposited args now =>
    refine receiptJournals_commit_other _ _ fun leg member => ?_
    simp only [LedgerAdmin.addColdStorageTxSend, Entry.credit, Entry.debit, List.nil_append,
      List.cons_append, List.mem_cons, List.not_mem_nil, or_false] at member
    rcases member with rfl | rfl | rfl <;> simp [isReceiptOf, LedgerAdmin.ColdStorageArgs.metadata]

end Effects

def receiptDiscipline (txHash : OnChainTxHash) (inv : World → Prop) : Discipline World where
  inv := inv
  rely run before after :=
    before.ledger.journals <+: after.ledger.journals ∧
    (before.locks txHash = some run → after.locks txHash = some run ∧
      receiptJournals txHash after.ledger = receiptJournals txHash before.ledger)
  rely_refl _ _ := ⟨List.prefix_rfl, fun held => ⟨held, rfl⟩⟩
  rely_trans _ _ _ _ first second := by
    refine ⟨first.1.trans second.1, fun held => ?_⟩
    obtain ⟨still, same⟩ := first.2 held
    obtain ⟨later, again⟩ := second.2 still
    exact ⟨later, again.trans same⟩

section Runs

variable {txHash : OnChainTxHash} {inv : World → Prop} {permit : Permit services} {run : RunId}

theorem Effect.guaranteed {before after : World} {c : Call} (effect : Effect run before c after)
    (allowed : Harmless txHash c ∨ before.locks txHash = some run) (kept : inv after) :
    (receiptDiscipline txHash inv).Guaranteed run before after := by
  refine ⟨kept, fun other different =>
    ⟨effect.grows, fun held => ⟨effect.other_lock different held, ?_⟩⟩⟩
  rcases allowed with harmless | own
  · exact effect.receiptJournals harmless
  · rw [own] at held
    exact absurd (Option.some.inj held).symm different

theorem ask_triple {D : Discipline World} {c : Call} {pre : World → Prop}
    {post : Reply c → World → Prop} (stable : D.Stable run pre)
    (h : ∀ before a reply after, D.inv before → pre before → permit run before c a →
      serve run before c a = some (reply, after) → D.Guaranteed run before after ∧
      post reply after) :
    Triple services permit D run pre (ask c) post := Triple.request stable h

theorem ask_read {c : Call} {pre : World → Prop} {post : Reply c → World → Prop}
    (reads : c.reads = true) (stable : (receiptDiscipline txHash inv).Stable run pre)
    (h : ∀ w a reply, inv w → pre w → permit run w c a → serve run w c a = some (reply, w) →
      post reply w) :
    Triple services permit (receiptDiscipline txHash inv) run pre (ask c) post := by
  refine ask_triple stable fun before a reply after good holds permitted served => ?_
  obtain rfl := reads_unchanged reads served
  exact ⟨⟨good, fun _ _ => Discipline.rely_refl _ _ _⟩, h after a reply good holds permitted served⟩

def heldBy (txHash : OnChainTxHash) (run : RunId) (P : Ledger → Prop) (w : World) : Prop :=
  w.locks txHash = some run ∧ P w.ledger

def OfReceipts (txHash : OnChainTxHash) (P : Ledger → Prop) : Prop :=
  ∀ ledger after, receiptJournals txHash after = receiptJournals txHash ledger → P ledger → P after

theorem heldBy_stable {P : Ledger → Prop} (ofReceipts : OfReceipts txHash P) :
    (receiptDiscipline txHash inv).Stable run (heldBy txHash run P) := by
  rintro before after ⟨_, rely⟩ _ ⟨held, holds⟩
  obtain ⟨still, same⟩ := rely held
  exact ⟨still, ofReceipts _ _ same holds⟩

end Runs

-- A hash stands for one transaction.
def Known (tx : OnChainTransaction) (incoming : IncomingOnChainTransaction) : Prop :=
  incoming.rawTx.txHash = tx.txHash → incoming.rawTx = tx

def listsKnown (tx : OnChainTransaction) : Permit services := fun _ _ c a =>
  match c, a with
  | .listIncomingTransactions _, .ok txs => ∀ incoming ∈ txs, Known tx incoming
  | _, _ => True

instance (tx : OnChainTransaction) (run : RunId) (w : World) (c : Call) (a : services.Answer c) :
    Decidable (listsKnown tx run w c a) := by
  cases c
  case listIncomingTransactions =>
    cases a with
    | error error => exact inferInstanceAs (Decidable True)
    | ok txs =>
      exact inferInstanceAs (Decidable (∀ incoming ∈ txs,
        incoming.rawTx.txHash = tx.txHash → incoming.rawTx = tx))
  all_goals exact inferInstanceAs (Decidable True)

inductive Activity where
  | scan (scanDepth : Nat)
  | process (wallet : Wallet) (tx : IncomingOnChainTransaction)
  deriving DecidableEq, Repr

def Activity.prog (onchainMinConfirmations : Nat) : Activity → App Unit
  | .scan scanDepth => do
    let _ ← updateOnChainReceipt onchainMinConfirmations scanDepth
  | .process wallet tx => processTxForWallet wallet tx

def Activity.Known (start : World) (tx : OnChainTransaction) : Activity → Prop
  | .scan _ => True
  | .process wallet incoming => wallet ∈ start.wallets ∧ OnChain.Known tx incoming

section Scan

variable {tx : OnChainTransaction} {start : World} {inv : World → Prop} {permit : Permit services}
  {run : RunId}

abbrev Keeps {α : Type} (tx : OnChainTransaction) (inv : World → Prop) (permit : Permit services)
    (run : RunId) (x : App α) : Prop :=
  Spec services permit (receiptDiscipline tx.txHash inv) run (fun _ => True) x (fun _ _ => True)
    (fun _ _ => True)

theorem Keeps.reach {activities : RunId → App Unit} {after : Config World Call Reply (Result Unit)}
    (runs : ∀ run, Keeps tx inv permit run (activities run)) (good : inv start)
    (reach : Reach services permit ⟨start, fun run => (activities run).run⟩ after) :
    inv after.world := by
  have begins : (receiptDiscipline tx.txHash inv).inv start := good
  refine reach_inv begins (fun run => ?_) reach
  exact wp_mono (fun _ _ _ _ => trivial) begins (runs run start good trivial)

theorem ask_keeps {c : Call} (reads : c.reads = true) :
    Triple services permit (receiptDiscipline tx.txHash inv) run (fun _ => True) (ask c)
      (fun _ _ => True) :=
  ask_read reads (Discipline.stable_true _ _) fun _ _ _ _ _ _ _ => trivial

theorem fallible_keeps {α : Type} {p : Prog Call Reply (Result α)}
    (h : Triple services permit (receiptDiscipline tx.txHash inv) run (fun _ => True) p
      (fun _ _ => True)) :
    Keeps tx inv permit run (fallible p) := by
  refine fallible_spec (Triple.conseq h (fun _ _ _ => trivial) fun result _ _ _ => ?_)
  cases result <;> trivial

theorem listByAddresses_mem {w : World} {addresses : List OnChainAddress} {wallets : List Wallet}
    (listed : w.listByAddresses addresses = .ok wallets) {wallet : Wallet}
    (member : wallet ∈ wallets) :
    wallet ∈ w.wallets := by
  unfold World.listByAddresses at listed
  dsimp only at listed
  split at listed
  · cases listed
  · cases listed
    exact List.mem_of_mem_filter member

structure Protocol (start : World) (txHash : OnChainTxHash) (inv : World → Prop)
    (settled : Ledger → Prop) : Prop where
  fixed : ∀ w, inv w → Fixed start w
  quiet : ∀ before after, inv before → Fixed start after →
    after.locks txHash = before.locks txHash →
    receiptJournals txHash after.ledger = receiptJournals txHash before.ledger → inv after
  ofReceipts : OfReceipts txHash settled
  entered : ∀ w run, inv w → w.locks txHash = none →
    settled w.ledger ∧ inv { w with locks := Function.update w.locks txHash (some run) }
  left : ∀ w, inv w → settled w.ledger →
    inv { w with locks := Function.update w.locks txHash none }

def Quiet (txHash : OnChainTxHash) (c : Call) : Prop := Harmless txHash c ∧ ¬c.locks txHash

namespace Protocol

variable {settled : Ledger → Prop} (protocol : Protocol start tx.txHash inv settled)
include protocol

theorem quiet_kept {c : Call} (calm : Quiet tx.txHash c) {before after : World} (good : inv before)
    (effect : Effect run before c after) :
    (receiptDiscipline tx.txHash inv).Guaranteed run before after := by
  refine effect.guaranteed (.inl calm.1) (protocol.quiet before after good ?_ ?_ ?_)
  · exact effect.fixed (protocol.fixed before good)
  · exact effect.lock calm.2
  · exact effect.receiptJournals calm.1

theorem quiet_keeps {α : Type} {x : App α} (only : OnlyRun (Quiet tx.txHash) x) :
    Keeps tx inv permit run x := by
  refine Spec.ofOnly (Discipline.stable_true _ _) ?_ only
  intro c calm before a reply after good _ _ served
  exact ⟨protocol.quiet_kept calm good (serve_effect served), trivial⟩

theorem quiet_held {α : Type} {x : App α} {P : Ledger → Prop} (ofReceipts : OfReceipts tx.txHash P)
    (only : OnlyRun (Quiet tx.txHash) x) :
    Spec services permit (receiptDiscipline tx.txHash inv) run (heldBy tx.txHash run P) x
      (fun _ => heldBy tx.txHash run P) (fun _ => heldBy tx.txHash run P) := by
  refine Spec.ofOnly (heldBy_stable ofReceipts) ?_ only
  intro c calm before a reply after good holds _ served
  have effect := serve_effect served
  refine ⟨protocol.quiet_kept calm good effect, ?_, ?_⟩
  · rw [effect.lock calm.2]
    exact holds.1
  · exact ofReceipts _ _ (effect.receiptJournals calm.1) holds.2

theorem lock_spec {α : Type} {body : App α} {done : α → Ledger → Prop}
    (ofReceipts : ∀ value, OfReceipts tx.txHash (done value))
    (settles : ∀ value ledger, done value ledger → settled ledger)
    (inside : Spec services permit (receiptDiscipline tx.txHash inv) run
      (heldBy tx.txHash run settled) body (fun value => heldBy tx.txHash run (done value))
      (fun _ => heldBy tx.txHash run settled)) :
    Spec services permit (receiptDiscipline tx.txHash inv) run (fun _ => True)
      (lockOnChainTxHash tx.txHash body) (fun value w => done value w.ledger)
      (fun _ _ => True) := by
  have released : ∀ P : Ledger → Prop, OfReceipts tx.txHash P →
      (∀ ledger, P ledger → settled ledger) →
      Spec services permit (receiptDiscipline tx.txHash inv) run (heldBy tx.txHash run P)
        (fallible (ask (.release tx.txHash))) (fun _ w => P w.ledger) (fun _ _ => True) := by
    intro P local_ enough
    refine fallible_spec (ask_triple (heldBy_stable local_) ?_)
    intro before a reply after good holds _ served
    have effect := serve_effect served
    have kept : inv after ∧ P after.ledger := by
      cases effect with
      | nothing => exact ⟨good, holds.2⟩
      | released => exact ⟨protocol.left before good (enough _ holds.2), holds.2⟩
    refine ⟨effect.guaranteed (.inl trivial) kept.1, ?_⟩
    cases reply with
    | error error => trivial
    | ok _ => exact kept.2
  refine bracket_spec (fallible_spec (ask_triple (Discipline.stable_true _ _) ?_)) inside
    (fun value => released (done value) (ofReceipts value) (settles value)) fun _ => ?_
  · intro before a reply after good _ _ served
    have effect := serve_effect served
    obtain ⟨⟨error, rfl⟩, rfl⟩ | ⟨rfl, free, rfl⟩ := World.acquire_inversion served
    · exact ⟨effect.guaranteed (.inl trivial) good, trivial⟩
    · obtain ⟨begins, kept⟩ := protocol.entered before run good free
      exact ⟨effect.guaranteed (.inl trivial) kept, by simp [heldBy, begins]⟩
  · exact Spec.conseq (released settled protocol.ofReceipts fun _ holds => holds)
      (fun _ _ holds => holds) (fun _ _ _ _ => trivial) fun _ _ _ _ => trivial

theorem lock_keeps {α : Type} {body : App α}
    (inside : Spec services permit (receiptDiscipline tx.txHash inv) run
      (heldBy tx.txHash run settled) body (fun _ => heldBy tx.txHash run settled)
      (fun _ => heldBy tx.txHash run settled)) :
    Keeps tx inv permit run (lockOnChainTxHash tx.txHash body) :=
  Spec.conseq (protocol.lock_spec (fun _ => protocol.ofReceipts) (fun _ _ holds => holds) inside)
    (fun _ _ holds => holds) (fun _ _ _ _ => trivial) fun _ _ _ _ => trivial

omit protocol in
theorem quiet_ask {txHash : OnChainTxHash} {c : Call} (reads : c.reads = true) :
    (ask c).Only (Quiet txHash) := by
  refine Prog.only_request ?_
  cases c <;> first | exact ⟨trivial, fun locked => locked⟩ | cases reads

omit protocol in
theorem depositToHotWallet_quiet (txHash : OnChainTxHash) (incoming : IncomingOnChainTransaction)
    (displayCurrencyPerSat : ℚ) (out : TxOut) :
    OnlyRun (Quiet txHash) (depositToHotWallet incoming displayCurrencyPerSat out) := by
  unfold depositToHotWallet
  split
  · exact OnlyRun.pure ()
  · refine OnlyRun.bind (total_only (quiet_ask rfl)) fun isColdStorageAddress => ?_
    split
    · exact OnlyRun.pure ()
    · exact OnlyRun.pure ()
    · refine OnlyRun.bind ?_ fun fee => ?_
      · unfold hotWalletFee
        split
        · exact OnlyRun.pure _
        · refine OnlyRun.bind (total_only (quiet_ask rfl)) fun fee => ?_
          cases fee <;> exact OnlyRun.pure _
      · exact OnlyRun.bind (total_only (Prog.only_request ⟨trivial, fun locked => locked⟩)) fun _ =>
          OnlyRun.pure ()

omit protocol in
theorem receiveOutput_only {allowed : Call → Prop} (reads : ∀ c : Call, c.reads = true → allowed c)
    {wallet : Wallet} {txHash : OnChainTxHash} {account : Account} {displayCurrencyPerSat : ℚ}
    {out : TxOut}
    (records : ∀ address, wallet.paidBy out = some address → allowed (.addOnChainTxReceive
      (receiveArgs wallet txHash account displayCurrencyPerSat out.sats address))) :
    OnlyRun allowed (receiveOutput wallet txHash account displayCurrencyPerSat out) := by
  have read : ∀ c : Call, c.reads = true → (ask c).Only allowed := fun c quiet =>
    Prog.only_request (reads c quiet)
  unfold receiveOutput
  split
  · exact OnlyRun.pure ()
  · rename_i address paid
    refine OnlyRun.bind (fallible_only (Prog.only_request (records address paid))) fun _ =>
      OnlyRun.bind (fallible_only (read _ rfl)) fun recipientAccount =>
        OnlyRun.bind (fallible_only (read _ rfl)) fun recipientUser => total_only (read _ rfl)

omit protocol in
theorem processTxForWallet_quiet (wallet : Wallet) {incoming : IncomingOnChainTransaction}
    (different : incoming.rawTx.txHash ≠ tx.txHash) :
    OnlyRun (Quiet tx.txHash) (processTxForWallet wallet incoming) := by
  refine OnlyRun.bind (fallible_only (quiet_ask rfl)) fun displayCurrencyPerSat => ?_
  refine bracket_only (fallible_only (Prog.only_request ⟨trivial, different⟩))
    (fallible_only (Prog.only_request ⟨trivial, different⟩)) ?_
  refine OnlyRun.bind (fallible_only (quiet_ask rfl)) fun recorded =>
    OnlyRun.bind (fallible_only (quiet_ask rfl)) fun account => ?_
  split
  · exact OnlyRun.pure ()
  · refine each_only fun out _ => receiveOutput_only (fun c reads => (quiet_ask reads).1) ?_
    exact fun address _ => ⟨different, fun locked => locked⟩

theorem hot_keeps (incoming : IncomingOnChainTransaction) :
    Keeps tx inv permit run (processTxForHotWallet incoming) := by
  refine Spec.bind (fallible_keeps (ask_keeps rfl)) fun _ =>
    Spec.bind (fallible_keeps (ask_keeps rfl)) fun isFromColdStorage => ?_
  split
  · exact Spec.pure fun _ _ _ => trivial
  · refine Spec.bind (fallible_keeps (ask_keeps rfl)) fun displayCurrencyPerSat => ?_
    have body : OnlyRun (Quiet tx.txHash) (do
        let recorded ← fallible (ask (.isToHotWalletTxRecorded incoming.rawTx.txHash))
        if recorded then return ()
        else each incoming.rawTx.outs (depositToHotWallet incoming displayCurrencyPerSat)) := by
      refine OnlyRun.bind (fallible_only (quiet_ask rfl)) fun recorded => ?_
      split
      · exact OnlyRun.pure ()
      · exact each_only fun out _ => depositToHotWallet_quiet _ _ _ _
    by_cases same : incoming.rawTx.txHash = tx.txHash
    · rw [same] at body ⊢
      exact protocol.lock_keeps (protocol.quiet_held protocol.ofReceipts body)
    · refine protocol.quiet_keeps (bracket_only ?_ ?_ body) <;>
        exact fallible_only (Prog.only_request ⟨trivial, same⟩)

theorem wallet_spec {wallet : Wallet} (known : Bool → Ledger → Prop) (done : Ledger → Prop)
    (ofKnown : ∀ recorded, OfReceipts tx.txHash (known recorded))
    (ofDone : OfReceipts tx.txHash done)
    (queried : ∀ w, inv w → settled w.ledger →
      known (w.isOnChainTxRecorded wallet.id tx.txHash) w.ledger)
    (knownSettled : ∀ recorded ledger, known recorded ledger → settled ledger)
    (doneSettled : ∀ ledger, done ledger → settled ledger)
    (skipped : ∀ ledger, known true ledger → done ledger)
    (looped : ∀ account displayCurrencyPerSat, start.accounts wallet.accountId = some account →
      Spec services permit (receiptDiscipline tx.txHash inv) run
      (heldBy tx.txHash run (known false))
        (each tx.outs (receiveOutput wallet tx.txHash account displayCurrencyPerSat))
        (fun _ => heldBy tx.txHash run done) (fun _ => heldBy tx.txHash run settled))
    {incoming : IncomingOnChainTransaction} (same : incoming.rawTx = tx) :
    Spec services permit (receiptDiscipline tx.txHash inv) run (fun _ => True)
      (processTxForWallet wallet incoming) (fun _ w => done w.ledger) (fun _ _ => True) := by
  subst same
  refine Spec.bind (fallible_keeps (ask_keeps rfl)) fun displayCurrencyPerSat => ?_
  refine protocol.lock_spec (fun _ => ofDone) (fun _ => doneSettled) ?_
  refine Spec.seq (fun recorded => heldBy incoming.rawTx.txHash run (known recorded))
    (fallible_spec (ask_read rfl (heldBy_stable protocol.ofReceipts) ?_)) fun recorded => ?_
  · intro w a reply good holds _ served
    cases reply with
    | error error => exact holds
    | ok recorded =>
      obtain rfl := Except.ok.inj (Stores.read_ok served)
      exact ⟨holds.1, queried w good holds.2⟩
  · refine Spec.seq (fun account w => heldBy incoming.rawTx.txHash run (known recorded) w ∧
        start.accounts wallet.accountId = some account)
      (fallible_spec (ask_read rfl (heldBy_stable (ofKnown recorded)) ?_)) fun account =>
        Spec.pre_fact fun found => ?_
    · intro w a reply good holds _ served
      cases reply with
      | error error => exact ⟨holds.1, knownSettled _ _ holds.2⟩
      | ok account =>
        have found := Stores.read_ok served
        rw [(protocol.fixed w good).accounts] at found
        exact ⟨holds, Stores.found_ok found⟩
    · cases recorded with
      | true => exact Spec.pure fun _ _ holds => ⟨holds.1, skipped _ holds.2⟩
      | false => exact looped account displayCurrencyPerSat found

theorem processTx_keeps (onchainMinConfirmations : Nat) {incoming : IncomingOnChainTransaction}
    (wallets : ∀ wallet ∈ start.wallets, Keeps tx inv permit run
      (processTxForWallet wallet incoming)) :
    Keeps tx inv permit run (processTx onchainMinConfirmations incoming) := by
  unfold processTx
  split
  · exact Spec.pure fun _ _ _ => trivial
  · refine Spec.seq (fun reply _ => ∀ found, reply = .ok found → ∀ wallet ∈ found,
      wallet ∈ start.wallets) (total_spec (ask_read rfl (Discipline.stable_true _ _) ?_))
        fun reply => ?_
    · rintro w a reply good _ _ served found rfl wallet member
      rw [← (protocol.fixed w good).wallets]
      exact listByAddresses_mem (Stores.read_ok served) member
    · cases reply with
      | error error =>
        refine Spec.of_fact fun _ => ?_
        dsimp only
        split
        · exact Spec.bind (attempt_keeps (protocol.hot_keeps incoming)) fun _ =>
            Spec.pure fun _ _ _ => trivial
        · exact Spec.pure fun _ _ _ => trivial
      | ok found =>
        refine Spec.of_fact fun known => each_keeps fun wallet member => ?_
        exact Spec.bind (attempt_keeps (wallets wallet (known found rfl wallet member))) fun _ =>
          Spec.pure fun _ _ _ => trivial

theorem activity_keeps (listed : ∀ run w c a, permit run w c a → listsKnown tx run w c a)
    (onchainMinConfirmations : Nat)
    (wallets : ∀ wallet ∈ start.wallets, ∀ incoming : IncomingOnChainTransaction,
      incoming.rawTx = tx → Keeps tx inv permit run (processTxForWallet wallet incoming))
    {activity : Activity} (known : activity.Known start tx) :
    Keeps tx inv permit run (activity.prog onchainMinConfirmations) := by
  have any : ∀ wallet ∈ start.wallets, ∀ incoming, Known tx incoming →
      Keeps tx inv permit run (processTxForWallet wallet incoming) := by
    intro wallet member incoming known
    by_cases same : incoming.rawTx.txHash = tx.txHash
    · exact wallets wallet member incoming (known same)
    · exact protocol.quiet_keeps (processTxForWallet_quiet wallet same)
  cases activity with
  | process wallet incoming => exact any wallet known.1 incoming known.2
  | scan scanDepth =>
    refine Spec.seq (fun _ _ => True) ?_ fun _ => Spec.pure fun _ _ _ => trivial
    refine Spec.bind (fallible_keeps (ask_keeps rfl)) fun _ => ?_
    refine Spec.seq (fun txs _ => ∀ incoming ∈ txs, Known tx incoming) ?_ fun txs => ?_
    · refine fallible_spec (ask_read rfl (Discipline.stable_true _ _) ?_)
      intro w a reply _ _ permitted served
      cases served
      cases a with
      | error error => trivial
      | ok txs => exact listed _ _ _ _ permitted
    · refine Spec.of_fact fun known => ?_
      refine Spec.bind (each_keeps fun incoming member => ?_) fun _ =>
        Spec.pure fun _ _ _ => trivial
      exact protocol.processTx_keeps onchainMinConfirmations fun wallet here =>
        any wallet here incoming (known incoming member)

end Protocol

end Scan

section Example

def aliceOnChain : Wallet := ⟨"alice", "aliceAccount", .btc, ["alice1", "alice2"]⟩

def depositWorld (depositFeeRatio : ℚ) : World where
  bank := exampleBank
  ledger := {}
  locks := fun _ => none
  wallets := [aliceOnChain]
  accounts := fun id => if id = "aliceAccount" then some ⟨id, "aliceUser", depositFeeRatio⟩
    else none
  users := fun id => if id = "aliceUser" then some ⟨id, [], "en"⟩ else none
  clock := 0

def depositTx : OnChainTransaction :=
  ⟨"tx", [⟨1000, some "alice1"⟩, ⟨500, some "elsewhere"⟩, ⟨2000, some "alice2"⟩]⟩

def allWorks : (c : Call) → Answer c
  | .onChainService | .coldStorageService => .ok ()
  | .listIncomingTransactions _ => .ok [⟨6, depositTx, 0⟩]
  | .getCurrentPrice => .ok 1
  | .acquire _ | .release _ => .done
  | .isWithdrawalTransaction _ | .isDerivedAddress _ => .ok false
  | .lookupTransactionFee _ => .ok 0
  | .listByAddresses _ | .findAccountById _ _ | .findUserById _ => none
  | .isOnChainTxRecorded _ _ | .isToHotWalletTxRecorded _ => none
  | .addOnChainTxReceive _ | .addColdStorageTxSend _ => {}
  | .onChainTxReceived _ => ()

end Example

end Galoy.OnChain
