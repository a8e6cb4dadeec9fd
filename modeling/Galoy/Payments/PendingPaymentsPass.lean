import Galoy.Interleave.Workers
import Galoy.Payments.OneCompensation
import Mathlib.Data.List.Dedup

set_option autoImplicit false

namespace Galoy

open Interleave App SendLightning

def Leg.ofPendingPayments (leg : Leg) : Bool :=
  leg.metadata.type = .payment && leg.metadata.pending && leg.account.mainAccount = .liabilities

namespace Ledger

-- The groups of the aggregation; their order is the database's.
def accountsWithPendingPayments (ledger : Ledger) : List LedgerAccountId :=
  ((ledger.legs.filter Leg.ofPendingPayments).map (·.account)).dedup

theorem mem_accountsWithPendingPayments {ledger : Ledger} {walletId : WalletId} :
    toLedgerAccountId walletId ∈ ledger.accountsWithPendingPayments ↔
      ledger.listPendingPayments walletId ≠ [] := by
  rw [accountsWithPendingPayments, List.mem_dedup, List.mem_map]
  constructor
  · rintro ⟨leg, matched, account⟩
    obtain ⟨member, pending⟩ := List.mem_filter.mp matched
    obtain ⟨journal, inLedger, inJournal⟩ := mem_legs.mp member
    refine List.ne_nil_of_mem (mem_transactions.mpr ⟨journal, inLedger, leg, inJournal, ?_, rfl⟩)
    simp only [Leg.ofPendingPayments, Bool.and_eq_true] at pending
    simp [account, pending.1.2, of_decide_eq_true pending.1.1]
  · intro pending
    obtain ⟨tx, listed⟩ := List.exists_mem_of_ne_nil _ pending
    obtain ⟨journal, inLedger, leg, inJournal, matched, -⟩ := mem_transactions.mp listed
    simp only [Bool.and_eq_true, decide_eq_true_eq] at matched
    obtain ⟨⟨account, type⟩, pending⟩ := matched
    refine ⟨leg, List.mem_filter.mpr ⟨mem_legs.mpr ⟨journal, inLedger, inJournal⟩, ?_⟩, account⟩
    simp [Leg.ofPendingPayments, type, pending, account, toLedgerAccountId,
      LedgerAccountId.mainAccount]

end Ledger

-- What the cursor yields for an account that is not one wallet's is undefined, which the next query
-- spells out.
def yieldedWalletId (account : LedgerAccountId) : WalletId := (toWalletId account).getD "undefined"

-- Errors that are returned are dropped and those that are raised are logged.
def updatePendingPaymentsOfWallet (walletId : WalletId) : Prog Call Reply Unit := do
  let _ ← (updatePendingPaymentsByWalletId walletId).run
  .pure ()

def updateYielded (account : LedgerAccountId) : Prog Call Reply Unit :=
  updatePendingPaymentsOfWallet (yieldedWalletId account)

-- The cursor is the iterator of the workers. When it is opened, the other runs, those below
-- `first`, are where they have got to.
def updatePendingPayments (first : RunId) (opened : Config World Call Reply Unit)
    (accounts : List LedgerAccountId) : Crew World Call Reply :=
  { config := ⟨opened.world, taskPool first opened.pool updateYielded accounts⟩ }

section Safety

variable {send : LnSend} {sender : RunId} {start : World}

def watchSend (send : LnSend) (sender : RunId) (start : World) : Watched :=
  ⟨send.decodedInvoice.paymentHash, sender, start.ledger.settlers send.decodedInvoice.paymentHash,
    start.ledger.journals.length⟩

theorem watchSend_once (numbered : start.ledger.Numbered)
    (unrecorded : ∀ leg ∈ start.ledger.legs, leg.ofHash send.decodedInvoice.paymentHash = false) :
    (oneCompensation (watchSend send sender start)).inv start :=
  ⟨numbered, Ledger.oneHash_of_no_legs unrecorded, Ledger.referring_length,
    .inl ⟨rfl, Ledger.compensations_length⟩⟩

theorem watchSend_unsent
    (unrecorded : ∀ leg ∈ start.ledger.legs, leg.ofHash send.decodedInvoice.paymentHash = false) :
    Unsent (watchSend send sender start) start := by
  refine ⟨rfl, fun leg member => ?_⟩
  simp [watchSend, Leg.isPendingFor, unrecorded leg member]

theorem Once.compensations_le_one {watched : Watched} {w : World} (good : Once watched w) :
    w.ledger.compensations watched.since watched.paymentHash ≤ 1 := by
  rcases good.phase with ⟨_, zero⟩ | ⟨_, _, _, one⟩
  · exact le_of_eq_of_le zero (Nat.zero_le 1)
  · exact one

theorem updatePendingPaymentsOfWallet_once {watched : Watched} {run : RunId} {w : World}
    (good : Once watched w) (walletId : WalletId) :
    wp services (anyStep services) (oneCompensation watched) run
      (updatePendingPaymentsOfWallet walletId) (fun _ _ => True) w :=
  Triple.discard (OneCompensation.job_once walletId) w good trivial

theorem sendAndJobs_once {getAccountLimits : AccountLevel → AccountLimits}
    {walletIds : RunId → WalletId} (good : Once (watchSend send sender start) start)
    (unsent : Unsent (watchSend send sender start) start) (run : RunId) :
    wp services (anyStep services) (oneCompensation (watchSend send sender start)) run
      (sendAndJobs getAccountLimits send sender walletIds run) (fun _ _ => True) start := by
  unfold sendAndJobs
  split
  · rename_i same
    subst same
    have sends : Spec services (anyStep services) (oneCompensation (watchSend send run start)) run
        (Unsent (watchSend send run start)) (send.prog getAccountLimits) (fun _ _ => True)
          (fun _ _ => True) :=
      OneCompensation.send_once rfl getAccountLimits
    exact Triple.discard sends start good unsent
  · exact updatePendingPaymentsOfWallet_once good (walletIds run)

theorem taskPool_once {watched : Watched} {opened : Config World Call Reply Unit}
    (good : Once watched opened.world)
    (runs : ∀ run, wp services (anyStep services) (oneCompensation watched) run (opened.pool run)
      (fun _ _ => True) opened.world) (first : RunId) (accounts : List LedgerAccountId)
    (run : RunId) :
    wp services (anyStep services) (oneCompensation watched) run
      (taskPool first opened.pool updateYielded accounts run) (fun _ _ => True) opened.world := by
  unfold taskPool
  split
  · exact runs run
  · cases accounts[run - first]? with
    | none => trivial
    | some account => exact updatePendingPaymentsOfWallet_once good _

end Safety

theorem update_of_listed {accounts : List LedgerAccountId} {ledger : Ledger} {walletId : WalletId}
    (first : RunId) (others : RunId → Prog Call Reply Unit)
    (listed : accounts.Perm ledger.accountsWithPendingPayments)
    (isWallet : toWalletId (toLedgerAccountId walletId) = some walletId)
    (pending : ledger.listPendingPayments walletId ≠ []) :
    ∃! k, accounts[k]? = some (toLedgerAccountId walletId) ∧
      taskPool first others updateYielded accounts (first + k) =
        updatePendingPaymentsOfWallet walletId := by
  have nodup : accounts.Nodup := listed.nodup_iff.mpr (List.nodup_dedup _)
  have member : toLedgerAccountId walletId ∈ accounts :=
    listed.mem_iff.mpr (Ledger.mem_accountsWithPendingPayments.mpr pending)
  obtain ⟨k, at_⟩ := List.getElem?_of_mem member
  refine ⟨k, ⟨at_, ?_⟩, fun j ⟨also, _⟩ => ?_⟩
  · rw [taskPool, if_neg (Nat.not_lt.mpr (Nat.le_add_right first k)), Nat.add_sub_cancel_left, at_]
    show updatePendingPaymentsOfWallet (yieldedWalletId (toLedgerAccountId walletId)) = _
    rw [yieldedWalletId, isWallet, Option.getD_some]
  · obtain ⟨inside, _⟩ := List.getElem?_eq_some_iff.mp also
    exact (List.getElem?_inj inside nodup).mp (also.trans at_.symm)

/-- A pass that is opened at any moment of a send never brings a second compensation for it. When
its workers have ended and the cursor has not failed, the update of every wallet that had a pending
payment at the opening has been run to its end, and once. -/
theorem updatePendingPayments_safe_and_complete {getAccountLimits : AccountLevel → AccountLimits}
    {send : LnSend} {sender first : RunId} {walletIds : RunId → WalletId} {start : World}
    (numbered : start.ledger.Numbered)
    (unrecorded : ∀ leg ∈ start.ledger.legs, leg.ofHash send.decodedInvoice.paymentHash = false)
    {opened : Config World Call Reply Unit}
    (opening : Reach services (anyStep services)
      ⟨start, sendAndJobs getAccountLimits send sender walletIds⟩ opened)
    {workers : Nat} {accounts : List LedgerAccountId} {after : Crew World Call Reply}
    (reach : CrewReach services ⟨first, accounts.length, workers⟩
      (updatePendingPayments first opened accounts) after) :
    after.config.world.ledger.compensations start.ledger.journals.length
      send.decodedInvoice.paymentHash ≤ 1 ∧
      (accounts.Perm opened.world.ledger.accountsWithPendingPayments → 0 < workers →
        (∀ worker < workers, after.place worker = .ended) → after.failed = false →
        ∀ walletId, toWalletId (toLedgerAccountId walletId) = some walletId →
          opened.world.ledger.listPendingPayments walletId ≠ [] →
          ∃! k, accounts[k]? = some (toLedgerAccountId walletId) ∧
            taskPool first opened.pool updateYielded accounts (first + k) =
              updatePendingPaymentsOfWallet walletId ∧
            after.config.pool (first + k) = .pure ()) := by
  have good : Once (watchSend send sender start) start := watchSend_once numbered unrecorded
  have stable : ∀ run (value : Unit), (oneCompensation (watchSend send sender start)).Stable run
      (fun _ => True) :=
    fun _ _ _ _ _ _ _ => trivial
  obtain ⟨atOpening, runs⟩ := by
    refine reach_sound stable ?_ ?_ opening
    · exact good
    · exact sendAndJobs_once good (watchSend_unsent unrecorded)
  have kept : (oneCompensation (watchSend send sender start)).inv after.config.world := by
    refine reach_inv ?_ ?_ reach.config
    · exact atOpening
    · exact taskPool_once atOpening runs first accounts
  refine ⟨kept.compensations_le_one, fun listed some_ ended whole walletId isWallet pending => ?_⟩
  obtain ⟨k, ⟨at_, update⟩, only⟩ := update_of_listed first opened.pool listed isWallet pending
  have inside : k < accounts.length := (List.getElem?_eq_some_iff.mp at_).1
  have done := reach.complete rfl (fun _ => rfl) some_ ended whole k inside
  exact ⟨k, ⟨at_, update, done⟩, fun j found => only j ⟨found.1, found.2.1⟩⟩

section Example

def earlierInvoice : LnInvoice := { sendInvoice with paymentHash := "earlier" }

def earlierSend : Entry :=
  LedgerFacade.recordSend exampleBank
    (lnSendArgs earlierInvoice { sendFlow "bob" with hash := .paymentHash "earlier" } "node")

def passWorld : World := { sendWorld with ledger := sendWorld.ledger.commit 100 0 earlierSend }

def passStart : Config World Call Reply Unit :=
  ⟨passWorld, sendAndJobs sendLimits (sendOf "alice") 0 (fun _ => "alice")⟩

def passAccounts : List LedgerAccountId := [toLedgerAccountId "bob", toLedgerAccountId "alice"]

def passMoves : List Move :=
  [.next 0 false, .next 1 false] ++ List.replicate 5 (.work 1) ++ List.replicate 3 (.beside 0) ++
    List.replicate 9 (.work 1) ++ List.replicate 14 (.work 0) ++ [.next 1 false, .next 0 false]

def passScript : Script services := fun _ => (sendOutside paymentTimeout .failed).answers

theorem pass_reverts_open_send :
    ∃ opened after, Reach services (anyStep services) passStart opened ∧
      CrewReach services ⟨1, 2, 2⟩ (updatePendingPayments 1 opened passAccounts) after ∧
      opened.world.ledger.listPendingPayments "alice" ≠ [] ∧ (opened.pool 0).result? = none ∧
      after.config.world.ledger.compensations passWorld.ledger.journals.length "hash" = 1 ∧
      after.config.world.ledger.compensations passWorld.ledger.journals.length "hash" ≤ 1 ∧
      ∃! k, passAccounts[k]? = some (toLedgerAccountId "alice") ∧
        taskPool 1 opened.pool updateYielded passAccounts (1 + k) =
          updatePendingPaymentsOfWallet "alice" ∧
        after.config.pool (1 + k) = .pure () := by
  have played : ((play services (anyStep services) passScript (List.replicate 10 0) passStart).bind
      fun opened =>
      (crewPlay services passScript ⟨1, 2, 2⟩ passMoves
        (updatePendingPayments 1 opened passAccounts)).map fun after =>
        (opened, after)).map (fun both =>
          (decide (passAccounts = both.1.world.ledger.accountsWithPendingPayments ∧
            both.1.world.ledger.listPendingPayments "alice" ≠ [] ∧ (both.1.pool 0).result? = none),
          both.2.place 0, both.2.place 1, both.2.failed,
          both.2.config.world.ledger.compensations passWorld.ledger.journals.length "hash")) =
      some (true, .ended, .ended, false, 1) := by
    decide +kernel
  obtain ⟨⟨opened, after⟩, both, shown⟩ := Option.map_eq_some_iff.mp played
  obtain ⟨_, before, rest⟩ := Option.bind_eq_some_iff.mp both
  obtain ⟨_, moved, same⟩ := Option.map_eq_some_iff.mp rest
  cases same
  simp only [Prod.mk.injEq, decide_eq_true_eq] at shown
  obtain ⟨⟨listed, pending, underWay⟩, one, two, whole, once⟩ := shown
  have opening := play_reach _ _ _ _ _ _ before
  have reach := crewPlay_reach moved
  have numbered : passWorld.ledger.Numbered := sendWorld_numbered.commit _ _ _
  have unrecorded : ∀ leg ∈ passWorld.ledger.legs,
      leg.ofHash (sendOf "alice").decodedInvoice.paymentHash = false := by
    decide +kernel
  obtain ⟨safe, complete⟩ := updatePendingPayments_safe_and_complete numbered unrecorded opening
    (show CrewReach services ⟨1, passAccounts.length, 2⟩ _ after from reach)
  refine ⟨opened, after, opening, reach, pending, underWay, once, safe,
    complete (.of_eq listed) Nat.zero_lt_two (fun worker member => ?_) whole "alice"
    (by decide +kernel) pending⟩
  rcases Nat.lt_succ_iff_lt_or_eq.mp member with first | rfl
  · rwa [Nat.lt_one_iff.mp first]
  · exact two

end Example

end Galoy
