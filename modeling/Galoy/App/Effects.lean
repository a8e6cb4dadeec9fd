import Galoy.App.World
import Galoy.Ledger.Evolution

set_option autoImplicit false

namespace Galoy

open Interleave

inductive Part where
  | nothing
  | locks
  | invoices
  | flows
  | ledger
  deriving DecidableEq, Repr

def Call.part : Call → Part
  | .acquire _ | .release _ => .locks
  | .markAsPaid _ _ | .deleteByPaymentHash _ _ => .invoices
  | .updateLightningPaymentFlow _ | .markLightningPaymentFlowNotPending _ => .flows
  | .recordSend _ | .recordReceive _ | .recordIntraledger _ | .settlePendingLnSend _
  | .settlePendingLnPayment _ | .recordLnSendRevert _ | .revertLightningPayment _ => .ledger
  | _ => .nothing

structure Frame (part : Part) (before after : World) : Prop where
  locks : part ≠ .locks → after.locks = before.locks
  invoices : part ≠ .invoices → after.invoices = before.invoices
  flows : part ≠ .flows → after.flows = before.flows
  ledger : part ≠ .ledger → after.ledger = before.ledger
  bank : after.bank = before.bank
  wallets : after.wallets = before.wallets
  walletsOfAccount : after.walletsOfAccount = before.walletsOfAccount
  accounts : after.accounts = before.accounts
  users : after.users = before.users

theorem Frame.refl (part : Part) (w : World) : Frame part w w := by
  constructor <;> intros <;> rfl

theorem Frame.clock {before after : World} (frame : Frame .nothing before after) :
    after = { before with clock := after.clock } := by
  obtain ⟨locks, invoices, flows, ledger, bank, wallets, walletsOfAccount, accounts, users⟩ := frame
  cases after
  simp only [World.mk.injEq]
  exact ⟨bank, invoices (by simp), flows (by simp), ledger (by simp), locks (by simp), wallets,
    walletsOfAccount, accounts, users, trivial⟩

def Call.ledgerWorks : (c : Call) → Answer c → Prop
  | .volumeAmountSince _ _, answer => answer.fault = none
  | .getWalletBalanceAmount _, fault => fault = none
  | .isLnTxRecorded _, fault => fault = none
  | .getTransactionsByHash _ _, fault => fault = none
  | .getPendingPaymentsCount _, fault => fault = none
  | .listPendingPayments _, fault => fault = none
  | .recordSend _, answer => answer.fault = none
  | .recordReceive _, answer => answer.fault = none
  | .recordIntraledger _, answer => answer.fault = none
  | .settlePendingLnSend _, fault => fault = none
  | .settlePendingLnPayment _, fault => fault = none
  | .recordLnSendRevert _, answer => answer.fault = none
  | .revertLightningPayment _, answer => answer.fault = none
  | _, _ => True

def Call.repositoryWorks : (c : Call) → Answer c → Prop
  | .findByPaymentHash _ _, fault => fault = none
  | .markAsPaid _ _, fault => fault = none
  | .deleteByPaymentHash _ _, fault => fault = none
  | .findWalletById _ _, fault => fault = none
  | .listByAccountId _, fault => fault = none
  | .findAccountById _ _, fault => fault = none
  | .findUserById _, fault => fault = none
  | .updateLightningPaymentFlow _, fault => fault = none
  | .markLightningPaymentFlowNotPending _, fault => fault = none
  | _, _ => True

def Call.releaseWorks : (c : Call) → Answer c → Prop
  | .release _, answer => answer = .done
  | _, _ => True

def ledgerAndReleasesWork : Permit services := fun _ _ c a => c.ledgerWorks a ∧ c.releaseWorks a

instance (c : Call) (a : Answer c) : Decidable (c.ledgerWorks a) := by
  cases c <;>
    first
    | exact inferInstanceAs (Decidable (_ = none))
    | exact inferInstanceAs (Decidable True)

instance (c : Call) (a : Answer c) : Decidable (c.releaseWorks a) := by
  cases c <;>
    first
    | exact inferInstanceAs (Decidable (_ = _))
    | exact inferInstanceAs (Decidable True)

instance (run : RunId) (w : World) (c : Call) (a : services.Answer c) :
    Decidable (ledgerAndReleasesWork run w c a) :=
  inferInstanceAs (Decidable (_ ∧ _))

theorem Outside.ledgerWorks (outside : Outside) (c : Call) : c.ledgerWorks (outside.answers c) := by
  cases c <;> first | rfl | trivial

theorem Outside.repositoryWorks (outside : Outside) (c : Call) :
    c.repositoryWorks (outside.answers c) := by
  cases c <;> first | rfl | trivial

namespace World

variable {α : Type} {w after : World} {run : RunId}

theorem findByPaymentHash_ok {paymentHash : PaymentHash} {invoice : WalletInvoice}
    (found : w.findByPaymentHash paymentHash = .ok invoice) :
    ∃ record, w.invoices paymentHash = some record ∧
      invoice = walletInvoiceFromRaw paymentHash record := by
  unfold findByPaymentHash at found
  cases stored : w.invoices paymentHash with
  | none => simp [stored] at found
  | some record =>
    simp only [stored, Except.ok.injEq] at found
    exact ⟨record, rfl, found.symm⟩

theorem acquire_inversion {key : LockKey} {answer : LockAnswer} {reply : Result Unit}
    (served : w.acquire run key answer = some (reply, after)) :
    ((∃ error, reply = .error error) ∧ after = w) ∨
      (reply = .ok () ∧ w.locks key = none ∧
        after = { w with locks := Function.update w.locks key (some run) }) :=
  Stores.acquire_inversion served

theorem release_inversion {key : LockKey} {answer : LockAnswer} {reply : Result Unit}
    (served : w.release run key answer = some (reply, after)) :
    after = { w with
      locks := if w.locks key = some run then Function.update w.locks key none else w.locks } :=
  Stores.release_inversion served

theorem markAsPaid_inversion {paymentHash : PaymentHash} {fault : Option RepositoryFault}
    {reply : Result WalletInvoice}
    (served : w.markAsPaid paymentHash fault = some (reply, after)) :
    ((∃ error, reply = .error error) ∧ after = w) ∨
      ∃ record, w.invoices paymentHash = some record ∧
        reply = .ok (walletInvoiceFromRaw paymentHash { record with paid := true }) ∧
        after = { w with
          invoices :=
            Function.update w.invoices paymentHash (some { record with paid := true }) } := by
  unfold markAsPaid at served
  cases fault with
  | some fault =>
    cases served
    exact .inl ⟨⟨_, rfl⟩, rfl⟩
  | none =>
    cases stored : w.invoices paymentHash with
    | none =>
      simp only [stored, Option.some.injEq, Prod.mk.injEq] at served
      exact .inl ⟨⟨_, served.1.symm⟩, served.2.symm⟩
    | some record =>
      simp only [stored, Option.some.injEq, Prod.mk.injEq] at served
      exact .inr ⟨record, rfl, served.1.symm, served.2.symm⟩

theorem deleteByPaymentHash_inversion {paymentHash : PaymentHash}
    {fault : Option RepositoryFault} {reply : Result Unit}
    (served : w.deleteByPaymentHash paymentHash fault = some (reply, after)) :
    ((∃ error, reply = .error error) ∧ after = w) ∨
      (reply = .ok () ∧
        after = { w with invoices := Function.update w.invoices paymentHash none }) := by
  unfold deleteByPaymentHash at served
  cases fault with
  | some fault =>
    cases served
    exact .inl ⟨⟨_, rfl⟩, rfl⟩
  | none =>
    cases stored : w.invoices paymentHash with
    | none =>
      simp only [stored, Option.some.injEq, Prod.mk.injEq] at served
      exact .inl ⟨⟨_, served.1.symm⟩, served.2.symm⟩
    | some invoice =>
      simp only [stored, Option.some.injEq, Prod.mk.injEq] at served
      exact .inr ⟨served.1.symm, served.2.symm⟩

theorem volumeAmountSince_inversion {group : TxnGroup} {wallet : WalletDescriptor}
    {answer : TimedAnswer} {reply : Result (TxBaseVolumeAmount wallet.currency)}
    (served : w.volumeAmountSince group wallet answer = some (reply, after)) :
    ∃ now, after = { w with clock := now } :=
  ⟨_, Stores.read_unchanged served⟩

theorem commit_inversion {entry : Entry} {answer : TimedAnswer} {reply : Result LedgerJournalId}
    (served : w.commit run entry answer = some (reply, after)) :
    (answer.fault ≠ none ∧ (∃ error, reply = .error error) ∧ after = w) ∨
      (reply = .ok w.ledger.journals.length ∧
        ∃ now, after = { w with clock := now, ledger := w.ledger.commit run now entry }) := by
  unfold commit at served
  cases fault : answer.fault with
  | some message =>
    simp only [fault, Option.some.injEq, Prod.mk.injEq] at served
    exact .inl ⟨by simp, ⟨_, served.1.symm⟩, served.2.symm⟩
  | none =>
    simp only [fault, Option.some.injEq, Prod.mk.injEq] at served
    exact .inr ⟨served.1.symm, _, served.2.symm⟩

theorem settle_inversion {paymentHash : PaymentHash} {fault : Option String} {reply : Result Unit}
    (served : w.settle run paymentHash fault = some (reply, after)) :
    (fault ≠ none ∧ (∃ error, reply = .error error) ∧ after = w) ∨
      (after = { w with ledger := w.ledger.settlePending run paymentHash } ∧
        ((reply = .ok () ∧ w.ledger.modifiedCount paymentHash > 0) ∨
          ((∃ error, reply = .error error) ∧ w.ledger.modifiedCount paymentHash = 0))) := by
  unfold settle at served
  cases fault with
  | some message =>
    cases served
    exact .inl ⟨by simp, ⟨_, rfl⟩, rfl⟩
  | none =>
    simp only [Option.some.injEq, Prod.mk.injEq] at served
    obtain ⟨replied, rfl⟩ := served
    refine .inr ⟨rfl, ?_⟩
    by_cases some : w.ledger.modifiedCount paymentHash > 0
    · rw [if_pos some] at replied
      exact .inl ⟨replied.symm, some⟩
    · rw [if_neg some] at replied
      exact .inr ⟨⟨_, replied.symm⟩, by omega⟩

theorem void_inversion {id : LedgerJournalId} {answer : TimedAnswer} {reply : Result Unit}
    (served : w.void run id answer = some (reply, after)) :
    ((∃ error, reply = .error error) ∧ after = w ∧
        (answer.fault ≠ none ∨ w.ledger.void run (w.clock + answer.elapsed) id "Payment canceled" =
          none)) ∨
      (reply = .ok () ∧ ∃ now ledger, w.ledger.void run now id "Payment canceled" = some ledger ∧
        after = { w with clock := now, ledger }) := by
  unfold void at served
  cases fault : answer.fault with
  | some message =>
    simp only [fault, Option.some.injEq, Prod.mk.injEq] at served
    exact .inl ⟨⟨_, served.1.symm⟩, served.2.symm, .inl (by simp)⟩
  | none =>
    cases voided : w.ledger.void run (w.clock + answer.elapsed) id "Payment canceled" with
    | none =>
      simp only [fault, voided, Option.some.injEq, Prod.mk.injEq] at served
      exact .inl ⟨⟨_, served.1.symm⟩, served.2.symm, .inr rfl⟩
    | some ledger =>
      simp only [fault, voided, Option.some.injEq, Prod.mk.injEq] at served
      exact .inr ⟨served.1.symm, _, ledger, voided, served.2.symm⟩

theorem commit_clock {entry : Entry} {answer : TimedAnswer} {reply : Result LedgerJournalId}
    (served : w.commit run entry answer = some (reply, after)) : w.clock ≤ after.clock := by
  unfold commit at served
  split at served
  · cases served
    exact le_rfl
  · cases served
    exact Nat.le_add_right _ _

theorem void_clock {id : LedgerJournalId} {answer : TimedAnswer} {reply : Result Unit}
    (served : w.void run id answer = some (reply, after)) : w.clock ≤ after.clock := by
  unfold void at served
  dsimp only at served
  split at served <;> cases served
  · exact le_rfl
  · exact le_rfl
  · exact Nat.le_add_right _ _

theorem updateFirst_inversion {flows rest : List PaymentFlow} {select : PaymentFlow → Bool}
    {update : PaymentFlow → PaymentFlow} {found : PaymentFlow}
    (updated : updateFirst flows select update = some (found, rest)) :
    (∃ stored ∈ flows, select stored = true ∧ found = update stored) ∧
      ∀ flow ∈ rest, flow ∈ flows ∨ ∃ stored ∈ flows, select stored = true ∧
        flow = update stored := by
  induction flows generalizing rest with
  | nil => cases updated
  | cons first flows ih =>
    unfold updateFirst at updated
    by_cases selected : select first = true
    · simp only [selected, if_true, Option.some.injEq, Prod.mk.injEq] at updated
      obtain ⟨rfl, rfl⟩ := updated
      refine ⟨⟨first, by simp, selected, rfl⟩, ?_⟩
      intro flow member
      rcases List.mem_cons.mp member with rfl | later
      · exact .inr ⟨first, by simp, selected, rfl⟩
      · exact .inl (List.mem_cons_of_mem _ later)
    · simp only [selected, if_false, Option.map_eq_some_iff, Bool.false_eq_true] at updated
      obtain ⟨⟨inner, others⟩, inside, same⟩ := updated
      simp only [Prod.mk.injEq] at same
      obtain ⟨rfl, rfl⟩ := same
      obtain ⟨⟨stored, member, chosen, equal⟩, each⟩ := ih inside
      refine ⟨⟨stored, List.mem_cons_of_mem _ member, chosen, equal⟩, ?_⟩
      intro flow member
      rcases List.mem_cons.mp member with rfl | later
      · exact .inl (by simp)
      · rcases each flow later with old | ⟨stored, member, chosen, equal⟩
        · exact .inl (List.mem_cons_of_mem _ old)
        · exact .inr ⟨stored, List.mem_cons_of_mem _ member, chosen, equal⟩

theorem updateFirst_first (flows : List PaymentFlow) (select : PaymentFlow → Bool)
    (update : PaymentFlow → PaymentFlow) :
    (updateFirst flows select update).map Prod.fst = (flows.find? select).map update := by
  induction flows with
  | nil => rfl
  | cons flow flows ih =>
    unfold updateFirst
    by_cases selected : select flow = true
    · simp [selected]
    · rw [List.find?_cons_of_neg selected, ← ih, if_neg selected, Option.map_map]
      rfl

theorem updateFirst_all {flows rest : List PaymentFlow} {select : PaymentFlow → Bool}
    {update : PaymentFlow → PaymentFlow} {found : PaymentFlow} {holds : PaymentFlow → Prop}
    (all : ∀ flow ∈ flows, holds flow) (updates : ∀ flow ∈ flows, holds (update flow))
    (updated : updateFirst flows select update = some (found, rest)) :
    holds found ∧ ∀ flow ∈ rest, holds flow := by
  obtain ⟨⟨stored, member, _, rfl⟩, each⟩ := updateFirst_inversion updated
  refine ⟨updates stored member, fun flow inRest => ?_⟩
  rcases each flow inRest with old | ⟨original, inFlows, _, rfl⟩
  · exact all flow old
  · exact updates original inFlows

theorem updateLightningPaymentFlow_inversion {flow : PaymentFlow} {fault : Option RepositoryFault}
    {reply : Unit} (served : w.updateLightningPaymentFlow flow fault = some (reply, after)) :
    after = w ∨
      ∃ stored flows,
        updateFirst w.flows
          (fun stored => stored.hash = flow.hash ∧ stored.senderWalletId = flow.senderWalletId ∧
            stored.inputAmount = flow.inputAmount) (fun _ => flow) = some (stored, flows) ∧
        after = { w with flows } := by
  unfold updateLightningPaymentFlow at served
  dsimp only at served
  split at served
  · rename_i stored flows found
    cases served
    exact .inr ⟨stored, flows, found, rfl⟩
  · cases served
    exact .inl rfl

theorem markLightningPaymentFlowNotPending_inversion {index : PaymentFlowStateIndex}
    {fault : Option RepositoryFault} {reply : Result PaymentFlow}
    (served : w.markLightningPaymentFlowNotPending index fault = some (reply, after)) :
    ((∃ error, reply = .error error) ∧ after = w ∧
        (fault ≠ none ∨ updateFirst w.flows index.selects
          (fun flow => { flow with paymentSentAndPending := false }) = none)) ∨
      ∃ flow flows,
        updateFirst w.flows index.selects (fun flow =>
          { flow with paymentSentAndPending := false }) =
          some (flow, flows) ∧
        reply = .ok (paymentFlowFromRaw flow) ∧ after = { w with flows } := by
  unfold markLightningPaymentFlowNotPending at served
  dsimp only at served
  split at served
  · cases served
    exact .inl ⟨⟨_, rfl⟩, rfl, .inl (by simp)⟩
  · rename_i missing
    cases served
    exact .inl ⟨⟨_, rfl⟩, rfl, .inr missing⟩
  · rename_i flow flows found
    cases served
    exact .inr ⟨flow, flows, found, rfl, rfl⟩

end World

theorem serve_frame {run : RunId} {w after : World} {c : Call} {a : Answer c} {reply : Reply c}
    (served : serve run w c a = some (reply, after)) : Frame c.part w after := by
  cases c
  case acquire key =>
    obtain ⟨_, rfl⟩ | ⟨_, _, rfl⟩ := World.acquire_inversion served
    · exact Frame.refl _ _
    · constructor <;> simp [Call.part]
  case release key =>
    obtain rfl := World.release_inversion served
    constructor <;> simp [Call.part]
  case markAsPaid site paymentHash =>
    obtain ⟨_, rfl⟩ | ⟨_, _, _, rfl⟩ := World.markAsPaid_inversion served
    · exact Frame.refl _ _
    · constructor <;> simp [Call.part]
  case deleteByPaymentHash site paymentHash =>
    obtain ⟨_, rfl⟩ | ⟨_, rfl⟩ := World.deleteByPaymentHash_inversion served
    · exact Frame.refl _ _
    · constructor <;> simp [Call.part]
  case volumeAmountSince group wallet =>
    obtain ⟨now, rfl⟩ := World.volumeAmountSince_inversion served
    constructor <;> simp
  case recordSend | recordReceive | recordIntraledger =>
    obtain ⟨_, _, rfl⟩ | ⟨_, now, rfl⟩ := World.commit_inversion served
    · exact Frame.refl _ _
    · constructor <;> simp [Call.part]
  case settlePendingLnSend | settlePendingLnPayment =>
    obtain ⟨_, _, rfl⟩ | ⟨rfl, _⟩ := World.settle_inversion served
    · exact Frame.refl _ _
    · constructor <;> simp [Call.part]
  case recordLnSendRevert | revertLightningPayment =>
    obtain ⟨_, rfl, _⟩ | ⟨_, now, ledger, _, rfl⟩ := World.void_inversion served
    · exact Frame.refl _ _
    · constructor <;> simp [Call.part]
  case updateLightningPaymentFlow flow =>
    obtain rfl | ⟨_, _, _, rfl⟩ := World.updateLightningPaymentFlow_inversion served
    · exact Frame.refl _ _
    · constructor <;> simp [Call.part]
  case markLightningPaymentFlowNotPending index =>
    obtain ⟨_, rfl, _⟩ | ⟨_, _, _, _, rfl⟩ := World.markLightningPaymentFlowNotPending_inversion
      served
    · exact Frame.refl _ _
    · constructor <;> simp [Call.part]
  case findByPaymentHash | findWalletById | listByAccountId | findAccountById | findUserById =>
    obtain rfl := Stores.read_unchanged served
    exact Frame.refl _ _
  case getWalletBalanceAmount | isLnTxRecorded | getTransactionsByHash | getPendingPaymentsCount
      | listPendingPayments =>
    obtain rfl := Stores.read_unchanged served
    exact Frame.refl _ _
  all_goals
    cases served
    exact Frame.refl _ _

section Lasting

variable {run other : RunId} {before after : World} {c : Call} {a : Answer c} {reply : Reply c}

theorem serve_lock {key : LockKey} (served : serve run before c a = some (reply, after))
    (different : other ≠ run) (held : before.locks key = some other) :
    after.locks key = some other := by
  by_cases part : c.part = .locks
  · cases c
    case acquire taken =>
      obtain ⟨_, rfl⟩ | ⟨_, free, rfl⟩ := World.acquire_inversion served
      · exact held
      · have another : key ≠ taken := by
          rintro rfl
          simp [held] at free
        simpa [Function.update_of_ne another] using held
    case release released =>
      obtain rfl := World.release_inversion served
      by_cases mine : before.locks released = some run
      · have another : key ≠ released := by
          rintro rfl
          exact different (Option.some.inj (held.symm.trans mine))
        simpa [mine, Function.update_of_ne another] using held
      · simpa [mine] using held
    all_goals cases part
  · rw [(serve_frame served).locks part]
    exact held

theorem serve_grows (served : serve run before c a = some (reply, after)) :
    before.ledger.Grows after.ledger := by
  by_cases part : c.part = .ledger
  · cases c
    case recordSend | recordReceive | recordIntraledger =>
      obtain ⟨_, _, rfl⟩ | ⟨_, now, rfl⟩ := World.commit_inversion served
      · exact .refl _
      · exact Ledger.grows_commit _
    case settlePendingLnSend | settlePendingLnPayment =>
      obtain ⟨_, _, rfl⟩ | ⟨rfl, _⟩ := World.settle_inversion served
      · exact .refl _
      · exact Ledger.grows_settlePending _
    case recordLnSendRevert | revertLightningPayment =>
      obtain ⟨_, rfl, _⟩ | ⟨_, now, ledger, voided, rfl⟩ := World.void_inversion served
      · exact .refl _
      · exact Ledger.grows_void voided
    all_goals cases part
  · rw [(serve_frame served).ledger part]
    exact .refl _

theorem serve_numbered (served : serve run before c a = some (reply, after))
    (numbered : before.ledger.Numbered) : after.ledger.Numbered := by
  by_cases part : c.part = .ledger
  · cases c
    case recordSend | recordReceive | recordIntraledger =>
      obtain ⟨_, _, rfl⟩ | ⟨_, now, rfl⟩ := World.commit_inversion served
      · exact numbered
      · exact numbered.commit _ _ _
    case settlePendingLnSend | settlePendingLnPayment =>
      obtain ⟨_, _, rfl⟩ | ⟨rfl, _⟩ := World.settle_inversion served
      · exact numbered
      · exact numbered.settlePending _ _
    case recordLnSendRevert | revertLightningPayment =>
      obtain ⟨_, rfl, _⟩ | ⟨_, now, ledger, voided, rfl⟩ := World.void_inversion served
      · exact numbered
      · exact numbered.void _ _ voided
    all_goals cases part
  · rw [(serve_frame served).ledger part]
    exact numbered

theorem serve_writers (served : serve run before c a = some (reply, after)) :
    ∃ more, (more = [] ∨ c.part = .ledger ∧ more = [run]) ∧
      after.ledger.writers = before.ledger.writers ++ more := by
  by_cases part : c.part = .ledger
  · cases c
    case recordSend | recordReceive | recordIntraledger =>
      obtain ⟨_, _, rfl⟩ | ⟨_, now, rfl⟩ := World.commit_inversion served
      · exact ⟨[], .inl rfl, by simp⟩
      · exact ⟨[run], .inr ⟨rfl, rfl⟩, Ledger.writers_commit⟩
    case settlePendingLnSend | settlePendingLnPayment =>
      obtain ⟨_, _, rfl⟩ | ⟨rfl, _⟩ := World.settle_inversion served
      · exact ⟨[], .inl rfl, by simp⟩
      · exact ⟨[], .inl rfl, by simp [Ledger.writers_settlePending]⟩
    case recordLnSendRevert | revertLightningPayment =>
      obtain ⟨_, rfl, _⟩ | ⟨_, now, ledger, voided, rfl⟩ := World.void_inversion served
      · exact ⟨[], .inl rfl, by simp⟩
      · exact ⟨[run], .inr ⟨rfl, rfl⟩, Ledger.writers_void voided⟩
    all_goals cases part
  · rw [(serve_frame served).ledger part]
    exact ⟨[], .inl rfl, by simp⟩

theorem serve_clock (served : serve run before c a = some (reply, after)) :
    before.clock ≤ after.clock := by
  cases c
  case acquire =>
    obtain ⟨_, rfl⟩ | ⟨_, _, rfl⟩ := World.acquire_inversion served <;> exact le_rfl
  case release =>
    obtain rfl := World.release_inversion served
    exact le_rfl
  case markAsPaid =>
    obtain ⟨_, rfl⟩ | ⟨_, _, _, rfl⟩ := World.markAsPaid_inversion served <;> exact le_rfl
  case deleteByPaymentHash =>
    obtain ⟨_, rfl⟩ | ⟨_, rfl⟩ := World.deleteByPaymentHash_inversion served <;> exact le_rfl
  case volumeAmountSince =>
    obtain rfl := Stores.read_unchanged served
    exact Nat.le_add_right _ _
  case recordSend | recordReceive | recordIntraledger =>
    exact World.commit_clock served
  case settlePendingLnSend | settlePendingLnPayment =>
    obtain ⟨_, _, rfl⟩ | ⟨rfl, _⟩ := World.settle_inversion served <;> exact le_rfl
  case recordLnSendRevert | revertLightningPayment =>
    exact World.void_clock served
  case updateLightningPaymentFlow flow =>
    obtain rfl | ⟨_, _, _, rfl⟩ := World.updateLightningPaymentFlow_inversion served <;>
      exact le_rfl
  case markLightningPaymentFlowNotPending index =>
    obtain ⟨_, rfl, _⟩ | ⟨_, _, _, _, rfl⟩ := World.markLightningPaymentFlowNotPending_inversion
      served
    all_goals exact le_rfl
  case findByPaymentHash | findWalletById | listByAccountId | findAccountById | findUserById =>
    obtain rfl := Stores.read_unchanged served
    exact le_rfl
  case getWalletBalanceAmount | isLnTxRecorded | getTransactionsByHash | getPendingPaymentsCount
      | listPendingPayments =>
    obtain rfl := Stores.read_unchanged served
    exact le_rfl
  all_goals
    cases served
    exact le_rfl

end Lasting

end Galoy
