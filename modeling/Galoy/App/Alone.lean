import Galoy.App.Effects
import Galoy.Interleave.Alone

set_option autoImplicit false

namespace Galoy

open Interleave App

abbrev Answers := (c : Call) → Answer c

abbrev EndsAlone {α : Type} (run : RunId) (answers : Answers) (x : App α) (w : World)
    (post : Result α → World → Prop) : Prop :=
  EndsRun services run answers x w post

def World.paid (w : World) (paymentHash : PaymentHash) (record : WalletInvoiceRecord) : World :=
  { w with invoices := Function.update w.invoices paymentHash (some { record with paid := true }) }

theorem paid_invoices (w : World) (paymentHash : PaymentHash) (record : WalletInvoiceRecord) :
    (w.paid paymentHash record).invoices paymentHash = some { record with paid := true } := by
  simp [World.paid]

section Alone

variable {α β : Type} {run : RunId} {answers : Answers} {w : World}

def verdictAt (run : RunId) (answers : Answers) (x : App α) (w : World) : Option (Result α) :=
  (eval services run answers x.run w).map (·.1)

theorem verdictAt_of_ends {x : App α} {verdict : Result α}
    (ends : EndsAlone run answers x w fun result _ => result = verdict) :
    verdictAt run answers x w = some verdict := by
  obtain ⟨result, after, evaluated, rfl⟩ := ends
  rw [verdictAt, evaluated]
  rfl

@[simp] theorem alone_ofResult {result : Result α} {post : Result α → World → Prop} :
    EndsAlone run answers (ofResult result) w post ↔ post result w := ends_pure

theorem alone_ask {c : Call} {post : Reply c → World → Prop} :
    Ends services run answers (ask c) w post ↔
      ∃ reply after, serve run w c (answers c) = some (reply, after) ∧ post reply after :=
  ends_request

@[simp] theorem alone_fallible {p : Prog Call Reply (Result α)} {post : Result α → World → Prop} :
    EndsAlone run answers (fallible p) w post ↔ Ends services run answers p w post := Iff.rfl

@[simp] theorem alone_total {p : Prog Call Reply α} {post : Result α → World → Prop} :
    EndsAlone run answers (total p) w post ↔
      Ends services run answers p w (fun value after => post (.ok value) after) := by
  have lifted : (total p).run = p >>= fun value => .pure (.ok value) := rfl
  unfold EndsAlone EndsRun
  rw [lifted, ends_bind]
  simp only [ends_pure]

@[simp] theorem alone_attempt {x : App α} {post : Result (Result α) → World → Prop} :
    EndsAlone run answers (attempt x) w post ↔
      EndsAlone run answers x w (fun result after => post (.ok result) after) :=
  alone_total

theorem alone_call {c : Call} {reply : Reply c} {after : World} {post : Reply c → World → Prop}
    (served : serve run w c (answers c) = some (reply, after)) (h : post reply after) :
    Ends services run answers (ask c) w post :=
  alone_ask.mpr ⟨reply, after, served, h⟩

theorem found_alone {α : Type} {p : Prog Call Reply (Result α)} {fault : Option RepositoryFault}
    {value : Option α} (name : ErrorName) (message : String) {post : Result α → World → Prop}
    (reads : ∀ result, Stores.read w fault (Stores.found value name message) = some (result, w) →
      post result w → Ends services run answers p w post)
    (found : fault = none → ∀ document, value = some document → post (.ok document) w)
    (missing : (¬∃ document, fault = none ∧ value = some document) →
      ∀ error, post (.error error) w) :
    Ends services run answers p w post := by
  cases fault with
  | some fault => exact reads _ rfl (missing (by simp) _)
  | none =>
    cases value with
    | none => exact reads _ rfl (missing (by simp) _)
    | some document => exact reads _ rfl (found rfl document rfl)

theorem findWallet_alone {site : Site} {walletId : WalletId}
    {post : Result WalletDescriptor → World → Prop}
      (found : answers (.findWalletById site walletId) = none → ∀ wallet,
        w.wallets walletId = some wallet → post (.ok wallet) w)
    (missing : (¬∃ wallet, answers (.findWalletById site walletId) = none ∧
      w.wallets walletId = some wallet) → ∀ error, post (.error error) w) :
    Ends services run answers (ask (.findWalletById site walletId)) w post := by
  refine found_alone .CouldNotFindWalletFromIdError "" ?_ found missing
  intro result served holds
  exact alone_call served holds

theorem findAccount_alone {site : Site} {accountId : AccountId}
    {post : Result Account → World → Prop}
      (found : answers (.findAccountById site accountId) = none → ∀ account,
        w.accounts accountId = some account → post (.ok account) w)
    (missing : (¬∃ account, answers (.findAccountById site accountId) = none ∧
      w.accounts accountId = some account) → ∀ error, post (.error error) w) :
    Ends services run answers (ask (.findAccountById site accountId)) w post := by
  refine found_alone .CouldNotFindError "" ?_ found missing
  intro result served holds
  exact alone_call served holds

theorem findUser_alone {userId : UserId} {post : Result User → World → Prop}
    (found : answers (.findUserById userId) = none → ∀ user,
      w.users userId = some user → post (.ok user) w)
    (missing : (¬∃ user, answers (.findUserById userId) = none ∧
      w.users userId = some user) → ∀ error, post (.error error) w) :
    Ends services run answers (ask (.findUserById userId)) w post := by
  refine found_alone .CouldNotFindUserFromIdError userId ?_ found missing
  intro result served holds
  exact alone_call served holds

theorem readLedger_alone {α : Type} {p : Prog Call Reply (Result α)}
    {fault : Option String} {value : α} {post : Result α → World → Prop}
    (reads : ∀ result, Stores.readLedger w fault (.ok value) = some (result, w) →
      post result w → Ends services run answers p w post)
    (read : fault = none → post (.ok value) w)
    (fails : fault ≠ none → ∀ error, post (.error error) w) :
    Ends services run answers p w post := by
  cases fault with
  | none => exact reads _ rfl (read rfl)
  | some message => exact reads _ rfl (fails (by simp) (unknownLedgerError message))

theorem balance_alone {wallet : WalletDescriptor}
    {post : Result (Amount wallet.currency) → World → Prop}
    (read : answers (.getWalletBalanceAmount wallet) = none →
      post (.ok (w.ledger.getWalletBalanceAmount wallet)) w)
    (fails : answers (.getWalletBalanceAmount wallet) ≠ none → ∀ error, post (.error error) w) :
    Ends services run answers (ask (.getWalletBalanceAmount wallet)) w post := by
  refine readLedger_alone ?_ read fails
  intro result served holds
  exact alone_call served holds

theorem isLnTxRecorded_alone {paymentHash : PaymentHash} {post : Result Bool → World → Prop}
    (read : answers (.isLnTxRecorded paymentHash) = none →
      post (.ok (w.ledger.isLnTxRecorded paymentHash)) w)
    (fails : answers (.isLnTxRecorded paymentHash) ≠ none → ∀ error, post (.error error) w) :
    Ends services run answers (ask (.isLnTxRecorded paymentHash)) w post := by
  refine readLedger_alone ?_ read fails
  intro result served holds
  exact alone_call served holds

theorem commit_alone {p : Prog Call Reply (Result LedgerJournalId)} {entry : Entry}
    {answer : TimedAnswer} {post : Result LedgerJournalId → World → Prop}
    (performs : ∀ result after, w.commit run entry answer = some (result, after) →
      post result after → Ends services run answers p w post)
    (commits : answer.fault = none → ∀ now, post (.ok w.ledger.journals.length)
      { w with clock := now, ledger := w.ledger.commit run now entry })
    (fails : answer.fault ≠ none → ∀ error, post (.error error) w) :
    Ends services run answers p w post := by
  cases fault : answer.fault with
  | none =>
    refine performs _ _ ?_ (commits fault (w.clock + answer.elapsed))
    simp [World.commit, fault]
  | some message =>
    refine performs _ _ ?_ (fails (by simp [fault]) (unknownLedgerError message))
    simp [World.commit, fault]

theorem recordReceive_alone {args : RecordReceiveArgs}
    {post : Result LedgerJournalId → World → Prop}
      (commits : (answers (.recordReceive args)).fault = none → ∀ now,
        post (.ok w.ledger.journals.length) { w with
          clock := now, ledger := w.ledger.commit run now (LedgerFacade.recordReceive w.bank args)
          })
    (fails : (answers (.recordReceive args)).fault ≠ none → ∀ error, post (.error error) w) :
    Ends services run answers (ask (.recordReceive args)) w post := by
  refine commit_alone ?_ commits fails
  intro result after served holds
  exact alone_call served holds

theorem recordIntraledger_alone {args : RecordIntraledgerArgs}
    {post : Result LedgerJournalId → World → Prop}
    (commits : (answers (.recordIntraledger args)).fault = none → ∀ now,
      post (.ok w.ledger.journals.length)
        { w with
          clock := now, ledger :=
  w.ledger.commit run now (LedgerFacade.recordIntraledger w.bank args) })
    (fails : (answers (.recordIntraledger args)).fault ≠ none → ∀ error, post (.error error) w) :
    Ends services run answers (ask (.recordIntraledger args)) w post := by
  refine commit_alone ?_ commits fails
  intro result after served holds
  exact alone_call served holds

theorem mark_alone {site : Site} {paymentHash : PaymentHash}
    {post : Result WalletInvoice → World → Prop}
    (marks : answers (.markAsPaid site paymentHash) = none → ∀ record,
      w.invoices paymentHash = some record → ∀ invoice, post (.ok invoice)
    (w.paid paymentHash record))
    (keeps : (answers (.markAsPaid site paymentHash) ≠ none ∨ w.invoices paymentHash = none) →
      ∀ error, post (.error error) w) :
    Ends services run answers (ask (.markAsPaid site paymentHash)) w post := by
  cases answered : answers (.markAsPaid site paymentHash) with
  | some fault =>
    refine alone_call ?_ (keeps (.inl (by simp [answered])) fault.error)
    simp [serve, World.markAsPaid, answered]
  | none =>
    cases stored : w.invoices paymentHash with
    | none =>
      refine alone_call ?_ (keeps (.inr stored) { name := .CouldNotFindWalletInvoiceError })
      simp [serve, World.markAsPaid, answered, stored]
    | some record =>
      refine alone_call ?_ (marks answered record stored
        (walletInvoiceFromRaw paymentHash { record with paid := true }))
      simp [serve, World.markAsPaid, answered, stored, World.paid]

theorem reads_served {c : Call} (reads : c.part = .nothing) (a : Answer c) :
    ∃ reply now, serve run w c a = some (reply, { w with clock := now }) := by
  have served : ∃ reply after, serve run w c a = some (reply, after) := by
    cases c <;> first | exact ⟨_, _, rfl⟩ | cases reads
  obtain ⟨reply, after, served⟩ := served
  have frame := serve_frame served
  rw [reads] at frame
  exact ⟨reply, after.clock, by rw [← frame.clock]; exact served⟩

theorem reads_alone {p : Prog Call Reply α} (only : p.Only (fun c => c.part = .nothing)) :
    ∃ value now, eval services run answers p w = some (value, { w with clock := now }) := by
  induction p generalizing w with
  | pure value => exact ⟨value, w.clock, rfl⟩
  | call c next ih =>
    have step : ∃ reply now, serve run w c (answers c) = some (reply, { w with clock := now }) :=
      reads_served only.1 _
    obtain ⟨reply, now, served⟩ := step
    obtain ⟨value, later, evaluated⟩ := ih reply (only.2 reply)
    refine ⟨value, later, ?_⟩
    rw [eval_call]
    exact Option.bind_eq_some_iff.mpr ⟨_, served, evaluated⟩

def Passes (run : RunId) (answers : Answers) (check : App α) (w : World) : Prop :=
  EndsAlone run answers check w (fun result _ => ∃ value, result = .ok value)

theorem alone_check {check : App α} {post : Result α → World → Prop}
    (only : OnlyRun (fun c => c.part = .nothing) check)
    (passes : Passes run answers check w → ∀ value now, post (.ok value) { w with clock := now })
    (fails : ¬Passes run answers check w → ∀ error now, post (.error error)
      { w with clock := now }) :
    EndsAlone run answers check w post := by
  obtain ⟨result, now, evaluated⟩ := reads_alone only
  refine ⟨result, _, evaluated, ?_⟩
  cases result with
  | ok value => exact passes ⟨_, _, evaluated, value, rfl⟩ value now
  | error error =>
    refine fails (fun passed => ?_) error now
    obtain ⟨_, _, again, value, rfl⟩ := passed
    cases evaluated.symm.trans again

def released (answer : LockAnswer) (result : Result α) : Result α :=
  match Stores.lockError answer with
  | .ok _ => result
  | .error error => .error error

theorem alone_withLock_refused {key : LockKey} {body : App α} {post : Result α → World → Prop}
    (refused : answers (.acquire key) ≠ .done) (h : ∀ error, post (.error error) w) :
    EndsAlone run answers (withLock key body) w post := by
  have served : ∃ error, serve run w (.acquire key) (answers (.acquire key)) =
      some (.error error, w) := by
    simp only [serve, World.acquire, Stores.acquire]
    cases given : answers (.acquire key) with
    | done => exact absurd given refused
    | executionError | otherError => exact ⟨_, rfl⟩
  obtain ⟨error, served⟩ := served
  exact endsRun_bind.mpr (alone_call served (h error))

theorem alone_withLock_granted {key : LockKey} {body : App α} {post : Result α → World → Prop}
    (free : w.locks key = none) (granted : answers (.acquire key) = .done)
    (inside : EndsAlone run answers body { w with locks := Function.update w.locks key (some run) }
      (fun result after => ∀ locks, post (released (answers (.release key)) result)
        { after with locks })) :
    EndsAlone run answers (withLock key body) w post := by
  have served : serve run w (.acquire key) (answers (.acquire key)) =
      some (.ok (), { w with locks := Function.update w.locks key (some run) }) := by
    simp [serve, World.acquire, Stores.acquire, granted, free]
  refine endsRun_bind.mpr (alone_call served (endsRun_bind.mpr (alone_attempt.mpr ?_)))
  refine inside.mono fun result after holds => endsRun_bind.mpr (alone_call rfl ?_)
  have ended := holds (if after.locks key = some run then Function.update after.locks key none
    else after.locks)
  unfold released at ended
  cases given : answers (.release key) with
  | done =>
    rw [given] at ended
    exact alone_ofResult.mpr ended
  | executionError | otherError =>
    rw [given] at ended
    exact ended

end Alone

end Galoy
