import Galoy.Accounts.AddEarn
import Galoy.App.Effects
import Galoy.Interleave.Budget
import Galoy.Payments.Requests

set_option autoImplicit false

namespace Galoy.Rewards

open Interleave Interleave.Failing

inductive Task where
  | addEarn (quizQuestionId : QuizQuestionId) (accountId : AccountId)
  | accounts (prog : Prog Accounts.Call Accounts.Reply Unit)
  | payments (prog : Prog Galoy.Call Galoy.Reply Unit)

namespace Task

def prog (config : Config) : Task → Prog Call Reply Unit
  | .addEarn quizQuestionId accountId =>
    (Rewards.addEarn config quizQuestionId accountId).run >>= fun _ => .pure ()
  | .accounts prog => prog.embed (accountsEmbedding .accountUpdate)
  | .payments prog => prog.embed appEmbedding

def target : Task → Option (AccountId × QuizQuestionId)
  | .addEarn quizQuestionId accountId => some (accountId, quizQuestionId)
  | .accounts _ | .payments _ => none

end Task

/-- A grant is for a question that is entered, and for each question and account there is one at
most. A run that has reached the payment has a grant, and only such a run has a journal. -/
structure RewardBook (tasks : RunId → Task) (w : World) : Prop where
  grantedOnce : (w.granted.map Prod.snd).Nodup
  entered : ∀ run accountId quizQuestionId, (run, accountId, quizQuestionId) ∈ w.granted →
    ∃ earned, w.earn accountId = some earned ∧ quizQuestionId ∈ earned
  reachedOnce : w.reached.Nodup
  reachedGranted : ∀ run ∈ w.reached, ∃ target, (tasks run).target = some target ∧
    (run, target) ∈ w.granted
  journals : ∀ run, (tasks run).target ≠ none →
    w.app.ledger.writers.count run ≤ if run ∈ w.reached then 1 else 0

structure OwnKept (run : RunId) (before after : World) : Prop where
  granted : ∀ target, (run, target) ∈ before.granted → (run, target) ∈ after.granted
  reached : run ∈ after.reached ↔ run ∈ before.reached
  journals : after.app.ledger.writers.count run = before.app.ledger.writers.count run

def rewardDiscipline (tasks : RunId → Task) : Discipline World where
  inv := RewardBook tasks
  rely := OwnKept
  rely_refl _ _ := ⟨fun _ same => same, Iff.rfl, rfl⟩
  rely_trans _ _ _ _ first second :=
    ⟨fun target same => second.granted target (first.granted target same),
      second.reached.trans first.reached, second.journals.trans first.journals⟩

def Call.quiet : Call → Bool
  | .app _ | .addReward _ _ | .intraledgerPaymentSendWalletId _ => false
  | _ => true

structure RewardFrame (before after : World) : Prop where
  app : after.app = before.app
  earn : after.earn = before.earn
  granted : after.granted = before.granted
  reached : after.reached = before.reached

section Serve

variable {tasks : RunId → Task} {run : RunId} {before after : World}

theorem serve_rewardFrame {c : Call} {a : Answer c} {reply : Reply c} (quiet : c.quiet)
    (served : serve run before c a = some (reply, after)) : RewardFrame before after := by
  cases c with
  | app | addReward | intraledgerPaymentSendWalletId => cases quiet
  | accounts site c =>
    obtain ⟨out, _, same⟩ := Option.map_eq_some_iff.mp served
    cases same
    exact ⟨rfl, rfl, rfl, rfl⟩
  | _ =>
    cases served
    exact ⟨rfl, rfl, rfl, rfl⟩

theorem RewardFrame.guaranteed (frame : RewardFrame before after) (good : RewardBook tasks before) :
    (rewardDiscipline tasks).Guaranteed run before after := by
  obtain ⟨app, earn, granted, reached⟩ := frame
  constructor
  · constructor
    case grantedOnce => simpa [granted] using good.grantedOnce
    case entered => simpa [granted, earn] using good.entered
    case reachedOnce => simpa [reached] using good.reachedOnce
    case reachedGranted => simpa [reached, granted] using good.reachedGranted
    case journals => simpa [app, reached] using good.journals
  · intro other _
    exact ⟨by simp [granted], by rw [reached], by rw [app]⟩

theorem push_entered {accountId : AccountId} {quizQuestionId : QuizQuestionId}
    {earned : List QuizQuestionId} (document : before.earn accountId = some earned)
    {holder : AccountId} {question : QuizQuestionId}
    (entered : ∃ earned, before.earn holder = some earned ∧ question ∈ earned) :
    ∃ later, (before.push accountId quizQuestionId earned).earn holder = some later ∧
      question ∈ later := by
  obtain ⟨held, found, member⟩ := entered
  unfold World.push
  by_cases same : holder = accountId
  · subst same
    obtain rfl := Option.some.inj (document.symm.trans found)
    exact ⟨earned ++ [quizQuestionId], by simp, by simp [member]⟩
  · exact ⟨held, by simp [Function.update_of_ne same, found], member⟩

theorem push_guaranteed {accountId : AccountId} {quizQuestionId : QuizQuestionId}
    {earned : List QuizQuestionId} (good : RewardBook tasks before)
    (document : before.earn accountId = some earned) :
    (rewardDiscipline tasks).Guaranteed run before
      (before.push accountId quizQuestionId earned) := by
  refine ⟨⟨good.grantedOnce, ?_, good.reachedOnce, good.reachedGranted, good.journals⟩, ?_⟩
  · intro holder account question granted
    exact push_entered document (good.entered holder account question granted)
  · intro other _
    exact ⟨fun _ same => same, Iff.rfl, rfl⟩

theorem grant_guaranteed {accountId : AccountId} {quizQuestionId : QuizQuestionId}
    {earned : List QuizQuestionId} (good : RewardBook tasks before)
    (document : before.earn accountId = some earned) (missing : quizQuestionId ∉ earned) :
    (rewardDiscipline tasks).Guaranteed run before
      { before.push accountId quizQuestionId earned with
        granted := before.granted ++ [(run, accountId, quizQuestionId)] } := by
  have new : (accountId, quizQuestionId) ∉ before.granted.map Prod.snd := by
    intro taken
    obtain ⟨⟨holder, account, question⟩, granted, same⟩ := List.mem_map.mp taken
    cases same
    obtain ⟨held, found, member⟩ := good.entered holder accountId quizQuestionId granted
    rw [document] at found
    cases found
    exact missing member
  constructor
  · constructor
    case grantedOnce =>
      rw [List.map_append]
      exact good.grantedOnce.append (List.nodup_singleton _) (List.disjoint_singleton.mpr new)
    case entered =>
      intro holder account question granted
      rcases List.mem_append.mp granted with old | added
      · exact push_entered document (good.entered holder account question old)
      · cases List.mem_singleton.mp added
        exact ⟨earned ++ [quizQuestionId], by simp [World.push], by simp⟩
    case reachedOnce => exact good.reachedOnce
    case reachedGranted =>
      intro reacher reached
      obtain ⟨target, isTarget, granted⟩ := good.reachedGranted reacher reached
      exact ⟨target, isTarget, List.mem_append_left _ granted⟩
    case journals => exact good.journals
  · intro other _
    exact ⟨fun _ granted => List.mem_append_left _ granted, Iff.rfl, rfl⟩

theorem app_inversion {c : Galoy.Call} {a : Galoy.Answer c} {reply : Galoy.Reply c}
    (served : serve run before (.app c) a = some (reply, after)) :
    ∃ app, after = { before with app } ∧
      ∃ more, (more = [] ∨ c.part = .ledger ∧ more = [run]) ∧
        app.ledger.writers = before.app.ledger.writers ++ more := by
  obtain ⟨⟨_, app⟩, performed, same⟩ := Option.map_eq_some_iff.mp served
  cases same
  obtain ⟨more, added, writers⟩ := serve_writers performed
  exact ⟨app, rfl, more, added, writers⟩

theorem app_guaranteed {c : Galoy.Call} {a : Galoy.Answer c} {reply : Galoy.Reply c}
    (good : RewardBook tasks before) (served : serve run before (.app c) a = some (reply, after))
    (room : (tasks run).target ≠ none → c.part = .ledger →
      run ∈ before.reached ∧ before.app.ledger.writers.count run < 1) :
    (rewardDiscipline tasks).Guaranteed run before after := by
  obtain ⟨app, rfl, more, cases, writers⟩ := app_inversion served
  have others : ∀ other, other ≠ run → app.ledger.writers.count other =
      before.app.ledger.writers.count other := by
    intro other different
    rw [writers, List.count_append]
    rcases cases with rfl | ⟨_, rfl⟩ <;> simp [different.symm]
  refine ⟨⟨good.grantedOnce, good.entered, good.reachedOnce, good.reachedGranted, ?_⟩, ?_⟩
  · intro other earns
    by_cases same : other = run
    · subst same
      have bound := good.journals other earns
      rcases cases with rfl | ⟨part, rfl⟩
      · simpa [writers] using bound
      · obtain ⟨reached, free⟩ := room earns part
        simp only [writers, List.count_append, List.count_singleton_self, reached, if_true]
        omega
    · rw [others other same]
      exact good.journals other earns
  · intro other different
    exact ⟨fun _ same => same, Iff.rfl, others other different⟩

end Serve

section Payment

theorem prog_atMost (payment : IntraledgerPayment)
    (getAccountLimits : AccountLevel → AccountLimits) :
    AtMostRun (fun c : Galoy.Call => c.part = .ledger) 1 (payment.prog getAccountLimits) := by
  have reads : ∀ c : Galoy.Call, c.reads → ¬ c.part = .ledger := by
    intro c quiet
    rw [show c.part = .nothing from quiet]
    decide
  have locks : ∀ c : Galoy.Call, c.part = .locks → ¬ c.part = .ledger := by
    intro c moves
    rw [moves]
    decide
  have recorded : ∀ currency descriptor, AtMostRun (fun c : Galoy.Call => c.part = .ledger) 1
      (SendIntraledger.recordAndNotify payment.paymentFlow payment.senderAccount
        payment.senderWallet payment.recipientAccount payment.recipientWallet payment.memo currency
        descriptor) := by
    intro currency descriptor
    refine AtMostRun.before (x := App.fallible (Galoy.ask (.recordIntraledger _)))
      (Prog.AtMost.request _) fun _ => ?_
    refine OnlyRun.bind (App.only_fallible (App.ask_reads reads rfl)) fun user => ?_
    exact OnlyRun.bind (App.only_total (App.ask_reads reads rfl)) fun _ => OnlyRun.pure _
  have behindLock : ∀ currency, AtMostRun (fun c : Galoy.Call => c.part = .ledger) 1
      (SendIntraledger.executePaymentViaIntraledgerBehindLock payment.paymentFlow
        payment.senderAccount payment.senderWallet payment.recipientAccount payment.recipientWallet
        payment.memo currency) := by
    intro currency
    refine AtMostRun.after (checkBalance_only reads _ _) fun _ => ?_
    refine AtMostRun.after (App.only_ofResult _) fun _ => ?_
    refine AtMostRun.after (checkNotAborted_only reads _) fun _ => ?_
    split
    · exact (AtMostRun.of_only (OnlyRun.throw _)).mono (Nat.zero_le _)
    · exact recorded _ _
  unfold IntraledgerPayment.prog SendIntraledger.executePaymentViaIntraledger
  refine AtMostRun.after (getPriceRatioForLimits_only reads _) fun priceRatio => ?_
  refine AtMostRun.after (checkLimitsFor_only reads _ _ _ _ _ _) fun _ => ?_
  split
  · refine AtMostRun.after (App.only_fallible (App.only_ask (locks _ rfl))) fun _ => ?_
    refine AtMostRun.before (x := App.attempt _) (AtMostRun.lift (behindLock _)) fun result => ?_
    exact OnlyRun.bind (App.only_fallible (App.only_ask (locks _ rfl))) fun _ =>
      App.only_ofResult result
  · exact (AtMostRun.of_only (OnlyRun.throw _)).mono (Nat.zero_le _)

end Payment

section Runs

variable {config : Config} {tasks : RunId → Task} {run : RunId} {α : Type}

abbrev RewardSpec (tasks : RunId → Task) (run : RunId) (pre : World → Prop) (x : App α)
    (ok : α → World → Prop) :
    Prop :=
  Spec services (anyStep services) (rewardDiscipline tasks) run pre x ok (fun _ _ => True)

def Unreached (run : RunId) (w : World) : Prop := run ∉ w.reached

def Granted (run : RunId) (target : AccountId × QuizQuestionId) (w : World) : Prop :=
  run ∉ w.reached ∧ (run, target) ∈ w.granted

def Paying (run : RunId) (w : World) : Prop :=
  run ∈ w.reached ∧ w.app.ledger.writers.count run + 1 ≤ 1

theorem unreached_stable : (rewardDiscipline tasks).Stable run (Unreached run) :=
  fun _ _ between _ unreached now => unreached (between.reached.mp now)

theorem granted_stable {target : AccountId × QuizQuestionId} :
    (rewardDiscipline tasks).Stable run (Granted run target) :=
  fun _ _ between _ holds => ⟨fun now => holds.1 (between.reached.mp now),
    between.granted target holds.2⟩

theorem reached_stable : (rewardDiscipline tasks).Stable run (fun w => run ∈ w.reached) :=
  fun _ _ between _ reached => between.reached.mpr reached

theorem paying_stable : (rewardDiscipline tasks).Stable run (Paying run) :=
  fun _ _ between _ holds => ⟨between.reached.mpr holds.1, between.journals.symm ▸ holds.2⟩

theorem quiet_spec {keep : World → Prop} {x : App α}
    (stable : (rewardDiscipline tasks).Stable run keep)
    (kept : ∀ before after, RewardFrame before after → keep before → keep after)
    (only : OnlyRun (fun c => c.quiet = true) x) : RewardSpec tasks run keep x (fun _ => keep) := by
  refine Spec.weaken_err (Spec.ofOnly stable ?_ only) fun _ _ _ _ => trivial
  intro c quiet before a reply after good holds _ served
  have frame := serve_rewardFrame quiet served
  exact ⟨frame.guaranteed good, kept before after frame holds⟩

theorem addReward_spec {accountId : AccountId} {quizQuestionId : QuizQuestionId} :
    RewardSpec tasks run (Unreached run) (fallible (ask (.addReward accountId quizQuestionId)))
      (fun _ => Granted run (accountId, quizQuestionId)) := by
  refine fallible_spec (Triple.request unreached_stable ?_)
  intro before a reply after good unreached _ served
  simp only [serve, Option.some.injEq] at served
  unfold World.addReward at served
  cases document : before.earn accountId with
  | none =>
    rw [document] at served
    cases served
    exact ⟨RewardFrame.guaranteed ⟨rfl, rfl, rfl, rfl⟩ good, trivial⟩
  | some earned =>
    rw [document] at served
    dsimp only at served
    split at served
    · cases served
      refine ⟨?_, trivial⟩
      split
      · exact push_guaranteed good document
      · exact RewardFrame.guaranteed ⟨rfl, rfl, rfl, rfl⟩ good
    · split at served
      · cases served
        exact ⟨push_guaranteed good document, trivial⟩
      · rename_i missing
        cases served
        exact ⟨grant_guaranteed good document missing, unreached,
          List.mem_append_right _ (List.mem_singleton_self _)⟩

theorem reach_spec {accountId : AccountId} {quizQuestionId : QuizQuestionId}
    (own : (tasks run).target = some (accountId, quizQuestionId))
    (args : IntraLedgerPaymentSendWalletIdArgs) :
    RewardSpec tasks run (Granted run (accountId, quizQuestionId))
      (total (ask (.intraledgerPaymentSendWalletId args))) (fun _ => Paying run) := by
  refine total_spec (Triple.request granted_stable ?_)
  rintro before a reply after good ⟨unreached, granted⟩ _ served
  cases served
  have earns : (tasks run).target ≠ none := by simp [own]
  have unpaid := good.journals run earns
  rw [if_neg unreached] at unpaid
  refine ⟨⟨⟨good.grantedOnce, good.entered, ?_, ?_, ?_⟩, ?_⟩, by simp, ?_⟩
  · exact good.reachedOnce.append (List.nodup_singleton _) (List.disjoint_singleton.mpr unreached)
  · intro reacher reached
    rcases List.mem_append.mp reached with old | added
    · exact good.reachedGranted reacher old
    · cases List.mem_singleton.mp added
      exact ⟨_, own, granted⟩
  · intro other earns
    have bound := good.journals other earns
    by_cases same : other = run
    · subst same
      simp only [List.mem_append, List.mem_singleton, or_true, if_true]
      omega
    · simpa [same] using bound
  · intro other different
    exact ⟨fun _ same => same, by simp [different], rfl⟩
  · show before.app.ledger.writers.count run + 1 ≤ 1
    omega

theorem payment_spec (payment : IntraledgerPayment) :
    RewardSpec tasks run (Paying run) (viaApp (payment.prog config.getAccountLimits))
      (fun _ _ => True) := by
  have only : OnlyRun (fun c => ∃ app, c = Call.app app)
      (viaApp (payment.prog config.getAccountLimits)) :=
    Prog.only_embed (fun c => ⟨c, rfl⟩) _
  have bounded : AtMostRun (fun c => ∃ app, c = Call.app app ∧ app.part = .ledger) 1
      (viaApp (payment.prog config.getAccountLimits)) := by
    refine Prog.AtMost.embed ?_ (prog_atMost payment config.getAccountLimits)
    intro c
    simp [appEmbedding]
  refine Triple.conseq (Triple.atMost reached_stable (fun _ _ between => between.journals)
    ?_ only bounded) (fun _ _ holds => holds) ?_
  · rintro _ ⟨c, rfl⟩ before a reply after good reached room _ served
    have guaranteed := app_guaranteed good served fun _ part => ⟨reached, room ⟨c, rfl, part⟩⟩
    obtain ⟨app, rfl, more, added, writers⟩ := app_inversion served
    refine ⟨guaranteed, reached, ?_, ?_⟩
    · rw [writers, List.count_append]
      rcases added with rfl | ⟨_, rfl⟩ <;> simp
    · intro uncounted
      rcases added with rfl | ⟨part, rfl⟩
      · simp [writers]
      · exact absurd ⟨c, rfl, part⟩ uncounted
  · intro result w _ _
    cases result <;> trivial

theorem reads_quiet (c : Call) (reads : c.reads) : c.quiet = true := by
  cases c <;> first | rfl | cases reads

theorem addContact_quiet (site : Site) (accountId : AccountId) (contactUsername : Option Username) :
    OnlyRun (fun c => c.quiet = true) (addContact site accountId contactUsername) := by
  unfold addContact
  split
  · exact OnlyRun.pure _
  · exact OnlyRun.bind (Prog.only_embed (fun _ => rfl) _) fun _ => OnlyRun.pure _

theorem addContactsAfterSend_quiet (senderAccount recipientAccount : Accounts.Account) :
    OnlyRun (fun c => c.quiet = true) (addContactsAfterSend senderAccount recipientAccount) := by
  unfold addContactsAfterSend
  split
  · exact OnlyRun.bind (addContact_quiet _ _ _) fun _ => addContact_quiet _ _ _
  · exact OnlyRun.pure _

theorem addEarn_spec {accountId : AccountId} {quizQuestionId : QuizQuestionId}
    (own : (tasks run).target = some (accountId, quizQuestionId)) :
    RewardSpec tasks run (Unreached run) (addEarn config quizQuestionId accountId) (fun _ _ =>
      True) := by
  have anything : (rewardDiscipline tasks).Stable run (fun _ => True) := Discipline.stable_true _ _
  refine Spec.bind (quiet_spec unreached_stable ?_
    (findReward_only reads_quiet quizQuestionId accountId)) fun reward => ?_
  · intro before after frame unreached
    rwa [Unreached, frame.reached]
  refine Spec.bind addReward_spec fun _ => ?_
  refine Spec.seq (fun _ _ => True) ?_ fun _ => Spec.pure fun _ _ _ => trivial
  refine Spec.bind (reach_spec own _) fun _ => ?_
  refine Spec.bind (quiet_spec paying_stable ?_ (preparePayment_only reads_quiet _))
    fun prepared => ?_
  · intro before after frame paying
    rwa [Paying, frame.reached, frame.app]
  refine Spec.bind (payment_spec prepared.payment) fun status => ?_
  split
  · refine Spec.bind (quiet_spec anything (fun _ _ _ _ => trivial) ?_) fun _ => Spec.pure fun _ _ _ => trivial
    exact attempt_only (addContactsAfterSend_quiet _ _)
  · exact Spec.pure fun _ _ _ => trivial

theorem task_spec (task : Task) (own : tasks run = task) :
    Triple services (anyStep services) (rewardDiscipline tasks) run (Unreached run)
      (task.prog config) (fun _ _ => True) := by
  have anything : (rewardDiscipline tasks).Stable run (fun _ => True) := Discipline.stable_true _ _
  cases task with
  | addEarn quizQuestionId accountId =>
    have target : (tasks run).target = some (accountId, quizQuestionId) := by rw [own]; rfl
    exact Triple.discard (addEarn_spec target)
  | accounts prog =>
    have quiet : (prog.embed (accountsEmbedding .accountUpdate)).Only (fun c => c.quiet = true) :=
      Prog.only_embed (fun _ => rfl) prog
    refine Triple.conseq (Triple.ofOnly anything ?_ quiet) (fun _ _ _ => trivial)
      fun _ _ _ _ => trivial
    intro c quiet before a reply after good _ _ served
    exact ⟨(serve_rewardFrame quiet served).guaranteed good, trivial⟩
  | payments prog =>
    have requests : (prog.embed appEmbedding).Only (fun c => ∃ app, c = Call.app app) :=
      Prog.only_embed (fun c => ⟨c, rfl⟩) prog
    refine Triple.conseq (Triple.ofOnly anything ?_ requests) (fun _ _ _ => trivial)
      fun _ _ _ _ => trivial
    rintro _ ⟨c, rfl⟩ before a reply after good _ _ served
    have noTarget : (tasks run).target = none := by rw [own]; rfl
    exact ⟨app_guaranteed good served fun earns => absurd noTarget earns, trivial⟩

end Runs

section Once

variable {tasks : RunId → Task} {accountId : AccountId} {quizQuestionId : QuizQuestionId}

def Earns (tasks : RunId → Task) (accountId : AccountId) (quizQuestionId : QuizQuestionId)
    (run : RunId) : Bool :=
  (tasks run).target = some (accountId, quizQuestionId)

theorem earns_iff {run : RunId} :
    Earns tasks accountId quizQuestionId run ↔ (tasks run).target =
      some (accountId, quizQuestionId) :=
  decide_eq_true_iff

theorem Earns.target {run : RunId} (earns : Earns tasks accountId quizQuestionId run) :
    (tasks run).target ≠ none := by
  rw [earns_iff.mp earns]
  exact Option.some_ne_none _

theorem filter_once {earns : RunId → Bool} {runs : List RunId}
    (one : ∀ run ∈ runs, ∀ other ∈ runs, earns run → earns other → run = other)
    (once : ∀ run ∈ runs, earns run → runs.count run ≤ 1) : (runs.filter earns).length ≤ 1 := by
  cases filtered : runs.filter earns with
  | nil => simp
  | cons run rest =>
    have first : run ∈ runs.filter earns := by simp [filtered]
    obtain ⟨member, isEarner⟩ := List.mem_filter.mp first
    have all : ∀ other ∈ runs.filter earns, run = other := by
      intro other otherMember
      obtain ⟨inRuns, otherEarns⟩ := List.mem_filter.mp otherMember
      exact one run member other inRuns isEarner otherEarns
    calc (run :: rest).length = (runs.filter earns).count run := by rw [List.count_eq_length.mpr all, filtered]
      _ = runs.count run := List.count_filter isEarner
      _ ≤ 1 := once run member isEarner

theorem RewardBook.one_reaches {w : World} (book : RewardBook tasks w) {run other : RunId}
    (reached : run ∈ w.reached) (otherReached : other ∈ w.reached)
    (earns : Earns tasks accountId quizQuestionId run)
    (otherEarns : Earns tasks accountId quizQuestionId other) : run = other := by
  have granted : ∀ run ∈ w.reached, Earns tasks accountId quizQuestionId run →
      (run, accountId, quizQuestionId) ∈ w.granted := by
    intro run reached earns
    obtain ⟨target, isTarget, granted⟩ := book.reachedGranted run reached
    rw [earns_iff.mp earns] at isTarget
    cases isTarget
    exact granted
  have grants := List.inj_on_of_nodup_map book.grantedOnce (granted run reached earns)
    (granted other otherReached otherEarns) rfl
  exact congrArg Prod.fst grants

theorem RewardBook.reached_of_journal {w : World} (book : RewardBook tasks w) {run : RunId}
    (written : run ∈ w.app.ledger.writers) (earns : Earns tasks accountId quizQuestionId run) :
    run ∈ w.reached := by
  by_contra unreached
  have none := book.journals run (Earns.target earns)
  rw [if_neg unreached] at none
  have some := List.count_pos_iff.mpr written
  omega

theorem reward_paid_at_most_once (config : Config) (tasks : RunId → Task) (start : World)
    (noGrants : start.granted = []) (noneReached : start.reached = [])
    (noJournals : ∀ run, (tasks run).target ≠ none → run ∉ start.app.ledger.writers)
    (after : Interleave.Config World Call Reply Unit)
    (reach : Reach services (anyStep services) ⟨start, fun run => (tasks run).prog config⟩ after)
    (accountId : AccountId) (quizQuestionId : QuizQuestionId) :
    (after.world.reached.filter (Earns tasks accountId quizQuestionId)).length ≤ 1 ∧
      (after.world.app.ledger.writers.filter
        (Earns tasks accountId quizQuestionId)).length ≤ 1 := by
  have good : RewardBook tasks start := by
    constructor
    case grantedOnce => simp [noGrants]
    case entered => simp [noGrants]
    case reachedOnce => simp [noneReached]
    case reachedGranted => simp [noneReached]
    case journals =>
      intro run earns
      rw [List.count_eq_zero.mpr (noJournals run earns)]
      exact Nat.zero_le _
  have runs : ∀ run, wp services (anyStep services) (rewardDiscipline tasks) run
      ((tasks run).prog config) (fun _ _ => True) start := by
    intro run
    exact task_spec (tasks run) rfl start good (by simp [Unreached, noneReached])
  have book : RewardBook tasks after.world := reach_inv good runs reach
  constructor
  · refine filter_once (fun run reached other otherReached => book.one_reaches reached otherReached) ?_
    intro run _ _
    exact List.nodup_iff_count_le_one.mp book.reachedOnce run
  · refine filter_once ?_ ?_
    · intro run written other otherWritten earns otherEarns
      exact book.one_reaches (book.reached_of_journal written earns)
        (book.reached_of_journal otherWritten otherEarns) earns otherEarns
    · intro run written earns
      have bound := book.journals run (Earns.target earns)
      rwa [if_pos (book.reached_of_journal written earns)] at bound

def bobTwice (run : RunId) : Task :=
  if run < 2 then .addEarn "sat" "bob" else .accounts (.pure ())

theorem bobTwice_target {run : RunId} (earns : (bobTwice run).target ≠ none) : run < 2 := by
  by_contra more
  simp [bobTwice, more, Task.target] at earns

theorem bob_twice_paid_once :
    ∃ after, Reach services (anyStep services)
        ⟨rewardWorld 1000, fun run => (bobTwice run).prog rewardConfig⟩ after ∧
      after.world.earn "bob" = some ["sat", "sat"] ∧ after.world.reached = [0] ∧
      (after.world.reached.filter (Earns bobTwice "bob" "sat")).length ≤ 1 ∧
      (after.world.app.ledger.writers.filter (Earns bobTwice "bob" "sat")).length ≤ 1 := by
  have played : (play services (anyStep services) (fun _ => rewardAnswers)
      (List.replicate 7 0 ++ List.replicate 7 1 ++ [0, 1, 0])
      ⟨rewardWorld 1000, fun run => (bobTwice run).prog rewardConfig⟩).map
        (fun after => (after.world.earn "bob", after.world.reached)) =
          some (some ["sat", "sat"], [0]) := by
    decide +kernel
  obtain ⟨after, run, shown⟩ := Option.map_eq_some_iff.mp played
  have reach := play_reach _ _ _ _ _ _ run
  have noJournals : ∀ run, (bobTwice run).target ≠ none →
      run ∉ (rewardWorld 1000).app.ledger.writers := by
    intro run earns
    have small := bobTwice_target earns
    have writers : (rewardWorld 1000).app.ledger.writers = [100] := rfl
    rw [writers, List.mem_singleton]
    rintro rfl
    exact absurd small (by decide)
  simp only [Prod.mk.injEq] at shown
  exact ⟨after, reach, shown.1, shown.2,
    reward_paid_at_most_once rewardConfig bobTwice (rewardWorld 1000) rfl rfl noJournals after
    reach "bob" "sat"⟩

end Once

end Galoy.Rewards
