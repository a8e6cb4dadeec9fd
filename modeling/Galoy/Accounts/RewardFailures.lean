import Galoy.Accounts.AddEarn
import Galoy.Payments.IntraledgerFailures

set_option autoImplicit false

namespace Galoy.Rewards

open Interleave Interleave.Failing

abbrev Answers := (c : Call) → Answer c

def verdict {α : Type} (run : RunId) (answers : Answers) (x : App α) (w : World) :
    Option (Result α) :=
  (eval services run answers x.run w).map (·.1)

section Conditions

variable (config : Config) (run : RunId) (answers : Answers) (w : World)
  (quizQuestionId : QuizQuestionId) (accountId : AccountId)

def PaysReward (reward : Reward) : Prop :=
  ∃ prepared, verdict run answers (preparePayment config (reward.args quizQuestionId)) w =
    some (.ok prepared) ∧
    prepared.payment.Pays config.getAccountLimits run (fun c => answers (.app c)) w.payments

-- The update is applied, but it fails, the question was there before, or the payment fails.
def EnteredInVain : Prop :=
  ∃ reward, verdict run answers (findReward config quizQuestionId accountId) w = some (.ok reward) ∧
    ∃ earned, w.earn accountId = some earned ∧
      ((answers (.addReward accountId quizQuestionId)).failed = false ∨
        (answers (.addReward accountId quizQuestionId)).applied = true) ∧
      ((answers (.addReward accountId quizQuestionId)).failed = true ∨ quizQuestionId ∈ earned ∨
        ¬PaysReward config run answers w quizQuestionId reward)

end Conditions

def ErrorLeavesEarn (accountId : AccountId) (before : World) (result : Result QuizQuestion)
    (after : World) : Prop :=
  ∀ error, result = .error error → after.earn accountId = before.earn accountId

structure Alike (before after : World) : Prop where
  app : after.app = before.app
  users : after.accounts.users = before.accounts.users
  phoneMetadata : after.phoneMetadata = before.phoneMetadata
  lastIPs : after.lastIPs = before.lastIPs

section Reads

variable {config : Config} {run : RunId} {answers : Answers} {w : World} {α : Type}

theorem Alike.findById {before after : World} (alike : Alike before after) (accountId : AccountId) :
    after.accounts.findById accountId = before.accounts.findById accountId := by
  unfold Accounts.World.findById Accounts.World.record?
  rw [alike.users]

theorem Alike.payments {before after : World} (alike : Alike before after) :
    after.payments = before.payments := by
  have accounts : after.accounts.findById = before.accounts.findById := funext alike.findById
  rw [World.payments, World.payments, alike.app, accounts]

def AnsweredAlike (run : RunId) (answers : Answers) (w : World) (c : Call) : Prop :=
  ∃ reply, ∀ now, Alike w now →
    ∃ after, serve run now c (answers c) = some (reply, after) ∧ Alike w after ∧
      after.earn = now.earn

theorem answeredAlike_of_unmoved {c : Call} {f : World → Reply c}
    (same : ∀ now, Alike w now → f now = f w)
    (served : ∀ now, serve run now c (answers c) = some (f now, now)) :
    AnsweredAlike run answers w c := by
  refine ⟨f w, fun now alike => ⟨now, ?_, alike, rfl⟩⟩
  rw [served, same now alike]

theorem reads_served (w : World) (c : Call) (reads : c.reads) : AnsweredAlike run answers w c := by
  cases c with
  | app | addReward | intraledgerPaymentSendWalletId => cases reads
  | accounts site c =>
    cases c with
    | update => cases reads
    | findById accountId =>
      refine ⟨Stores.answer (answers (.accounts site (.findById accountId)))
        (w.accounts.findById accountId), ?_⟩
      intro now alike
      rw [← alike.findById]
      exact ⟨_, rfl, ⟨alike.app, alike.users, alike.phoneMetadata, alike.lastIPs⟩, rfl⟩
    | findByUsername username =>
      refine answeredAlike_of_unmoved (f := fun now => Stores.answer
        (answers (.accounts site (.findByUsername username)))
        (now.accounts.findByUsername username))
        (fun now alike => ?_) fun _ => rfl
      unfold Accounts.World.findByUsername
      rw [alike.users]
  | getFunderWalletId =>
    exact answeredAlike_of_unmoved (fun now alike => congrArg (·.bank.funder) alike.app) fun _ =>
      rfl
  | findWalletById site walletId =>
    refine answeredAlike_of_unmoved (fun now alike => ?_) fun _ => rfl
    rw [alike.app]
  | findUserById userId =>
    refine answeredAlike_of_unmoved (fun now alike => ?_) fun _ => rfl
    rw [alike.app, alike.phoneMetadata]
  | findUserIps userId =>
    refine answeredAlike_of_unmoved (fun now alike => ?_) fun _ => rfl
    rw [alike.lastIPs]
  | listByAccountId accountId =>
    refine answeredAlike_of_unmoved (fun now alike => ?_) fun _ => rfl
    rw [World.listByAccountId, alike.app]
    rfl
  | quotes => exact answeredAlike_of_unmoved (fun _ _ => rfl) fun _ => rfl

theorem reads_next {β : Type} {now : World} {x : App α} {f : α → App β}
    {post : Result β → World → Prop} (only : OnlyRun (fun c => c.reads = true) x)
    (alike : Alike w now) (failed : ∀ error after, verdict run answers x w = some (.error error) →
      after.earn = now.earn →
      post (.error error) after)
    (passed : ∀ value after, verdict run answers x w = some (.ok value) → Alike w after →
      after.earn = now.earn →
      EndsRun services run answers (f value) after post) :
    EndsRun services run answers (x >>= f) now post := by
  have served : ∀ c : Call, c.reads = true → ∃ reply, ∀ now, Alike w now → ∃ after,
      services.serve run now c (answers c) = some (reply, after) ∧ Alike w after ∧
        after.earn = now.earn :=
    fun c reads => reads_served w c reads
  obtain ⟨result, evaluates⟩ := eval_alike (fun (now after : World) => after.earn = now.earn)
    (fun _ => rfl) (fun _ _ _ first second => second.trans first) served only
  obtain ⟨_, evaluatedFirst, _⟩ := evaluates w ⟨rfl, rfl, rfl, rfl⟩
  obtain ⟨after, evaluated, alikeAfter, same⟩ := evaluates now alike
  have isVerdict : verdict run answers x w = some result := by
    rw [verdict, evaluatedFirst]
    rfl
  refine endsRun_bind.mpr ⟨result, after, evaluated, ?_⟩
  cases result with
  | error error => exact failed error after isVerdict same
  | ok value => exact passed value after isVerdict alikeAfter same

end Reads

section Payment

variable {config : Config} {run : RunId} {answers : Answers} {w now : World}

theorem app_serves (run : RunId) (answers : Answers) :
    appEmbedding.Serves Galoy.services services run (fun c => answers (.app c)) answers
      World.payments (fun before after => after.earn = before.earn) := by
  constructor
  case refl => exact fun _ => rfl
  case trans => exact fun _ _ _ first second => second.trans first
  case served =>
    intro w c reply next served
    refine ⟨reply, { w with app := next }, ?_, rfl, ?_, rfl⟩
    · exact congrArg (Option.map fun out => (out.1, { w with app := out.2 })) served
    · have accounts : next.accounts = w.payments.accounts := (serve_frame served).accounts
      cases next
      cases accounts
      rfl

theorem accounts_serves (run : RunId) (answers : Answers) (site : Site) :
    (accountsEmbedding site).Serves Accounts.services services run
      (fun c => answers (.accounts site c)) answers
      World.accounts (fun before after => after.earn = before.earn) := by
  constructor
  case refl => exact fun _ => rfl
  case trans => exact fun _ _ _ first second => second.trans first
  case served =>
    intro w c reply next served
    refine ⟨reply, { w with accounts := next }, ?_, rfl, rfl, rfl⟩
    exact congrArg (Option.map fun out => (out.1, { w with accounts := out.2 })) served

theorem accounts_served (run : RunId) (w : Accounts.World) (c : Accounts.Call)
    (a : Accounts.Answer c) :
    ∃ out, Accounts.serve run w c a = some out := by
  cases c with
  | findByUsername | findById => exact ⟨_, rfl⟩
  | update account =>
    simp only [Accounts.serve]
    split
    · exact ⟨_, rfl⟩
    · split <;> exact ⟨_, rfl⟩

theorem addContact_alone (site : Site) (accountId : AccountId) (contactUsername : Option Username) :
    EndsRun services run answers (addContact site accountId contactUsername) w
      (fun _ after => after.earn = w.earn) := by
  unfold addContact
  split
  · exact endsRun_pure.mpr rfl
  · rename_i username _
    have ends : EndsRun Accounts.services run (fun c => answers (.accounts site c))
        (Accounts.addNewContact accountId username) w.accounts (fun _ _ => True) :=
      ends_of_served (fun now c => accounts_served run now c (answers (.accounts site c))) _
    refine endsRun_bind.mpr (((accounts_serves run answers site).endsRun ends).mono ?_)
    rintro (error | account) after ⟨_, same⟩
    · exact same
    · exact endsRun_pure.mpr same

theorem addContactsAfterSend_alone (senderAccount recipientAccount : Accounts.Account) :
    EndsRun services run answers (addContactsAfterSend senderAccount recipientAccount) w
      (fun _ after => after.earn = w.earn) := by
  unfold addContactsAfterSend
  split
  · refine endsRun_bind.mpr ((addContact_alone _ _ _).mono ?_)
    rintro (error | _) after same
    · exact same
    · exact (addContact_alone _ _ _).mono fun _ _ later => later.trans same
  · exact endsRun_pure.mpr rfl

def LocksSound (answers : Answers) (w : World) : Prop :=
  ∀ key, answers (.app (.acquire key)) = .done → w.app.locks key = none

theorem payment_alone (sound : LocksSound answers w) (alike : Alike w now)
    (payment : IntraledgerPayment) :
    EndsRun services run answers (viaApp (payment.prog config.getAccountLimits)) now
      (fun result after => after.earn = now.earn ∧ ((∃ error, result = .error error) ↔
        ¬payment.Pays config.getAccountLimits run (fun c => answers (.app c)) w.payments)) := by
  have alone : EndsAlone run (fun c => answers (.app c)) (payment.prog config.getAccountLimits)
      w.payments (fun result _ => (∃ error, result = .error error) ↔
        ¬payment.Pays config.getAccountLimits run (fun c => answers (.app c)) w.payments) :=
    viaWalletId_succeeds_iff payment (sound _)
  rw [← alike.payments] at alone
  refine ((app_serves run answers).endsRun alone).mono ?_
  rintro result after ⟨exits, same⟩
  rw [alike.payments] at exits
  exact ⟨same, exits⟩

theorem sendWalletId_alone (sound : LocksSound answers w) (alike : Alike w now)
    (quizQuestionId : QuizQuestionId) (reward : Reward) :
    EndsRun services run answers (intraledgerPaymentSendWalletId config
      (reward.args quizQuestionId)) now
      (fun result after => after.earn = now.earn ∧ ((∃ error, result = .error error) ↔
        ¬PaysReward config run answers w quizQuestionId reward)) := by
  unfold PaysReward
  refine EndsRun.next (endsRun_total.mpr (ends_served rfl ⟨rfl, rfl⟩)) ?_
  have alikeReached : Alike w { now with reached := now.reached ++ [run] } :=
    ⟨alike.app, alike.users, alike.phoneMetadata, alike.lastIPs⟩
  refine reads_next (preparePayment_only (fun _ reads => reads) _) alikeReached ?_ ?_
  · intro error after refused same
    refine ⟨same, iff_of_true ⟨error, rfl⟩ ?_⟩
    rintro ⟨prepared, isPrepared, _⟩
    cases refused.symm.trans isPrepared
  · intro prepared after isPrepared alikeAfter same
    have unique :
        (∃ other, verdict run answers (preparePayment config (reward.args quizQuestionId)) w =
          some (.ok other) ∧ other.payment.Pays config.getAccountLimits run
          (fun c => answers (.app c)) w.payments) ↔
        prepared.payment.Pays config.getAccountLimits run (fun c => answers (.app c))
          w.payments := by
      simp [isPrepared]
    rw [unique]
    refine endsRun_bind.mpr ((payment_alone sound alikeAfter prepared.payment).mono ?_)
    rintro (error | status) last ⟨kept, exits⟩
    · exact ⟨kept.trans same, exits⟩
    · show EndsRun services run answers _ last _
      split
      · refine endsRun_bind.mpr (endsRun_total.mpr ((addContactsAfterSend_alone _ _).mono ?_))
        intro _ later still
        exact endsRun_pure.mpr ⟨still.trans (kept.trans same), by simpa using exits⟩
      · exact endsRun_pure.mpr ⟨kept.trans same, by simpa using exits⟩

end Payment

section AddEarn

variable {config : Config} {run : RunId} {answers : Answers} {w now after : World}
  {quizQuestionId : QuizQuestionId} {accountId : AccountId} {earned : List QuizQuestionId}

theorem push_earn : (now.push accountId quizQuestionId earned).earn accountId =
    some (earned ++ [quizQuestionId]) := by
  simp [World.push]

theorem entered_not_left {error : AppError} (found : w.earn accountId = some earned)
    (entered : after.earn accountId = some (earned ++ [quizQuestionId])) :
    ¬ErrorLeavesEarn accountId w (.error error) after := by
  intro leaves
  have kept := leaves error rfl
  rw [entered, found] at kept
  simp at kept

theorem addReward_alone {α : Type} {f : Unit → App α} {post : Result α → World → Prop}
    (alike : Alike w now) (same : now.earn accountId = w.earn accountId)
    (unapplied : (w.earn accountId = none ∨ (answers (.addReward accountId quizQuestionId)).failed =
      true ∧
        (answers (.addReward accountId quizQuestionId)).applied = false) →
      ∀ error, ∀ after : World, after.earn accountId = w.earn accountId → post (.error error) after)
    (refused : ∀ earned, w.earn accountId = some earned →
      ((answers (.addReward accountId quizQuestionId)).failed = true ∧
          (answers (.addReward accountId quizQuestionId)).applied = true ∨
        (answers (.addReward accountId quizQuestionId)).failed = false ∧ quizQuestionId ∈ earned) →
      ∀ error, ∀ after : World, after.earn accountId = some (earned ++ [quizQuestionId]) →
      post (.error error) after)
    (granted : ∀ earned, w.earn accountId = some earned →
      (answers (.addReward accountId quizQuestionId)).failed = false → quizQuestionId ∉ earned →
      ∀ after, Alike w after → after.earn accountId = some (earned ++ [quizQuestionId]) →
        EndsRun services run answers (f ()) after post) :
    EndsRun services run answers (fallible (ask (.addReward accountId quizQuestionId)) >>= f)
      now post := by
  refine endsRun_bind.mpr (ends_served rfl ?_)
  cases document : now.earn accountId with
  | none => exact unapplied (.inl (same.symm.trans document)) _ now same
  | some earned =>
    have found : w.earn accountId = some earned := same.symm.trans document
    dsimp only
    cases failed : (answers (.addReward accountId quizQuestionId)).failed with
    | true =>
      cases applied : (answers (.addReward accountId quizQuestionId)).applied with
      | true => exact refused earned found (.inl ⟨failed, applied⟩) _ _ push_earn
      | false => exact unapplied (.inr ⟨failed, applied⟩) _ now same
    | false =>
      by_cases present : quizQuestionId ∈ earned
      · simp only [present, if_true]
        exact refused earned found (.inr ⟨failed, present⟩) _ _ push_earn
      · simp only [present, if_false]
        exact granted earned found failed present _
          ⟨alike.app, alike.users, alike.phoneMetadata, alike.lastIPs⟩ push_earn

theorem failed_reward_leaves_earn_iff (config : Config) (run : RunId)
    (answers : Answers) (w : World) (quizQuestionId : QuizQuestionId) (accountId : AccountId)
    (sound : LocksSound answers w) :
    EndsRun services run answers (addEarn config quizQuestionId accountId) w (fun result after =>
      ErrorLeavesEarn accountId w result after ↔
        ¬EnteredInVain config run answers w quizQuestionId accountId) := by
  unfold EnteredInVain
  refine reads_next (findReward_only (fun _ reads => reads) _ _) ⟨rfl, rfl, rfl, rfl⟩ ?_ ?_
  · intro error after refused same
    refine iff_of_true (fun _ _ => congrFun same accountId) ?_
    rintro ⟨reward, isReward, _⟩
    cases refused.symm.trans isReward
  · intro reward now isReward alike same
    simp only [isReward, Option.some.injEq, Except.ok.injEq, exists_eq_left']
    refine addReward_alone alike (congrFun same accountId) ?_ ?_ ?_
    · intro nothing error after kept
      refine iff_of_true (fun _ _ => kept) ?_
      rintro ⟨earned, found, applied, _⟩
      rcases nothing with missing | ⟨failed, unapplied⟩
      · cases missing.symm.trans found
      · simp [failed, unapplied] at applied
    · intro earned found refused error after pushed
      refine iff_of_false (entered_not_left found pushed) (not_not.mpr ⟨earned, found, ?_, ?_⟩)
      · rcases refused with ⟨_, applied⟩ | ⟨worked, _⟩
        · exact .inr applied
        · exact .inl worked
      · rcases refused with ⟨failed, _⟩ | ⟨_, present⟩
        · exact .inl failed
        · exact .inr (.inl present)
    · intro earned found worked missing after alikeAfter pushed
      have vain : (∃ earned, w.earn accountId = some earned ∧
            ((answers (.addReward accountId quizQuestionId)).failed = false ∨
              (answers (.addReward accountId quizQuestionId)).applied = true) ∧
            ((answers (.addReward accountId quizQuestionId)).failed = true ∨
              quizQuestionId ∈ earned ∨
              ¬PaysReward config run answers w quizQuestionId reward)) ↔
          ¬PaysReward config run answers w quizQuestionId reward := by
        simp [found, worked, missing]
      rw [vain]
      refine endsRun_bind.mpr ((sendWalletId_alone sound alikeAfter quizQuestionId reward).mono ?_)
      rintro (error | status) last ⟨kept, exits⟩
      · rw [← exits]
        have entered : last.earn accountId = some (earned ++ [quizQuestionId]) := by
          rw [kept, pushed]
        exact iff_of_false (entered_not_left found entered) (not_not.mpr ⟨error, rfl⟩)
      · rw [← exits]
        refine endsRun_pure.mpr (iff_of_true ?_ ?_)
        · intro error impossible
          cases impossible
        · rintro ⟨error, impossible⟩
          cases impossible

def walletsUnreachable : Answers
  | .listByAccountId _ => some .dbConnectionClosed
  | c => rewardAnswers c

def earnedBefore : World := { rewardWorld 1000 with earn := fun _ => some ["walletDownloaded"] }

theorem refused_reward_leaves_earn :
    LocksSound walletsUnreachable earnedBefore ∧
      ∃ error after, eval services 0 walletsUnreachable (addEarn rewardConfig "sat" "bob").run
          earnedBefore = some (.error error, after) ∧
        after.earn "bob" = some ["walletDownloaded"] := by
  have sound : LocksSound walletsUnreachable earnedBefore := fun _ _ => rfl
  have refused : (verdict 0 walletsUnreachable (findReward rewardConfig "sat" "bob")
      earnedBefore).map (·.isOk) = some false := by
    decide +kernel
  have failed : (eval services 0 walletsUnreachable (addEarn rewardConfig "sat" "bob").run
      earnedBefore).map (·.1.isOk) = some false := by
    decide +kernel
  have notInVain : ¬EnteredInVain rewardConfig 0 walletsUnreachable earnedBefore "sat" "bob" := by
    rintro ⟨reward, found, _⟩
    rw [found] at refused
    cases refused
  obtain ⟨result, after, evaluated, exits⟩ :=
    failed_reward_leaves_earn_iff rewardConfig 0 walletsUnreachable earnedBefore "sat" "bob" sound
  rw [evaluated] at failed
  cases result with
  | ok question => cases failed
  | error error => exact ⟨sound, error, after, evaluated, exits.mpr notInVain error rfl⟩

def bobEarns (w : World) : Option (Option ErrorName × Option (List QuizQuestionId)) :=
  (eval services 0 rewardAnswers (addEarn rewardConfig "sat" "bob").run w).map fun out =>
    (match out.1 with
      | .ok _ => none
      | .error error => some error.name, out.2.earn "bob")

theorem failed_reward_stays_entered :
    bobEarns (rewardWorld 0) = some (some .InsufficientBalanceError, some ["sat"]) ∧
      bobEarns { rewardWorld 1000 with earn := fun _ => some ["sat"] } =
        some (some .RewardAlreadyPresentError, some ["sat", "sat"]) := by
  decide +kernel

end AddEarn

end Galoy.Rewards
