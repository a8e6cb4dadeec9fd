import Galoy.Accounts.Updates
import Mathlib.Data.List.Nodup

set_option autoImplicit false

namespace Galoy.Accounts

open Interleave Interleave.Failing

inductive AccountUpdate where
  | newContact (contactUsername : Username)
  | newAlias (username : Username) (contactAlias : String)
  | newStatus (status : String) (updatedByUserId : UserId) (comment : Option String)
  | newLevel (level : AccountLevel)

inductive UpdateResult where
  | account (account : Account)
  | contact (contact : AccountContact)

def AccountUpdate.prog (accountId : AccountId) : AccountUpdate → App UpdateResult
  | .newContact contactUsername => return .account (← addNewContact accountId contactUsername)
  | .newAlias username contactAlias =>
    return .contact (← updateContactAlias accountId username contactAlias)
  | .newStatus status updatedByUserId comment =>
    return .account (← updateAccountStatus accountId status updatedByUserId comment)
  | .newLevel level => return .account (← updateAccountLevel accountId level)

def AccountUpdate.change : AccountUpdate → Account → Account
  | .newContact contactUsername, account => account.withContact contactUsername
  | .newAlias username contactAlias, account =>
    match account.contacts.findIdx? (·.username = username) with
    | some idx => account.withAlias idx contactAlias
    | none => account
  | .newStatus status updatedByUserId comment, account =>
    match checkedAccountStatus status with
    | .ok statusChecked =>
      account.withStatus
        { status := statusChecked, updatedByUserId := some updatedByUserId, comment }
    | .error _ => account
  | .newLevel level, account => account.withLevel level

-- An empty alias is read back as the username.
def Account.reread (account : Account) : Account :=
  { account with
    contacts := account.contacts.filterMap fun contact =>
      ContactRecord.translate ⟨some contact.username, some contact.contactAlias,
        contact.transactionsCount⟩ }

def reflected (updates : RunId → AccountUpdate) (account : Account)
    (writes : List RunId) : Account :=
  writes.foldl (fun account run => ((updates run).change account).reread) account

inductive AccountField where
  | contacts
  | statusHistory
  | level
  deriving DecidableEq

def AccountUpdate.field : AccountUpdate → AccountField
  | .newContact _ | .newAlias _ _ => .contacts
  | .newStatus _ _ _ => .statusHistory
  | .newLevel _ => .level

def SameField (field : AccountField) (one other : Account) : Prop :=
  match field with
  | .contacts => one.contacts = other.contacts
  | .statusHistory => one.statusHistory = other.statusHistory
  | .level => one.level = other.level

-- Nobody has written the account since the run has read it.
def unchangedSinceRead : Permit services := fun run w c _ =>
  match c with
  | .update _ => w.seen run = w.writes.length
  | _ => True

section Store

variable {w : World} {accountId : AccountId} {account changed : Account} {run : RunId}

theorem withContact_contacts (account : Account) (contactUsername : Username) :
    ∃ contacts, account.withContact contactUsername = { account with contacts } := by
  unfold Account.withContact
  split <;> exact ⟨_, rfl⟩

theorem change_cases (update : AccountUpdate) (account : Account) :
    (update.field = .contacts ∧ ∃ contacts, update.change account = { account with contacts }) ∨
    (update.field = .statusHistory ∧ ∃ entries,
      update.change account = { account with statusHistory := account.statusHistory ++ entries }) ∨
    (update.field = .level ∧ ∃ level, update.change account = { account with level }) := by
  cases update with
  | newContact contactUsername => exact .inl ⟨rfl, withContact_contacts account contactUsername⟩
  | newAlias username contactAlias =>
    refine .inl ⟨rfl, ?_⟩
    unfold AccountUpdate.change Account.withAlias
    dsimp only
    split <;> exact ⟨_, rfl⟩
  | newStatus status updatedByUserId comment =>
    refine .inr (.inl ⟨rfl, ?_⟩)
    unfold AccountUpdate.change Account.withStatus
    dsimp only
    split
    · exact ⟨_, rfl⟩
    · exact ⟨[], by simp⟩
  | newLevel level => exact .inr (.inr ⟨rfl, level, rfl⟩)

theorem change_fields (update : AccountUpdate) (nonempty : account.statusHistory ≠ []) :
    ∃ level statusHistory contacts, statusHistory ≠ [] ∧
      update.change account = { account with level, statusHistory, contacts } := by
  obtain ⟨_, contacts, same⟩ | ⟨_, entries, same⟩ | ⟨_, level, same⟩ := change_cases update account
  · exact ⟨account.level, account.statusHistory, contacts, nonempty, same⟩
  · exact ⟨account.level, account.statusHistory ++ entries, account.contacts, by simp [nonempty],
      same⟩
  · exact ⟨level, account.statusHistory, account.contacts, nonempty, same⟩

theorem translate_ok {record : UserRecord} (read : translateToAccount record = .ok account) :
    account.statusHistory ≠ [] ∧ account.id = record.id := by
  unfold translateToAccount at read
  split at read
  · cases read
  · rename_i nonempty
    cases read
    exact ⟨nonempty, rfl⟩

theorem translate_set {record : UserRecord} (read : translateToAccount record = .ok account)
    (update : AccountUpdate) :
    translateToAccount (record.set (update.change account)) =
      .ok (update.change account).reread := by
  obtain ⟨level, statusHistory, contacts, still, same⟩ := change_fields update (translate_ok read).1
  rw [same]
  unfold translateToAccount at read
  split at read
  · cases read
  · cases read
    simp [translateToAccount, UserRecord.set, still, Account.reread, List.filterMap_map]

theorem findById_ok (read : w.findById accountId = .ok account) :
    ∃ record, w.record? accountId = some record ∧ translateToAccount record = .ok account ∧
      account.id = accountId := by
  unfold World.findById at read
  cases found : w.record? accountId with
  | none => simp [found] at read
  | some record =>
    rw [found] at read
    have isId : record.id = accountId := by simpa using List.find?_some found
    exact ⟨record, rfl, read, (translate_ok read).2.trans isId⟩

theorem record?_update (same : changed.id = accountId) :
    (w.update run changed).record? accountId = (w.record? accountId).map (·.set changed) := by
  have ids : ((fun record : UserRecord => decide (record.id = accountId)) ∘
      fun record => if record.id = changed.id then record.set changed else record) =
        fun record => decide (record.id = accountId) := by
    funext record
    simp only [Function.comp_apply]
    split <;> rfl
  unfold World.record? World.update
  rw [List.find?_map, ids]
  cases found : w.users.find? (fun record => decide (record.id = accountId)) with
  | none => rfl
  | some record =>
    have isId : record.id = accountId := by simpa using List.find?_some found
    simp [isId, same]

theorem findById_update (read : w.findById accountId = .ok account) (update : AccountUpdate)
    (run : RunId) :
    (update.change account).id = accountId ∧
      (w.update run (update.change account)).findById accountId =
        .ok (update.change account).reread := by
  obtain ⟨record, found, translated, isId⟩ := findById_ok read
  have same : (update.change account).id = accountId := by
    obtain ⟨_, _, _, _, fields⟩ := change_fields update (translate_ok translated).1
    rw [fields]
    exact isId
  refine ⟨same, ?_⟩
  unfold World.findById
  rw [record?_update same, found]
  exact translate_set translated update

end Store

section Fields

variable {field : AccountField} {one other : Account}

theorem translate_translate (contact : AccountContact) :
    (ContactRecord.translate ⟨some contact.username, some contact.contactAlias,
        contact.transactionsCount⟩).bind (fun read =>
      ContactRecord.translate ⟨some read.username, some read.contactAlias,
        read.transactionsCount⟩) =
      ContactRecord.translate ⟨some contact.username, some contact.contactAlias,
        contact.transactionsCount⟩ := by
  obtain ⟨username, contactAlias, transactionsCount⟩ := contact
  by_cases unnamed : username = ""
  · simp [ContactRecord.translate, orUndefined, unnamed]
  · by_cases noAlias : contactAlias = ""
    · simp [ContactRecord.translate, orUndefined, unnamed, noAlias]
    · simp [ContactRecord.translate, orUndefined, unnamed, noAlias]

theorem Account.reread_reread (account : Account) : account.reread.reread = account.reread := by
  simp only [Account.reread, List.filterMap_filterMap, translate_translate]

theorem SameField.reread (same : SameField field one other) :
    SameField field one.reread other.reread := by
  cases field with
  | contacts =>
    have contacts : one.contacts = other.contacts := same
    simp only [SameField, Account.reread, contacts]
  | statusHistory => exact same
  | level => exact same

theorem SameField.change (same : SameField field one other) {update : AccountUpdate}
    (isField : update.field = field) : SameField field
      (update.change one) (update.change other) := by
  subst isField
  cases update with
  | newContact contactUsername =>
    have contacts : one.contacts = other.contacts := same
    unfold AccountUpdate.change Account.withContact
    dsimp only
    rw [contacts]
    cases other.contacts.findIdx? (·.username = contactUsername) with
    | none => simp [SameField, AccountUpdate.field]
    | some idx => simp [SameField, AccountUpdate.field]
  | newAlias username contactAlias =>
    have contacts : one.contacts = other.contacts := same
    unfold AccountUpdate.change Account.withAlias
    dsimp only
    rw [contacts]
    cases other.contacts.findIdx? (·.username = username) with
    | none => exact same
    | some idx => simp [SameField, AccountUpdate.field]
  | newStatus status updatedByUserId comment =>
    have history : one.statusHistory = other.statusHistory := same
    cases checked : checkedAccountStatus status with
    | error error => simpa only [AccountUpdate.change, checked] using same
    | ok statusChecked =>
      simp only [AccountUpdate.change, checked, SameField,
        AccountUpdate.field, Account.withStatus, history]
  | newLevel level => rfl

theorem SameField.skip {update : AccountUpdate} (different : update.field ≠ field) (one : Account) :
    SameField field (update.change one) one := by
  obtain ⟨own, _, same⟩ | ⟨own, _, same⟩ | ⟨own, _, same⟩ := change_cases update one
  all_goals
    rw [same]
    cases field with
    | contacts => first | exact absurd own different | rfl
    | statusHistory => first | exact absurd own different | rfl
    | level => first | exact absurd own different | rfl

theorem SameField.refl (field : AccountField) (account : Account) :
    SameField field account account := by
  cases field <;> rfl

theorem SameField.trans {third : Account} (first : SameField field one other)
    (second : SameField field other third) : SameField field one third := by
  cases field with
  | contacts => exact Eq.trans first second
  | statusHistory => exact Eq.trans first second
  | level => exact Eq.trans first second

theorem reflected_append (updates : RunId → AccountUpdate) (account : Account)
    (earlier later : List RunId) :
    reflected updates account (earlier ++ later) =
      reflected updates (reflected updates account earlier) later :=
  List.foldl_append

theorem reflected_cons (updates : RunId → AccountUpdate) (account : Account) (run : RunId)
    (later : List RunId) :
    reflected updates account (run :: later) =
      reflected updates ((updates run).change account).reread later := rfl

theorem reflected_filter (updates : RunId → AccountUpdate) (writes : List RunId)
    (same : SameField field one other) (oneRead : one.reread = one)
    (otherRead : other.reread = other) :
    SameField field (reflected updates one writes)
      (reflected updates other (writes.filter fun run => (updates run).field = field)) := by
  induction writes generalizing one other with
  | nil => exact same
  | cons run writes ih =>
    by_cases isField : (updates run).field = field
    · rw [List.filter_cons_of_pos (by simpa using isField)]
      exact ih (same.change isField).reread (Account.reread_reread _) (Account.reread_reread _)
    · rw [List.filter_cons_of_neg (by simpa using isField)]
      have skipped : SameField field ((updates run).change one).reread other := by
        have changed := (SameField.skip isField one).reread
        rw [oneRead] at changed
        exact changed.trans same
      exact ih skipped (Account.reread_reread _) otherRead

end Fields

section Discipline

variable (updates : RunId → AccountUpdate) (accountId : AccountId) (account : Account)

-- A run may rely on nobody else touching its copy, and on a copy that is still current.
def updateDiscipline : Discipline World where
  inv w := w.writes.Nodup ∧ (∀ run, w.seen run ≤ w.writes.length) ∧
    w.findById accountId = .ok (reflected updates account w.writes)
  rely run before after :=
    after.seen run = before.seen run ∧ before.writes.length ≤ after.writes.length ∧
      (after.writes.length = before.writes.length → after.users = before.users) ∧
      (run ∈ after.writes ↔ run ∈ before.writes)
  rely_refl _ _ := ⟨rfl, le_rfl, fun _ => rfl, Iff.rfl⟩
  rely_trans _ before middle after first second := by
    obtain ⟨seen, grown, users, own⟩ := first
    obtain ⟨laterSeen, laterGrown, laterUsers, laterOwn⟩ := second
    refine ⟨laterSeen.trans seen, grown.trans laterGrown, fun same => ?_, laterOwn.trans own⟩
    exact (laterUsers (by omega)).trans (users (by omega))

end Discipline

section Runs

variable {updates : RunId → AccountUpdate} {accountId : AccountId} {account : Account} {run : RunId}

abbrev UpdateSpec {α : Type} (updates : RunId → AccountUpdate) (accountId : AccountId)
    (account : Account) (run : RunId) (pre : World → Prop) (x : App α)
    (ok : α → World → Prop) : Prop :=
  Spec services unchangedSinceRead (updateDiscipline updates accountId account) run pre x ok
    (fun _ _ => True)

def Unwritten (run : RunId) (w : World) : Prop := run ∉ w.writes

def Written (run : RunId) (w : World) : Prop := run ∈ w.writes

structure HasRead (accountId : AccountId) (run : RunId) (copy : Account) (w : World) : Prop where
  unwritten : Unwritten run w
  seen : w.seen run ≤ w.writes.length
  current : w.seen run = w.writes.length → w.findById accountId = .ok copy

theorem unwritten_stable : (updateDiscipline updates accountId account).Stable run
    (Unwritten run) := by
  rintro before after ⟨_, _, _, own⟩ _ unwritten member
  exact unwritten (own.mp member)

theorem written_stable : (updateDiscipline updates accountId account).Stable run (Written run) := by
  rintro before after ⟨_, _, _, own⟩ _ written
  exact own.mpr written

theorem written_outcome_stable (run : RunId) (result : Result UpdateResult) :
    (updateDiscipline updates accountId account).Stable run
      (outcome (fun _ => Written run) (fun _ _ => True) result) := by
  cases result with
  | error error => exact Discipline.stable_true _ _
  | ok value => exact written_stable

theorem hasRead_stable {copy : Account} :
    (updateDiscipline updates accountId account).Stable run (HasRead accountId run copy) := by
  rintro before after ⟨seen, grown, users, own⟩ _ ⟨unwritten, earlier, current⟩
  refine ⟨fun member => unwritten (own.mp member), by omega, fun now => ?_⟩
  have same : after.users = before.users := users (by omega)
  have read := current (by omega)
  unfold World.findById World.record? at *
  rw [same]
  exact read

theorem ask_triple {c : Call} {pre : World → Prop} {post : Reply c → World → Prop}
    (stable : (updateDiscipline updates accountId account).Stable run pre)
    (h : ∀ before a reply after, (updateDiscipline updates accountId account).inv before →
      pre before →
      unchangedSinceRead run before c a → serve run before c a = some (reply, after) →
      (updateDiscipline updates accountId account).Guaranteed run before after ∧ post reply after) :
    Triple services unchangedSinceRead (updateDiscipline updates accountId account) run pre
      (ask c) post :=
  Triple.request stable h

theorem findByUsername_spec (username : Username) :
    UpdateSpec updates accountId account run (Unwritten run)
      (fallible (ask (.findByUsername username))) (fun _ => Unwritten run) := by
  refine fallible_spec (ask_triple unwritten_stable ?_)
  intro before fault reply after good unwritten _ served
  cases served
  refine ⟨⟨good, fun other _ => (updateDiscipline updates accountId account).rely_refl other _⟩, ?_⟩
  cases Stores.answerOr RepositoryFault.error fault (before.findByUsername username) with
  | error error => trivial
  | ok found => exact unwritten

theorem findById_spec :
    UpdateSpec updates accountId account run (Unwritten run)
      (fallible (ask (.findById accountId))) (HasRead accountId run) := by
  refine fallible_spec (ask_triple unwritten_stable ?_)
  intro before fault reply after good unwritten _ served
  cases served
  obtain ⟨nodup, seen, stored⟩ := good
  refine ⟨⟨⟨nodup, fun other => ?_, stored⟩, fun other different => ?_⟩, ?_⟩
  · by_cases same : other = run
    · simp [same]
    · simpa [Function.update_of_ne same] using seen other
  · exact ⟨Function.update_of_ne different _ _, le_rfl, fun _ => rfl, Iff.rfl⟩
  · cases fault with
    | some fault => trivial
    | none =>
      cases read : before.findById accountId with
      | error error => simp [Stores.answerOr]
      | ok copy =>
        simp only [Stores.answerOr, outcome_ok]
        exact ⟨unwritten, by simp, fun _ => read⟩

theorem update_guaranteed {copy : Account} {before : World}
    (good : (updateDiscipline updates accountId account).inv before)
    (hasRead : HasRead accountId run copy before)
    (current : before.seen run = before.writes.length) :
    (updateDiscipline updates accountId account).Guaranteed run before
      (before.update run ((updates run).change copy)) := by
  obtain ⟨nodup, seen, stored⟩ := good
  have read := hasRead.current current
  obtain rfl : copy = reflected updates account before.writes :=
    Except.ok.inj (read.symm.trans stored)
  refine ⟨⟨?_, fun other => ?_, ?_⟩, fun other different => ?_⟩
  · exact List.Nodup.append nodup (List.nodup_singleton run)
      (List.disjoint_singleton.mpr hasRead.unwritten)
  · simpa [World.update] using (seen other).trans (Nat.le_succ _)
  · rw [(findById_update read (updates run) run).2]
    simp [reflected, World.update]
  · refine ⟨rfl, by simp [World.update], fun same => ?_, ?_⟩
    · simp [World.update] at same
    · simp [World.update, different]

theorem update_spec {copy changed : Account} (changes : changed = (updates run).change copy) :
    UpdateSpec updates accountId account run (HasRead accountId run copy)
      (fallible (ask (.update changed))) (fun _ => Written run) := by
  subst changes
  refine fallible_spec (ask_triple hasRead_stable ?_)
  intro before answer reply after good hasRead current served
  have read := hasRead.current current
  have guaranteed := update_guaranteed good hasRead current
  have written : Written run (before.update run ((updates run).change copy)) := by
    simp [Written, World.update]
  obtain ⟨record, found, translated, _⟩ := findById_ok read
  have same := (findById_update read (updates run) run).1
  obtain ⟨fault, applied⟩ := answer
  simp only [serve, same, found] at served
  cases fault with
  | none =>
    cases served
    rw [translate_set translated]
    exact ⟨guaranteed, written⟩
  | some fault =>
    cases served
    cases applied with
    | true => exact ⟨guaranteed, trivial⟩
    | false =>
      exact ⟨⟨good, fun other _ => (updateDiscipline updates accountId account).rely_refl other _⟩,
        trivial⟩

theorem addNewContact_spec {contactUsername : Username}
    (isRun : updates run = .newContact contactUsername) :
    UpdateSpec updates accountId account run (Unwritten run)
      (addNewContact accountId contactUsername) (fun _ => Written run) := by
  unfold addNewContact
  refine (findByUsername_spec contactUsername).bind fun _ => findById_spec.bind fun copy => ?_
  exact (update_spec (by rw [isRun]; rfl)).bind fun _ => Spec.pure fun _ _ written => written

theorem updateContactAlias_spec {username : Username} {contactAlias : String}
    (isRun : updates run = .newAlias username contactAlias) :
    UpdateSpec updates accountId account run (Unwritten run)
      (updateContactAlias accountId username contactAlias) (fun _ => Written run) := by
  unfold updateContactAlias
  cases checked : checkedToContactAlias contactAlias with
  | error error => exact Spec.throw fun _ _ _ => trivial
  | ok aliasChecked =>
    have isAlias : aliasChecked = contactAlias := by
      unfold checkedToContactAlias at checked
      split at checked <;> cases checked
      rfl
    refine findById_spec.bind fun copy => ?_
    split
    · rename_i contact idx _ found
      refine (update_spec ?_).bind fun _ => Spec.pure fun _ _ written => written
      simp only [isRun, AccountUpdate.change, found, isAlias]
    · exact Spec.throw fun _ _ _ => trivial

theorem updateAccountStatus_spec {status : String}
    {updatedByUserId : UserId} {comment : Option String} (isRun : updates run =
      .newStatus status updatedByUserId comment) :
    UpdateSpec updates accountId account run (Unwritten run)
      (updateAccountStatus accountId status updatedByUserId comment) (fun _ => Written run) := by
  unfold updateAccountStatus
  refine findById_spec.bind fun copy => ?_
  cases checked : checkedAccountStatus status with
  | error error => exact Spec.throw fun _ _ _ => trivial
  | ok statusChecked => exact update_spec (by simp only [isRun, AccountUpdate.change, checked])

theorem updateAccountLevel_spec {level : AccountLevel} (isRun : updates run = .newLevel level) :
    UpdateSpec updates accountId account run (Unwritten run)
      (updateAccountLevel accountId level) (fun _ => Written run) := by
  unfold updateAccountLevel
  exact findById_spec.bind fun copy => update_spec (by rw [isRun]; rfl)

theorem update_prog_spec :
    UpdateSpec updates accountId account run (Unwritten run)
      ((updates run).prog accountId) (fun _ => Written run) := by
  cases isRun : updates run with
  | newContact contactUsername =>
    exact (addNewContact_spec isRun).bind fun _ => Spec.pure fun _ _ written => written
  | newAlias username contactAlias =>
    exact (updateContactAlias_spec isRun).bind fun _ => Spec.pure fun _ _ written => written
  | newStatus status updatedByUserId comment =>
    exact (updateAccountStatus_spec isRun).bind fun _ => Spec.pure fun _ _ written => written
  | newLevel level =>
    exact (updateAccountLevel_spec isRun).bind fun _ => Spec.pure fun _ _ written => written

end Runs

theorem account_updates_reflected (users : List UserRecord) (updates : RunId → AccountUpdate)
    (accountId : AccountId) (account : Account)
    (stored : World.findById { users } accountId = .ok account)
    {after : Config World Call Reply (Result UpdateResult)}
    (reach : Reach services unchangedSinceRead
      ⟨{ users }, fun run => ((updates run).prog accountId).run⟩ after) :
    ∃ final, after.world.findById accountId = .ok final ∧ after.world.writes.Nodup ∧
      ∀ run result, after.pool run = .pure (.ok result) →
        ∃ earlier later, after.world.writes = earlier ++ run :: later ∧
          SameField (updates run).field final
            (reflected updates ((updates run).change (reflected updates account earlier)).reread
              (later.filter fun other => (updates other).field = (updates run).field)) := by
  have good : (updateDiscipline updates accountId account).inv { users } :=
    ⟨List.nodup_nil, fun _ => le_rfl, stored⟩
  have runs (run : RunId) :
      wp services unchangedSinceRead (updateDiscipline updates accountId account) run
        ((updates run).prog accountId).run (outcome (fun _ => Written run) (fun _ _ => True))
          { users } :=
    update_prog_spec { users } good List.not_mem_nil
  obtain ⟨nodup, _, final⟩ := (reach_sound written_outcome_stable good runs reach).1
  refine ⟨_, final, nodup, fun run result done => ?_⟩
  have written : run ∈ after.world.writes := reach_post written_outcome_stable good runs reach done
  obtain ⟨earlier, later, split⟩ := List.append_of_mem written
  refine ⟨earlier, later, split, ?_⟩
  rw [split, reflected_append, reflected_cons]
  exact reflected_filter updates later (SameField.refl _ _) (Account.reread_reread _)
    (Account.reread_reread _)

section Example

def aliceAndBob : List UserRecord :=
  [ { id := "alice", username := some "alice", statusHistory := [{ status := .active }] },
    { id := "bob", username := some "bob", statusHistory := [{ status := .active }] } ]

def contactAndLock (run : RunId) : AccountUpdate :=
  if run = 0 then .newContact "bob" else .newStatus "locked" "admin" none

def contactAndLockStart : Config World Call Reply (Result UpdateResult) :=
  ⟨{ users := aliceAndBob }, fun run => ((contactAndLock run).prog "alice").run⟩

def noFaults : (c : Call) → Answer c
  | .findByUsername _ | .findById _ => none
  | .update _ => {}

def returnedStatus : Prog Call Reply (Result UpdateResult) → Option AccountStatus
  | .pure (.ok (.account account)) => account.status?
  | _ => none

def World.storedStatus (w : World) (accountId : AccountId) : Option AccountStatus :=
  (w.findById accountId).toOption.bind (·.status?)

instance (run : RunId) (w : World) (c : Call) (a : services.Answer c) :
    Decidable (unchangedSinceRead run w c a) := by
  cases c with
  | findByUsername username => exact inferInstanceAs (Decidable True)
  | findById accountId => exact inferInstanceAs (Decidable True)
  | update account => exact inferInstanceAs (Decidable (_ = _))

theorem lock_survives_later_contact :
    ∃ after, Reach services unchangedSinceRead contactAndLockStart after ∧
      after.world.storedStatus "alice" = some .locked ∧
      ∃ final, after.world.findById "alice" = .ok final ∧ after.world.writes.Nodup ∧
        ∀ run result, after.pool run = .pure (.ok result) →
          ∃ earlier later, after.world.writes = earlier ++ run :: later ∧
            SameField (contactAndLock run).field final
              (reflected contactAndLock ((contactAndLock run).change
                (reflected contactAndLock
                  { id := "alice", level := .one, statusHistory := [{ status := .active }],
                    username := some "alice" } earlier)).reread
                (later.filter fun other =>
                  (contactAndLock other).field = (contactAndLock run).field)) := by
  have played : (play services unchangedSinceRead (fun _ => noFaults) [0, 1, 1, 0, 0]
      contactAndLockStart).map (·.world.storedStatus "alice") = some (some .locked) := by
    decide +kernel
  obtain ⟨after, run, locked⟩ := Option.map_eq_some_iff.mp played
  have reach := play_reach _ _ _ _ _ _ run
  exact ⟨after, reach, locked, account_updates_reflected _ _ _ _ rfl reach⟩

theorem contact_update_unlocks_account :
    ∃ after, Reach services (anyStep services) contactAndLockStart after ∧
      returnedStatus (after.pool 1) = some .locked ∧ returnedStatus (after.pool 0) = some .active ∧
      after.world.writes = [1, 0] ∧ after.world.storedStatus "alice" = some .active := by
  have played : (play services (anyStep services) (fun _ => noFaults) [0, 0, 1, 1, 0]
      contactAndLockStart).map
        (fun after => (returnedStatus (after.pool 1), returnedStatus (after.pool 0),
          after.world.writes, after.world.storedStatus "alice")) =
        some (some .locked, some .active, [1, 0], some .active) := by
    decide +kernel
  obtain ⟨after, run, ended⟩ := Option.map_eq_some_iff.mp played
  simp only [Prod.mk.injEq] at ended
  exact ⟨after, play_reach _ _ _ _ _ _ run, ended⟩

end Example

end Galoy.Accounts
