import Galoy.Lightning.UpdateLnPayments

set_option autoImplicit false

namespace Galoy.LnPayments.Archive

open Interleave Interleave.Failing

def checkAndDeletePaymentForHash (paymentHash : PaymentHash) (pubkey : Pubkey) : App Bool := do
  let lnPayment ← attempt (fallible (ask (.findByPaymentHash paymentHash)))
  match lnPayment with
  | .error error =>
    if error.name = .CouldNotFindLnPaymentFromHashError then do
      fallible (ask .lndService)
      let lnPaymentLookup ← fallible (ask (.lookupPayment pubkey paymentHash))
      let paymentRequest :=
        match lnPaymentLookup with
        | .payment paymentRequest => paymentRequest
        | .failed => none
      let _ ← total (ask (.persistNew { paymentHash, paymentRequest, sentFromPubkey := pubkey }))
      return false
    else throw error
  | .ok lnPayment =>
    if lnPayment.isCompleteRecord then do
      fallible (ask .lndService)
      total (ask (.deletePaymentByHash pubkey paymentHash))
      return true
    else return false

def deleteListed (timestamp : Nat) (pubkey : Pubkey) (lnPayments : List ListedPayment) : App Unit :=
  each (lnPayments.filter fun payment => payment.createdAt < timestamp) fun payment => do
    let _ ← attempt (checkAndDeletePaymentForHash payment.paymentHash pubkey)

def deleteListedByFunction (timestamp : Nat) (pubkey : Pubkey) (listFn : ListFn) :
    Nat → PagingToken → App Unit
  | 0, _ => total (ask .outOfPasses)
  | bound + 1, after =>
    if after = .stop then pure ()
    else do
      let result ← fallible (ask (.list listFn pubkey after.token))
      if after = result.endCursor then throw { name := .UnknownLightningServiceError }
      else do
        deleteListed timestamp pubkey result.lnPayments
        deleteListedByFunction timestamp pubkey listFn bound result.endCursor

def deleteLnPaymentsBefore (timestamp : Nat) (bound : Nat) : App Unit := do
  fallible (ask .lndService)
  let pubkeys ← total (ask .listActivePubkeys)
  each pubkeys fun pubkey =>
    each listFns fun listFn => deleteListedByFunction timestamp pubkey listFn bound .start

inductive Job where
  | updateLnPayments (bound : Nat)
  | deleteLnPaymentsBefore (timestamp bound : Nat)
  | executePaymentViaLn (payment : LnPaymentPartial)

-- Of a send only what it does to the records, whose error it does not look at.
def Job.prog : Job → Prog Call Reply Unit
  | .updateLnPayments bound => do
    let _ ← (LnPayments.updateLnPayments bound).run
    .pure ()
  | .deleteLnPaymentsBefore timestamp bound => do
    let _ ← (Archive.deleteLnPaymentsBefore timestamp bound).run
    .pure ()
  | .executePaymentViaLn payment => do
    let _ ← ask (.persistNew payment)
    .pure ()

def Archived (listed : List (Pubkey × ListedPayment)) (record : PersistedLnPaymentLookup) : Prop :=
  ∃ entry ∈ listed, entry.2.paymentHash = record.paymentHash ∧
    record.createdAt = some entry.2.createdAt ∧
    record.status = some entry.2.status ∧ record.milliSatsAmount = some entry.2.milliSatsAmount ∧
    record.roundedUpAmount = some entry.2.roundedUpAmount ∧
    ∀ details, entry.2.confirmedDetails = some details → record.confirmedDetails = some details

def Old (jobs : RunId → Job) (listed : List (Pubkey × ListedPayment))
    (deletion : Deletion) : Prop :=
  ∃ timestamp bound payment, jobs deletion.run = .deleteLnPaymentsBefore timestamp bound ∧
    (deletion.pubkey, payment) ∈ listed ∧ payment.paymentHash = deletion.paymentHash ∧
      payment.createdAt < timestamp

structure Sound (jobs : RunId → Job) (w : World) : Prop where
  archived : ∀ record ∈ w.collection.records, record.isCompleteRecord → Archived w.listed record
  deletions : ∀ deletion ∈ w.deletions, Completed w.collection deletion.paymentHash ∧
    Old jobs w.listed deletion

structure Grows (before after : World) : Prop where
  listed : ∀ entry ∈ before.listed, entry ∈ after.listed
  completed : ∀ paymentHash, Completed before.collection paymentHash →
    Completed after.collection paymentHash

theorem Grows.refl (w : World) : Grows w w := ⟨fun _ h => h, fun _ h => h⟩

theorem Grows.trans {first second third : World} (one : Grows first second)
    (two : Grows second third) :
    Grows first third :=
  ⟨fun entry member => two.listed entry (one.listed entry member),
    fun paymentHash complete => two.completed paymentHash (one.completed paymentHash complete)⟩

def archive (jobs : RunId → Job) : Discipline World where
  inv := Sound jobs
  rely _ := Grows
  rely_refl _ := Grows.refl
  rely_trans _ _ _ _ := Grows.trans

section Steps

variable {jobs : RunId → Job} {run : RunId} {before after : World} {c : Call} {a : Answer c}
  {reply : Reply c}

theorem Archived.mono {listed more : List (Pubkey × ListedPayment)}
    {record : PersistedLnPaymentLookup} (archived : Archived listed record)
    (grows : ∀ entry ∈ listed, entry ∈ more) : Archived more record := by
  obtain ⟨entry, member, rest⟩ := archived
  exact ⟨entry, grows entry member, rest⟩

theorem Old.mono {listed more : List (Pubkey × ListedPayment)} {deletion : Deletion}
    (old : Old jobs listed deletion) (grows : ∀ entry ∈ listed, entry ∈ more) :
    Old jobs more deletion := by
  obtain ⟨timestamp, bound, payment, job, member, rest⟩ := old
  exact ⟨timestamp, bound, payment, job, grows _ member, rest⟩

def Allowed (jobs : RunId → Job) (run : RunId) (w : World) : Call → Prop
  | .update payment => ∃ (persisted : PersistedLnPaymentLookup) (entry : Pubkey × ListedPayment),
      entry ∈ w.listed ∧ payment = persisted.complete entry.2 ∧
        persisted.paymentHash = entry.2.paymentHash
  | .deletePaymentByHash pubkey paymentHash =>
    Completed w.collection paymentHash ∧ Old jobs w.listed ⟨run, pubkey, paymentHash⟩
  | _ => True

def Kept (jobs : RunId → Job) (before after : World) : Prop := Sound jobs after ∧ Grows before after

theorem Sound.keep (good : Sound jobs before) (grows : Grows before after)
    (archived : ∀ record ∈ after.collection.records, record.isCompleteRecord →
      Archived after.listed record)
    (deletions : after.deletions = before.deletions) : Kept jobs before after := by
  refine ⟨⟨archived, fun deletion member => ?_⟩, grows⟩
  rw [deletions] at member
  obtain ⟨complete, old⟩ := good.deletions deletion member
  exact ⟨grows.completed _ complete, old.mono grows.listed⟩

@[simp] theorem renew_complete (payment : LnPaymentPartial) (stored : PersistedLnPaymentLookup) :
    (renew payment stored).isCompleteRecord = stored.isCompleteRecord := by
  unfold renew
  split <;> rfl

theorem Archived.renew {listed : List (Pubkey × ListedPayment)} {stored : PersistedLnPaymentLookup}
    (archived : Archived listed stored) (payment : LnPaymentPartial) :
    Archived listed (LnPayments.renew payment stored) := by
  unfold LnPayments.renew
  split
  · exact archived
  · exact archived

theorem mem_persistNew {collection : LnPaymentCollection} {payment : LnPaymentPartial} {now : Nat}
    {record : PersistedLnPaymentLookup} (complete : record.isCompleteRecord) :
    record ∈ (persistNew collection payment now).records ↔
      ∃ stored ∈ collection.records, renew payment stored = record := by
  unfold persistNew
  split
  · exact List.mem_map
  · rename_i unknown
    have others : ∀ stored ∈ collection.records, renew payment stored = stored := by
      intro stored member
      refine if_neg fun same => unknown ?_
      rw [← same]
      exact List.mem_map_of_mem member
    simp only [List.mem_append, List.mem_singleton]
    constructor
    · rintro (member | rfl)
      · exact ⟨record, member, others record member⟩
      · exact absurd complete Bool.false_ne_true
    · rintro ⟨stored, member, rfl⟩
      rw [others stored member]
      exact .inl member

theorem completed_persistNew {collection : LnPaymentCollection} {payment : LnPaymentPartial}
    {now : Nat} (paymentHash : PaymentHash) :
    Completed (persistNew collection payment now) paymentHash ↔
      Completed collection paymentHash := by
  constructor
  · rintro ⟨record, member, same, complete⟩
    obtain ⟨stored, inStored, rfl⟩ := (mem_persistNew complete).mp member
    exact ⟨stored, inStored, by simpa using same, by simpa using complete⟩
  · rintro ⟨stored, member, same, complete⟩
    have still : (renew payment stored).isCompleteRecord := by simpa using complete
    exact ⟨renew payment stored, (mem_persistNew still).mpr
      ⟨stored, member, rfl⟩, by simpa using same, still⟩

theorem persistNew_step (good : Sound jobs before) (payment : LnPaymentPartial) (now : Nat) :
    Kept jobs before { before with collection := persistNew before.collection payment now } := by
  refine good.keep ⟨fun _ member => member, fun paymentHash =>
    (completed_persistNew paymentHash).mpr⟩ (fun record member complete => ?_) rfl
  obtain ⟨stored, inStored, rfl⟩ := (mem_persistNew complete).mp member
  exact (good.archived stored inStored (by simpa using complete)).renew payment

theorem update_records {collection updated : LnPaymentCollection}
    {payment : PersistedLnPaymentLookup} (isUpdated : collection.update payment = .ok updated) :
    updated.records = collection.records.map (overwriteAt payment) := by
  unfold LnPaymentCollection.update at isUpdated
  split at isUpdated
  · cases isUpdated
    rfl
  · cases isUpdated

theorem archived_overwrite {listed : List (Pubkey × ListedPayment)} {entry : Pubkey × ListedPayment}
    (member : entry ∈ listed) {persisted stored : PersistedLnPaymentLookup}
    (same : stored.paymentHash = entry.2.paymentHash) :
    Archived listed (stored.overwrite (persisted.complete entry.2)) := by
  refine ⟨entry, member, same.symm, rfl, rfl, rfl, rfl, fun details isDetails => ?_⟩
  show entry.2.confirmedDetails.or stored.confirmedDetails = some details
  rw [isDetails, Option.some_or]

theorem update_step (good : Sound jobs before) {persisted : PersistedLnPaymentLookup}
    {entry : Pubkey × ListedPayment} (member : entry ∈ before.listed)
    (same : persisted.paymentHash = entry.2.paymentHash) :
    Kept jobs before
      { before with collection := updated before.collection (persisted.complete entry.2) } := by
  cases isUpdated : before.collection.update (persisted.complete entry.2) with
  | error error =>
    simp only [updated, isUpdated]
    exact ⟨good, .refl before⟩
  | ok collection =>
    simp only [updated, isUpdated]
    refine good.keep ⟨fun _ member => member, fun paymentHash complete =>
      (completed_update rfl isUpdated paymentHash).mpr (.inl complete)⟩
        (fun record inRecords complete => ?_) rfl
    have inMap : record ∈ before.collection.records.map
        (overwriteAt (persisted.complete entry.2)) :=
      update_records isUpdated ▸ inRecords
    obtain ⟨stored, inStored, rfl⟩ := List.mem_map.mp inMap
    unfold overwriteAt at complete ⊢
    split
    · rename_i here
      exact archived_overwrite member (here.trans same)
    · rename_i other
      rw [if_neg other] at complete
      exact good.archived stored inStored complete

theorem WriteAnswer.apply_step {answer : WriteAnswer} {written : World} (good : Sound jobs before)
    (step : Kept jobs before written) : Kept jobs before (answer.apply before written) := by
  unfold WriteAnswer.apply
  split
  · exact step
  · exact ⟨good, .refl before⟩

theorem list_step (good : Sound jobs before) (entries : List (Pubkey × ListedPayment)) :
    Kept jobs before { before with listed := before.listed ++ entries } := by
  have more : ∀ entry ∈ before.listed, entry ∈ before.listed ++ entries :=
    fun _ member => List.mem_append_left _ member
  exact good.keep ⟨more, fun _ complete => complete⟩
    (fun record member complete => (good.archived record member complete).mono more) rfl

theorem delete_step (good : Sound jobs before) {pubkey : Pubkey} {paymentHash : PaymentHash}
    (complete : Completed before.collection paymentHash)
    (old : Old jobs before.listed ⟨run, pubkey, paymentHash⟩) :
    Sound jobs { before with deletions := before.deletions ++ [⟨run, pubkey, paymentHash⟩] } := by
  refine ⟨good.archived, fun deletion member => ?_⟩
  rcases List.mem_append.mp member with earlier | now
  · exact good.deletions deletion earlier
  · obtain rfl := List.mem_singleton.mp now
    exact ⟨complete, old⟩

theorem serve_step (good : Sound jobs before) (allowed : Allowed jobs run before c)
    (served : serve run before c a = some (reply, after)) : Kept jobs before after := by
  cases c with
  | persistNew payment =>
    cases served
    exact WriteAnswer.apply_step good (persistNew_step good payment a.now)
  | update payment =>
    cases served
    obtain ⟨persisted, entry, member, rfl, same⟩ := allowed
    exact WriteAnswer.apply_step good (update_step good member same)
  | list listFn pubkey token =>
    simp only [serve] at served
    split at served
    · cases served
      exact ⟨good, .refl before⟩
    · cases served
      exact list_step good _
  | outOfPasses => cases served
  | deletePaymentByHash pubkey paymentHash =>
    cases served
    exact ⟨delete_step good allowed.1 allowed.2, fun _ member => member, fun _ complete => complete⟩
  | listIncomplete | findByPaymentHash | lndService | listActivePubkeys | lookupPayment =>
    cases served
    exact ⟨good, .refl before⟩

theorem serve_guaranteed (good : Sound jobs before) (allowed : Allowed jobs run before c)
    (served : serve run before c a = some (reply, after)) :
    (archive jobs).Guaranteed run before after :=
  ⟨(serve_step good allowed served).1, fun _ _ => (serve_step good allowed served).2⟩

end Steps

section Runs

variable {jobs : RunId → Job} {run : RunId} {pre : World → Prop}

def Lasting (pre : World → Prop) : Prop := ∀ before after, Grows before after →
    pre before → pre after

theorem Lasting.stable (lasting : Lasting pre) : (archive jobs).Stable run pre :=
  fun before after between _ holds => lasting before after between holds

theorem lasting_true : Lasting (fun _ => True) := fun _ _ _ _ => trivial

abbrev Safe (jobs : RunId → Job) (run : RunId) {α : Type} (p : Prog Call Reply α) : Prop :=
  Triple services (anyStep services) (archive jobs) run (fun _ => True) p (fun _ _ => True)

abbrev SafeRun (jobs : RunId → Job) (run : RunId) {α : Type} (x : App α) : Prop :=
  Spec services (anyStep services) (archive jobs) run (fun _ => True) x (fun _ _ => True)
    (fun _ _ => True)

theorem ask_triple {c : Call} {post : Reply c → World → Prop} (lasting : Lasting pre)
    (allowed : ∀ w, pre w → Allowed jobs run w c)
    (shows : ∀ before a reply after, pre before → Grows before after →
      serve run before c a = some (reply, after) → post reply after) :
    Triple services (anyStep services) (archive jobs) run pre (ask c) post := by
  refine Triple.request lasting.stable fun before a reply after good holds _ served => ?_
  have may := allowed before holds
  exact ⟨serve_guaranteed good may served,
    shows before a reply after holds (serve_step good may served).2 served⟩

theorem ask_keeps {c : Call} (lasting : Lasting pre) (allowed : ∀ w, pre w → Allowed jobs run w c) :
    Triple services (anyStep services) (archive jobs) run pre (ask c) (fun _ => pre) :=
  ask_triple lasting allowed fun before _ _ after holds grows _ => lasting before after grows holds

theorem fallible_keeps {α : Type} {p : Prog Call Reply (Result α)}
    (h : Triple services (anyStep services) (archive jobs) run pre p (fun _ => pre)) :
    Spec services (anyStep services) (archive jobs) run pre (fallible p) (fun _ => pre)
      (fun _ => pre) := by
  refine fallible_spec (Triple.conseq h (fun _ _ holds => holds) fun result w _ holds => ?_)
  cases result <;> exact holds

def Shown (pubkey : Pubkey) (page : List ListedPayment) (w : World) : Prop :=
  ∀ payment ∈ page, (pubkey, payment) ∈ w.listed

theorem shown_lasting (pubkey : Pubkey) (page : List ListedPayment) : Lasting (Shown pubkey page) :=
  fun _ _ grows shown payment member => grows.listed _ (shown payment member)

theorem list_triple (listFn : ListFn) (pubkey : Pubkey) (token : Option String) :
    Triple services (anyStep services) (archive jobs) run (fun _ => True)
      (ask (.list listFn pubkey token))
      (outcome (fun result => Shown pubkey result.lnPayments) (fun _ _ => True)) := by
  refine ask_triple lasting_true (fun _ _ => trivial) fun before a reply after _ _ served => ?_
  simp only [serve] at served
  split at served
  · cases served
    trivial
  · cases served
    exact fun payment member => List.mem_append_right _ (List.mem_map_of_mem member)

theorem updateListed_triple (pubkey : Pubkey) (page : List ListedPayment) (progress : Progress) :
    Triple services (anyStep services) (archive jobs) run (Shown pubkey page)
      (updateListed page progress) (fun _ _ => True) := by
  induction page generalizing progress with
  | nil => exact fun _ _ _ => trivial
  | cons payment rest ih =>
    unfold updateListed
    split
    · exact fun _ _ _ => trivial
    · rename_i persisted found
      have same : persisted.paymentHash = payment.paymentHash := by
        simpa using List.find?_some found
      refine Triple.bind (ask_keeps (shown_lasting pubkey _) fun w shown => ?_) fun result => ?_
      · exact ⟨persisted, (pubkey, payment), shown payment List.mem_cons_self, rfl, same⟩
      · cases result with
        | error error => exact fun _ _ _ => trivial
        | ok _ =>
          exact Triple.conseq (ih _) (fun _ _ shown other member =>
            shown other (List.mem_cons_of_mem _ member)) fun _ _ _ holds => holds

theorem updateLnPaymentsPaginated_triple (listFn : ListFn) (pubkey : Pubkey) (after : PagingToken)
    (progress : Progress) : Safe jobs run
      (updateLnPaymentsPaginated listFn pubkey after progress) := by
  refine Triple.bind (list_triple listFn pubkey after.token) fun results => ?_
  cases results with
  | error error => exact fun _ _ _ => trivial
  | ok results =>
    dsimp only
    split
    · exact fun _ _ _ => trivial
    · exact Triple.bind (updateListed_triple pubkey results.lnPayments progress)
        fun _ _ _ _ => trivial

theorem updateLnPaymentsByFunction_triple (listFn : ListFn) (pubkey : Pubkey) (bound : Nat)
    (after : PagingToken) (progress : Progress) : Safe jobs run (updateLnPaymentsByFunction listFn pubkey bound after progress) := by
  induction bound generalizing after progress with
  | zero => exact Triple.bind (ask_keeps lasting_true fun _ _ => trivial) fun _ _ _ _ => trivial
  | succ bound ih =>
    unfold updateLnPaymentsByFunction
    split
    · refine Triple.bind (updateLnPaymentsPaginated_triple listFn pubkey after progress) fun results => ?_
      obtain ⟨result, progress⟩ := results
      cases result with
      | error error => exact fun _ _ _ => trivial
      | ok updatedAfter => exact ih updatedAfter progress
    · exact fun _ _ _ => trivial

theorem forEach_triple {α : Type} {body : α → Progress → Prog Call Reply Progress}
    (step : ∀ item progress, Safe jobs run (body item progress)) (items : List α)
    (progress : Progress) :
    Safe jobs run (forEach body items progress) := by
  induction items generalizing progress with
  | nil => exact fun _ _ _ => trivial
  | cons item rest ih => exact Triple.bind (step item progress) fun _ => ih _

theorem updateLnPayments_spec (bound : Nat) : SafeRun jobs run (updateLnPayments bound) := by
  refine Spec.bind (fallible_keeps (ask_keeps lasting_true fun _ _ => trivial)) fun incomplete => ?_
  refine Spec.bind (fallible_keeps (ask_keeps lasting_true fun _ _ => trivial)) fun _ => ?_
  refine Spec.bind (total_spec (ask_keeps lasting_true fun _ _ => trivial)) fun active => ?_
  refine Spec.bind (total_spec (forEach_triple (fun listFn => ?_) _ _)) fun _ =>
    Spec.pure fun _ _ _ => trivial
  exact forEach_triple (fun pubkey => updateLnPaymentsByFunction_triple listFn pubkey bound .start)
    _

theorem findByPaymentHash_triple {paymentHash : PaymentHash} (lasting : Lasting pre) :
    Triple services (anyStep services) (archive jobs) run pre (ask (.findByPaymentHash paymentHash))
      (outcome (fun lnPayment w => pre w ∧
        (lnPayment.isCompleteRecord → Completed w.collection paymentHash)) (fun _ => pre)) := by
  refine ask_triple lasting (fun _ _ => trivial) fun before fault reply after holds _ served => ?_
  cases served
  cases fault with
  | some fault => exact holds
  | none =>
    simp only [Stores.answerOr, findByPaymentHash]
    split
    · exact holds
    · rename_i lnPayment found
      refine ⟨holds, fun complete => ⟨lnPayment, List.mem_of_find?_eq_some found, ?_, complete⟩⟩
      simpa using List.find?_some found

theorem checkAndDeletePaymentForHash_spec {pubkey : Pubkey} {paymentHash : PaymentHash}
    (lasting : Lasting pre) (old : ∀ w, pre w → Old jobs w.listed ⟨run, pubkey, paymentHash⟩) :
    Spec services (anyStep services) (archive jobs) run pre
      (checkAndDeletePaymentForHash paymentHash pubkey) (fun _ => pre) (fun _ => pre) := by
  refine Spec.bind (attempt_spec (fallible_spec (findByPaymentHash_triple lasting)))
    fun lnPayment => ?_
  cases lnPayment with
  | error error =>
    dsimp only [outcome_error]
    split
    · refine Spec.bind (fallible_keeps (ask_keeps lasting fun _ _ => trivial)) fun _ => ?_
      refine Spec.bind (fallible_keeps (ask_keeps lasting fun _ _ => trivial))
        fun lnPaymentLookup => ?_
      refine Spec.bind (total_spec (ask_keeps lasting fun _ _ => trivial)) fun _ => ?_
      exact Spec.pure fun _ _ holds => holds
    · exact Spec.throw fun _ _ holds => holds
  | ok lnPayment =>
    dsimp only [outcome_ok]
    split
    · rename_i complete
      have both : Lasting fun w => pre w ∧
          (lnPayment.isCompleteRecord → Completed w.collection paymentHash) :=
        fun before after grows holds =>
          ⟨lasting before after grows holds.1, fun complete => grows.completed _ (holds.2 complete)⟩
      refine Spec.bind
        (Spec.weaken_err (fallible_keeps (ask_keeps (c := .lndService) both fun _ _ => trivial))
          fun _ _ _ holds => holds.1) fun _ => ?_
      refine Spec.bind (total_spec (ask_keeps both fun w holds => ?_)) fun _ =>
        Spec.pure fun _ _ holds => holds.1
      exact ⟨holds.2 complete, old w holds.1⟩
    · exact Spec.pure fun _ _ holds => holds.1

variable {timestamp bound : Nat}

theorem deleteListed_spec (job : jobs run = .deleteLnPaymentsBefore timestamp bound)
    (pubkey : Pubkey) (page : List ListedPayment) :
    Spec services (anyStep services) (archive jobs) run (Shown pubkey page)
      (deleteListed timestamp pubkey page) (fun _ _ => True) (fun _ _ => True) := by
  refine Spec.weaken_ok (each_keeps fun payment member => ?_) fun _ _ _ _ => trivial
  obtain ⟨inPage, older⟩ := List.mem_filter.mp member
  refine Spec.bind
    (attempt_keeps (checkAndDeletePaymentForHash_spec (shown_lasting pubkey page)
    fun w shown => ?_)) fun _ => Spec.pure fun _ _ holds => holds
  exact ⟨timestamp, bound, payment, job, shown payment inPage, rfl, of_decide_eq_true older⟩

theorem deleteListedByFunction_spec (job : jobs run = .deleteLnPaymentsBefore timestamp bound)
    (pubkey : Pubkey) (listFn : ListFn) (left : Nat) (after : PagingToken) :
    SafeRun jobs run (deleteListedByFunction timestamp pubkey listFn left after) := by
  induction left generalizing after with
  | zero => exact total_spec (ask_keeps lasting_true fun _ _ => trivial)
  | succ left ih =>
    unfold deleteListedByFunction
    split
    · exact Spec.pure fun _ _ _ => trivial
    · refine Spec.bind (fallible_spec (list_triple listFn pubkey after.token)) fun result => ?_
      split
      · exact Spec.throw fun _ _ _ => trivial
      · exact Spec.bind (deleteListed_spec job pubkey result.lnPayments) fun _ =>
          ih result.endCursor

theorem deleteLnPaymentsBefore_spec (job : jobs run = .deleteLnPaymentsBefore timestamp bound) :
    SafeRun jobs run (deleteLnPaymentsBefore timestamp bound) := by
  refine Spec.bind (fallible_keeps (ask_keeps lasting_true fun _ _ => trivial)) fun _ => ?_
  refine Spec.bind (total_spec (ask_keeps lasting_true fun _ _ => trivial)) fun pubkeys => ?_
  refine each_keeps fun pubkey _ => each_keeps fun listFn _ => ?_
  exact deleteListedByFunction_spec job pubkey listFn bound .start

theorem job_triple (run : RunId) : Safe jobs run (jobs run).prog := by
  cases job : jobs run with
  | updateLnPayments bound => exact Triple.discard (updateLnPayments_spec bound)
  | deleteLnPaymentsBefore timestamp bound => exact Triple.discard (deleteLnPaymentsBefore_spec job)
  | executePaymentViaLn payment => exact Triple.discard (ask_keeps lasting_true fun _ _ => trivial)

end Runs

/-- However the jobs and the sends interleave, a payment is deleted at a node only when the node has
listed it as old enough, and when there is a complete record of its hash with the data that a node
has listed for it. That listing need not be of the deleted payment: an earlier attempt that failed
leaves a complete record of the same hash. -/
theorem deletions_have_complete_records {jobs : RunId → Job} {start : World}
    (archived : ∀ record ∈ start.collection.records, record.isCompleteRecord →
      Archived start.listed record)
    (fresh : start.deletions = []) {after : Config World Call Reply Unit}
    (reach : Reach services (anyStep services) ⟨start, fun run => (jobs run).prog⟩ after) :
    ∀ deletion ∈ after.world.deletions, Old jobs after.world.listed deletion ∧
      ∃ record ∈ after.world.collection.records, record.paymentHash = deletion.paymentHash ∧
        record.isCompleteRecord ∧ Archived after.world.listed record := by
  have good : (archive jobs).inv start := ⟨archived, by simp [fresh]⟩
  have kept : (archive jobs).inv after.world :=
    reach_inv good (fun run => job_triple run start good trivial) reach
  intro deletion member
  obtain ⟨⟨record, inRecords, same, complete⟩, old⟩ := kept.deletions deletion member
  exact ⟨old, record, inRecords, same, complete, kept.archived record inRecords complete⟩

section Example

def archivedPayment : ListedPayment := listedPayment "sent"

def archivedRecord : PersistedLnPaymentLookup := sentPayment.complete archivedPayment

def archivedStart : World where
  collection := ⟨[archivedRecord], by decide⟩
  listed := [("node", archivedPayment)]

def archiveJobs : RunId → Job
  | 0 => .deleteLnPaymentsBefore 10 2
  | 1 => .executePaymentViaLn ⟨"sent", none, "node"⟩
  | _ => .updateLnPayments 2

theorem sent_payment_deleted_and_archived :
    ∃ after, Reach services (anyStep services) ⟨archivedStart, fun run =>
      (archiveJobs run).prog⟩ after ∧
      after.world.deletions = [⟨0, "node", "sent"⟩] ∧
      ∃ record ∈ after.world.collection.records, record.paymentHash = "sent" ∧
        record.isCompleteRecord ∧
        Archived after.world.listed record := by
  have played : (play services (anyStep services) (fun _ => (onePage ["sent"]).answers)
      [0, 2, 0, 1, 0, 0, 2, 0, 0] ⟨archivedStart, fun run => (archiveJobs run).prog⟩).map
        (·.world.deletions) = some [⟨0, "node", "sent"⟩] := by
    decide +kernel
  obtain ⟨after, run, deleted⟩ := Option.map_eq_some_iff.mp played
  have reach := play_reach _ _ _ _ _ _ run
  have archived : ∀ record ∈ archivedStart.collection.records, record.isCompleteRecord →
      Archived archivedStart.listed record := by
    intro record member _
    obtain rfl := List.mem_singleton.mp member
    exact ⟨("node", archivedPayment), List.mem_singleton_self _, rfl, rfl, rfl, rfl, rfl,
      fun _ isDetails => isDetails⟩
  obtain ⟨-, kept⟩ := deletions_have_complete_records archived rfl reach ⟨0, "node", "sent"⟩
    (by rw [deleted]; simp)
  exact ⟨after, reach, deleted, kept⟩

def failedStart : World :=
  { archivedStart with
    collection := ⟨[{ archivedRecord with status := some .failed }], by decide⟩
    listed := [("node", { archivedPayment with status := .failed })] }

example : (play services (anyStep services) (fun _ => (onePage ["sent"]).answers)
    [1, 0, 0, 0, 0, 0, 0] ⟨failedStart, fun run => (archiveJobs run).prog⟩).map (fun after =>
      (after.world.deletions, after.world.listed.map (·.2.status),
        after.world.collection.records.map (·.status))) =
    some ([⟨0, "node", "sent"⟩], [.failed, .settled], [some .failed]) := by
  decide +kernel

end Example

end Galoy.LnPayments.Archive
