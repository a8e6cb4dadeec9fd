import Galoy.Lightning.PaymentArchive

set_option autoImplicit false

namespace Galoy.LnPayments.Archive

open Interleave Interleave.Failing

section Delete

def isComplete (collection : LnPaymentCollection) (paymentHash : PaymentHash) : Bool :=
  collection.records.any fun record => record.paymentHash = paymentHash && record.isCompleteRecord

theorem isComplete_iff {collection : LnPaymentCollection} {paymentHash : PaymentHash} :
    isComplete collection paymentHash = true ↔ Completed collection paymentHash := by
  simp [isComplete, Completed]

def hashes (collection : LnPaymentCollection) : List PaymentHash :=
  collection.records.map PersistedLnPaymentLookup.paymentHash

theorem mem_hashes_persistNew {collection : LnPaymentCollection}
    {payment : LnPaymentPartial} {now : Nat} {paymentHash : PaymentHash} :
    paymentHash ∈ hashes (persistNew collection payment now) ↔
      paymentHash ∈ hashes collection ∨ paymentHash = payment.paymentHash := by
  unfold persistNew hashes
  split
  · rename_i stored
    simp only [List.map_map, Function.comp_def, renew_hash]
    exact ⟨.inl, fun either => either.elim id fun same => same ▸ stored⟩
  · simp [newRecord]

def deletionsOf (run : RunId) (collection : LnPaymentCollection)
    (old : List (Pubkey × ListedPayment)) : List Deletion :=
  (old.filter fun item => isComplete collection item.2.paymentHash).map fun item =>
    ⟨run, item.1, item.2.paymentHash⟩

structure Passed (nodes : Nodes) (run : RunId) (start : World) (old : List (Pubkey × ListedPayment))
    (w : World) : Prop where
  deletions : w.deletions = start.deletions ++ deletionsOf run start.collection old
  completed : ∀ paymentHash, Completed w.collection paymentHash ↔
    Completed start.collection paymentHash
  recorded : ∀ item ∈ old, (nodes.lookupPayment item.1 item.2.paymentHash).isOk →
    item.2.paymentHash ∈ hashes w.collection

variable {nodes : Nodes} {run : RunId} {start w : World} {old : List (Pubkey × ListedPayment)}

theorem Passed.refl (nodes : Nodes) (run : RunId) (w : World) : Passed nodes run w [] w where
  deletions := (List.append_nil _).symm
  completed _ := Iff.rfl
  recorded _ member := nomatch member

theorem deletionsOf_append (run : RunId) (collection : LnPaymentCollection)
    (first second : List (Pubkey × ListedPayment)) :
    deletionsOf run collection (first ++ second) =
      deletionsOf run collection first ++ deletionsOf run collection second := by
  simp only [deletionsOf, List.filter_append, List.map_append]

section Check

variable {pubkey : Pubkey} {payment : ListedPayment}

theorem Passed.skip (passed : Passed nodes run start old w) {collection : LnPaymentCollection}
    (incomplete : ¬Completed w.collection payment.paymentHash)
    (same : ∀ paymentHash, Completed collection paymentHash ↔ Completed w.collection paymentHash)
    (grows : ∀ paymentHash ∈ hashes w.collection, paymentHash ∈ hashes collection)
    (recorded : (nodes.lookupPayment pubkey payment.paymentHash).isOk →
      payment.paymentHash ∈ hashes collection) :
    Passed nodes run start (old ++ [(pubkey, payment)]) { w with collection } where
  deletions := by
    have none_ : isComplete start.collection payment.paymentHash = false :=
      Bool.eq_false_iff.mpr fun complete =>
        incomplete ((passed.completed _).mpr (isComplete_iff.mp complete))
    rw [deletionsOf_append, ← List.append_assoc, ← passed.deletions]
    simp [deletionsOf, none_]
  completed paymentHash := (same paymentHash).trans (passed.completed paymentHash)
  recorded item member found := by
    rcases List.mem_append.mp member with earlier | now
    · exact grows _ (passed.recorded item earlier found)
    · obtain rfl := List.mem_singleton.mp now
      exact recorded found

theorem Passed.delete (passed : Passed nodes run start old w)
    (complete : Completed w.collection payment.paymentHash) :
    Passed nodes run start (old ++ [(pubkey, payment)])
      { w with deletions := w.deletions ++ [⟨run, pubkey, payment.paymentHash⟩] } where
  deletions := by
    have all : isComplete start.collection payment.paymentHash = true :=
      isComplete_iff.mpr ((passed.completed _).mp complete)
    rw [deletionsOf_append, ← List.append_assoc, ← passed.deletions]
    simp [deletionsOf, all]
  completed := passed.completed
  recorded item member found := by
    rcases List.mem_append.mp member with earlier | now
    · exact passed.recorded item earlier found
    · obtain rfl := List.mem_singleton.mp now
      obtain ⟨record, stored, same, _⟩ := complete
      exact List.mem_map.mpr ⟨record, stored, same⟩

theorem check_passed (passed : Passed nodes run start old w) :
    EndsRun services run nodes.answers (checkAndDeletePaymentForHash payment.paymentHash pubkey) w
      (fun _ after => Passed nodes run start (old ++ [(pubkey, payment)]) after) := by
  refine endsRun_bind.mpr (endsRun_total.mpr (ends_served rfl ?_))
  simp only [Nodes.answers, Stores.answerOr, findByPaymentHash]
  cases found : w.collection.records.find? fun record =>
      record.paymentHash = payment.paymentHash with
  | none =>
    have unknown : payment.paymentHash ∉ hashes w.collection := by simpa [hashes] using found
    have incomplete : ¬Completed w.collection payment.paymentHash := by
      rintro ⟨record, stored, same, _⟩
      exact unknown (List.mem_map.mpr ⟨record, stored, same⟩)
    dsimp only [outcome_ok]
    rw [if_pos rfl]
    refine EndsRun.next (ends_served rfl ⟨rfl, rfl⟩) (endsRun_bind.mpr (ends_served rfl ?_))
    simp only [Nodes.answers]
    cases looked : nodes.lookupPayment pubkey payment.paymentHash with
    | error error =>
      exact passed.skip incomplete (fun _ => Iff.rfl) (fun _ member => member) fun isOk => by
        rw [looked] at isOk
        cases isOk
    | ok details =>
      refine EndsRun.next (endsRun_total.mpr (ends_served rfl ⟨rfl, rfl⟩)) (endsRun_pure.mpr ?_)
      exact passed.skip incomplete completed_persistNew
        (fun _ member => mem_hashes_persistNew.mpr (.inl member)) fun _ =>
          mem_hashes_persistNew.mpr (.inr rfl)
  | some record =>
    have stored : record ∈ w.collection.records := List.mem_of_find?_eq_some found
    have same : record.paymentHash = payment.paymentHash := by simpa using List.find?_some found
    dsimp only [outcome_ok]
    split
    · rename_i complete
      refine EndsRun.next (ends_served rfl ⟨rfl, rfl⟩) ?_
      refine EndsRun.next (endsRun_total.mpr (ends_served rfl ⟨rfl, rfl⟩)) (endsRun_pure.mpr ?_)
      exact passed.delete ⟨record, stored, same, complete⟩
    · rename_i incomplete
      refine endsRun_pure.mpr (passed.skip ?_ (fun _ => Iff.rfl) (fun _ member => member) fun _ =>
        ?_)
      · rw [← same]
        exact completed_of_incomplete stored (Bool.eq_false_iff.mpr incomplete)
      · exact List.mem_map.mpr ⟨record, stored, same⟩

end Check

variable {timestamp : Nat}

def oldOf (timestamp : Nat) (pubkey : Pubkey) (page : List ListedPayment) :
    List (Pubkey × ListedPayment) :=
  (page.filter fun payment => payment.createdAt < timestamp).map fun payment => (pubkey, payment)

theorem deleteListed_passed (pubkey : Pubkey) (page : List ListedPayment)
    (passed : Passed nodes run start old w) :
    EndsRun services run nodes.answers (deleteListed timestamp pubkey page) w
      (fun result after => result = .ok () ∧
        Passed nodes run start (old ++ oldOf timestamp pubkey page) after) := by
  refine EndsRun.each (fun done now => Passed nodes run start
    (old ++ done.map fun payment => (pubkey, payment)) now) (by simpa using passed)
      fun done payment now holds => ?_
  refine endsRun_bind.mpr (endsRun_total.mpr ((check_passed holds).mono fun _ after next => ?_))
  refine endsRun_pure.mpr ⟨rfl, ?_⟩
  simpa using next

theorem deleteListedByFunction_passed {pubkey : Pubkey} {listFn : ListFn} {after : PagingToken}
    {cursors : List String} {pages : List (List ListedPayment)} (running : after ≠ .stop)
    (served : Serves (nodes.list listFn pubkey) after.token cursors pages)
    (distinct : (after.token.toList ++ cursors).Nodup) {bound : Nat} (enough : pages.length < bound)
    (passed : Passed nodes run start old w) :
    EndsRun services run nodes.answers (deleteListedByFunction timestamp pubkey listFn bound after)
      w (fun result later => result = .ok () ∧
        Passed nodes run start (old ++ pages.flatMap (oldOf timestamp pubkey)) later) := by
  induction bound generalizing after cursors pages old w with
  | zero => cases enough
  | succ bound ih =>
    unfold deleteListedByFunction
    rw [if_neg running]
    refine endsRun_bind.mpr (ends_list fun listed => ?_)
    have still : Passed nodes run start old { w with listed } :=
      ⟨passed.deletions, passed.completed, passed.recorded⟩
    generalize isToken : after.token = token at served
    cases served with
    | last answered =>
      rename_i page
      rw [answered]
      dsimp only [outcome_ok]
      rw [if_neg running]
      refine endsRun_bind.mpr ((deleteListed_passed pubkey page still).mono ?_)
      rintro _ later ⟨rfl, next⟩
      obtain ⟨left, rfl⟩ : ∃ left, bound = left + 1 :=
        Nat.exists_eq_succ_of_ne_zero (by rintro rfl; simp at enough)
      unfold deleteListedByFunction
      rw [if_pos rfl]
      exact endsRun_pure.mpr ⟨rfl, by simpa using next⟩
    | more answered rest =>
      rename_i page cursor cursors pages
      have moves : after ≠ .next cursor := by
        rintro rfl
        simp [PagingToken.token] at distinct
      have laterDistinct : ((PagingToken.next cursor).token.toList ++ cursors).Nodup :=
        (List.nodup_append.mp distinct).2.1
      rw [answered]
      dsimp only [outcome_ok]
      rw [if_neg moves]
      refine endsRun_bind.mpr ((deleteListed_passed pubkey page still).mono ?_)
      rintro _ later ⟨rfl, next⟩
      have on := ih (by simp) (show Serves _ (PagingToken.next cursor).token _ _ from rest)
        laterDistinct (by simpa using enough) next
      simpa using on

section Order

variable (pages : ListFn → Pubkey → List (List ListedPayment)) (timestamp : Nat)

def oldOfFunction (pubkey : Pubkey) (listFn : ListFn) : List (Pubkey × ListedPayment) :=
  (pages listFn pubkey).flatMap (oldOf timestamp pubkey)

def oldOfNode (pubkey : Pubkey) : List (Pubkey × ListedPayment) :=
  listFns.flatMap (oldOfFunction pages timestamp pubkey)

def oldInOrder (nodes : Nodes) : List (Pubkey × ListedPayment) :=
  nodes.listActivePubkeys.flatMap (oldOfNode pages timestamp)

end Order

variable {cursors : ListFn → Pubkey → List String}
  {pages : ListFn → Pubkey → List (List ListedPayment)} {bound : Nat}
  (works : nodes.Works nodes.listActivePubkeys cursors pages bound)

include works

theorem deleteOfNode_passed {pubkey : Pubkey} (isActive : pubkey ∈ nodes.listActivePubkeys)
    (passed : Passed nodes run start old w) :
    EndsRun services run nodes.answers
      (each listFns fun listFn => deleteListedByFunction timestamp pubkey listFn bound .start) w
      (fun result after => result = .ok () ∧
        Passed nodes run start (old ++ oldOfNode pages timestamp pubkey) after) := by
  refine EndsRun.each (fun done now =>
    Passed nodes run start (old ++ done.flatMap (oldOfFunction pages timestamp pubkey)) now)
    (by simpa using passed) fun done listFn now holds => ?_
  have distinct : (PagingToken.start.token.toList ++ cursors listFn pubkey).Nodup := by
    simpa [PagingToken.token] using works.distinct listFn pubkey isActive
  refine (deleteListedByFunction_passed PagingToken.noConfusion
    (works.served listFn pubkey isActive) distinct (works.enough listFn pubkey isActive) holds).mono
      fun result after next => ⟨next.1, ?_⟩
  simpa [oldOfFunction] using next.2

theorem deleteLnPaymentsBefore_passed (w : World) :
    EndsRun services run nodes.answers (deleteLnPaymentsBefore timestamp bound) w
      (fun result after => result = .ok () ∧
        Passed nodes run w (oldInOrder pages timestamp nodes) after) := by
  refine EndsRun.next (ends_served rfl ⟨rfl, rfl⟩) ?_
  refine EndsRun.next (endsRun_total.mpr (ends_served rfl ⟨rfl, rfl⟩)) ?_
  refine EndsRun.each_split (fun done now => Passed nodes run w
    (done.flatMap (oldOfNode pages timestamp)) now) (.refl nodes run w)
      fun done pubkey rest split now passed => ?_
  have isActive : pubkey ∈ nodes.listActivePubkeys := by
    show pubkey ∈ nodes.answers .listActivePubkeys
    rw [split]
    simp
  refine (deleteOfNode_passed works isActive passed).mono fun result after next => ⟨next.1, ?_⟩
  simpa using next.2

end Delete

-- The two tasks of the cron; an error of the first does not keep it from the second.
def archiveTasks (timestamp bound : Nat) : Prog Call Reply Unit := do
  let _ ← (updateLnPayments bound).run
  let _ ← (deleteLnPaymentsBefore timestamp bound).run
  .pure ()

def ListedOld (nodes : Nodes) (pages : ListFn → Pubkey → List (List ListedPayment))
    (timestamp : Nat) (pubkey : Pubkey) (paymentHash : PaymentHash) : Prop :=
  pubkey ∈ nodes.listActivePubkeys ∧ ∃ listFn, ∃ page ∈ pages listFn pubkey, ∃ payment ∈ page,
    payment.paymentHash = paymentHash ∧ payment.createdAt < timestamp

theorem listedOld_iff {nodes : Nodes} {pages : ListFn → Pubkey → List (List ListedPayment)}
    {timestamp : Nat} {pubkey : Pubkey} {paymentHash : PaymentHash} :
    ListedOld nodes pages timestamp pubkey paymentHash ↔
      ∃ payment, (pubkey, payment) ∈ oldInOrder pages timestamp nodes ∧
        payment.paymentHash = paymentHash := by
  simp only [ListedOld, oldInOrder, oldOfNode, oldOfFunction, oldOf, List.mem_flatMap, List.mem_map,
    List.mem_filter, decide_eq_true_eq, Prod.mk.injEq]
  constructor
  · rintro ⟨active, listFn, page, inPages, payment, inPage, same, older⟩
    exact ⟨payment, ⟨pubkey, active, listFn, by cases listFn <;> decide, page, inPages, payment,
      ⟨inPage, older⟩, rfl, rfl⟩, same⟩
  · rintro ⟨payment, ⟨_, active, listFn, _, page, inPages, _, ⟨inPage, older⟩, rfl, rfl⟩, same⟩
    exact ⟨active, listFn, page, inPages, _, inPage, same, older⟩

theorem mem_deletionsOf {run : RunId} {collection : LnPaymentCollection}
    {old : List (Pubkey × ListedPayment)} {deletion : Deletion} :
    deletion ∈ deletionsOf run collection old ↔ deletion.run = run ∧
      Completed collection deletion.paymentHash ∧
      ∃ payment, (deletion.pubkey, payment) ∈ old ∧ payment.paymentHash = deletion.paymentHash := by
  simp only [deletionsOf, List.mem_map, List.mem_filter, isComplete_iff]
  constructor
  · rintro ⟨⟨pubkey, payment⟩, ⟨isOld, complete⟩, rfl⟩
    exact ⟨rfl, complete, payment, isOld, rfl⟩
  · rintro ⟨rfl, complete, payment, isOld, same⟩
    refine ⟨(deletion.pubkey, payment), ⟨isOld, same ▸ complete⟩, ?_⟩
    rw [same]

theorem archive_round_deletes_exactly (nodes : Nodes) (cursors : ListFn → Pubkey → List String)
    (pages : ListFn → Pubkey → List (List ListedPayment)) (bound : Nat)
    (works : nodes.Works nodes.listActivePubkeys cursors pages bound)
    (run : RunId) (timestamp : Nat) (w : World) :
    Ends services run nodes.answers (archiveTasks timestamp bound) w (fun _ after =>
      (∃ deletions, after.deletions = w.deletions ++ deletions ∧ ∀ deletion, deletion ∈ deletions ↔
        deletion.run = run ∧ ListedOld nodes pages timestamp deletion.pubkey deletion.paymentHash ∧
          (Completed w.collection deletion.paymentHash ∨ Reached (knownHashes w.collection)
            (pagesInOrder nodes w.collection pages) deletion.paymentHash)) ∧
      ∀ pubkey paymentHash, ListedOld nodes pages timestamp pubkey paymentHash →
        (nodes.lookupPayment pubkey paymentHash).isOk → paymentHash ∈ hashes after.collection) := by
  have asks : nodes.Works (pubkeysOf nodes.listActivePubkeys w.collection.incomplete) cursors pages
      bound := works.of_subset (List.filter_subset_self _)
  refine ends_bind.mpr ((updateLnPayments_completes asks).mono ?_)
  rintro _ middle ⟨rfl, untouched, completed⟩
  refine ends_bind.mpr ((deleteLnPaymentsBefore_passed works middle).mono ?_)
  rintro _ after ⟨rfl, passed⟩
  refine ends_pure.mpr ⟨⟨_, untouched ▸ passed.deletions, fun deletion => ?_⟩, ?_⟩
  · rw [mem_deletionsOf, ← listedOld_iff, completed]
    tauto
  · intro pubkey paymentHash isOld found
    obtain ⟨payment, inOrder, rfl⟩ := listedOld_iff.mp isOld
    exact passed.recorded (pubkey, payment) inOrder found

section Example

theorem round_deletes_sent_payment :
    Ends services 0 (onePage ["sent", "other"]).answers (archiveTasks 10 2) oneSent (fun _ after =>
      ⟨0, "node", "sent"⟩ ∈ after.deletions ∧ "other" ∈ hashes after.collection) := by
  refine (archive_round_deletes_exactly (onePage _) (fun _ _ => []) (onePageOf ["sent", "other"]) 2
    (onePage_works _ _) 0 10 oneSent).mono ?_
  rintro _ after ⟨⟨deletions, same, exactly⟩, recorded⟩
  have listed (paymentHash : PaymentHash) (member : paymentHash ∈ ["sent", "other"]) :
      ListedOld (onePage ["sent", "other"]) (onePageOf ["sent", "other"]) 10 "node" paymentHash :=
    ⟨by decide, .listSettledPayments, _, List.mem_singleton_self _, listedPayment paymentHash,
      List.mem_map_of_mem member, rfl, Nat.zero_lt_succ 9⟩
  refine ⟨?_, recorded "node" "other" (listed "other" (by decide)) rfl⟩
  rw [same]
  refine List.mem_append_right _ ((exactly _).mpr ⟨rfl, listed "sent" (by decide), .inr ?_⟩)
  exact ⟨[], [listedPayment "sent", listedPayment "other"], [[]], by decide, by decide, by decide⟩

end Example

end Galoy.LnPayments.Archive
