import Galoy.Lightning.PaymentRecords
import Mathlib.Data.List.TakeWhile

set_option autoImplicit false

namespace Galoy.LnPayments

open Interleave Interleave.Failing

structure Progress where
  incompleteLnPayments : List PersistedLnPaymentLookup
  processedLnPaymentsHashes : List PaymentHash := []
  deriving DecidableEq

def Progress.assign (progress : Progress) (completed : PersistedLnPaymentLookup) : Progress :=
  { progress with
    incompleteLnPayments := progress.incompleteLnPayments.map fun payment =>
      if payment.paymentHash = completed.paymentHash then completed else payment }

def Progress.push (progress : Progress) (paymentHash : PaymentHash) : Progress :=
  { progress with processedLnPaymentsHashes := progress.processedLnPaymentsHashes ++ [paymentHash] }

def updateListed : List ListedPayment → Progress → Prog Call Reply Progress
  | [], progress => .pure progress
  | payment :: rest, progress =>
    match progress.incompleteLnPayments.find? fun elem =>
        elem.paymentHash = payment.paymentHash with
    | none => .pure progress
    | some persistedPaymentLookup => do
      let completed := persistedPaymentLookup.complete payment
      let updatedPaymentLookup ← ask (.update completed)
      match updatedPaymentLookup with
      | .error _ => .pure (progress.assign completed)
      | .ok () => updateListed rest ((progress.assign completed).push payment.paymentHash)

def updateLnPaymentsPaginated (listFn : ListFn) (pubkey : Pubkey) (after : PagingToken)
    (progress : Progress) : Prog Call Reply (Result PagingToken × Progress) := do
  let results ← ask (.list listFn pubkey after.token)
  match results with
  | .error error => .pure (.error error, progress)
  | .ok results =>
    if after = results.endCursor then
      .pure (.error { name := .UnknownLightningServiceError }, progress)
    else do
      let progress ← updateListed results.lnPayments progress
      .pure (.ok results.endCursor, progress)

def updateLnPaymentsByFunction (listFn : ListFn) (pubkey : Pubkey) :
    Nat → PagingToken → Progress → Prog Call Reply Progress
  | 0, _, progress => do
    ask .outOfPasses
    .pure progress
  | bound + 1, after, progress =>
    if progress.processedLnPaymentsHashes.length < progress.incompleteLnPayments.length ∧
        after ≠ .stop then do
      let results ← updateLnPaymentsPaginated listFn pubkey after progress
      match results with
      | (.error _, progress) => .pure progress
      | (.ok updatedAfter, progress) =>
        updateLnPaymentsByFunction listFn pubkey bound updatedAfter progress
    else .pure progress

def forEach {α : Type} (body : α → Progress → Prog Call Reply Progress) :
    List α → Progress → Prog Call Reply Progress
  | [], progress => .pure progress
  | item :: rest, progress => do
    let progress ← body item progress
    forEach body rest progress

def listFns : List ListFn := [.listSettledPayments, .listFailedPayments]

def pubkeysOf (active : List Pubkey) (incompleteLnPayments : List PersistedLnPaymentLookup) :
    List Pubkey :=
  active.filter fun pubkey =>
    pubkey ∈ incompleteLnPayments.map PersistedLnPaymentLookup.sentFromPubkey

def updateLnPayments (bound : Nat) : App Unit := do
  let incompleteLnPayments ← fallible (ask .listIncomplete)
  fallible (ask .lndService)
  let active ← total (ask .listActivePubkeys)
  let pubkeys := pubkeysOf active incompleteLnPayments
  let _ ← total (forEach (fun listFn => forEach (fun pubkey =>
    updateLnPaymentsByFunction listFn pubkey bound .start) pubkeys) listFns
      { incompleteLnPayments })

section Pages

variable {nodes : Nodes} {run : RunId} {before w : World} {known : List PaymentHash}
  {progress : Progress}

structure Follows (before : World) (known : List PaymentHash) (progress : Progress) (w : World) :
    Prop where
  known_eq : progress.incompleteLnPayments.map PersistedLnPaymentLookup.paymentHash = known
  stored : ∀ paymentHash ∈ known,
    paymentHash ∈ w.collection.records.map PersistedLnPaymentLookup.paymentHash
  completed : ∀ paymentHash, Completed w.collection paymentHash ↔
    Completed before.collection paymentHash ∨ paymentHash ∈ progress.processedLnPaymentsHashes
  deletions : w.deletions = before.deletions

def leading (known : List PaymentHash) (page : List ListedPayment) : List PaymentHash :=
  (page.map ListedPayment.paymentHash).takeWhile fun paymentHash => paymentHash ∈ known

theorem ends_list {listFn : ListFn} {pubkey : Pubkey} {token : Option String}
    {post : Result ListLnPaymentsResult → World → Prop}
    (shown : ∀ listed, post (nodes.list listFn pubkey token) { w with listed }) :
    Ends services run nodes.answers (ask (.list listFn pubkey token)) w post := by
  refine ends_request.mpr ?_
  unfold Nodes.list at shown
  simp only [serve, Nodes.answers]
  cases translated : translatePayments listFn (nodes.getPayments listFn pubkey token) with
  | error error =>
    rw [translated] at shown
    exact ⟨_, w, rfl, shown w.listed⟩
  | ok result =>
    rw [translated] at shown
    exact ⟨_, _, rfl, shown _⟩

theorem update_follows (follows : Follows before known progress w)
    {persisted : PersistedLnPaymentLookup} (isKnown : persisted.paymentHash ∈ known)
    (payment : ListedPayment) :
    Ends services run nodes.answers (ask (.update (persisted.complete payment))) w
      (fun result after => result = .ok () ∧ Follows before known
        ((progress.assign (persisted.complete payment)).push persisted.paymentHash) after) := by
  have stored := follows.stored persisted.paymentHash isKnown
  obtain ⟨collection, isUpdated⟩ :
      ∃ collection, w.collection.update (persisted.complete payment) = .ok collection :=
    ⟨_, if_pos stored⟩
  refine ends_served rfl ⟨?_, ?_, ?_, ?_, follows.deletions⟩
  · simp only [Nodes.answers, Stores.answerOr, isUpdated]
    rfl
  · rw [← follows.known_eq]
    simp only [Progress.assign, Progress.push, List.map_map]
    apply List.map_congr_left
    intro elem _
    simp only [Function.comp_apply]
    split
    · rename_i same
      exact same.symm
    · rfl
  · intro paymentHash isHash
    simp only [Nodes.answers, WriteAnswer.apply, updated, isUpdated, true_or, if_true]
    rw [update_hashes isUpdated]
    exact follows.stored paymentHash isHash
  · intro paymentHash
    simp only [Nodes.answers, WriteAnswer.apply, updated, isUpdated, true_or, if_true]
    rw [completed_update rfl isUpdated, follows.completed]
    simp [or_assoc, PersistedLnPaymentLookup.complete, Progress.assign, Progress.push]

theorem updateListed_follows (page : List ListedPayment)
    (follows : Follows before known progress w) :
    Ends services run nodes.answers (updateListed page progress) w (fun later after =>
      Follows before known later after ∧
        later.processedLnPaymentsHashes = progress.processedLnPaymentsHashes ++
        leading known page) := by
  induction page generalizing progress w with
  | nil => exact ends_pure.mpr ⟨follows, by simp [leading]⟩
  | cons payment rest ih =>
    unfold updateListed
    cases found : progress.incompleteLnPayments.find? fun elem =>
        elem.paymentHash = payment.paymentHash with
    | none =>
      have unknown : payment.paymentHash ∉ known := by
        rw [← follows.known_eq]
        simpa using found
      exact ends_pure.mpr ⟨follows, by simp [leading, unknown]⟩
    | some persisted =>
      have same : persisted.paymentHash = payment.paymentHash := by
        simpa using List.find?_some found
      have isKnown : persisted.paymentHash ∈ known := by
        rw [← follows.known_eq]
        exact List.mem_map_of_mem (List.mem_of_find?_eq_some found)
      refine ends_bind.mpr ((update_follows follows isKnown payment).mono ?_)
      rintro _ after ⟨rfl, followsNow⟩
      rw [same] at followsNow isKnown
      refine (ih followsNow).mono fun later last ⟨followsLater, processed⟩ => ⟨followsLater, ?_⟩
      rw [processed]
      simp [leading, isKnown, Progress.push, Progress.assign]

end Pages

inductive Serves (list : Option String → Result ListLnPaymentsResult) :
    Option String → List String → List (List ListedPayment) → Prop where
  | last {token : Option String} {page : List ListedPayment}
    (answered : list token = .ok ⟨page, .stop⟩) :
    Serves list token [] [page]
  | more {token : Option String} {page : List ListedPayment} {cursor : String}
    {cursors : List String} {pages : List (List ListedPayment)}
    (answered : list token = .ok ⟨page, .next cursor⟩)
    (rest : Serves list (some cursor) cursors pages) :
    Serves list token (cursor :: cursors) (page :: pages)

def handled (known : List PaymentHash) : Nat → List (List ListedPayment) → List PaymentHash
  | _, [] => []
  | count, page :: rest =>
    if count < known.length then
      leading known page ++ handled known (count + (leading known page).length) rest
    else []

theorem handled_enough {known : List PaymentHash} {count : Nat} (enough : known.length ≤ count)
    (pages : List (List ListedPayment)) : handled known count pages = [] := by
  cases pages with
  | nil => rfl
  | cons page rest => simp [handled, Nat.not_lt.mpr enough]

theorem handled_append (known : List PaymentHash) (count : Nat)
    (pages later : List (List ListedPayment)) :
    handled known count (pages ++ later) =
      handled known count pages ++ handled known (count + (handled known count pages).length)
        later := by
  induction pages generalizing count with
  | nil => simp [handled]
  | cons page rest ih =>
    by_cases more : count < known.length
    · simp only [List.cons_append, handled, more, if_true, ih, List.append_assoc,
        List.length_append, Nat.add_assoc]
    · simp [handled, more, handled_enough (Nat.not_lt.mp more)]

def Reached (known : List PaymentHash) (pages : List (List ListedPayment))
    (paymentHash : PaymentHash) : Prop :=
  ∃ earlier page later, pages = earlier ++ page :: later ∧
    (earlier.map fun page => (leading known page).length).sum < known.length ∧
      paymentHash ∈ leading known page

theorem mem_handled {known : List PaymentHash} {paymentHash : PaymentHash}
    (pages : List (List ListedPayment)) (count : Nat) :
    paymentHash ∈ handled known count pages ↔ ∃ earlier page later,
      pages = earlier ++ page :: later ∧
      count + (earlier.map fun page => (leading known page).length).sum < known.length ∧
      paymentHash ∈ leading known page := by
  induction pages generalizing count with
  | nil => simp [handled]
  | cons page rest ih =>
    by_cases more : count < known.length
    · simp only [handled, more, if_true, List.mem_append, ih]
      constructor
      · rintro (here | ⟨earlier, found, later, rfl, reached, isLeading⟩)
        · exact ⟨[], page, rest, rfl, by simpa using more, here⟩
        · exact ⟨page :: earlier, found, later, rfl, by simpa [Nat.add_assoc] using reached,
            isLeading⟩
      · rintro ⟨earlier, found, later, split, reached, isLeading⟩
        cases earlier with
        | nil =>
          obtain ⟨rfl, rfl⟩ := List.cons.inj split
          exact .inl isLeading
        | cons first earlier =>
          obtain ⟨rfl, rfl⟩ := List.cons.inj split
          exact .inr ⟨earlier, found, later, rfl, by simpa [Nat.add_assoc] using reached, isLeading⟩
    · simp only [handled, more, if_false, List.not_mem_nil, false_iff, not_exists, not_and]
      intro earlier found later _ reached
      omega

section Loops

variable {nodes : Nodes} {run : RunId} {before w : World} {known : List PaymentHash}
  {progress : Progress}

def Handles (nodes : Nodes) (run : RunId) (before : World) (known : List PaymentHash)
    (pages : List (List ListedPayment)) (body : Progress → Prog Call Reply Progress) : Prop :=
  ∀ progress w, Follows before known progress w →
    Ends services run nodes.answers (body progress) w (fun later after =>
      Follows before known later after ∧
        later.processedLnPaymentsHashes = progress.processedLnPaymentsHashes ++
          handled known progress.processedLnPaymentsHashes.length pages)

theorem Handles.forEach {α : Type} {pages : α → List (List ListedPayment)}
    {body : α → Progress → Prog Call Reply Progress} {items : List α}
    (steps : ∀ item ∈ items, Handles nodes run before known (pages item) (body item)) :
    Handles nodes run before known (items.flatMap pages) (LnPayments.forEach body items) := by
  induction items with
  | nil => exact fun progress w follows => ends_pure.mpr ⟨follows, by simp [handled]⟩
  | cons item rest ih =>
    intro progress w follows
    have others := ih fun other isOther => steps other (List.mem_cons_of_mem _ isOther)
    refine ends_bind.mpr ((steps item List.mem_cons_self progress w follows).mono ?_)
    rintro next between ⟨followsNow, processed⟩
    refine (others next between followsNow).mono fun last after ⟨followsLater, processedLater⟩ =>
      ⟨followsLater, ?_⟩
    rw [processedLater, processed, List.flatMap_cons, handled_append, List.append_assoc,
      List.length_append]

theorem paginated_follows {listFn : ListFn} {pubkey : Pubkey} {after endCursor : PagingToken}
    {page : List ListedPayment} (answered : nodes.list listFn pubkey after.token =
      .ok ⟨page, endCursor⟩)
    (moves : after ≠ endCursor) (follows : Follows before known progress w) :
    Ends services run nodes.answers (updateLnPaymentsPaginated listFn pubkey after progress) w
      (fun results later => results.1 = .ok endCursor ∧ Follows before known results.2 later ∧
        results.2.processedLnPaymentsHashes =
          progress.processedLnPaymentsHashes ++ leading known page) := by
  refine ends_bind.mpr (ends_list fun listed => ?_)
  have still : Follows before known progress { w with listed } :=
    ⟨follows.known_eq, follows.stored, follows.completed, follows.deletions⟩
  rw [answered]
  dsimp only
  rw [if_neg moves]
  exact ends_bind.mpr ((updateListed_follows page still).mono fun _ _ now =>
    ends_pure.mpr ⟨rfl, now⟩)

theorem byFunction_follows {listFn : ListFn} {pubkey : Pubkey} {after : PagingToken}
    {cursors : List String} {pages : List (List ListedPayment)} (running : after ≠ .stop)
    (served : Serves (nodes.list listFn pubkey) after.token cursors pages)
    (distinct : (after.token.toList ++ cursors).Nodup) {bound : Nat}
    (enough : pages.length < bound) :
    Handles nodes run before known pages
      (updateLnPaymentsByFunction listFn pubkey bound after) := by
  induction bound generalizing after cursors pages with
  | zero => cases enough
  | succ bound ih =>
    intro progress w follows
    have count : progress.incompleteLnPayments.length = known.length := by
      rw [← follows.known_eq, List.length_map]
    unfold updateLnPaymentsByFunction
    rw [count]
    by_cases more : progress.processedLnPaymentsHashes.length < known.length
    · rw [if_pos ⟨more, running⟩]
      generalize isToken : after.token = token at served
      cases served with
      | last answered =>
        obtain ⟨left, rfl⟩ : ∃ left, bound = left + 1 :=
          Nat.exists_eq_succ_of_ne_zero (by rintro rfl; simp at enough)
        refine ends_bind.mpr ((paginated_follows (isToken ▸ answered) running follows).mono ?_)
        rintro ⟨_, next⟩ later ⟨rfl, followsNow, processed⟩
        dsimp only at processed ⊢
        unfold updateLnPaymentsByFunction
        rw [if_neg fun going => going.2 rfl]
        exact ends_pure.mpr ⟨followsNow, by simp [processed, handled, more]⟩
      | more answered rest =>
        rename_i page cursor cursors pages
        have moves : after ≠ .next cursor := by
          rintro rfl
          simp [PagingToken.token] at distinct
        have laterDistinct : ((PagingToken.next cursor).token.toList ++ cursors).Nodup :=
          (List.nodup_append.mp distinct).2.1
        have on := ih (by simp) (show Serves _ (PagingToken.next cursor).token _ _ from rest)
          laterDistinct (by simpa using enough)
        refine ends_bind.mpr ((paginated_follows (isToken ▸ answered) moves follows).mono ?_)
        rintro ⟨_, next⟩ later ⟨rfl, followsNow, processed⟩
        refine (on next later followsNow).mono fun last final ⟨followsLater, processedLater⟩ =>
          ⟨followsLater, ?_⟩
        dsimp only at processed
        simp [processedLater, processed, handled, more]
    · rw [if_neg fun going => more going.1, handled_enough (Nat.not_lt.mp more)]
      exact ends_pure.mpr ⟨follows, by simp⟩

end Loops

def ListedByNode (pages : ListFn → Pubkey → List (List ListedPayment))
    (payment : PersistedLnPaymentLookup) : Prop :=
  ∃ listFn, ∃ page ∈ pages listFn payment.sentFromPubkey, ∃ listed ∈ page,
    listed.paymentHash = payment.paymentHash

def pagesInOrder (nodes : Nodes) (collection : LnPaymentCollection)
    (pages : ListFn → Pubkey → List (List ListedPayment)) : List (List ListedPayment) :=
  listFns.flatMap fun listFn =>
    (pubkeysOf nodes.listActivePubkeys collection.incomplete).flatMap (pages listFn)

def knownHashes (collection : LnPaymentCollection) : List PaymentHash :=
  collection.incomplete.map PersistedLnPaymentLookup.paymentHash

structure Nodes.Works (nodes : Nodes) (asked : List Pubkey)
    (cursors : ListFn → Pubkey → List String) (pages : ListFn → Pubkey → List (List ListedPayment))
    (bound : Nat) : Prop where
  served : ∀ listFn, ∀ pubkey ∈ asked,
    Serves (nodes.list listFn pubkey) none (cursors listFn pubkey) (pages listFn pubkey)
  distinct : ∀ listFn, ∀ pubkey ∈ asked, (cursors listFn pubkey).Nodup
  enough : ∀ listFn, ∀ pubkey ∈ asked, (pages listFn pubkey).length < bound

theorem Nodes.Works.of_subset {nodes : Nodes} {asked fewer : List Pubkey}
    {cursors : ListFn → Pubkey → List String} {pages : ListFn → Pubkey → List (List ListedPayment)}
    {bound : Nat} (works : nodes.Works asked cursors pages bound) (subset : fewer ⊆ asked) :
    nodes.Works fewer cursors pages bound where
  served listFn pubkey isAsked := works.served listFn pubkey (subset isAsked)
  distinct listFn pubkey isAsked := works.distinct listFn pubkey (subset isAsked)
  enough listFn pubkey isAsked := works.enough listFn pubkey (subset isAsked)

section Runs

variable {nodes : Nodes} {run : RunId} {cursors : ListFn → Pubkey → List String}
  {pages : ListFn → Pubkey → List (List ListedPayment)} {bound : Nat}

theorem start_follows (w : World) : Follows w (knownHashes w.collection)
    { incompleteLnPayments := w.collection.incomplete } w where
  known_eq := rfl
  stored := by
    intro paymentHash isKnown
    obtain ⟨payment, isIncomplete, rfl⟩ := List.mem_map.mp isKnown
    exact List.mem_map_of_mem (List.mem_filter.mp isIncomplete).1
  completed := by simp
  deletions := rfl

theorem updateLnPayments_completes {w : World}
    (works : nodes.Works (pubkeysOf nodes.listActivePubkeys w.collection.incomplete) cursors pages
      bound) :
    EndsRun services run nodes.answers (updateLnPayments bound) w (fun result after =>
      result = .ok () ∧ after.deletions = w.deletions ∧
        ∀ paymentHash, Completed after.collection paymentHash ↔ Completed w.collection paymentHash ∨
          Reached (knownHashes w.collection) (pagesInOrder nodes w.collection pages)
          paymentHash) := by
  have ofNode (listFn : ListFn) (pubkey : Pubkey)
      (isAsked : pubkey ∈ pubkeysOf nodes.listActivePubkeys w.collection.incomplete) :
      Handles nodes run w (knownHashes w.collection) (pages listFn pubkey)
        (updateLnPaymentsByFunction listFn pubkey bound .start) :=
    byFunction_follows (by simp) (works.served listFn pubkey isAsked)
      (by simpa [PagingToken.token] using works.distinct listFn pubkey isAsked)
      (works.enough listFn pubkey isAsked)
  have ofAll : Handles nodes run w (knownHashes w.collection)
      (pagesInOrder nodes w.collection pages) _ :=
    Handles.forEach fun listFn _ => Handles.forEach (ofNode listFn)
  refine EndsRun.next (ends_served rfl ⟨rfl, rfl⟩) (EndsRun.next (ends_served rfl ⟨rfl, rfl⟩) ?_)
  refine EndsRun.next (endsRun_total.mpr (ends_served rfl ⟨rfl, rfl⟩)) ?_
  refine endsRun_bind.mpr (endsRun_total.mpr ((ofAll _ _ (start_follows w)).mono ?_))
  rintro last after ⟨follows, processed⟩
  refine endsRun_pure.mpr ⟨rfl, follows.deletions, fun paymentHash => ?_⟩
  rw [follows.completed, processed]
  simp [mem_handled, Reached]

end Runs

theorem listed_payments_completed_iff (nodes : Nodes) (cursors : ListFn → Pubkey → List String)
    (pages : ListFn → Pubkey → List (List ListedPayment)) (bound : Nat) (run : RunId) (w : World)
    (works : nodes.Works (pubkeysOf nodes.listActivePubkeys w.collection.incomplete) cursors pages
      bound) :
    EndsRun services run nodes.answers (updateLnPayments bound) w (fun result after =>
      result = .ok () ∧
      ((∀ payment ∈ w.collection.records, payment.isCompleteRecord = false →
        ListedByNode pages payment → Completed after.collection payment.paymentHash) ↔
        ∀ payment ∈ w.collection.records, payment.isCompleteRecord = false →
          ListedByNode pages payment → Reached (knownHashes w.collection)
            (pagesInOrder nodes w.collection pages) payment.paymentHash)) := by
  refine (updateLnPayments_completes works).mono ?_
  rintro _ after ⟨rfl, _, completed⟩
  refine ⟨rfl, ?_⟩
  simp only [completed]
  constructor
  · intro completes payment isStored incomplete isListed
    exact (completes payment isStored incomplete isListed).resolve_left
      (completed_of_incomplete isStored incomplete)
  · intro reached payment isStored incomplete isListed
    exact .inr (reached payment isStored incomplete isListed)

def sentPayment : PersistedLnPaymentLookup where
  paymentHash := "sent"
  sentFromPubkey := "node"

def listedPayment (paymentHash : PaymentHash) : ListedPayment where
  paymentHash
  status := .settled
  createdAt := 0
  milliSatsAmount := 1000
  roundedUpAmount := 1

def oneSent : World where
  collection := ⟨[sentPayment], by decide⟩

def onePage (paymentHashes : List PaymentHash) : Nodes where
  listActivePubkeys := ["node"]
  getPayments
    | .listSettledPayments, _, _ => .ok ⟨paymentHashes.map listedPayment, none⟩
    | .listFailedPayments, _, _ => .ok ⟨[], none⟩
  lookupPayment _ _ := .ok .failed

def onePageOf (paymentHashes : List PaymentHash) : ListFn → Pubkey → List (List ListedPayment)
  | .listSettledPayments, _ => [paymentHashes.map listedPayment]
  | .listFailedPayments, _ => [[]]

theorem onePage_works (paymentHashes : List PaymentHash) (asked : List Pubkey) :
    (onePage paymentHashes).Works asked (fun _ _ => []) (onePageOf paymentHashes) 2 where
  served := by
    intro listFn pubkey _
    cases listFn with
    | listSettledPayments => exact .last rfl
    | listFailedPayments => exact .last rfl
  distinct := by simp
  enough := by
    intro listFn _ _
    cases listFn <;> simp [onePageOf]

theorem sent_payment_first_completed :
    EndsRun services 0 (onePage ["sent", "other"]).answers (updateLnPayments 2) oneSent
      (fun result after => result = .ok () ∧ ∀ payment ∈ oneSent.collection.records,
        payment.isCompleteRecord = false → ListedByNode (onePageOf ["sent", "other"]) payment →
          Completed after.collection payment.paymentHash) := by
  refine (listed_payments_completed_iff (onePage ["sent", "other"]) (fun _ _ => [])
    (onePageOf ["sent", "other"]) 2 0 oneSent (onePage_works _ _)).mono ?_
  rintro _ after ⟨rfl, completes⟩
  refine ⟨rfl, completes.mpr ?_⟩
  intro payment isStored _ _
  obtain rfl : payment = sentPayment := by simpa [oneSent] using isStored
  exact ⟨[], [listedPayment "sent", listedPayment "other"], [[]], by decide, by decide, by decide⟩

theorem sent_payment_after_other_incomplete :
    (onePage ["other", "sent"]).Works ["node"] (fun _ _ => []) (onePageOf ["other", "sent"]) 2 ∧
      ListedByNode (onePageOf ["other", "sent"]) sentPayment ∧
      (eval services 0 (onePage ["other", "sent"]).answers (updateLnPayments 2).run oneSent).map
        (fun ended => (ended.1, ended.2.collection)) = some (.ok (), oneSent.collection) ∧
      ¬Completed oneSent.collection sentPayment.paymentHash := by
  refine ⟨onePage_works _ _, ⟨.listSettledPayments, ?_⟩, by decide +kernel, ?_⟩
  · decide
  · unfold Completed
    decide

end Galoy.LnPayments
