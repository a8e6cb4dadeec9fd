import Galoy.Ledger.Balance

set_option autoImplicit false

namespace Galoy

open Interleave

namespace Ledger

def newJournal (ledger : Ledger) (run : RunId) (clock : Nat) (entry : Entry) : Journal where
  id := ledger.journals.length
  description := entry.description
  legs := entry.transactions
  timestamp := clock
  writtenBy := run

theorem journals_commit (ledger : Ledger) (run : RunId) (clock : Nat) (entry : Entry) :
    (ledger.commit run clock entry).journals = ledger.journals ++
      [ledger.newJournal run clock entry] :=
  rfl

def Numbered (ledger : Ledger) : Prop :=
  ∀ (i : Nat) (journal : Journal), ledger.journals[i]? = some journal → journal.id = i

section Numbered

variable {ledger : Ledger} (run : RunId) (clock : Nat)

theorem journal?_eq_getElem? (numbered : ledger.Numbered) (id : LedgerJournalId) :
    ledger.journal? id = ledger.journals[id]? := by
  have sound : ∀ journal, ledger.journal? id = some journal →
      ledger.journals[id]? = some journal := by
    intro journal found
    have same : journal.id = id := by simpa using List.find?_some found
    obtain ⟨i, at_⟩ := List.getElem?_of_mem (journal?_mem found)
    rw [← same, numbered i journal at_]
    exact at_
  cases found : ledger.journal? id with
  | some journal => exact (sound journal found).symm
  | none =>
    cases at_ : ledger.journals[id]? with
    | none => rfl
    | some journal =>
      have missing := List.find?_eq_none.mp found journal (List.mem_of_getElem? at_)
      simp [numbered id journal at_] at missing

theorem journal?_of_mem (numbered : ledger.Numbered) {journal : Journal}
    (member : journal ∈ ledger.journals) : ledger.journal? journal.id = some journal := by
  obtain ⟨i, at_⟩ := List.getElem?_of_mem member
  rw [journal?_eq_getElem? numbered, numbered i journal at_, at_]

theorem Numbered.commit (numbered : ledger.Numbered) (entry : Entry) :
    (ledger.commit run clock entry).Numbered := by
  intro i journal at_
  simp only [Ledger.commit] at at_
  rcases Nat.lt_trichotomy i ledger.journals.length with below | equal | above
  · rw [List.getElem?_append_left below] at at_
    exact numbered i journal at_
  · subst equal
    simp only [List.getElem?_concat_length, Option.some.injEq] at at_
    rw [← at_]
  · rw [List.getElem?_eq_none (by simp; omega)] at at_
    cases at_

theorem Numbered.settlePending (numbered : ledger.Numbered) (hash : PaymentHash) :
    (ledger.settlePending run hash).Numbered := by
  intro i journal at_
  simp only [Ledger.settlePending, List.getElem?_map, Option.map_eq_some_iff] at at_
  obtain ⟨original, found, rfl⟩ := at_
  exact numbered i original found

theorem Numbered.void (numbered : ledger.Numbered) {id : LedgerJournalId} {reason : String}
    {after : Ledger} (voided : ledger.void run clock id reason = some after) : after.Numbered := by
  obtain ⟨original, _, _, _, journals⟩ := void_inversion voided
  intro i journal at_
  rw [journals] at at_
  rcases Nat.lt_trichotomy i ledger.journals.length with below | equal | above
  · rw [List.getElem?_append_left (by simpa using below), List.getElem?_map,
      Option.map_eq_some_iff] at at_
    obtain ⟨old, found, rfl⟩ := at_
    have same := numbered i old found
    unfold Journal.markVoided
    split <;> exact same
  · subst equal
    have last : (ledger.journals.map (Journal.markVoided id)).length = ledger.journals.length :=
      List.length_map _
    rw [← last] at at_
    simp only [List.getElem?_concat_length, Option.some.injEq] at at_
    rw [← at_]
    exact last
  · rw [List.getElem?_eq_none (by simp; omega)] at at_
    cases at_

end Numbered

section Legs

variable {ledger : Ledger} {hash : PaymentHash}

theorem mem_legs {leg : Leg} : leg ∈ ledger.legs ↔ ∃ journal ∈ ledger.journals,
    leg ∈ journal.legs := by
  simp [legs]

def NoPending (ledger : Ledger) (hash : PaymentHash) : Prop :=
  ∀ leg ∈ ledger.legs, leg.isPendingFor hash = false

instance (ledger : Ledger) (hash : PaymentHash) : Decidable (ledger.NoPending hash) :=
  inferInstanceAs (Decidable (∀ leg ∈ ledger.legs, leg.isPendingFor hash = false))

theorem modifiedCount_pos : 0 < ledger.modifiedCount hash ↔ ¬ledger.NoPending hash := by
  simp [modifiedCount, NoPending, List.countP_pos_iff]

theorem noPending_of_count (zero : ledger.modifiedCount hash = 0) : ledger.NoPending hash := by
  by_contra pending
  have positive := modifiedCount_pos.mpr pending
  omega

theorem isPendingFor_settleFor (leg : Leg) : (leg.settleFor hash).isPendingFor hash = false := by
  unfold Leg.settleFor
  by_cases same : leg.ofHash hash = true
  · simp [same, Leg.settle, Leg.isPendingFor]
  · simp [same, Leg.isPendingFor]

theorem noPending_settlePending (run : RunId) : (ledger.settlePending run hash).NoPending hash := by
  intro leg member
  rw [legs_settlePending] at member
  obtain ⟨original, _, rfl⟩ := List.mem_map.mp member
  exact isPendingFor_settleFor original

theorem isLnTxRecorded_iff :
    ledger.isLnTxRecorded hash = true ↔
      ∃ leg ∈ ledger.legs, leg.ofHash hash = true ∧ leg.metadata.pending = false := by
  simp [isLnTxRecorded]

theorem isLnTxRecorded_grow {after : Ledger} (recorded : ledger.isLnTxRecorded hash = true)
    (journals : ∀ journal ∈ ledger.journals, journal ∈ after.journals) :
    after.isLnTxRecorded hash = true := by
  obtain ⟨leg, member, settled⟩ := isLnTxRecorded_iff.mp recorded
  obtain ⟨journal, inLedger, inJournal⟩ := mem_legs.mp member
  exact isLnTxRecorded_iff.mpr
    ⟨leg, mem_legs.mpr ⟨journal, journals journal inLedger, inJournal⟩, settled⟩

theorem no_legs_of_unrecorded (quiet : ledger.NoPending hash)
    (unrecorded : ledger.isLnTxRecorded hash = false) :
    ∀ leg ∈ ledger.legs, leg.ofHash hash = false := by
  intro leg member
  by_contra same
  have ofHash : leg.ofHash hash = true := by simpa using same
  have settled : leg.metadata.pending = false := by
    simpa [Leg.isPendingFor, ofHash] using quiet leg member
  have recorded := isLnTxRecorded_iff.mpr ⟨leg, member, ofHash, settled⟩
  simp [unrecorded] at recorded

theorem NoPending.commit (quiet : ledger.NoPending hash) (run : RunId) (clock : Nat) {entry : Entry}
    (settled : ∀ leg ∈ entry.transactions, leg.isPendingFor hash = false) :
    (ledger.commit run clock entry).NoPending hash := by
  intro leg member
  rw [legs_commit] at member
  rcases List.mem_append.mp member with old | new
  · exact quiet leg old
  · exact settled leg new

theorem NoPending.void (quiet : ledger.NoPending hash) {run : RunId} {clock : Nat}
    {id : LedgerJournalId} {reason : String} {after : Ledger}
    (voided : ledger.void run clock id reason = some after) : after.NoPending hash := by
  obtain ⟨original, found, legs⟩ := legs_void voided
  intro leg member
  rw [legs] at member
  rcases List.mem_append.mp member with old | new
  · exact quiet leg old
  · obtain ⟨mirrored, inOriginal, rfl⟩ := List.mem_map.mp new
    exact quiet mirrored (mem_legs.mpr ⟨original, journal?_mem found, inOriginal⟩)

end Legs

section Writers

variable {ledger : Ledger} {run other : RunId} {hash : PaymentHash}

def writtenBy (ledger : Ledger) (run : RunId) : List Journal :=
  ledger.journals.filter (·.writtenBy = run)

def movedBy (ledger : Ledger) (run : RunId) (account : LedgerAccountId) : ℚ :=
  netOver (fun a _ => a = account) ((ledger.writtenBy run).flatMap (·.legs))

theorem mem_writtenBy {journal : Journal} :
    journal ∈ ledger.writtenBy run ↔ journal ∈ ledger.journals ∧ journal.writtenBy = run := by
  simp [writtenBy]

theorem writtenBy_commit (clock : Nat) (entry : Entry) :
    (ledger.commit run clock entry).writtenBy run =
      ledger.writtenBy run ++ [ledger.newJournal run clock entry] := by
  simp [writtenBy, journals_commit, newJournal]

theorem writtenBy_commit_other (different : other ≠ run) (clock : Nat) (entry : Entry) :
    (ledger.commit run clock entry).writtenBy other = ledger.writtenBy other := by
  simp [writtenBy, commit, different.symm]

theorem writtenBy_settlePending :
    (ledger.settlePending run hash).writtenBy other =
      (ledger.writtenBy other).map (Journal.settleFor hash) := by
  simp only [writtenBy, settlePending, List.filter_map]
  rfl

theorem writtenBy_markVoided (journal : Journal) (id : LedgerJournalId) :
    (journal.markVoided id).writtenBy = journal.writtenBy := by
  unfold Journal.markVoided
  split <;> rfl

theorem writtenBy_map_markVoided (journals : List Journal) (id : LedgerJournalId) :
    (journals.map (Journal.markVoided id)).filter (·.writtenBy = run) =
      (journals.filter (·.writtenBy = run)).map (Journal.markVoided id) := by
  simp only [List.filter_map, Function.comp_def, writtenBy_markVoided]

def writers (ledger : Ledger) : List RunId := ledger.journals.map (·.writtenBy)

theorem writers_commit {clock : Nat} {entry : Entry} :
    (ledger.commit run clock entry).writers = ledger.writers ++ [run] := by
  simp [writers, journals_commit, newJournal]

theorem writers_settlePending : (ledger.settlePending run hash).writers = ledger.writers := by
  simp [writers, settlePending, Function.comp_def, Journal.settleFor]

theorem writers_void {clock : Nat} {id : LedgerJournalId} {reason : String} {after : Ledger}
    (voided : ledger.void run clock id reason = some after) : after.writers =
      ledger.writers ++ [run] := by
  obtain ⟨_, _, _, _, journals⟩ := void_inversion voided
  simp [writers, journals, Function.comp_def, writtenBy_markVoided]

end Writers

section PendingOfOne

variable {ledger : Ledger} {run : RunId} {hash : PaymentHash}

def HasPending (hash : PaymentHash) (journal : Journal) : Prop :=
  ∃ leg ∈ journal.legs, leg.isPendingFor hash = true

def PendingOfOne (ledger : Ledger) (hash : PaymentHash) : Prop :=
  ∀ first ∈ ledger.journals, ∀ second ∈ ledger.journals,
    HasPending hash first → HasPending hash second → first.writtenBy = second.writtenBy

theorem noPending_iff : ledger.NoPending hash ↔ ∀ journal ∈ ledger.journals,
    ¬HasPending hash journal := by
  constructor
  · rintro quiet journal member ⟨leg, inJournal, pending⟩
    rw [quiet leg (mem_legs.mpr ⟨journal, member, inJournal⟩)] at pending
    cases pending
  · intro quiet leg member
    obtain ⟨journal, inLedger, inJournal⟩ := mem_legs.mp member
    by_contra pending
    exact quiet journal inLedger ⟨leg, inJournal, by simpa using pending⟩

theorem settleFor_of_not_pending {journal : Journal} (settled : ¬HasPending hash journal) :
    journal.settleFor hash = journal := by
  have same : journal.legs.map (Leg.settleFor hash) = journal.legs := by
    refine List.map_congr_left (fun leg member => ?_) |>.trans (List.map_id _)
    unfold Leg.settleFor
    split
    · rename_i ofHash
      have notPending : leg.metadata.pending = false := by
        by_contra pending
        exact settled ⟨leg, member, by simp [Leg.isPendingFor, ofHash, pending]⟩
      simp [Leg.settle, ← notPending]
    · rfl
  simp [Journal.settleFor, same]

theorem not_hasPending_settleFor (journal : Journal) : ¬HasPending hash
    (journal.settleFor hash) := by
  rintro ⟨leg, member, pending⟩
  obtain ⟨original, _, rfl⟩ := List.mem_map.mp member
  rw [isPendingFor_settleFor] at pending
  cases pending

theorem hasPending_markVoided {journal : Journal} {id : LedgerJournalId} :
    HasPending hash (journal.markVoided id) ↔ HasPending hash journal := by
  unfold Journal.markVoided
  split <;> rfl

theorem NoPending.ofOne (quiet : ledger.NoPending hash) : ledger.PendingOfOne hash :=
  fun first inLedger _ _ pending => absurd pending (noPending_iff.mp quiet first inLedger)

theorem PendingOfOne.commit (quiet : ledger.NoPending hash) (clock : Nat) (entry : Entry) :
    (ledger.commit run clock entry).PendingOfOne hash := by
  have isNew : ∀ journal ∈ (ledger.commit run clock entry).journals, HasPending hash journal →
      journal.writtenBy = run := by
    intro journal member pending
    rcases List.mem_append.mp member with old | new
    · exact absurd pending (noPending_iff.mp quiet journal old)
    · rw [List.mem_singleton.mp new]
  intro first inFirst second inSecond pendingFirst pendingSecond
  rw [isNew first inFirst pendingFirst, isNew second inSecond pendingSecond]

theorem PendingOfOne.grow {after : Ledger} (one : ledger.PendingOfOne hash)
    {change : Journal → Journal} (kept : ∀ journal, (change journal).writtenBy = journal.writtenBy ∧
      (HasPending hash (change journal) ↔ HasPending hash journal)) {new : Journal}
    (settled : ¬HasPending hash new)
    (journals : after.journals = ledger.journals.map change ++ [new]) :
    after.PendingOfOne hash := by
  have isOld : ∀ journal ∈ after.journals, HasPending hash journal →
      ∃ original ∈ ledger.journals, HasPending hash original ∧
        journal.writtenBy = original.writtenBy := by
    intro journal member pending
    rw [journals] at member
    rcases List.mem_append.mp member with old | last
    · obtain ⟨original, inLedger, rfl⟩ := List.mem_map.mp old
      exact ⟨original, inLedger, (kept original).2.mp pending, (kept original).1⟩
    · rw [List.mem_singleton.mp last] at pending
      exact absurd pending settled
  intro first inFirst second inSecond pendingFirst pendingSecond
  obtain ⟨_, oldFirst, stillFirst, sameFirst⟩ := isOld first inFirst pendingFirst
  obtain ⟨_, oldSecond, stillSecond, sameSecond⟩ := isOld second inSecond pendingSecond
  rw [sameFirst, sameSecond]
  exact one _ oldFirst _ oldSecond stillFirst stillSecond

theorem PendingOfOne.commit_settled (one : ledger.PendingOfOne hash) (clock : Nat) {entry : Entry}
    (settled : ∀ leg ∈ entry.transactions, leg.isPendingFor hash = false) :
    (ledger.commit run clock entry).PendingOfOne hash := by
  have journals : (ledger.commit run clock entry).journals =
      ledger.journals.map (fun journal => journal) ++ [ledger.newJournal run clock entry] := by
    rw [List.map_id', journals_commit]
  refine one.grow (fun _ => ⟨rfl, Iff.rfl⟩) ?_ journals
  rintro ⟨leg, member, pending⟩
  rw [settled leg member] at pending
  cases pending

end PendingOfOne

section Queries

variable {ledger : Ledger} {tx : LedgerTransaction}

theorem orUndefined_eq_some {text : Option String} {value : String}
    (defined : orUndefined text = some value) : text = some value ∧ value ≠ "" := by
  unfold orUndefined at defined
  split at defined
  · cases defined
  · rename_i notEmpty
    exact ⟨defined, fun empty => notEmpty (by rw [defined, empty])⟩

theorem mem_transactions {query : Leg → Bool} :
    tx ∈ ledger.transactions query ↔
      ∃ journal ∈ ledger.journals, ∃ leg ∈ journal.legs, query leg = true ∧
        translateToLedgerTx journal leg = tx := by
  simp [transactions, and_assoc]

end Queries

end Ledger

end Galoy
