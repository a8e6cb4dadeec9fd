import Galoy.Ledger.Entries
import Galoy.Ledger.Evolution

set_option autoImplicit false

namespace Galoy

open Interleave

namespace Journal

def ofHash (journal : Journal) (hash : PaymentHash) : Bool := journal.legs.any (·.ofHash hash)

def refs (journal : Journal) : List LedgerJournalId :=
  match journal.originalJournal with
  | some id => [id]
  | none => journal.legs.filterMap (·.metadata.relatedJournal)

def OneHash (hash : PaymentHash) (journal : Journal) : Prop :=
  journal.ofHash hash = true → ∀ leg ∈ journal.legs, leg.ofHash hash = true

section Evolves

variable {before after : Journal} {hash : PaymentHash}

theorem Evolves.ofHash (evolves : before.Evolves after) : after.ofHash hash =
    before.ofHash hash := by
  obtain ⟨change, small, legs⟩ := evolves.legs
  unfold Journal.ofHash
  rw [legs, List.any_map]
  congr 1
  funext leg
  rcases small leg with same | same <;> rw [Function.comp_apply, same]
  rfl

theorem Evolves.refs (evolves : before.Evolves after) : after.refs = before.refs := by
  obtain ⟨change, small, legs⟩ := evolves.legs
  unfold Journal.refs
  rw [evolves.original, legs, List.filterMap_map]
  have same : (fun leg : Leg => leg.metadata.relatedJournal) ∘ change =
      fun leg => leg.metadata.relatedJournal := by
    funext leg
    rcases small leg with same | same <;> rw [Function.comp_apply, same]
    rfl
  rw [same]

theorem Evolves.oneHash (evolves : before.Evolves after) (oneHash : before.OneHash hash) :
    after.OneHash hash := by
  intro some leg member
  rw [evolves.ofHash] at some
  obtain ⟨original, inBefore, rfl | rfl⟩ := evolves.leg_before member
  · exact oneHash some leg inBefore
  · exact oneHash some original inBefore

end Evolves

end Journal

namespace Ledger

def isOfHash (ledger : Ledger) (hash : PaymentHash) (id : LedgerJournalId) : Bool :=
  (ledger.journals[id]?).any (·.ofHash hash)

def compensations (ledger : Ledger) (since : Nat) (hash : PaymentHash) : Nat :=
  (ledger.journals.drop since).countP fun journal => journal.refs.any (ledger.isOfHash hash)

def settlers (ledger : Ledger) (hash : PaymentHash) : List RunId :=
  (ledger.settles.filter (·.2 = hash)).map (·.1)

def OneHash (ledger : Ledger) (hash : PaymentHash) : Prop :=
  ∀ journal ∈ ledger.journals, journal.OneHash hash

structure Referring (ledger : Ledger) (since : Nat) : Prop where
  old : since ≤ ledger.journals.length
  bound : ∀ journal ∈ ledger.journals.drop since, ∀ id ∈ journal.refs, id < ledger.journals.length

theorem Has.bound {ledger : Ledger} {id : LedgerJournalId} {P : Journal → Prop}
    (has : ledger.Has id P) :
    id < ledger.journals.length := by
  obtain ⟨journal, at_, _⟩ := has
  exact (List.getElem?_eq_some_iff.mp at_).1

theorem Has.isOfHash {ledger : Ledger} {id : LedgerJournalId} {hash : PaymentHash} {value : Bool}
    (has : ledger.Has id (fun journal => journal.ofHash hash = value)) :
    ledger.isOfHash hash id = value := by
  obtain ⟨journal, at_, same⟩ := has
  simp [Ledger.isOfHash, at_, same]

section Grow

variable {before after : Ledger} {since : Nat} {hash : PaymentHash} {more : List Journal}
  {change : Journal → Journal}

theorem isOfHash_grows (grows : before.Grows after) {id : LedgerJournalId}
    (bound : id < before.journals.length) : after.isOfHash hash id = before.isOfHash hash id := by
  obtain ⟨later, at_, evolves⟩ := grows id _ (List.getElem?_eq_getElem bound)
  simp [isOfHash, at_, List.getElem?_eq_getElem bound, evolves.ofHash]

theorem OneHash.grow (oneHash : before.OneHash hash)
    (journals : after.journals = before.journals.map change ++ more)
    (evolves : ∀ journal : Journal, journal.Evolves (change journal))
    (uniform : ∀ journal ∈ more, journal.OneHash hash) : after.OneHash hash := by
  intro journal member
  rw [journals] at member
  rcases List.mem_append.mp member with old | new
  · obtain ⟨original, inBefore, rfl⟩ := List.mem_map.mp old
    exact (evolves original).oneHash (oneHash original inBefore)
  · exact uniform journal new

variable (referring : before.Referring since)
  (journals : after.journals = before.journals.map change ++ more)

include referring journals

theorem drop_grow :
    after.journals.drop since = (before.journals.drop since).map change ++ more := by
  rw [journals, List.drop_append_of_le_length (by simpa using referring.old), List.map_drop]

variable (evolves : ∀ journal : Journal, journal.Evolves (change journal))

include evolves

theorem Referring.grow (bound : ∀ journal ∈ more, ∀ id ∈ journal.refs,
    id < before.journals.length) :
    after.Referring since := by
  have longer : before.journals.length ≤ after.journals.length := by
    rw [journals]
    simp
  refine ⟨le_trans referring.old longer, fun journal member id inRefs => ?_⟩
  rw [drop_grow referring journals] at member
  rcases List.mem_append.mp member with old | new
  · obtain ⟨original, inBefore, rfl⟩ := List.mem_map.mp old
    rw [(evolves original).refs] at inRefs
    exact lt_of_lt_of_le (referring.bound original inBefore id inRefs) longer
  · exact lt_of_lt_of_le (bound journal new id inRefs) longer

theorem compensations_grow (grows : before.Grows after) :
    after.compensations since hash = before.compensations since hash +
      more.countP fun journal => journal.refs.any (after.isOfHash hash) := by
  unfold compensations
  rw [drop_grow referring journals, List.countP_append, List.countP_map]
  congr 1
  refine List.countP_congr fun journal member => ?_
  rw [Function.comp_apply, (evolves journal).refs]
  simp only [List.any_eq_true]
  refine exists_congr fun id => and_congr_right fun inRefs => ?_
  rw [isOfHash_grows grows (referring.bound journal member id inRefs)]

end Grow

variable {ledger after : Ledger} {run : RunId} {clock since : Nat} {hash : PaymentHash}

theorem oneHash_of_no_legs (none : ∀ leg ∈ ledger.legs, leg.ofHash hash = false) :
    ledger.OneHash hash := by
  intro journal inLedger some
  obtain ⟨leg, inJournal, ofHash⟩ := List.any_eq_true.mp some
  rw [none leg (mem_legs.mpr ⟨journal, inLedger, inJournal⟩)] at ofHash
  cases ofHash

theorem referring_length : ledger.Referring ledger.journals.length :=
  ⟨le_refl _, fun journal member => by simp at member⟩

theorem compensations_length : ledger.compensations ledger.journals.length hash = 0 := by
  simp [compensations]

section Commit

variable {entry : Entry} {metadata : TxMetadata} (tagged : entry.Tagged metadata)

include tagged

theorem refs_newJournal {id : LedgerJournalId}
    (member : id ∈ (ledger.newJournal run clock entry).refs) :
    metadata.relatedJournal = some id := by
  obtain ⟨leg, inEntry, related⟩ := List.mem_filterMap.mp member
  obtain ⟨additional, same⟩ := tagged leg inEntry
  rw [same] at related
  exact related

theorem OneHash.commit (oneHash : ledger.OneHash hash) :
    (ledger.commit run clock entry).OneHash hash := by
  refine oneHash.grow (by rw [journals_commit, List.map_id']) .refl fun journal new => ?_
  obtain rfl := List.mem_singleton.mp new
  intro some leg member
  obtain ⟨other, inEntry, ofHash⟩ := List.any_eq_true.mp some
  obtain ⟨additional, same⟩ := tagged leg member
  obtain ⟨otherAdditional, otherSame⟩ := tagged other inEntry
  unfold Leg.ofHash at *
  rw [otherSame] at ofHash
  rw [same]
  exact ofHash

theorem Referring.commit (referring : ledger.Referring since)
    (bound : ∀ id, metadata.relatedJournal = some id → id < ledger.journals.length) :
    (ledger.commit run clock entry).Referring since := by
  refine referring.grow (by rw [journals_commit, List.map_id']) .refl fun journal new id inRefs =>
    ?_
  obtain rfl := List.mem_singleton.mp new
  exact bound id (refs_newJournal tagged inRefs)

omit tagged in
theorem compensations_commit_le (referring : ledger.Referring since) :
    (ledger.commit run clock entry).compensations since hash ≤
      ledger.compensations since hash + 1 := by
  rw [compensations_grow referring (by rw [journals_commit, List.map_id']) .refl
    (grows_commit entry), List.countP_singleton]
  split <;> omega

theorem compensations_commit_other (referring : ledger.Referring since)
    (other : ∀ id, metadata.relatedJournal = some id →
      ledger.Has id (fun journal => journal.ofHash hash = false)) :
    (ledger.commit run clock entry).compensations since hash = ledger.compensations since hash := by
  have grows : ledger.Grows (ledger.commit run clock entry) := grows_commit entry
  rw [compensations_grow referring (by rw [journals_commit, List.map_id']) .refl grows,
    List.countP_singleton, if_neg, Nat.add_zero]
  rw [List.any_eq_true]
  rintro ⟨id, inRefs, isOf⟩
  have has := other id (refs_newJournal tagged inRefs)
  rw [isOfHash_grows grows has.bound, has.isOfHash] at isOf
  cases isOf

end Commit

section Settle

variable {settled : PaymentHash}

theorem settle_journals : (ledger.settlePending run settled).journals =
    ledger.journals.map (Journal.settleFor settled) ++ [] := (List.append_nil _).symm

theorem OneHash.settlePending (oneHash : ledger.OneHash hash) :
    (ledger.settlePending run settled).OneHash hash :=
  oneHash.grow settle_journals (fun journal => .settleFor journal settled) fun _ none => by
    cases none

theorem Referring.settlePending (referring : ledger.Referring since) :
    (ledger.settlePending run settled).Referring since :=
  referring.grow settle_journals (fun journal => .settleFor journal settled) fun _ none => by
    cases none

theorem compensations_settlePending (referring : ledger.Referring since) :
    (ledger.settlePending run settled).compensations since hash = ledger.compensations since hash :=
  compensations_grow referring settle_journals (fun journal => .settleFor journal settled)
    (grows_settlePending settled)

theorem NoPending.settlePending (quiet : ledger.NoPending hash) :
    (ledger.settlePending run settled).NoPending hash := by
  intro leg member
  rw [legs_settlePending] at member
  obtain ⟨original, inLedger, rfl⟩ := List.mem_map.mp member
  have before := quiet original inLedger
  unfold Leg.settleFor
  split
  · simp [Leg.isPendingFor, Leg.settle]
  · exact before

theorem settlers_settlePending (pending : ¬ledger.NoPending hash) :
    (ledger.settlePending run hash).settlers hash = ledger.settlers hash ++ [run] := by
  unfold settlers Ledger.settlePending
  dsimp only
  rw [if_pos (modifiedCount_pos.mpr pending), List.filter_append]
  simp

theorem settlers_settlePending_quiet (quiet : settled = hash → ledger.NoPending hash) :
    (ledger.settlePending run settled).settlers hash = ledger.settlers hash := by
  unfold settlers Ledger.settlePending
  dsimp only
  split
  · rename_i positive
    have other : settled ≠ hash := by
      rintro rfl
      exact modifiedCount_pos.mp positive (quiet rfl)
    simp [other]
  · rfl

end Settle

section Void

variable {id : LedgerJournalId} {reason : String}

theorem settlers_void (voided : ledger.void run clock id reason = some after) :
    after.settlers hash = ledger.settlers hash := by
  obtain ⟨_, _, _, settles, _⟩ := void_inversion voided
  unfold settlers
  rw [settles]

theorem OneHash.void (oneHash : ledger.OneHash hash)
    (voided : ledger.void run clock id reason = some after) : after.OneHash hash := by
  obtain ⟨original, found, _, _, journals⟩ := void_inversion voided
  refine oneHash.grow journals (fun journal => .markVoided journal id) fun journal new => ?_
  obtain rfl := List.mem_singleton.mp new
  intro some leg inReversal
  obtain ⟨mirrored, inOriginal, rfl⟩ := List.mem_map.mp inReversal
  rw [Journal.ofHash, List.any_map] at some
  exact oneHash original (journal?_mem found) some mirrored inOriginal

theorem Referring.void (referring : ledger.Referring since) (numbered : ledger.Numbered)
    (voided : ledger.void run clock id reason = some after) : after.Referring since := by
  obtain ⟨original, found, _, _, journals⟩ := void_inversion voided
  refine referring.grow journals (fun journal => .markVoided journal id)
    fun journal new ref inRefs => ?_
  obtain rfl := List.mem_singleton.mp new
  obtain rfl := List.mem_singleton.mp inRefs
  rw [journal?_eq_getElem? numbered] at found
  exact (List.getElem?_eq_some_iff.mp found).1

theorem compensations_void_le (referring : ledger.Referring since)
    (voided : ledger.void run clock id reason = some after) :
    after.compensations since hash ≤ ledger.compensations since hash + 1 := by
  obtain ⟨original, found, _, _, journals⟩ := void_inversion voided
  rw [compensations_grow referring journals (fun journal => .markVoided journal id)
    (grows_void voided), List.countP_singleton]
  split <;> omega

theorem compensations_void_other (referring : ledger.Referring since)
    (other : ledger.Has id (fun journal => journal.ofHash hash = false))
    (voided : ledger.void run clock id reason = some after) :
    after.compensations since hash = ledger.compensations since hash := by
  obtain ⟨original, found, _, _, journals⟩ := void_inversion voided
  rw [compensations_grow referring journals (fun journal => .markVoided journal id)
    (grows_void voided), List.countP_singleton, if_neg, Nat.add_zero]
  rw [List.any_eq_true]
  rintro ⟨ref, inRefs, isOf⟩
  obtain rfl := List.mem_singleton.mp inRefs
  rw [isOfHash_grows (grows_void voided) other.bound, other.isOfHash] at isOf
  cases isOf

end Void

end Ledger

end Galoy
