import Galoy.Ledger.Journals

set_option autoImplicit false

namespace Galoy

open Interleave

structure Journal.Evolves (before after : Journal) : Prop where
  original : after.originalJournal = before.originalJournal
  legs : ∃ change : Leg → Leg, (∀ leg, change leg = leg ∨ change leg = leg.settle) ∧
    after.legs = before.legs.map change

namespace Journal.Evolves

variable {before middle after : Journal}

theorem refl (journal : Journal) : journal.Evolves journal :=
  ⟨rfl, fun leg => leg, fun _ => .inl rfl, (List.map_id' _).symm⟩

theorem trans (first : before.Evolves middle) (second : middle.Evolves after) :
    before.Evolves after := by
  obtain ⟨original, change, small, legs⟩ := first
  obtain ⟨laterOriginal, laterChange, laterSmall, laterLegs⟩ := second
  refine ⟨laterOriginal.trans original, laterChange ∘ change, fun leg => ?_, ?_⟩
  · have settled : leg.settle.settle = leg.settle := rfl
    rcases small leg with same | same <;> rcases laterSmall (change leg) with again | again <;>
      simp [same] at again <;> simp [same, again, settled]
  · rw [laterLegs, legs, List.map_map]

theorem settleFor (journal : Journal) (hash : PaymentHash) :
    journal.Evolves (journal.settleFor hash) := by
  refine ⟨rfl, Leg.settleFor hash, fun leg => ?_, rfl⟩
  unfold Leg.settleFor
  split
  · exact .inr rfl
  · exact .inl rfl

theorem markVoided (journal : Journal) (id : LedgerJournalId) :
    journal.Evolves (journal.markVoided id) := by
  unfold Journal.markVoided
  split
  · exact ⟨rfl, fun leg => leg, fun _ => .inl rfl, (List.map_id' _).symm⟩
  · exact refl journal

theorem leg_before (evolves : before.Evolves after) {leg : Leg} (member : leg ∈ after.legs) :
    ∃ original ∈ before.legs, leg = original ∨ leg = original.settle := by
  obtain ⟨change, small, legs⟩ := evolves.legs
  rw [legs] at member
  obtain ⟨original, inBefore, rfl⟩ := List.mem_map.mp member
  exact ⟨original, inBefore, small original⟩

theorem netOver (evolves : before.Evolves after) (q : Selection) :
    Galoy.netOver q after.legs = Galoy.netOver q before.legs := by
  obtain ⟨change, small, legs⟩ := evolves.legs
  rw [legs]
  refine netOver_map_of_kept q change (fun leg => ?_) before.legs
  rcases small leg with same | same <;> rw [same] <;> exact ⟨rfl, rfl, rfl⟩

theorem hash (evolves : before.Evolves after) {hash : Option PaymentHash}
    (uniform : ∀ leg ∈ before.legs, leg.metadata.hash = hash) :
    ∀ leg ∈ after.legs, leg.metadata.hash = hash := by
  intro leg member
  obtain ⟨original, inBefore, rfl | rfl⟩ := evolves.leg_before member
  · exact uniform leg inBefore
  · exact uniform original inBefore

theorem settled (evolves : before.Evolves after)
    (settled : ∀ leg ∈ before.legs, leg.metadata.pending = false) :
    ∀ leg ∈ after.legs, leg.metadata.pending = false := by
  intro leg member
  obtain ⟨original, inBefore, rfl | rfl⟩ := evolves.leg_before member
  · exact settled leg inBefore
  · rfl

end Journal.Evolves

namespace Ledger

def Grows (before after : Ledger) : Prop :=
  ∀ (i : Nat) (journal : Journal), before.journals[i]? = some journal →
    ∃ later, after.journals[i]? = some later ∧ journal.Evolves later

section Grows

variable {before middle after ledger : Ledger} {run : RunId} {clock : Nat}

theorem Grows.refl (ledger : Ledger) : ledger.Grows ledger :=
  fun _ journal at_ => ⟨journal, at_, .refl journal⟩

theorem Grows.trans (first : before.Grows middle) (second : middle.Grows after) :
    before.Grows after := by
  intro i journal at_
  obtain ⟨later, atMiddle, evolves⟩ := first i journal at_
  obtain ⟨last, atAfter, evolvesAgain⟩ := second i later atMiddle
  exact ⟨last, atAfter, evolves.trans evolvesAgain⟩

theorem getElem?_append {journals : List Journal} {i : Nat} {journal : Journal}
    (at_ : journals[i]? = some journal) (more : List Journal) : (journals ++ more)[i]? =
      some journal := by
  rw [List.getElem?_append_left (List.getElem?_eq_some_iff.mp at_).1]
  exact at_

theorem grows_commit (entry : Entry) : ledger.Grows (ledger.commit run clock entry) :=
  fun _ journal at_ => ⟨journal, getElem?_append at_ _, .refl journal⟩

theorem grows_settlePending (hash : PaymentHash) :
    ledger.Grows (ledger.settlePending run hash) := by
  intro i journal at_
  exact ⟨journal.settleFor hash, by simp [settlePending, at_], .settleFor journal hash⟩

theorem grows_void {id : LedgerJournalId} {reason : String}
    (voided : ledger.void run clock id reason = some after) : ledger.Grows after := by
  obtain ⟨_, _, _, _, journals⟩ := void_inversion voided
  intro i journal at_
  refine ⟨journal.markVoided id, ?_, .markVoided journal id⟩
  rw [journals]
  exact getElem?_append (by simp [at_]) _

end Grows

def Has (ledger : Ledger) (id : LedgerJournalId) (P : Journal → Prop) : Prop :=
  ∃ journal, ledger.journals[id]? = some journal ∧ P journal

theorem Has.grow {before after : Ledger} {id : LedgerJournalId} {P : Journal → Prop}
    (has : before.Has id P) (grows : before.Grows after)
    (kept : ∀ journal later : Journal, journal.Evolves later → P journal → P later) :
    after.Has id P := by
  obtain ⟨journal, at_, holds⟩ := has
  obtain ⟨later, atAfter, evolves⟩ := grows id journal at_
  exact ⟨later, atAfter, kept journal later evolves holds⟩

section Balance

variable {ledger after : Ledger} {run : RunId} {clock : Nat} (account : LedgerAccountId)

theorem balance_commit (entry : Entry) :
    (ledger.commit run clock entry).balance account =
      ledger.balance account + netOver (fun a _ => a = account) entry.transactions := by
  rw [balance_eq_netOver, balance_eq_netOver, legs_commit, netOver_append]

theorem balance_settlePending (hash : PaymentHash) :
    (ledger.settlePending run hash).balance account = ledger.balance account := by
  rw [balance_eq_netOver, balance_eq_netOver, legs_settlePending, netOver_map_settleFor]

theorem balance_void {id : LedgerJournalId} {reason : String}
    (voided : ledger.void run clock id reason = some after) :
    ∃ original, ledger.journal? id = some original ∧
      after.balance account =
        ledger.balance account - netOver (fun a _ => a = account) original.legs := by
  obtain ⟨original, found, legs⟩ := legs_void voided
  refine ⟨original, found, ?_⟩
  rw [balance_eq_netOver, balance_eq_netOver, legs, netOver_append, netOver_map_reversed,
    sub_eq_add_neg]

end Balance

end Ledger

end Galoy
