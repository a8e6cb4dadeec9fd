import Galoy.Ledger.Entries
import Galoy.Ledger.Evolution
import Galoy.OnChain.ChainEvents
import Galoy.OnChain.WithdrawalBalance
import Mathlib.Data.List.Nodup

set_option autoImplicit false

namespace Galoy.ChainEvents

open Interleave
open Withdrawal (OnChainPayment)

section Entry

variable {bank : BankWallets} {entry : Entry} {args : LedgerService.AddOnChainTxSendArgs}
  {leg : Leg}

theorem sendEntry_tagged {account : LedgerAccountId} {metadata : TxMetadata} {description : String}
    {fee sats : BtcPaymentAmount} : Entry.Tagged metadata
      (LegacyEntryBuilderCreditWithBtcDebit.creditLnd
        (((legacyEntryBuilder bank description metadata).withFee fee).debitAccount
          account sats)) := by
  have empty : Entry.Tagged metadata { description } := fun _ member => nomatch member
  refine Entry.Tagged.removeZeroAmountEntries
    (Entry.Tagged.credit (Entry.Tagged.debit ?_ _ _ _) _ _ _)
  unfold LegacyEntryBuilder.withFee
  dsimp only
  split
  · exact empty.credit _ _ _
  · exact empty

theorem addOnChainTxSend_leg (btc : args.walletCurrency = .btc)
    (built : LedgerService.addOnChainTxSend bank args = .ok entry)
    (member : leg ∈ entry.transactions) :
    leg.metadata.hash = some args.txHash ∧ leg.metadata.pending = true ∧
      leg.metadata.fee = some args.totalFee := by
  unfold LedgerService.addOnChainTxSend at built
  dsimp only at built
  split at built
  · unfold LedgerService.addSendInternalFee at built
    simp only [btc, ne_eq, not_true_eq_false, if_false] at built
    obtain ⟨fee, _, built⟩ := bind_eq_ok built
    obtain ⟨sats, _, built⟩ := bind_eq_ok built
    cases built
    obtain ⟨_, same⟩ := sendEntry_tagged leg member
    rw [same]
    exact ⟨rfl, rfl, rfl⟩
  · unfold LedgerService.addSendNoInternalFee at built
    obtain ⟨sats, _, built⟩ := bind_eq_ok built
    simp only [btc] at built
    cases built
    obtain ⟨_, same⟩ := sendEntry_tagged leg member
    rw [same]
    exact ⟨rfl, rfl, rfl⟩

end Entry

section Journals

variable {before middle after : Journal} {payment : OnChainPayment} {run : RunId} {amount : ℚ}

structure Recast (before after : Journal) : Prop where
  id : after.id = before.id
  writer : after.writtenBy = before.writtenBy
  legs : ∃ change : Leg → Leg, (∀ leg, (change leg).account = leg.account ∧
    (change leg).debit = leg.debit ∧
    (change leg).metadata.fee = leg.metadata.fee) ∧ after.legs = before.legs.map change

theorem Recast.refl (journal : Journal) : Recast journal journal :=
  ⟨rfl, rfl, fun leg => leg, fun _ => ⟨rfl, rfl, rfl⟩, (List.map_id' _).symm⟩

theorem Recast.trans (first : Recast before middle) (second : Recast middle after) :
    Recast before after := by
  obtain ⟨change, same, legs⟩ := first.legs
  obtain ⟨laterChange, laterSame, laterLegs⟩ := second.legs
  refine ⟨second.id.trans first.id, second.writer.trans first.writer, laterChange ∘ change,
    fun leg => ?_, ?_⟩
  · obtain ⟨account, debit, fee⟩ := same leg
    obtain ⟨laterAccount, laterDebit, laterFee⟩ := laterSame (change leg)
    exact ⟨laterAccount.trans account, laterDebit.trans debit, laterFee.trans fee⟩
  · rw [laterLegs, legs, List.map_map]

structure Covers (payment : OnChainPayment) (run : RunId) (amount : ℚ)
    (journal : Journal) : Prop where
  writer : journal.writtenBy = run
  debit : ∃ fee, (∀ leg ∈ journal.legs, leg.metadata.fee = some fee) ∧
    outgoing payment.debits journal.legs = amount + fee

theorem Covers.recast (covers : Covers payment run amount before) (recast : Recast before after) :
    Covers payment run amount after := by
  obtain ⟨fee, fees, debited⟩ := covers.debit
  obtain ⟨change, same, legs⟩ := recast.legs
  refine ⟨recast.writer.trans covers.writer, fee, fun leg member => ?_, ?_⟩
  · rw [legs] at member
    obtain ⟨earlier, inBefore, rfl⟩ := List.mem_map.mp member
    exact (same earlier).2.2.trans (fees earlier inBefore)
  · rw [legs, ← debited]
    refine legSum_map (fun leg => ⟨?_, (same leg).2.1⟩) before.legs
    simp [OnChainPayment.debits, (same leg).1]

end Journals

def Follows (before after : Ledger) : Prop :=
  ∀ (i : Nat) (journal : Journal), before.journals[i]? = some journal →
    ∃ later, after.journals[i]? = some later ∧ Recast journal later

-- The refusals after which the withdrawal is reverted.
def Refusal (error : AppError) : Prop :=
  error.name = .InsufficientOnChainFundsError ∨ error.name = .CPFPAncestorLimitReachedError

section Histories

variable (w : World) (run : RunId)

def World.Answered (answer : Result OnChainTxHash) : Prop :=
  ∃ request ∈ w.requests, request.run = run ∧ request.answer = answer

def World.Refused : Prop := ∃ error, w.Answered run (.error error) ∧ Refusal error

def World.Unasked : Prop := ∀ request ∈ w.requests, request.run ≠ run

end Histories

structure Setting where
  jobs : RunId → Job
  start : World
  temporary : OnChainTxHash → Bool
  temporary_hash : ∀ run payment, jobs run = .withdrawal payment →
    temporary payment.temporaryHash = true
  real_hash : ∀ run tx, jobs run = .transactionEvent tx → temporary tx.id = false
  numbered : start.ledger.Numbered
  unasked : start.requests = []

namespace Setting

variable (S : Setting)

def since : Nat := S.start.ledger.journals.length

def Confirmed (hash : OnChainTxHash) : Prop :=
  ∃ run tx, S.jobs run = .transactionEvent tx ∧ tx.isOutgoing = true ∧
    tx.isConfirmed = true ∧ tx.id = hash

/-- A leg has the temporary hash or that of the transaction, and is settled for a reason. -/
structure Explained (w : World) (journal : Journal) : Prop where
  hash : ∀ leg ∈ journal.legs, ∃ hash, leg.metadata.hash = some hash ∧
    (S.temporary hash = true ∨ w.Answered journal.writtenBy (.ok hash))
  settled : ∀ leg ∈ journal.legs, leg.metadata.pending = false →
    w.Refused journal.writtenBy ∨ ∃ hash, S.Confirmed hash ∧ w.Answered journal.writtenBy (.ok hash)
  voided : journal.voided = true → w.Refused journal.writtenBy

def Written (payment : OnChainPayment) (run : RunId) (amount : ℚ) (id : LedgerJournalId)
    (w : World) : Prop :=
  S.since ≤ id ∧ w.ledger.Has id (Covers payment run amount)

structure Sound (w : World) : Prop where
  numbered : w.ledger.Numbered
  grown : S.since ≤ w.ledger.journals.length
  explained : ∀ journal ∈ w.ledger.journals.drop S.since, S.Explained w journal
  once : (w.requests.map (·.run)).Nodup
  covered : ∀ request ∈ w.requests, ∃ payment id, S.jobs request.run = .withdrawal payment ∧
    request.address = payment.address ∧ S.Written payment request.run request.amount id w

structure Others (run : RunId) (before after : World) : Prop where
  requests : ∀ request ∈ before.requests, request ∈ after.requests
  follows : Follows before.ledger after.ledger
  unasked : before.Unasked run → after.Unasked run

def settlement : Discipline World where
  inv := S.Sound
  rely := Others
  rely_refl _ _ := ⟨fun _ h => h, fun _ journal at_ => ⟨journal, at_, .refl journal⟩, fun h => h⟩
  rely_trans _ _ _ _ first second := by
    refine ⟨fun request member => second.requests request (first.requests request member),
      fun i journal at_ => ?_, fun unasked => second.unasked (first.unasked unasked)⟩
    obtain ⟨later, middle, recast⟩ := first.follows i journal at_
    obtain ⟨last, place, again⟩ := second.follows i later middle
    exact ⟨last, place, recast.trans again⟩

variable {S} {before middle after : World} {run : RunId} {payment : OnChainPayment} {amount : ℚ}
  {id : LedgerJournalId}

theorem Sound.once_answered {w : World} (good : S.Sound w) {first second : Result OnChainTxHash}
    (one : w.Answered run first) (two : w.Answered run second) : first = second := by
  obtain ⟨request, member, isRun, rfl⟩ := one
  obtain ⟨other, inOther, isRunToo, rfl⟩ := two
  rw [List.inj_on_of_nodup_map good.once member inOther (isRun.trans isRunToo.symm)]

theorem Written.follow (written : S.Written payment run amount id before)
    (follows : Follows before.ledger after.ledger) : S.Written payment run amount id after := by
  obtain ⟨above, journal, at_, covers⟩ := written
  obtain ⟨later, place, recast⟩ := follows id journal at_
  exact ⟨above, later, place, covers.recast recast⟩

theorem Written.writer (written : S.Written payment run amount id before) (good : S.Sound before)
    {journal : Journal} (member : journal ∈ before.ledger.journals) (isId : journal.id = id) :
    journal.writtenBy = run := by
  obtain ⟨-, mine, place, covers⟩ := written
  obtain ⟨i, at_⟩ := List.getElem?_of_mem member
  obtain rfl : i = id := (good.numbered i journal at_).symm.trans isId
  rw [Option.some.inj (at_.symm.trans place)]
  exact covers.writer

theorem Explained.grow {journal : Journal} (explained : S.Explained before journal)
    (requests : ∀ request ∈ before.requests, request ∈ after.requests) :
    S.Explained after journal := by
  have answered : ∀ answer, before.Answered journal.writtenBy answer →
      after.Answered journal.writtenBy answer :=
    fun answer ⟨request, member, rest⟩ => ⟨request, requests request member, rest⟩
  have refused : before.Refused journal.writtenBy → after.Refused journal.writtenBy :=
    fun ⟨error, isError, refusal⟩ => ⟨error, answered _ isError, refusal⟩
  refine ⟨fun leg member => ?_, fun leg member isSettled => ?_, fun voided =>
    refused (explained.voided voided)⟩
  · obtain ⟨hash, isHash, reason⟩ := explained.hash leg member
    exact ⟨hash, isHash, reason.imp_right (answered _)⟩
  · exact (explained.settled leg member isSettled).imp refused
      fun ⟨hash, isConfirmed, isPaid⟩ => ⟨hash, isConfirmed, answered _ isPaid⟩

theorem guaranteed_of_shape (f : Journal → Journal) (more : Option Journal) (good : S.Sound before)
    (shape : after.ledger.journals = before.ledger.journals.map f ++ more.toList)
    (recast : ∀ journal, Recast journal (f journal)) (requests : after.requests = before.requests)
    (new : ∀ journal ∈ more, journal.id = before.ledger.journals.length ∧
      S.Explained before journal)
    (explained : ∀ journal ∈ before.ledger.journals, S.Explained before journal →
      S.Explained before (f journal)) :
    S.settlement.Guaranteed run before after := by
  have follows : Follows before.ledger after.ledger := by
    intro i journal at_
    refine ⟨f journal, ?_, recast journal⟩
    rw [shape]
    exact Ledger.getElem?_append (by simp [at_]) _
  refine ⟨⟨fun i journal at_ => ?_, good.grown.trans (by simp [shape]), fun journal member =>
    ?_, requests ▸ good.once, fun request member => ?_⟩, fun other _ =>
      ⟨fun _ member => requests ▸ member, follows, ?_⟩⟩
  · rw [shape] at at_
    rcases Nat.lt_or_ge i (before.ledger.journals.map f).length with below | above
    · rw [List.getElem?_append_left below, List.getElem?_map, Option.map_eq_some_iff] at at_
      obtain ⟨earlier, found, rfl⟩ := at_
      exact (recast earlier).id.trans (good.numbered i earlier found)
    · rw [List.getElem?_append_right above] at at_
      cases more with
      | none => cases at_
      | some last =>
        obtain ⟨first, rfl⟩ : i - (before.ledger.journals.map f).length = 0 ∧ last = journal := by
          simpa [List.getElem?_singleton] using at_
        rw [(new last rfl).1, ← List.length_map f]
        exact Nat.le_antisymm above (Nat.sub_eq_zero_iff_le.mp first)
  · rw [shape, List.drop_append_of_le_length (by simpa using good.grown), ← List.map_drop] at member
    have known : S.Explained before journal := by
      rcases List.mem_append.mp member with old | isNew
      · obtain ⟨earlier, inBefore, rfl⟩ := List.mem_map.mp old
        exact explained earlier (List.mem_of_mem_drop inBefore) (good.explained earlier inBefore)
      · exact (new journal (by simpa using isNew)).2
    exact known.grow fun _ h => requests ▸ h
  · obtain ⟨payment, id, job, address, written⟩ := good.covered request (requests ▸ member)
    exact ⟨payment, id, job, address, written.follow follows⟩
  · rw [World.Unasked, World.Unasked, requests]
    exact fun h => h

theorem quiet_guaranteed (good : S.Sound before) (ledger : after.ledger = before.ledger)
    (requests : after.requests = before.requests) : S.settlement.Guaranteed run before after :=
  guaranteed_of_shape (fun journal => journal) none good (by simp [ledger]) .refl requests
    (fun _ member => by cases member) (fun _ _ explained => explained)

theorem confirm_guaranteed (good : S.Sound before) {hash : OnChainTxHash}
    (real : S.temporary hash = false) (event : S.Confirmed hash) :
    S.settlement.Guaranteed run before
      (before.setLedger (before.ledger.settlePending run hash)) := by
  have kept (leg : Leg) : (leg.settleFor hash).account = leg.account ∧
      (leg.settleFor hash).debit = leg.debit ∧
      (leg.settleFor hash).metadata.fee = leg.metadata.fee ∧
      (leg.settleFor hash).metadata.hash = leg.metadata.hash := by
    unfold Leg.settleFor
    split <;> exact ⟨rfl, rfl, rfl, rfl⟩
  refine guaranteed_of_shape (Journal.settleFor hash) none good (List.append_nil _).symm
    (fun journal => ?_) rfl (fun _ member => by cases member) ?_
  · exact ⟨rfl, rfl, Leg.settleFor hash, fun leg =>
      ⟨(kept leg).1, (kept leg).2.1, (kept leg).2.2.1⟩, rfl⟩
  · refine fun journal _ explained => ⟨fun leg member => ?_, fun leg member isSettled => ?_, explained.voided⟩ <;>
      obtain ⟨earlier, inJournal, rfl⟩ := List.mem_map.mp member <;>
      obtain ⟨other, isOther, reason⟩ := explained.hash earlier inJournal
    · exact ⟨other, (kept earlier).2.2.2.trans isOther, reason⟩
    · by_cases isHash : earlier.ofHash hash = true
      · -- The hash is not a temporary one, so it is the one that the withdrawal of the leg was paid with.
        obtain rfl := Option.some.inj ((of_decide_eq_true isHash).symm.trans isOther)
        exact .inr ⟨hash, event, reason.resolve_left (by simp [real])⟩
      · rw [Leg.settleFor, if_neg isHash] at isSettled
        exact explained.settled earlier inJournal isSettled

section Changes

variable (written : S.Written payment run amount id before) (good : S.Sound before)

include written good

theorem change_guaranteed (change : Journal → Journal) (more : Option Journal)
    {ledger : Ledger} {clock : Nat}
    (shape : ledger.journals = (before.ledger.journals.map fun journal =>
      if journal.id = id then change journal else journal) ++ more.toList)
    (recast : ∀ journal, Recast journal (change journal))
    (new : ∀ journal ∈ more, journal.id = before.ledger.journals.length ∧
      S.Explained before journal)
    (explained : ∀ journal, journal.writtenBy = run → S.Explained before journal →
      S.Explained before (change journal)) :
    S.settlement.Guaranteed run before
      { before with withdrawals := { before.withdrawals with clock, ledger } } := by
  refine guaranteed_of_shape _ more good shape (fun journal => ?_) rfl new
    fun journal member already => ?_
  · split
    · exact recast journal
    · exact .refl journal
  · split
    · rename_i isId
      exact explained journal (written.writer good member isId) already
    · exact already

theorem settleJournal_guaranteed (refused : before.Refused run) :
    S.settlement.Guaranteed run before (before.setLedger (before.ledger.settleJournal id)) := by
  refine change_guaranteed written good
    (fun journal => { journal with legs := journal.legs.map Leg.settle }) none
      (List.append_nil _).symm (fun _ => ⟨rfl, rfl, Leg.settle, fun _ => ⟨rfl, rfl, rfl⟩, rfl⟩)
    (fun _ member => by cases member) fun journal writer explained => ?_
  refine ⟨fun leg member => ?_, fun _ _ _ => .inl (writer ▸ refused), explained.voided⟩
  obtain ⟨earlier, inJournal, rfl⟩ := List.mem_map.mp member
  exact explained.hash earlier inJournal

theorem void_guaranteed (refused : before.Refused run) {clock : Nat} {reason : String}
    {reverted : Ledger} (voided : before.ledger.void run clock id reason = some reverted) :
    S.settlement.Guaranteed run before
      { before with withdrawals := { before.withdrawals with clock, ledger := reverted } } := by
  obtain ⟨original, found, _, _, journals⟩ := Ledger.void_inversion voided
  have isId : original.id = id := by simpa using List.find?_some found
  have writer := written.writer good (Ledger.journal?_mem found) isId
  have explained : S.Explained before original := by
    refine good.explained original (List.mem_iff_getElem?.mpr ⟨id - S.since, ?_⟩)
    rw [List.getElem?_drop, Nat.add_sub_cancel' written.1, ← Ledger.journal?_eq_getElem?
      good.numbered, found]
  refine change_guaranteed written good (fun journal => { journal with voided := true })
    (some _) journals (fun journal => ⟨rfl, rfl, (Recast.refl journal).legs⟩)
      (fun journal new => ?_)
    fun journal writer explained => ⟨explained.hash, explained.settled, fun _ => writer ▸ refused⟩
  obtain rfl := Option.some.inj new
  refine ⟨rfl, fun leg mirrored => ?_, fun _ _ _ => .inl refused, fun isVoided => by cases isVoided⟩
  obtain ⟨earlier, inOriginal, rfl⟩ := List.mem_map.mp mirrored
  exact writer ▸ explained.hash earlier inOriginal

theorem setHash_guaranteed {hash : OnChainTxHash} (paid : before.Answered run (.ok hash)) :
    S.settlement.Guaranteed run before (before.setLedger
      { before.ledger with journals :=
        before.ledger.journals.map (Withdrawal.Journal.setHash id hash) }) := by
  let renamed (leg : Leg) : Leg := { leg with metadata := { leg.metadata with hash := some hash } }
  refine change_guaranteed written good
    (fun journal => { journal with legs := journal.legs.map renamed }) none (List.append_nil _).symm
      (fun _ => ⟨rfl, rfl, renamed, fun _ => ⟨rfl, rfl, rfl⟩, rfl⟩)
    (fun _ member => by cases member) fun journal writer explained => ?_
  refine ⟨fun leg member => ?_, fun leg member isSettled => ?_, explained.voided⟩ <;>
    obtain ⟨earlier, inJournal, rfl⟩ := List.mem_map.mp member
  · exact ⟨hash, rfl, .inr (writer ▸ paid)⟩
  · exact explained.settled earlier inJournal isSettled

theorem request_guaranteed (unasked : before.Unasked run) (job : S.jobs run = .withdrawal payment)
    (answer : Result OnChainTxHash) :
    S.settlement.Guaranteed run before
      { before with requests := before.requests ++ [⟨run, payment.address, amount, answer⟩] } := by
  refine ⟨⟨good.numbered, good.grown, fun journal member => ?_, ?_, fun asked inAfter => ?_⟩,
    fun other different => ⟨fun _ => List.mem_append_left _, fun _ journal at_ =>
      ⟨journal, at_, .refl journal⟩, fun free asked inAfter => ?_⟩⟩
  · exact (good.explained journal member).grow fun _ => List.mem_append_left _
  · rw [List.map_append, List.map_singleton]
    refine List.nodup_append.mpr ⟨good.once, List.nodup_singleton _,
      fun earlier inBefore last isLast same => ?_⟩
    obtain ⟨asked, inRequests, rfl⟩ := List.mem_map.mp inBefore
    exact unasked asked inRequests (same.trans (List.mem_singleton.mp isLast))
  · rcases List.mem_append.mp inAfter with old | new
    · exact good.covered asked old
    · obtain rfl := List.mem_singleton.mp new
      exact ⟨payment, id, job, rfl, written⟩
  · rcases List.mem_append.mp inAfter with old | new
    · exact free asked old
    · rw [List.mem_singleton.mp new]
      exact different.symm

end Changes

end Setting

end Galoy.ChainEvents
