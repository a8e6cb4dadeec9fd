import Galoy.Interleave.Embed

set_option autoImplicit false

namespace Interleave

variable {World Call Wide WideCall : Type} {Reply : Call → Type} {WideReply : WideCall → Type}
  {α β ε : Type}

namespace Prog

def AtMost (counted : Call → Prop) : Nat → Prog Call Reply α → Prop
  | _, .pure _ => True
  | limit, .call c next =>
    (counted c → 0 < limit ∧ ∀ reply, (next reply).AtMost counted (limit - 1)) ∧
      (¬ counted c → ∀ reply, (next reply).AtMost counted limit)

variable {counted : Call → Prop}

theorem AtMost.mono {p : Prog Call Reply α} {limit more : Nat} (bounded : p.AtMost counted limit)
    (le : limit ≤ more) : p.AtMost counted more := by
  induction p generalizing limit more with
  | pure value => trivial
  | call c next ih =>
    constructor
    · intro isCounted
      obtain ⟨positive, rest⟩ := bounded.1 isCounted
      exact ⟨by omega, fun reply => ih reply (rest reply) (by omega)⟩
    · intro uncounted reply
      exact ih reply (bounded.2 uncounted reply) le

theorem AtMost.of_only {p : Prog Call Reply α} (only : p.Only fun c => ¬ counted c) :
    p.AtMost counted 0 := by
  induction p with
  | pure value => trivial
  | call c next ih =>
    exact ⟨fun isCounted => absurd isCounted only.1, fun _ reply => ih reply (only.2 reply)⟩

theorem AtMost.request (c : Call) : (request c : Prog Call Reply (Reply c)).AtMost counted 1 :=
  ⟨fun _ => ⟨Nat.one_pos, fun _ => trivial⟩, fun _ _ => trivial⟩

theorem AtMost.bind {p : Prog Call Reply α} {f : α → Prog Call Reply β} {limit more : Nat}
    (first : p.AtMost counted limit) (rest : ∀ value, (f value).AtMost counted more) :
    (p >>= f).AtMost counted (limit + more) := by
  induction p generalizing limit with
  | pure value => exact (rest value).mono (by omega)
  | call c next ih =>
    constructor
    · intro isCounted
      obtain ⟨positive, later⟩ := first.1 isCounted
      have pred : limit + more - 1 = limit - 1 + more := by omega
      rw [pred]
      exact ⟨by omega, fun reply => ih reply (later reply)⟩
    · intro uncounted reply
      exact ih reply (first.2 uncounted reply)

theorem AtMost.embed {e : Embedding Call Reply WideCall WideReply} {wide : WideCall → Prop}
    (same : ∀ c, wide (e.call c) ↔ counted c) {p : Prog Call Reply α} {limit : Nat}
    (bounded : p.AtMost counted limit) : (p.embed e).AtMost wide limit := by
  induction p generalizing limit with
  | pure value => trivial
  | call c next ih =>
    refine ⟨fun isCounted => ?_, fun uncounted reply => ?_⟩
    · obtain ⟨positive, rest⟩ := bounded.1 ((same c).mp isCounted)
      exact ⟨positive, fun reply => ih _ (rest (e.reply c reply))⟩
    · exact ih _ (bounded.2 (fun isCounted => uncounted ((same c).mpr isCounted)) (e.reply c reply))

end Prog

section Failing

variable {counted : Call → Prop}

def AtMostRun (counted : Call → Prop) (limit : Nat) (x : ExceptT ε (Prog Call Reply) α) : Prop :=
  Prog.AtMost counted limit x.run

theorem AtMostRun.of_only {x : ExceptT ε (Prog Call Reply) α}
    (only : OnlyRun (fun c => ¬ counted c) x) :
    AtMostRun counted 0 x :=
  Prog.AtMost.of_only only

theorem AtMostRun.mono {x : ExceptT ε (Prog Call Reply) α} {limit more : Nat}
    (bounded : AtMostRun counted limit x) (le : limit ≤ more) : AtMostRun counted more x :=
  Prog.AtMost.mono bounded le

theorem AtMostRun.bind {x : ExceptT ε (Prog Call Reply) α} {f : α → ExceptT ε (Prog Call Reply) β}
    {limit more : Nat} (first : AtMostRun counted limit x)
    (rest : ∀ value, AtMostRun counted more (f value)) :
    AtMostRun counted (limit + more) (x >>= f) := by
  refine Prog.AtMost.bind first fun result => ?_
  cases result with
  | error error => trivial
  | ok value => exact rest value

theorem AtMostRun.lift {p : Prog Call Reply α} {limit : Nat} (bounded : p.AtMost counted limit) :
    AtMostRun counted limit (ExceptT.lift p : ExceptT ε (Prog Call Reply) α) := by
  have rest : ∀ value : α, (Prog.pure (.ok value) : Prog Call Reply (Except ε α)).AtMost counted
      0 := fun _ => trivial
  exact Prog.AtMost.bind bounded rest

theorem AtMostRun.after {x : ExceptT ε (Prog Call Reply) α} {f : α → ExceptT ε (Prog Call Reply) β}
    {limit : Nat} (only : OnlyRun (fun c => ¬ counted c) x)
    (rest : ∀ value, AtMostRun counted limit (f value)) :
    AtMostRun counted limit (x >>= f) := by
  have bounded := (AtMostRun.of_only only).bind rest
  rwa [Nat.zero_add] at bounded

theorem AtMostRun.before {x : ExceptT ε (Prog Call Reply) α} {f : α → ExceptT ε (Prog Call Reply) β}
    {limit : Nat} (first : AtMostRun counted limit x)
    (only : ∀ value, OnlyRun (fun c => ¬ counted c) (f value)) :
    AtMostRun counted limit (x >>= f) :=
  first.bind fun value => AtMostRun.of_only (only value)

end Failing

section Measure

variable {S : Service World Call Reply} {permit : Permit S} {D : Discipline World} {run : RunId}
  {counted : Call → Prop}

theorem Triple.atMost {allowed : Call → Prop} {keep : World → Prop} {measure : World → Nat}
    {bound limit : Nat} {p : Prog Call Reply α} (stable : D.Stable run keep)
    (others : ∀ before after, D.rely run before after → measure after = measure before)
    (served : ∀ c, allowed c → ∀ before a reply after, D.inv before → keep before →
      (counted c → measure before < bound) → permit run before c a →
      S.serve run before c a = some (reply, after) →
      D.Guaranteed run before after ∧ keep after ∧ measure after ≤ measure before + 1 ∧
        (¬ counted c → measure after ≤ measure before))
    (only : p.Only allowed) (bounded : p.AtMost counted limit) :
    Triple S permit D run (fun w => keep w ∧ measure w + limit ≤ bound) p
      (fun _ w => keep w ∧ measure w ≤ bound) := by
  induction p generalizing limit with
  | pure value =>
    intro w _ holds
    exact ⟨holds.1, by omega⟩
  | call c next ih =>
    intro w _ holds before between good a reply after permitted now
    have kept := stable w before between good holds.1
    have equal := others w before between
    have step := served c only.1 before a reply after good kept
    by_cases isCounted : counted c
    · obtain ⟨positive, rest⟩ := bounded.1 isCounted
      have room : measure before < bound := by omega
      obtain ⟨guaranteed, later, raised, _⟩ := step (fun _ => room) permitted now
      exact ⟨guaranteed, ih reply (only.2 reply) (rest reply) after guaranteed.1 ⟨later, by omega⟩⟩
    · obtain ⟨guaranteed, later, _, same⟩ := step (fun other => absurd other isCounted) permitted now
      have unraised := same isCounted
      exact ⟨guaranteed, ih reply (only.2 reply) (bounded.2 isCounted reply) after guaranteed.1
        ⟨later, by omega⟩⟩

end Measure

end Interleave
