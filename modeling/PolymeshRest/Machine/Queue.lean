import PolymeshRest.Data.Lists
import PolymeshRest.Data.Tally

/-!
# Queues that deliver until a delivery is settled

A durable queue holds a message until a delivery of it has been settled.  It gives the message to a
handler, which takes steps of its own; whoever settles the delivery may accept it once the handler
has resolved, and may put the message back or aside at any time, with the handler still at work.
Which message is delivered next is left open.

## Main definitions

* `Settlement`, `Queue.Delivery`, `Queue` : the messages `β` and the phases `φ` of their handlers.
* `Queue.send`, `Queue.deliver`, `Queue.advance`, `Queue.settle`
* `Queue.kept` : what has been sent, each message as often as it was.
* `Queue.delivered`, `Queue.shown` : what has been given to handlers, and what these show.
* `Queue.Waiting`, `Queue.Buried`, `Queue.Handled` : what has become of a message.
* `Queue.All` : a property of everything in the queue; `Queue.NonePutBack` : no delivery was put
  back; `Queue.Drained` : nothing is left.

## Main results

* `Queue.kept_send`, `Queue.kept_deliver`, `Queue.kept_advance`, `Queue.kept_settle` : nothing but
  `send` changes what is kept, **so no message is lost or made up**.
* `Queue.mem_kept_cases` : what is kept waits, is buried or has been handled.
* `Queue.delivered_le_kept` : where nothing is put back, no message is delivered twice.
-/

namespace PolymeshRest

/-- How a delivery is settled. -/
inductive Settlement where
  | accepted
  /-- The message goes back to the queue. -/
  | requeued
  /-- The message goes to the dead letters. -/
  | buried
  deriving DecidableEq, Repr

/-- A message that was given to a handler.  It is accepted only if the handler has resolved. -/
structure Queue.Delivery (β φ : Type*) where
  message : β
  /-- Where the handler stands. -/
  phase : φ
  /-- The handler has resolved. -/
  handled : Bool := false
  settlement : Option Settlement := none
  handled_of_accepted : settlement = some .accepted → handled = true := by decide

/-- A queue of messages `β` with handlers in phases `φ`. -/
structure Queue (β φ : Type*) where
  ready : List β := []
  deliveries : List (Queue.Delivery β φ) := []

namespace Queue

variable {β φ γ : Type*}

namespace Delivery

/-- The handler goes on, and resolves if `ok`. -/
def advance (d : Delivery β φ) (phase : φ) (ok : Bool) : Delivery β φ where
  message := d.message
  phase
  handled := d.handled || ok
  settlement := d.settlement
  handled_of_accepted h := by rw [d.handled_of_accepted h, Bool.true_or]

/-- The delivery, settled. -/
def settle (d : Delivery β φ) (how : Settlement) (h : how = .accepted → d.handled = true) :
    Delivery β φ where
  message := d.message
  phase := d.phase
  handled := d.handled
  settlement := some how
  handled_of_accepted hsome := h (Option.some.inj hsome)

/-- The message, unless it went back to the queue. -/
def kept (d : Delivery β φ) : Option β :=
  if d.settlement = some .requeued then none else some d.message

end Delivery

/-- A message is added. -/
def send (q : Queue β φ) (m : β) : Queue β φ := { q with ready := q.ready ++ [m] }

/-- The `k`-th message is given to a handler. -/
def deliver (q : Queue β φ) (k : ℕ) (phase : φ) : Option (β × Queue β φ) :=
  q.ready[k]?.map fun m => (m, ⟨q.ready.eraseIdx k, q.deliveries ++ [{ message := m, phase }]⟩)

/-- The handler of the `i`-th delivery goes on. -/
def advance (q : Queue β φ) (i : ℕ) (phase : φ) (ok : Bool) : Queue β φ :=
  { q with deliveries := q.deliveries.modify i fun d => d.advance phase ok }

/-- The `i`-th delivery is settled, once. -/
def settle (q : Queue β φ) (i : ℕ) (how : Settlement) : Option (Queue β φ) :=
  q.deliveries[i]?.bind fun d =>
    if h : d.settlement = none ∧ (how = .accepted → d.handled = true) then
      some
        { ready := if how = .requeued then q.ready ++ [d.message] else q.ready
          deliveries := q.deliveries.set i (d.settle how h.2) }
    else none

/-- What has been sent. -/
def kept (q : Queue β φ) : Multiset β := ↑q.ready + tally Delivery.kept q.deliveries

/-- What `f` shows of the deliveries, by their messages and the phases of their handlers. -/
def shown (f : β → φ → Option γ) (q : Queue β φ) : Multiset γ :=
  tally (fun d => f d.message d.phase) q.deliveries

/-- The messages of the deliveries. -/
def delivered (q : Queue β φ) : Multiset β := q.shown fun m _ => some m

/-- The message is yet to be delivered, or a delivery of it is yet to be settled. -/
def Waiting (q : Queue β φ) (m : β) : Prop :=
  m ∈ q.ready ∨ ∃ d ∈ q.deliveries, d.message = m ∧ d.settlement = none

/-- The message is among the dead letters. -/
def Buried (q : Queue β φ) (m : β) : Prop :=
  ∃ d ∈ q.deliveries, d.message = m ∧ d.settlement = some .buried

/-- A handler of the message has resolved. -/
def Handled (q : Queue β φ) (m : β) : Prop := ∃ d ∈ q.deliveries, d.message = m ∧ d.handled = true

/-- Nothing is left to deliver or to settle, and nothing was put aside. -/
def Drained (q : Queue β φ) : Prop := ∀ m, ¬ q.Waiting m ∧ ¬ q.Buried m

/-- There are only accepted deliveries. -/
def allAccepted (q : Queue β φ) : Bool :=
  q.ready.isEmpty && q.deliveries.all fun d => d.settlement == some .accepted

/-- No message was put back. -/
def NonePutBack (q : Queue β φ) : Prop := ∀ d ∈ q.deliveries, d.settlement ≠ some .requeued

/-- All messages that are or were in the queue satisfy `P`. -/
def All (q : Queue β φ) (P : β → Prop) : Prop :=
  (∀ m ∈ q.ready, P m) ∧ ∀ d ∈ q.deliveries, P d.message

variable {q q' : Queue β φ} {m : β} {i k : ℕ} {phase : φ} {ok : Bool} {how : Settlement}

/-! ### What each operation does -/

theorem deliver_cases (h : q.deliver k phase = some (m, q')) :
    q.ready[k]? = some m ∧
      q' = ⟨q.ready.eraseIdx k, q.deliveries ++ [{ message := m, phase }]⟩ := by
  obtain ⟨m', hm', hpair⟩ := Option.map_eq_some_iff.1 h
  cases hpair
  exact ⟨hm', rfl⟩

theorem advance_eq {d : Delivery β φ} (hd : q.deliveries[i]? = some d) :
    q.advance i phase ok =
      { q with deliveries := q.deliveries.set i (d.advance phase ok) } := by
  rw [advance, List.modify_eq_set_getElem?, hd]
  rfl

theorem advance_of_none (hd : q.deliveries[i]? = none) : q.advance i phase ok = q := by
  rw [advance, List.modify_eq_set_getElem?, hd]
  rfl

theorem settle_cases (h : q.settle i how = some q') :
    ∃ d, q.deliveries[i]? = some d ∧ d.settlement = none ∧
      ∃ hhow : how = .accepted → d.handled = true,
        q' = ⟨if how = .requeued then q.ready ++ [d.message] else q.ready,
          q.deliveries.set i (d.settle how hhow)⟩ := by
  obtain ⟨d, hd, hres⟩ := Option.bind_eq_some_iff.1 h
  split at hres
  · rename_i hcond
    exact ⟨d, hd, hcond.1, hcond.2, (Option.some.inj hres).symm⟩
  · cases hres

/-! ### The messages of the deliveries -/

theorem messages_deliver (h : q.deliver k phase = some (m, q')) :
    q'.deliveries.map Delivery.message = q.deliveries.map Delivery.message ++ [m] := by
  rw [(deliver_cases h).2, List.map_append]
  rfl

@[simp] theorem messages_advance : (q.advance i phase ok).deliveries.map Delivery.message =
    q.deliveries.map Delivery.message := by
  cases hd : q.deliveries[i]? with
  | none => rw [advance_of_none hd]
  | some d =>
    rw [advance_eq hd]
    exact map_set_of_eq Delivery.message hd rfl

theorem messages_settle (h : q.settle i how = some q') :
    q'.deliveries.map Delivery.message = q.deliveries.map Delivery.message := by
  obtain ⟨d, hd, -, hhow, rfl⟩ := settle_cases h
  exact map_set_of_eq Delivery.message hd rfl

/-! ### Conservation -/

@[simp] theorem kept_empty : ({} : Queue β φ).kept = 0 := rfl

@[simp] theorem kept_send : (q.send m).kept = m ::ₘ q.kept := by
  simp only [kept, send, ← Multiset.coe_add, Multiset.coe_singleton, ← Multiset.singleton_add]
  abel

@[simp] theorem kept_advance : (q.advance i phase ok).kept = q.kept := by
  cases hd : q.deliveries[i]? with
  | none => rw [advance_of_none hd]
  | some d =>
    rw [advance_eq hd]
    have hset : tally Delivery.kept (q.deliveries.set i (d.advance phase ok)) =
        tally Delivery.kept q.deliveries := tally_set_of_eq hd rfl
    rw [kept, kept, hset]

theorem kept_deliver (h : q.deliver k phase = some (m, q')) : q'.kept = q.kept := by
  obtain ⟨hm, rfl⟩ := deliver_cases h
  obtain ⟨hk, rfl⟩ := List.getElem?_eq_some_iff.1 hm
  have hready : (↑q.ready : Multiset β) = q.ready[k] ::ₘ ↑(q.ready.eraseIdx k) :=
    Multiset.coe_eq_coe.2 (List.getElem_cons_eraseIdx_perm hk).symm
  simp only [kept, tally_append, tally_singleton, hready, Delivery.kept, ← Multiset.singleton_add,
    reduceCtorEq, if_false, Option.toList_some, Multiset.coe_singleton]
  abel

theorem kept_settle (h : q.settle i how = some q') : q'.kept = q.kept := by
  obtain ⟨d, hd, hnone, hhow, rfl⟩ := settle_cases h
  have hset := tally_set (f := Delivery.kept) hd (d.settle how hhow)
  have hold : d.kept = some d.message := by
    rw [Delivery.kept, hnone]
    rfl
  rw [hold, Option.toList_some, Multiset.coe_singleton] at hset
  by_cases hhow' : how = .requeued
  · subst hhow'
    have hnew : (d.settle .requeued hhow).kept = none := rfl
    rw [hnew, Option.toList_none, Multiset.coe_nil, add_zero] at hset
    simp only [kept, if_true, ← Multiset.coe_add, Multiset.coe_singleton, ← hset]
    abel
  · have hnew : (d.settle how hhow).kept = some d.message := by
      have hne : (d.settle how hhow).settlement ≠ some .requeued := fun heq =>
        hhow' (Option.some.inj heq)
      rw [Delivery.kept, if_neg hne]
      rfl
    rw [hnew, Option.toList_some, Multiset.coe_singleton, add_left_inj] at hset
    simp only [kept, if_neg hhow', hset]

theorem delivered_eq : q.delivered = ↑(q.deliveries.map Delivery.message) := tally_some _

theorem delivered_deliver (h : q.deliver k phase = some (m, q')) :
    q'.delivered = q.delivered + {m} := by
  rw [delivered_eq, messages_deliver h, ← Multiset.coe_add, ← delivered_eq]
  rfl

@[simp] theorem delivered_advance : (q.advance i phase ok).delivered = q.delivered := by
  rw [delivered_eq, messages_advance, delivered_eq]

theorem delivered_settle (h : q.settle i how = some q') : q'.delivered = q.delivered := by
  rw [delivered_eq, messages_settle h, delivered_eq]

/-! ### What has become of a message -/

theorem mem_kept : m ∈ q.kept ↔
    m ∈ q.ready ∨ ∃ d ∈ q.deliveries, d.message = m ∧ d.settlement ≠ some .requeued := by
  rw [kept, Multiset.mem_add, Multiset.mem_coe, mem_tally]
  refine or_congr_right (exists_congr fun d => and_congr_right fun _ => ?_)
  unfold Delivery.kept
  split_ifs with hrequeued
  · simp [hrequeued]
  · simp [hrequeued]

/-- **No message is lost**: what has been sent waits, is among the dead letters, or a handler of it
has resolved. -/
theorem mem_kept_cases (h : m ∈ q.kept) : q.Waiting m ∨ q.Buried m ∨ q.Handled m := by
  rcases mem_kept.1 h with hready | ⟨d, hd, hm, hsettlement⟩
  · exact .inl (.inl hready)
  · cases hs : d.settlement with
    | none => exact .inl (.inr ⟨d, hd, hm, hs⟩)
    | some how =>
      cases how with
      | accepted => exact .inr (.inr ⟨d, hd, hm, d.handled_of_accepted hs⟩)
      | requeued => exact absurd hs hsettlement
      | buried => exact .inr (.inl ⟨d, hd, hm, hs⟩)

theorem Drained.handled (h : q.Drained) (hm : m ∈ q.kept) : q.Handled m :=
  ((mem_kept_cases hm).resolve_left (h m).1).resolve_left (h m).2

theorem drained_of_allAccepted (h : q.allAccepted = true) : q.Drained := by
  obtain ⟨hready, hdeliveries⟩ := Bool.and_eq_true_iff.1 h
  have hnil : q.ready = [] := List.isEmpty_iff.1 hready
  have haccepted : ∀ d ∈ q.deliveries, d.settlement = some .accepted := by
    simpa only [List.all_eq_true, beq_iff_eq] using hdeliveries
  refine fun m => ⟨?_, ?_⟩
  · rintro (hm | ⟨d, hd, -, hnone⟩)
    · rw [hnil] at hm
      cases hm
    · cases hnone.symm.trans (haccepted d hd)
  · rintro ⟨d, hd, -, hburied⟩
    cases hburied.symm.trans (haccepted d hd)

/-- **Where nothing is put back, no message is delivered twice.** -/
theorem delivered_le_kept (h : q.NonePutBack) : q.delivered ≤ q.kept := by
  have htally : q.delivered ≤ tally Delivery.kept q.deliveries := by
    refine tally_le_tally fun d hd m hm => ?_
    rw [Delivery.kept, if_neg (h d hd)]
    exact hm
  exact htally.trans (Multiset.le_add_left _ _)

/-! ### What is said of all deliveries -/

theorem forall_deliver {P : Delivery β φ → Prop} (h : ∀ d ∈ q.deliveries, P d)
    (hst : q.deliver k phase = some (m, q')) (hnew : P { message := m, phase }) :
    ∀ d ∈ q'.deliveries, P d := by
  obtain ⟨-, rfl⟩ := deliver_cases hst
  intro d hd
  rcases List.mem_append.1 hd with hd | hd
  · exact h d hd
  · rwa [List.mem_singleton.1 hd]

theorem forall_advance {P : Delivery β φ → Prop} (h : ∀ d ∈ q.deliveries, P d)
    (hnew : ∀ d, q.deliveries[i]? = some d → P (d.advance phase ok)) :
    ∀ d ∈ (q.advance i phase ok).deliveries, P d := by
  intro d hd
  cases hold : q.deliveries[i]? with
  | none =>
    rw [advance_of_none hold] at hd
    exact h d hd
  | some old =>
    rw [advance_eq hold] at hd
    rcases List.mem_or_eq_of_mem_set hd with hd | rfl
    · exact h d hd
    · exact hnew old hold

theorem forall_settle {P : Delivery β φ → Prop} (h : ∀ d ∈ q.deliveries, P d)
    (hst : q.settle i how = some q') (hnew : ∀ d hhow, P d → P (d.settle how hhow)) :
    ∀ d ∈ q'.deliveries, P d := by
  obtain ⟨old, hold, -, hhow, rfl⟩ := settle_cases hst
  intro d hd
  rcases List.mem_or_eq_of_mem_set hd with hd | rfl
  · exact h d hd
  · exact hnew old hhow (h old (List.mem_of_getElem? hold))

theorem nonePutBack_deliver (h : q.NonePutBack) (hst : q.deliver k phase = some (m, q')) :
    q'.NonePutBack :=
  forall_deliver h hst nofun

theorem nonePutBack_advance (h : q.NonePutBack) : (q.advance i phase ok).NonePutBack :=
  forall_advance h fun d hd => h d (List.mem_of_getElem? hd)

theorem nonePutBack_settle (h : q.NonePutBack) (hst : q.settle i how = some q')
    (hhow : how ≠ .requeued) : q'.NonePutBack :=
  forall_settle h hst fun _ _ _ heq => hhow (Option.some.inj heq)

theorem all_empty {P : β → Prop} : ({} : Queue β φ).All P :=
  ⟨List.forall_mem_nil _, List.forall_mem_nil _⟩

theorem all_send {P : β → Prop} (h : q.All P) (hm : P m) : (q.send m).All P := by
  refine ⟨fun m' hm' => ?_, h.2⟩
  rcases List.mem_append.1 hm' with hm' | hm'
  · exact h.1 m' hm'
  · rwa [List.mem_singleton.1 hm']

theorem all_deliver {P : β → Prop} (h : q.All P) (hst : q.deliver k phase = some (m, q')) :
    P m ∧ q'.All P := by
  have hm : P m := h.1 m (List.mem_of_getElem? (deliver_cases hst).1)
  refine ⟨hm, fun m' hm' => h.1 m' ?_, forall_deliver h.2 hst hm⟩
  rw [(deliver_cases hst).2] at hm'
  exact List.mem_of_mem_eraseIdx hm'

theorem all_advance {P : β → Prop} (h : q.All P) : (q.advance i phase ok).All P :=
  ⟨h.1, forall_advance h.2 fun d hd => h.2 d (List.mem_of_getElem? hd)⟩

theorem all_settle {P : β → Prop} (h : q.All P) (hst : q.settle i how = some q') : q'.All P := by
  refine ⟨fun m hm => ?_, forall_settle h.2 hst fun _ _ hd => hd⟩
  obtain ⟨d, hd, -, _, rfl⟩ := settle_cases hst
  by_cases hhow : how = .requeued
  · rw [if_pos hhow] at hm
    rcases List.mem_append.1 hm with hm | hm
    · exact h.1 m hm
    · rw [List.mem_singleton.1 hm]
      exact h.2 d (List.mem_of_getElem? hd)
  · rw [if_neg hhow] at hm
    exact h.1 m hm

theorem All.imp {P Q : β → Prop} (h : q.All P) (hPQ : ∀ m, P m → Q m) : q.All Q :=
  ⟨fun m hm => hPQ m (h.1 m hm), fun d hd => hPQ _ (h.2 d hd)⟩

/-! ### What the handlers show -/

variable {f : β → φ → Option γ}

@[simp] theorem shown_send : (q.send m).shown f = q.shown f := rfl

theorem shown_deliver (h : q.deliver k phase = some (m, q')) :
    q'.shown f = q.shown f + ↑(f m phase).toList := by
  obtain ⟨-, rfl⟩ := deliver_cases h
  simp only [shown, tally_append, tally_singleton]

theorem shown_advance {d : Delivery β φ} (hd : q.deliveries[i]? = some d) :
    (q.advance i phase ok).shown f + ↑(f d.message d.phase).toList =
      q.shown f + ↑(f d.message phase).toList := by
  rw [advance_eq hd]
  exact tally_set hd _

theorem shown_settle (h : q.settle i how = some q') : q'.shown f = q.shown f := by
  obtain ⟨d, hd, -, hhow, rfl⟩ := settle_cases h
  exact tally_set_of_eq hd rfl

end Queue

end PolymeshRest
