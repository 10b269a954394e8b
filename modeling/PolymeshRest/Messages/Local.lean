import PolymeshRest.Common.Errors
import PolymeshRest.Data.Lists
import PolymeshRest.Machine.Basic
import PolymeshRest.Messages.Basic

/-!
# Delivery to listeners

`LocalMessageService.sendMessage` gives a message to the handlers of the queue of its address and
of the queue of all events.  A handler validates the message with the model of its listener and
calls the listener; the publisher waits for the validations and not for the listeners.  Behind
`ArtemisService` it is the broker that gives the message to a handler, and waits for the listener.

Models are parameters: for a listener they are what makes of a message a validation.

## Main definitions

* `Listener`, `Listener.refusal` : a listener, and why its handler refuses a message.
* `deliver` : what the handler of `ArtemisService` does with a message it is given.
* `Local`, `Local.next`, `Local.machine` : the local service, its calls and their handlers.
* `Local.Delivers` : whom a message goes to, and what is to hold of each of them and of the sender.

## Main results

* `LocalSend.inv_validated`, `LocalSend.inv_settled`, `LocalSend.inv_listenerEnds` : what the steps
  of one call keep.
* `Local.delivers` : every step of every run delivers.
-/

namespace PolymeshRest

/-- What making a model of a message and validating it gives. -/
inductive Validation where
  /-- The constructor of the model throws. -/
  | throws (failure : Failure)
  /-- There are errors, in the form that is logged. -/
  | invalid (errString : String)
  | valid
  deriving DecidableEq, Repr

/-- A listener that was registered for messages `β`. -/
structure Listener (β : Type*) where
  listenOn : QueueName
  /-- `Model.name` -/
  modelName : String
  /-- The validation of `new Model(message)`. -/
  model : β → Validation

/-- What the local handler of a listener is rejected with before it calls the listener. -/
def Listener.refusal {β : Type*} (listener : Listener β) (message : β) : Option Failure :=
  match listener.model message with
  | .throws failure => some failure
  | .invalid errString => some (.app (.internal ("received invalid message on \"" ++
      listener.listenOn.text ++ "\": " ++ errString)))
  | .valid => none

/-! ### The handler of `ArtemisService` -/

/-- What becomes of a delivery. -/
inductive Disposition where
  | accept
  | reject (condition description : String)
  deriving DecidableEq, Repr

/-- The handler of `ArtemisService` with a message: how often the listener is called, and what
becomes of the delivery.  The failure of the listener is `none` if it resolves, and its message is
`none` if what it rejects with is not an `Error`. -/
def deliver {β : Type*} (listener : Listener β) (message : β) (failure : Option (Option String)) :
    ℕ × Option Disposition :=
  match listener.model message with
  | .throws _ => (0, none)
  | .invalid _ =>
    (0, some (.reject "validation error"
      ("message was deemed invalid for model: " ++ listener.modelName)))
  | .valid =>
    match failure with
    | none => (1, some .accept)
    | some error =>
      (1, some (.reject "processing error"
        ("error processing message: " ++ error.getD "unknown error")))

/-! ### `LocalMessageService` -/

/-- Where the handler of a listener stands. -/
inductive HandlerPhase where
  /-- Waits for `validate`. -/
  | validating
  /-- The listener was called, and its promise has not settled. -/
  | called
  /-- The promise of the listener has settled. -/
  | ended (failure : Option (Option String))
  /-- The handler is rejected. -/
  | refused (failure : Failure)
  deriving DecidableEq, Repr

/-- A handler at work on a message. -/
structure LocalHandler (β : Type*) where
  listener : Listener β
  phase : HandlerPhase
  /-- How often the listener was called. -/
  handed : ℕ

/-- A call of `sendMessage`. -/
structure LocalSend (β : Type*) where
  publishOn : AddressName
  message : β
  handlers : List (LocalHandler β)
  /-- What the first handler to be rejected was rejected with. -/
  failure : Option Failure
  /-- How the call has ended. -/
  outcome : Option (Except Failure MessageReceipt)

/-- `LocalMessageService` and the calls of `sendMessage`. -/
structure Local (β : Type*) where
  listeners : QueueName → List (Listener β) := fun _ => []
  /-- `_id` -/
  nextId : ℕ := 1
  sends : List (LocalSend β) := []

/-- One atomic step. -/
inductive LocalAct (β : Type*) where
  | registerListener (listener : Listener β)
  | sendMessage (publishOn : AddressName) (message : β)
  /-- `validate` ends for a handler. -/
  | validated (send handler : ℕ)
  /-- `sendMessage` goes on after its handlers. -/
  | settled (send : ℕ)
  /-- The promise of a listener that was called settles. -/
  | listenerEnds (send handler : ℕ) (failure : Option (Option String))

section

variable {β : Type*}

namespace LocalHandler

/-- The start of a handler: the model is constructed at once. -/
def start (message : β) (listener : Listener β) : LocalHandler β where
  listener
  phase :=
    match listener.model message with
    | .throws failure => .refused failure
    | _ => .validating
  handed := 0

/-- The handler goes on after `validate`. -/
def validated (message : β) (handler : LocalHandler β) : LocalHandler β :=
  match handler.listener.refusal message with
  | some failure => { handler with phase := .refused failure }
  | none => { handler with phase := .called, handed := handler.handed + 1 }

/-- What the handler is rejected with, if it is. -/
def failure (handler : LocalHandler β) : Option Failure :=
  match handler.phase with
  | .refused failure => some failure
  | _ => none

/-- The handler has resolved. -/
def resolved (handler : LocalHandler β) : Bool :=
  match handler.phase with
  | .called | .ended _ => true
  | _ => false

end LocalHandler

namespace LocalSend

/-- The listeners the message goes to. -/
def listeners (send : LocalSend β) : List (Listener β) :=
  send.handlers.map LocalHandler.listener

/-- The start of a call, with the listeners it finds. -/
def start (publishOn : AddressName) (message : β) (listeners : List (Listener β)) :
    LocalSend β where
  publishOn
  message
  handlers := listeners.map (LocalHandler.start message)
  failure := (listeners.map (LocalHandler.start message)).findSome? LocalHandler.failure
  outcome := none

/-- The validation of one of the handlers ends. -/
def validated (send : LocalSend β) (k : ℕ) : Option (LocalSend β) :=
  send.handlers[k]?.bind fun handler =>
    if handler.phase = .validating then
      some { send with
        handlers := send.handlers.set k (handler.validated send.message)
        failure := send.failure.or (handler.validated send.message).failure }
    else none

/-- The call goes on after `Promise.all`, and takes `id` if it needs one. -/
def settled (send : LocalSend β) (id : ℕ) : Option (LocalSend β) :=
  match send.outcome, send.failure with
  | none, some failure => some { send with outcome := some (.error failure) }
  | none, none =>
    if send.handlers.all LocalHandler.resolved then
      some { send with outcome := some (.ok ⟨id, send.publishOn⟩) }
    else none
  | some _, _ => none

/-- The promise of a listener settles. -/
def listenerEnds (send : LocalSend β) (k : ℕ) (failure : Option (Option String)) :
    Option (LocalSend β) :=
  send.handlers[k]?.bind fun handler =>
    if handler.phase = .called then
      some { send with handlers := send.handlers.set k { handler with phase := .ended failure } }
    else none

end LocalSend

namespace Local

/-- The listeners that a message to an address goes to. -/
def addressed (s : Local β) (publishOn : AddressName) : List (Listener β) :=
  s.listeners (addressToQueue publishOn) ++ s.listeners .eventsLog

/-- The state with a call replaced. -/
def withSend (s : Local β) (i : ℕ) (send : LocalSend β) : Local β :=
  { s with sends := s.sends.set i send }

/-- The state a step leads to. -/
def next (s : Local β) : LocalAct β → Option (Local β)
  | .registerListener listener =>
    let queue := s.listeners listener.listenOn ++ [listener]
    some { s with listeners := Function.update s.listeners listener.listenOn queue }
  | .sendMessage publishOn message =>
    some { s with sends := s.sends ++ [.start publishOn message (s.addressed publishOn)] }
  | .validated i k => (s.sends[i]?.bind fun send => send.validated k).map (s.withSend i)
  | .settled i =>
    (s.sends[i]?.bind fun send => send.settled s.nextId).map fun send =>
      match send.outcome with
      | some (.ok _) => { s.withSend i send with nextId := s.nextId + 1 }
      | _ => s.withSend i send
  | .listenerEnds i k failure =>
    (s.sends[i]?.bind fun send => send.listenerEnds k failure).map (s.withSend i)

/-- The service at work. -/
def machine : Machine (Local β) (LocalAct β) := ⟨next⟩

end Local

/-! ### What is to hold -/

/-- A listener is called as it is behind the broker: once if its model accepts the message, whatever
the other handlers do. -/
structure LocalSend.Hands (send : LocalSend β) (k : ℕ) (handler : LocalHandler β) : Prop where
  /-- Not before the validation has ended, and as often as a delivery from the broker does then. -/
  agrees : ∀ failure, handler.handed =
    if handler.phase = .validating then 0 else (deliver handler.listener send.message failure).1
  /-- The validation can end, and the listener is called then if the model accepts. -/
  proceeds : handler.phase = .validating →
    ∃ send' handler', send.validated k = some send' ∧ send'.handlers[k]? = some handler' ∧
      handler'.handed = if handler.listener.refusal send.message = none then 1 else 0

/-- The sender depends on the validations, and not on the listeners. -/
structure LocalSend.Answers (send : LocalSend β) : Prop where
  resolves : ∀ receipt, send.outcome = some (.ok receipt) → receipt.topic = send.publishOn ∧
    ∀ listener ∈ send.listeners, listener.refusal send.message = none
  rejects : ∀ failure, send.outcome = some (.error failure) →
    ∃ listener ∈ send.listeners, listener.refusal send.message = some failure
  proceeds : send.outcome = none → (∀ handler ∈ send.handlers, handler.phase ≠ .validating) →
    ∀ id, (send.settled id).isSome = true

/-- What is to hold of all calls of `sendMessage`. -/
structure Local.Good (s : Local β) : Prop where
  hands : ∀ send ∈ s.sends, ∀ k handler, send.handlers[k]? = some handler → send.Hands k handler
  answers : ∀ send ∈ s.sends, send.Answers

/-- A later state of the same call: nobody else has the message, and how it has ended is final. -/
structure LocalSend.Continues (send later : LocalSend β) : Prop where
  publishOn : later.publishOn = send.publishOn
  message : later.message = send.message
  listeners : later.listeners = send.listeners
  outcome : send.outcome.isSome = true → later.outcome = send.outcome

/-- A step sends messages to the listeners of their queue and of all events, and keeps what is to
hold. -/
structure Local.Delivers (s : Local β) (a : LocalAct β) : Prop where
  addressed : ∀ publishOn message s', a = .sendMessage publishOn message →
    machine.next s a = some s' → ∃ send : LocalSend β, s'.sends = s.sends ++ [send] ∧
      send.publishOn = publishOn ∧ send.message = message ∧
        send.listeners = s.addressed publishOn
  kept : ∀ s', machine.next s a = some s' → ∀ (i : ℕ) (send : LocalSend β),
    s.sends[i]? = some send → ∃ later, s'.sends[i]? = some later ∧ send.Continues later
  good : ∀ s', machine.next s a = some s' → s'.Good

/-! ### One call -/

/-- What the steps of a call keep of one of its handlers. -/
def LocalHandler.Inv (message : β) (handler : LocalHandler β) : Prop :=
  match handler.phase with
  | .validating => handler.handed = 0
  | .called | .ended _ => handler.handed = 1 ∧ handler.listener.refusal message = none
  | .refused failure => handler.handed = 0 ∧ handler.listener.refusal message = some failure

namespace LocalSend

/-- What the steps of a call keep. -/
structure Inv (send : LocalSend β) : Prop where
  handlers : ∀ handler ∈ send.handlers, handler.Inv send.message
  failed : send.failure = none → ∀ handler ∈ send.handlers, handler.failure = none
  refused : ∀ failure, send.failure = some failure →
    ∃ handler ∈ send.handlers, handler.failure = some failure
  resolves : ∀ receipt, send.outcome = some (.ok receipt) → receipt.topic = send.publishOn ∧
    ∀ listener ∈ send.listeners, listener.refusal send.message = none
  rejects : ∀ failure, send.outcome = some (.error failure) →
    ∃ listener ∈ send.listeners, listener.refusal send.message = some failure

variable {send send' : LocalSend β} {k : ℕ}

/-- A handler that is rejected is one whose listener's model refuses the message. -/
theorem refusal_of_failure {message : β} {handler : LocalHandler β} (h : handler.Inv message)
    {failure : Failure} (hfailure : handler.failure = some failure) :
    handler.listener.refusal message = some failure := by
  obtain ⟨listener, phase, handed⟩ := handler
  cases phase with
  | refused other =>
    cases hfailure
    exact h.2
  | _ => cases hfailure

theorem refusal_of_resolved {message : β} {handler : LocalHandler β} (h : handler.Inv message)
    (hresolved : handler.resolved = true) : handler.listener.refusal message = none := by
  obtain ⟨listener, phase, handed⟩ := handler
  cases phase with
  | called => exact h.2
  | ended failure => exact h.2
  | _ => cases hresolved

theorem inv_handler_start (message : β) (listener : Listener β) :
    (LocalHandler.start message listener).Inv message := by
  cases hmodel : listener.model message with
  | throws failure => simp [LocalHandler.Inv, LocalHandler.start, Listener.refusal, hmodel]
  | _ => simp [LocalHandler.Inv, LocalHandler.start, hmodel]

theorem inv_handler_validated {message : β} {handler : LocalHandler β}
    (h : handler.Inv message) (hphase : handler.phase = .validating) :
    (handler.validated message).Inv message := by
  have hhanded : handler.handed = 0 := by simpa [LocalHandler.Inv, hphase] using h
  cases hrefusal : handler.listener.refusal message with
  | none => simp [LocalHandler.Inv, LocalHandler.validated, hrefusal, hhanded]
  | some failure => simp [LocalHandler.Inv, LocalHandler.validated, hrefusal, hhanded]

theorem inv_start (publishOn : AddressName) (message : β) (listeners : List (Listener β)) :
    (start publishOn message listeners).Inv where
  handlers handler hmem := by
    obtain ⟨listener, -, rfl⟩ := List.mem_map.1 hmem
    exact inv_handler_start message listener
  failed hnone := List.findSome?_eq_none_iff.1 hnone
  refused _ hfailure := List.exists_of_findSome?_eq_some hfailure
  resolves _ h := nomatch h
  rejects _ h := nomatch h

/-- What a change of a handler that had not been rejected keeps of its call. -/
theorem inv_set (h : Inv send) {old new : LocalHandler β} (hk : send.handlers[k]? = some old)
    (hold : old.failure = none) (hlistener : new.listener = old.listener)
    (hnew : new.Inv send.message) :
    Inv { send with
      handlers := send.handlers.set k new
      failure := send.failure.or new.failure } := by
  have hlisteners : (send.handlers.set k new).map LocalHandler.listener = send.listeners :=
    map_set_of_eq LocalHandler.listener hk hlistener
  exact
    { handlers := fun handler hmem => by
        rcases List.mem_or_eq_of_mem_set hmem with hmem | rfl
        · exact h.handlers handler hmem
        · exact hnew
      failed := fun hnone handler hmem => by
        obtain ⟨hfailure, hnone⟩ := Option.or_eq_none_iff.1 hnone
        rcases List.mem_or_eq_of_mem_set hmem with hmem | rfl
        · exact h.failed hfailure handler hmem
        · exact hnone
      refused := fun failure hfailure => by
        rcases Option.or_eq_some_iff.1 hfailure with hbefore | ⟨-, hnow⟩
        · refine exists_mem_set hk (fun hhandler => ?_) (h.refused failure hbefore)
          rw [hold] at hhandler
          cases hhandler
        · exact ⟨new, mem_set_self new hk, hnow⟩
      resolves := fun receipt houtcome => by
        rw [listeners, hlisteners]
        exact h.resolves receipt houtcome
      rejects := fun failure houtcome => by
        rw [listeners, hlisteners]
        exact h.rejects failure houtcome }

theorem continues_refl (send : LocalSend β) : send.Continues send := ⟨rfl, rfl, rfl, fun _ => rfl⟩

theorem validated_cases (h : send.validated k = some send') :
    ∃ handler, send.handlers[k]? = some handler ∧ handler.phase = .validating ∧
      send' = { send with
        handlers := send.handlers.set k (handler.validated send.message)
        failure := send.failure.or (handler.validated send.message).failure } := by
  obtain ⟨handler, hk, hres⟩ := Option.bind_eq_some_iff.1 h
  split at hres
  · rename_i hphase
    cases hres
    exact ⟨handler, hk, hphase, rfl⟩
  · cases hres

theorem validated_listener (message : β) (handler : LocalHandler β) :
    (handler.validated message).listener = handler.listener := by
  rw [LocalHandler.validated]
  split <;> rfl

theorem inv_validated (h : Inv send) (hst : send.validated k = some send') :
    Inv send' ∧ send.Continues send' := by
  obtain ⟨handler, hk, hphase, rfl⟩ := validated_cases hst
  have hinv := h.handlers handler (List.mem_of_getElem? hk)
  have hfailure : handler.failure = none := by rw [LocalHandler.failure, hphase]
  have hlistener := validated_listener send.message handler
  exact ⟨inv_set h hk hfailure hlistener (inv_handler_validated hinv hphase),
    ⟨rfl, rfl, map_set_of_eq _ hk hlistener, fun _ => rfl⟩⟩

/-- The end of a listener is not seen by the call. -/
theorem inv_listenerEnds (h : Inv send) {failure : Option (Option String)}
    (hst : send.listenerEnds k failure = some send') : Inv send' ∧ send.Continues send' := by
  obtain ⟨handler, hk, hres⟩ := Option.bind_eq_some_iff.1 hst
  split at hres
  · rename_i hphase
    cases hres
    have hinv := h.handlers handler (List.mem_of_getElem? hk)
    have hfailure : handler.failure = none := by rw [LocalHandler.failure, hphase]
    have hended : ({ handler with phase := .ended failure } : LocalHandler β).Inv send.message := by
      simpa [LocalHandler.Inv, hphase] using hinv
    have hlistener : ({ handler with phase := .ended failure } : LocalHandler β).listener =
        handler.listener := rfl
    have hset := inv_set h hk hfailure hlistener hended
    rw [show ({ handler with phase := .ended failure } : LocalHandler β).failure = none from rfl,
      Option.or_none] at hset
    exact ⟨hset, ⟨rfl, rfl, map_set_of_eq _ hk rfl, fun _ => rfl⟩⟩
  · cases hres

theorem inv_settled (h : Inv send) {id : ℕ} (hst : send.settled id = some send') :
    Inv send' ∧ send.Continues send' := by
  simp only [settled] at hst
  split at hst
  · rename_i failure houtcome hfailure
    cases hst
    obtain ⟨handler, hmem, hhandler⟩ := h.refused failure hfailure
    have hrefusal := refusal_of_failure (h.handlers handler hmem) hhandler
    refine ⟨{ h with resolves := fun _ hok => (nomatch hok), rejects := fun other hother => ?_ },
      ⟨rfl, rfl, rfl, fun hsome => by simp [houtcome] at hsome⟩⟩
    cases hother
    exact ⟨handler.listener, List.mem_map_of_mem hmem, hrefusal⟩
  · rename_i houtcome hfailure
    split at hst
    · rename_i hall
      cases hst
      refine ⟨{ h with resolves := fun receipt hok => ?_, rejects := fun _ herr => (nomatch herr) },
        ⟨rfl, rfl, rfl, fun hsome => by simp [houtcome] at hsome⟩⟩
      cases hok
      refine ⟨rfl, fun listener hlistener => ?_⟩
      obtain ⟨handler, hmem, rfl⟩ := List.mem_map.1 hlistener
      exact refusal_of_resolved (h.handlers handler hmem) (List.all_eq_true.1 hall handler hmem)
    · cases hst
  · cases hst

theorem deliver_fst (listener : Listener β) (message : β) (failure : Option (Option String)) :
    (deliver listener message failure).1 =
      if listener.refusal message = none then 1 else 0 := by
  unfold deliver Listener.refusal
  cases listener.model message with
  | valid => cases failure <;> rfl
  | _ => rfl

theorem hands_of_inv (h : Inv send) {handler : LocalHandler β}
    (hk : send.handlers[k]? = some handler) : send.Hands k handler where
  agrees failure := by
    have hinv := h.handlers handler (List.mem_of_getElem? hk)
    obtain ⟨listener, phase, handed⟩ := handler
    rw [deliver_fst]
    cases phase with
    | validating => simpa [LocalHandler.Inv] using hinv
    | called => simpa [hinv.2] using hinv.1
    | ended failure => simpa [hinv.2] using hinv.1
    | refused failure => simpa [hinv.2] using hinv.1
  proceeds hphase := by
    have hzero : handler.handed = 0 := by
      simpa [LocalHandler.Inv, hphase] using h.handlers handler (List.mem_of_getElem? hk)
    have hlt := (List.getElem?_eq_some_iff.1 hk).1
    have hvalidated : send.validated k = some { send with
        handlers := send.handlers.set k (handler.validated send.message)
        failure := send.failure.or (handler.validated send.message).failure } := by
      rw [validated, hk, Option.bind_some, if_pos hphase]
    refine ⟨_, _, hvalidated, List.getElem?_set_self hlt, ?_⟩
    rw [LocalHandler.validated]
    cases handler.listener.refusal send.message <;> simp [hzero]

theorem answers_of_inv (h : Inv send) : send.Answers where
  resolves := h.resolves
  rejects := h.rejects
  proceeds houtcome hended id := by
    rw [settled, houtcome]
    cases hfailure : send.failure with
    | some failure => rfl
    | none =>
      have hall : send.handlers.all LocalHandler.resolved = true := by
        refine List.all_eq_true.2 fun handler hmem => ?_
        have hnot := hended handler hmem
        have hnone := h.failed hfailure handler hmem
        obtain ⟨listener, phase, handed⟩ := handler
        cases phase with
        | validating => exact absurd rfl hnot
        | refused failure => cases hnone
        | _ => rfl
      simp [hall]

end LocalSend

/-! ### The service -/

namespace Local

/-- What the steps of the service keep. -/
def Inv (s : Local β) : Prop := ∀ send ∈ s.sends, send.Inv

theorem good_of_inv {s : Local β} (h : Inv s) : s.Good where
  hands send hsend _ _ hk := LocalSend.hands_of_inv (h send hsend) hk
  answers send hsend := LocalSend.answers_of_inv (h send hsend)

theorem inv_withSend {s : Local β} (h : Inv s) {i : ℕ} {send send' : LocalSend β}
    (hi : s.sends[i]? = some send) (hsend : send'.Inv ∧ send.Continues send') :
    Inv (s.withSend i send') ∧ ∀ (j : ℕ) (other : LocalSend β), s.sends[j]? = some other →
      ∃ later, (s.withSend i send').sends[j]? = some later ∧ other.Continues later := by
  constructor
  · intro other hother
    rcases List.mem_or_eq_of_mem_set hother with hold | rfl
    · exact h other hold
    · exact hsend.1
  · intro j other hj
    by_cases hij : i = j
    · subst hij
      obtain rfl : send = other := Option.some.inj (hi.symm.trans hj)
      exact ⟨send', List.getElem?_set_self (List.getElem?_eq_some_iff.1 hi).1, hsend.2⟩
    · exact ⟨other, (List.getElem?_set_ne hij).trans hj, LocalSend.continues_refl other⟩

/-- **The step lemma**: the calls go on, and keep what they keep. -/
theorem inv_next {s s' : Local β} {a : LocalAct β} (h : Inv s) (hst : next s a = some s') :
    Inv s' ∧ ∀ (i : ℕ) (send : LocalSend β), s.sends[i]? = some send →
      ∃ later, s'.sends[i]? = some later ∧ send.Continues later := by
  cases a with
  | registerListener listener =>
    cases hst
    exact ⟨h, fun i send hi => ⟨send, hi, LocalSend.continues_refl send⟩⟩
  | sendMessage publishOn message =>
    cases hst
    constructor
    · intro send hsend
      rcases List.mem_append.1 hsend with hsend | hsend
      · exact h send hsend
      · rw [List.mem_singleton.1 hsend]
        exact LocalSend.inv_start ..
    · intro i send hi
      have hlt := (List.getElem?_eq_some_iff.1 hi).1
      exact ⟨send, (List.getElem?_append_left hlt).trans hi, LocalSend.continues_refl send⟩
  | validated i k =>
    obtain ⟨send', hsend', rfl⟩ := Option.map_eq_some_iff.1 hst
    obtain ⟨send, hi, hvalidated⟩ := Option.bind_eq_some_iff.1 hsend'
    exact inv_withSend h hi (LocalSend.inv_validated (h send (List.mem_of_getElem? hi)) hvalidated)
  | settled i =>
    obtain ⟨send', hsend', rfl⟩ := Option.map_eq_some_iff.1 hst
    obtain ⟨send, hi, hsettled⟩ := Option.bind_eq_some_iff.1 hsend'
    have hwith := inv_withSend h hi
      (LocalSend.inv_settled (h send (List.mem_of_getElem? hi)) hsettled)
    split
    · exact hwith
    · exact hwith
  | listenerEnds i k failure =>
    obtain ⟨send', hsend', rfl⟩ := Option.map_eq_some_iff.1 hst
    obtain ⟨send, hi, hends⟩ := Option.bind_eq_some_iff.1 hsend'
    exact inv_withSend h hi (LocalSend.inv_listenerEnds (h send (List.mem_of_getElem? hi)) hends)

theorem delivers_of_inv {s : Local β} (h : Inv s) (a : LocalAct β) : s.Delivers a where
  addressed publishOn message s' ha hst := by
    subst ha
    cases hst
    refine ⟨_, rfl, rfl, rfl, ?_⟩
    show (List.map _ (List.map _ _)) = _
    rw [List.map_map]
    exact List.map_id' _
  kept _ hst := (inv_next h hst).2
  good _ hst := good_of_inv (inv_next h hst).1

/-- **Delivery**: in every run a message goes to the listeners of its queue and of all events, each
of them is called once if its own model accepts the message and never otherwise, as it would be
behind the broker, and the sender gets a receipt exactly if all of the models accept. -/
theorem delivers (acts : List (LocalAct β)) :
    (machine (β := β)).Meets Delivers {} acts :=
  (Machine.meets_unrestricted _ acts).imp (J := Inv) (fun _ _ _ h _ hst => (inv_next h hst).1)
    (fun _ a h _ => delivers_of_inv h a) (fun _ hsend => nomatch hsend)

end Local

end

/-- A listener of requests, by what its model makes of any message. -/
def listenerFor (validation : Validation) : Listener Unit :=
  ⟨.requests, "Model", fun _ => validation⟩

/-- How the one call of `sendMessage` ends that finds one listener. -/
def outcomeWith (listener : Listener Unit) : Option (Option (Except Failure MessageReceipt)) :=
  (Local.machine.run {} [.registerListener listener, .sendMessage .requests (), .validated 0 0,
    .settled 0]).bind fun s => s.sends[0]?.map LocalSend.outcome

/-- What the sender gets depends on a listener's validation. -/
theorem rejected_by_validation :
    ¬ ∀ listener listener', outcomeWith listener = outcomeWith listener' := by
  intro hsame
  have h := hsame (listenerFor .valid) (listenerFor (.invalid "[]"))
  have hvalid : outcomeWith (listenerFor .valid) = some (some (.ok ⟨1, .requests⟩)) := rfl
  have hinvalid : outcomeWith (listenerFor (.invalid "[]")) = some (some (.error (.app (.internal
    "received invalid message on \"Requests\": []")))) := rfl
  rw [hvalid, hinvalid] at h
  cases h

end PolymeshRest
