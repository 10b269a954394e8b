import PolymeshRest.Data.Lists
import PolymeshRest.Machine.Basic
import PolymeshRest.Messages.Local

/-!
# Deliveries of the broker

The receivers of `ArtemisService` settle their deliveries by hand: a delivery that is not settled
holds the queue up, and one that is settled twice breaks the protocol.  The handler of a message
constructs the model of its listener, validates it, calls the listener and accepts or rejects the
delivery.  Any number of handlers run side by side, of any listeners.

## Main definitions

* `Handler`, `Deliveries.next`, `Deliveries.machine` : the handlers and their steps.
* `Handler.Sound` : a handler that has ended has settled its delivery once, and accepted it if
  there was a valid message whose listener resolved.
* `Deliveries.Proper` : there is a message, constructing and validating it gives a result that can
  be written out, and `accept` does not throw.

## Main results

* `Handler.inv_validated`, `Handler.inv_listened` : what the steps of a handler keep.
* `Deliveries.settled_iff` : a run settles every delivery once exactly if all its steps are proper.
-/

namespace PolymeshRest

/-- The arguments of `registerListener`, for messages `β` and models `M`. -/
structure Registration (β M : Type*) where
  listenOn : QueueName
  /-- `Model.name` -/
  modelName : String
  /-- `new Model(body)`; it throws where there is none. -/
  construct : β → Option M

/-- How `validate` ends. -/
inductive ValidateResult where
  | rejects
  /-- There are errors; `JSON.stringify` throws on them where they have no text. -/
  | errors (text : Option String)
  | valid
  deriving DecidableEq, Repr

/-- What `accept` does.  It may have settled the delivery when it throws; the message is `none` if
it throws no `Error`. -/
inductive AcceptResult where
  | returns
  | throws (settled : Bool) (message : Option String)
  deriving DecidableEq, Repr

/-- How a listener ends, and what `accept` does after it has resolved. -/
inductive ListenResult where
  | resolves (accept : AcceptResult)
  /-- The message is `none` if what it rejects with is no `Error`. -/
  | rejects (message : Option String)
  deriving DecidableEq, Repr

/-- Where a handler stands. -/
inductive DeliveryPhase (M : Type*) where
  /-- Waits for `validate`. -/
  | validating (model : M)
  /-- Waits for the listener, which was called with the model. -/
  | listening (model : M)
  | ended

/-- The handler of a message, with what it has seen so far. -/
structure Handler (β M : Type*) where
  registration : Registration β M
  message : Option β
  phase : DeliveryPhase M
  validation : Option ValidateResult := none
  listened : Option ListenResult := none
  /-- The calls that have settled the delivery, in their order. -/
  settlements : List Disposition := []

/-- The handlers of all receivers. -/
structure Deliveries (β M : Type*) where
  handlers : List (Handler β M) := []

/-- One atomic step. -/
inductive DeliveryAct (β M : Type*) where
  /-- The receiver of a listener emits `message`. -/
  | delivered (registration : Registration β M) (message : Option β)
  /-- A handler goes on after `validate`. -/
  | validated (i : ℕ) (result : ValidateResult)
  /-- A handler goes on after its listener. -/
  | listened (i : ℕ) (result : ListenResult)

variable {β M : Type*}

namespace Handler

/-- The handler up to `validate`; it ends at once without a message, and if the model is not
constructed. -/
def start (registration : Registration β M) (message : Option β) : Handler β M where
  registration
  message
  phase := (message.bind registration.construct).elim .ended .validating

/-- `reject` with the error of the listener or of `accept`. -/
def processingError (message : Option String) : Disposition :=
  .reject "processing error" ("error processing message: " ++ message.getD "unknown error")

/-- The handler goes on after `validate`. -/
def validated (handler : Handler β M) (result : ValidateResult) : Option (Handler β M) :=
  match handler.phase with
  | .validating model =>
    match result with
    | .valid => some { handler with phase := .listening model, validation := some result }
    | .errors (some _) => some { handler with
        phase := .ended
        validation := some result
        settlements := handler.settlements ++ [.reject "validation error"
          ("message was deemed invalid for model: " ++ handler.registration.modelName)] }
    -- what is thrown here is not caught
    | .errors none | .rejects => some { handler with phase := .ended, validation := some result }
  | _ => none

/-- The dispositions that follow the end of a listener. -/
def dispositions : ListenResult → List Disposition
  | .resolves .returns => [.accept]
  | .resolves (.throws settled message) =>
    -- `accept` is called where the errors of the listener are caught
    (if settled then [.accept] else []) ++ [processingError message]
  | .rejects message => [processingError message]

/-- The handler goes on after its listener. -/
def afterListener (handler : Handler β M) (result : ListenResult) : Option (Handler β M) :=
  match handler.phase with
  | .listening _ => some { handler with
      phase := .ended
      listened := some result
      settlements := handler.settlements ++ dispositions result }
  | _ => none

/-- The handler has ended. -/
def Ended (handler : Handler β M) : Prop := handler.phase = .ended

/-- There is a message, it is valid, and the listener has resolved. -/
def Processed (handler : Handler β M) : Prop :=
  handler.message.isSome = true ∧ handler.validation = some .valid ∧
    ∃ accept, handler.listened = some (.resolves accept)

/-- A handler that has ended has settled its delivery once, and accepted it if it was processed. -/
def Sound (handler : Handler β M) : Prop :=
  handler.Ended → ∃ disposition, handler.settlements = [disposition] ∧
    (disposition = .accept ↔ handler.Processed)

/-- What the steps of a handler keep. -/
def Inv (handler : Handler β M) : Prop :=
  match handler.phase with
  | .validating _ => handler.message.isSome = true ∧ handler.settlements = []
  | .listening _ =>
    handler.message.isSome = true ∧ handler.validation = some .valid ∧ handler.settlements = []
  | .ended => handler.Sound

end Handler

namespace Deliveries

/-- The state a step leads to. -/
def next (s : Deliveries β M) : DeliveryAct β M → Option (Deliveries β M)
  | .delivered registration message =>
    some { handlers := s.handlers ++ [.start registration message] }
  | .validated i result =>
    s.handlers[i]?.bind fun handler =>
      (handler.validated result).map fun handler' => { handlers := s.handlers.set i handler' }
  | .listened i result =>
    s.handlers[i]?.bind fun handler =>
      (handler.afterListener result).map fun handler' => { handlers := s.handlers.set i handler' }

/-- The receivers at work. -/
def machine : Machine (Deliveries β M) (DeliveryAct β M) := ⟨next⟩

/-- Every handler is sound. -/
def Sound (s : Deliveries β M) : Prop := ∀ handler ∈ s.handlers, handler.Sound

/-- A step leads to sound handlers. -/
def Settles (s : Deliveries β M) (a : DeliveryAct β M) : Prop :=
  ∀ s', machine.next s a = some s' → s'.Sound

/-- There is a message whose model can be constructed, `validate` does not reject, its errors can
be written out, and `accept` does not throw. -/
def Proper (s : Deliveries β M) : DeliveryAct β M → Prop
  | .delivered registration message => (message.bind registration.construct).isSome = true
  | .validated i result => ∀ handler model, s.handlers[i]? = some handler →
      handler.phase = .validating model → result ≠ .rejects ∧ result ≠ .errors none
  | .listened i result => ∀ handler model, s.handlers[i]? = some handler →
      handler.phase = .listening model →
        ∀ settled message, result ≠ .resolves (.throws settled message)

end Deliveries

/-! ### One handler -/

namespace Handler

variable {handler handler' : Handler β M} {registration : Registration β M} {message : Option β}

theorem sound_of_inv (h : handler.Inv) : handler.Sound := by
  intro hended
  rw [Inv, hended] at h
  exact h hended

theorem inv_start (h : (message.bind registration.construct).isSome = true) :
    (start registration message).Inv := by
  obtain ⟨model, hmodel⟩ := Option.isSome_iff_exists.1 h
  obtain ⟨body, rfl, -⟩ := Option.bind_eq_some_iff.1 hmodel
  rw [Inv, start, hmodel]
  exact ⟨rfl, rfl⟩

/-- Otherwise it ends with nothing settled. -/
theorem not_sound_start (h : (message.bind registration.construct).isSome = false) :
    ¬(start registration message).Sound := by
  intro hsound
  have hnone := Option.isSome_eq_false_iff.1 h
  rw [Option.isNone_iff_eq_none] at hnone
  obtain ⟨disposition, hsettlements, -⟩ := hsound (by rw [Ended, start, hnone]; rfl)
  cases hsettlements

theorem exists_validating {result : ValidateResult}
    (hst : handler.validated result = some handler') :
    ∃ model, handler.phase = .validating model := by
  rw [validated] at hst
  split at hst
  · next model hphase => exact ⟨model, hphase⟩
  · cases hst

theorem exists_listening {result : ListenResult}
    (hst : handler.afterListener result = some handler') :
    ∃ model, handler.phase = .listening model := by
  rw [afterListener] at hst
  split at hst
  · next model hphase => exact ⟨model, hphase⟩
  · cases hst

/-- What the end of a validation keeps. -/
theorem inv_validated (h : handler.Inv) {result : ValidateResult}
    (hst : handler.validated result = some handler') (hrejects : result ≠ .rejects)
    (hthrows : result ≠ .errors none) : handler'.Inv := by
  obtain ⟨model, hphase⟩ := exists_validating hst
  rw [Inv, hphase] at h
  obtain ⟨hmessage, hsettlements⟩ := h
  rw [validated, hphase] at hst
  cases result with
  | valid =>
    cases hst
    exact ⟨hmessage, rfl, hsettlements⟩
  | rejects => exact absurd rfl hrejects
  | errors text =>
    cases text with
    | none => exact absurd rfl hthrows
    | some text =>
      cases hst
      refine fun _ => ⟨_, by rw [hsettlements]; rfl, ?_⟩
      refine iff_of_false nofun ?_
      rintro ⟨-, hvalid, -⟩
      cases hvalid

/-- A validation that cannot be dealt with ends the handler with nothing settled. -/
theorem not_sound_validated (h : handler.Inv) {result : ValidateResult}
    (hst : handler.validated result = some handler')
    (hresult : result = .rejects ∨ result = .errors none) : ¬handler'.Sound := by
  obtain ⟨model, hphase⟩ := exists_validating hst
  rw [Inv, hphase] at h
  rw [validated, hphase] at hst
  rcases hresult with rfl | rfl <;>
  · cases hst
    intro hsound
    obtain ⟨disposition, hsettlements, -⟩ := hsound rfl
    rw [h.2] at hsettlements
    cases hsettlements

theorem listened_of_inv (h : handler.Inv) {result : ListenResult}
    (hst : handler.afterListener result = some handler') :
    handler.message.isSome = true ∧ handler.validation = some .valid ∧
      handler' = { handler with
        phase := .ended
        listened := some result
        settlements := dispositions result } := by
  obtain ⟨model, hphase⟩ := exists_listening hst
  rw [Inv, hphase] at h
  obtain ⟨hmessage, hvalidation, hsettlements⟩ := h
  rw [afterListener, hphase] at hst
  cases hst
  refine ⟨hmessage, hvalidation, ?_⟩
  rw [hsettlements, List.nil_append]

theorem inv_listened (h : handler.Inv) {result : ListenResult}
    (hst : handler.afterListener result = some handler')
    (haccept : ∀ settled message, result ≠ .resolves (.throws settled message)) :
    handler'.Inv := by
  obtain ⟨hmessage, hvalidation, rfl⟩ := listened_of_inv h hst
  intro _
  cases result with
  | resolves accept =>
    cases accept with
    | returns => exact ⟨.accept, rfl, iff_of_true rfl ⟨hmessage, hvalidation, .returns, rfl⟩⟩
    | throws settled message => exact absurd rfl (haccept settled message)
  | rejects message =>
    refine ⟨processingError message, rfl, iff_of_false nofun ?_⟩
    rintro ⟨-, -, accept, hlistened⟩
    cases hlistened

/-- Where `accept` throws the delivery is rejected, too, though it was processed. -/
theorem not_sound_listened (h : handler.Inv) {settled : Bool} {message : Option String}
    (hst : handler.afterListener (.resolves (.throws settled message)) = some handler') :
    ¬handler'.Sound := by
  obtain ⟨hmessage, hvalidation, rfl⟩ := listened_of_inv h hst
  intro hsound
  obtain ⟨disposition, hone, haccept⟩ := hsound rfl
  cases settled with
  | true => cases hone
  | false =>
    cases hone
    cases haccept.2 ⟨hmessage, hvalidation, .throws false message, rfl⟩

end Handler

/-! ### The service -/

namespace Deliveries

variable {s s' : Deliveries β M}

/-- What proper steps keep. -/
def Inv (s : Deliveries β M) : Prop := ∀ handler ∈ s.handlers, handler.Inv

theorem sound_of_inv (h : s.Inv) : s.Sound := fun handler hmem =>
  Handler.sound_of_inv (h handler hmem)

theorem inv_set (h : s.Inv) {i : ℕ} {handler : Handler β M} (hhandler : handler.Inv) :
    Inv { handlers := s.handlers.set i handler } := by
  intro other hmem
  rcases List.mem_or_eq_of_mem_set hmem with hmem | rfl
  · exact h other hmem
  · exact hhandler

/-- **The step lemma**: proper steps keep what the handlers keep. -/
theorem inv_next {a : DeliveryAct β M} (h : s.Inv) (hproper : s.Proper a)
    (hst : machine.next s a = some s') : s'.Inv := by
  cases a with
  | delivered registration message =>
    cases hst
    intro handler hmem
    rcases List.mem_append.1 hmem with hmem | hmem
    · exact h handler hmem
    · rw [List.mem_singleton.1 hmem]
      exact Handler.inv_start hproper
  | validated i result =>
    obtain ⟨handler, hi, hst⟩ := Option.bind_eq_some_iff.1 hst
    obtain ⟨handler', hvalidated, rfl⟩ := Option.map_eq_some_iff.1 hst
    obtain ⟨model, hphase⟩ := Handler.exists_validating hvalidated
    obtain ⟨hrejects, hthrows⟩ := hproper handler model hi hphase
    exact inv_set h (Handler.inv_validated (h handler (List.mem_of_getElem? hi)) hvalidated
      hrejects hthrows)
  | listened i result =>
    obtain ⟨handler, hi, hst⟩ := Option.bind_eq_some_iff.1 hst
    obtain ⟨handler', hlistened, rfl⟩ := Option.map_eq_some_iff.1 hst
    obtain ⟨model, hphase⟩ := Handler.exists_listening hlistened
    exact inv_set h (Handler.inv_listened (h handler (List.mem_of_getElem? hi)) hlistened
      (hproper handler model hi hphase))

/-- A step that leads to sound handlers is proper. -/
theorem proper_of_settles {a : DeliveryAct β M} (h : s.Inv) (hsettles : s.Settles a) :
    s.Proper a := by
  cases a with
  | delivered registration message =>
    by_contra hnone
    rw [Proper, Bool.not_eq_true] at hnone
    exact Handler.not_sound_start hnone
      (hsettles _ rfl _ (List.mem_append_right _ List.mem_cons_self))
  | validated i result =>
    intro handler model hi hphase
    have hinv := h handler (List.mem_of_getElem? hi)
    have hlt := (List.getElem?_eq_some_iff.1 hi).1
    by_contra hresult
    rw [not_and_or, not_not, not_not] at hresult
    obtain ⟨handler', hvalidated⟩ : ∃ handler', handler.validated result = some handler' := by
      rw [Handler.validated, hphase]
      rcases hresult with rfl | rfl <;> exact ⟨_, rfl⟩
    refine Handler.not_sound_validated hinv hvalidated hresult
      (hsettles { handlers := s.handlers.set i handler' } ?_ _ (mem_set_self _ hi))
    simp only [machine, next, hi, Option.bind_some, hvalidated, Option.map_some]
  | listened i result =>
    intro handler model hi hphase settled message hresult
    subst hresult
    have hinv := h handler (List.mem_of_getElem? hi)
    obtain ⟨handler', hlistened⟩ : ∃ handler',
        handler.afterListener (.resolves (.throws settled message)) = some handler' := by
      rw [Handler.afterListener, hphase]
      exact ⟨_, rfl⟩
    refine Handler.not_sound_listened hinv hlistened
      (hsettles { handlers := s.handlers.set i handler' } ?_ _ (mem_set_self _ hi))
    simp only [machine, next, hi, Option.bind_some, hlistened, Option.map_some]

/-- **A run settles every delivery once**, and accepts those that were processed, exactly if all
its steps are proper. -/
theorem settled_iff (acts : List (DeliveryAct β M)) :
    (machine (β := β) (M := M)).Meets Settles {} acts ↔ machine.Meets Proper {} acts :=
  Machine.meets_iff_meets (J := Inv) (fun _ _ _ => inv_next)
    (fun _ _ h => ⟨proper_of_settles h, fun hproper _ hst => sound_of_inv (inv_next h hproper hst)⟩)
    (fun _ hmem => absurd hmem List.not_mem_nil) acts

/-- A delivery without a message is never settled. -/
theorem not_settled : ¬∀ acts : List (DeliveryAct Unit Unit), machine.Meets Settles {} acts := by
  intro hall
  have hmeets := hall [.delivered ⟨.requests, "Model", some⟩ none]
  obtain ⟨disposition, hsettlements, -⟩ := hmeets.1 _ rfl _ List.mem_cons_self rfl
  cases hsettlements

end Deliveries

end PolymeshRest
