import PolymeshRest.Offline.Custody

/-!
# Transactions of the offline pipeline are submitted once

Delivering a message again is what makes the pipeline do things twice.  Where no message is put
back into its queue, every id is signed, submitted, finalized and recorded at most once, whatever
else fails; and when the broker has nothing left to deliver, and has put nothing aside, all of this
has happened exactly once for every receipt.

## Main definitions

* `Pipeline.Undisturbed` : ids are fresh, and no message is put back.
* `Pipeline.Once` : what happens at most once.
* `Pipeline.Drained`, `Pipeline.Completed` : nothing is left to do, and all that was promised was
  done once.

## Main results

* `Pipeline.budget_next` : what each step keeps.
* `Pipeline.once_of_reaches`, `Pipeline.completed_of_reaches`
-/

namespace PolymeshRest

open Js SubmitTransaction

variable {σ : Type}

/-- The id of a call that may still send its request. -/
def StartCall.pending (call : StartCall σ) : Option String :=
  match call.phase with
  | .preparing | .sending _ => some call.id
  | _ => none

/-- The id of a request whose handler may still send a signature. -/
def pendingSign (request : OfflineRequestModel σ) : SignPhase → Option String
  | .ended => none
  | _ => some request.id

/-- The id of a call that may still publish its finalization. -/
def SubmitCall.pending {π : Type*} (call : SubmitCall π) : Option String :=
  match call.phase with
  | .creating | .submitting | .sending _ => some call.body.id
  | _ => none

/-- A message that may still be recorded. -/
def pendingRecord (message : OfflineMessage σ) : RecordPhase → Option (OfflineMessage σ)
  | .recording => some message
  | .ended => none

namespace Submitter

variable {π : Type*}

/-- The ids of the calls. -/
def ids (s : Submitter π) : Multiset String := ↑(s.calls.map fun call => call.body.id)

/-- The ids of the messages that have been published. -/
def finalized (s : Submitter π) : Multiset String := ↑(s.published.map FinalizationMessage.id)

/-- A call publishes at most once. -/
def Within (s : Submitter π) : Prop := s.finalized + tally SubmitCall.pending s.calls ≤ s.ids

variable {s s' : Submitter π}

/-- A call goes on, and publishes no more than it could. -/
theorem within_set (h : Within s) {i : ℕ} {old new : SubmitCall π} (hi : s.calls[i]? = some old)
    (hcalls : s'.calls = s.calls.set i new) (hbody : new.body = old.body)
    (hpublished : s'.finalized + ↑new.pending.toList ≤ s.finalized + ↑old.pending.toList) :
    Within s' := by
  have hids : s'.ids = s.ids := by
    have hmap : (s.calls.set i new).map (fun call => call.body.id) =
        s.calls.map fun call => call.body.id :=
      map_set_of_eq (fun call : SubmitCall π => call.body.id) hi (by rw [hbody])
    rw [ids, ids, hcalls, hmap]
  rw [Within, hids, hcalls]
  exact add_le_of_step h (tally_set hi new) hpublished

/-- **The step lemma**: what a call publishes, it publishes once. -/
theorem within_next {a : SubmitterAct π} (h : Within s) (hst : machine.next s a = some s') :
    Within s' := by
  cases next_cases hst with
  | deliver body =>
    have hids : ids { s with calls := s.calls ++ [⟨body, .creating, none⟩] } =
        s.ids + ↑[body.id] := by
      simp only [ids, List.map_append, List.map_cons, List.map_nil, ← Multiset.coe_add]
    rw [Within, hids]
    simp only [tally_append, tally_singleton, ← add_assoc]
    exact add_le_add h le_rfl
  | createTx hi outcome =>
    refine within_set h hi rfl rfl (add_le_add le_rfl ?_)
    cases outcome <;> simp [SubmitCall.pending, Outcome.ok]
  | submitted hi result => exact within_set h hi rfl rfl le_rfl
  | refused hi => exact within_set h hi rfl rfl (add_le_add le_rfl (Multiset.zero_le _))
  | @sendMessage i body result update hi outcome =>
    have hmessage : finalized { s with
        published := body.finalizationMsg result :: s.published } = {body.id} + s.finalized := rfl
    cases outcome with
    | rejected => exact within_set h hi rfl rfl (add_le_add le_rfl (Multiset.zero_le _))
    | _ =>
      refine within_set h hi rfl rfl ?_
      show _ + (0 : Multiset String) ≤ s.finalized + {body.id}
      rw [add_zero, add_comm s.finalized]
      exact hmessage.le
  | @updateTx i body phase result hi outcome => exact within_set h hi rfl rfl le_rfl
  | settle hi => exact within_set h hi rfl rfl le_rfl

end Submitter

namespace Pipeline

/-- Every call of `beginTransaction` has an id of its own, and no message is put back. -/
def Undisturbed (s : Pipeline σ) : PipelineAct σ → Prop
  | .beginTransaction id _ => id ∉ s.starts.map StartCall.id
  | .settleRequest _ how | .settleSignature _ how | .settleEvent _ how => how ≠ .requeued
  | _ => True

instance (s : Pipeline σ) : ∀ a, Decidable (s.Undisturbed a)
  | .beginTransaction _ _ => inferInstanceAs (Decidable (_ ∉ _))
  | .settleRequest _ _ | .settleSignature _ _ | .settleEvent _ _ =>
    inferInstanceAs (Decidable (_ ≠ _))
  | .toSignablePayload _ _ | .sendRequest _ _ _ | .deliverRequest _ | .signPayload _ _
  | .sendSignature _ _ | .deliverSignature _ | .submit _ | .deliverEvent _ | .recordEvent _ _ =>
    .isTrue trivial

/-- No id is requested, signed, submitted or finalized twice, and no message is recorded more often
than it was sent. -/
structure Once (s : Pipeline σ) : Prop where
  requests : (s.requests.kept.map OfflineRequest.id).Nodup
  signatures : (s.signatures.kept.map OfflineSignatureModel.id).Nodup
  submissions : s.submitter.ids.Nodup
  finalizations : s.submitter.finalized.Nodup
  events : ↑(PostgresOfflineEventRepo.bodies s.events) ≤ s.sent

/-- What the steps keep: of each stage, what has come out and what is under way are within what has
gone in. -/
structure Budget (s : Pipeline σ) : Prop where
  ids : (s.starts.map StartCall.id).Nodup
  requests : s.requests.kept.map OfflineRequest.id + tally StartCall.pending s.starts ≤
    ↑(s.starts.map StartCall.id)
  requested : s.requests.NonePutBack
  signatures : s.signatures.kept.map OfflineSignatureModel.id + s.requests.shown pendingSign ≤
    s.requests.delivered.map OfflineRequest.id
  signed : s.signatures.NonePutBack
  finalizations : s.submitter.Within
  events : ↑(PostgresOfflineEventRepo.bodies s.events) + s.eventsLog.shown pendingRecord ≤
    s.eventsLog.delivered
  logged : s.eventsLog.NonePutBack

theorem budget_init : Budget ({} : Pipeline σ) where
  ids := List.nodup_nil
  requests := le_rfl
  requested _ h := nomatch h
  signatures := le_rfl
  signed _ h := nomatch h
  finalizations := le_rfl
  events := le_rfl
  logged _ h := nomatch h

variable {s s' : Pipeline σ}

/-- The ids of the submissions are ids of signatures, these are ids of requests, and these are ids
of calls of `beginTransaction`. -/
theorem Budget.once (h : Budget s) (hcustody : Custody s) : s.Once := by
  have hstarts : (↑(s.starts.map StartCall.id) : Multiset String).Nodup := h.ids
  have hrequests : (s.requests.kept.map OfflineRequest.id).Nodup :=
    Multiset.nodup_of_le ((Multiset.le_add_right _ _).trans h.requests) hstarts
  have hsignatures : (s.signatures.kept.map OfflineSignatureModel.id).Nodup := by
    refine Multiset.nodup_of_le ((Multiset.le_add_right _ _).trans h.signatures) ?_
    exact Multiset.nodup_of_le (Multiset.map_le_map (Queue.delivered_le_kept h.requested)) hrequests
  have hsubmissions : s.submitter.ids.Nodup := by
    have hids : s.submitter.ids = s.signatures.delivered.map OfflineSignatureModel.id := by
      rw [Queue.delivered_eq, hcustody.bodies, Multiset.map_coe, List.map_map]
      rfl
    rw [hids]
    exact Multiset.nodup_of_le (Multiset.map_le_map (Queue.delivered_le_kept h.signed)) hsignatures
  refine ⟨hrequests, hsignatures, hsubmissions, ?_, ?_⟩
  · exact Multiset.nodup_of_le ((Multiset.le_add_right _ _).trans h.finalizations) hsubmissions
  · rw [← hcustody.diverted]
    exact ((Multiset.le_add_right _ _).trans h.events).trans (Queue.delivered_le_kept h.logged)

theorem requests_withStart {out out' : Multiset String} {i : ℕ} {old new : StartCall σ}
    (h : out + tally StartCall.pending s.starts ≤ ↑(s.starts.map StartCall.id))
    (hi : s.starts[i]? = some old) (hid : new.id = old.id)
    (hout : out' + ↑new.pending.toList ≤ out + ↑old.pending.toList) :
    out' + tally StartCall.pending (s.starts.set i new) ≤
      ↑((s.starts.set i new).map StartCall.id) := by
  have hids : (s.starts.set i new).map StartCall.id = s.starts.map StartCall.id :=
    map_set_of_eq _ hi hid
  rw [hids]
  exact add_le_of_step h (tally_set hi new) hout

theorem shown_le_of_advance {β φ γ : Type*} {q : Queue β φ} {f : β → φ → Option γ}
    {out out' total : Multiset γ} (h : out + q.shown f ≤ total) {i : ℕ}
    {d : Queue.Delivery β φ} (hi : q.deliveries[i]? = some d) {phase : φ} (ok : Bool)
    (hout : out' + ↑(f d.message phase).toList ≤ out + ↑(f d.message d.phase).toList) :
    out' + (q.advance i phase ok).shown f ≤ total :=
  add_le_of_step h (Queue.shown_advance hi) hout

theorem nodup_withStart (h : (s.starts.map StartCall.id).Nodup) {i : ℕ} {old new : StartCall σ}
    (hi : s.starts[i]? = some old) (hid : new.id = old.id) :
    ((s.starts.set i new).map StartCall.id).Nodup := by
  have hmap : (s.starts.set i new).map StartCall.id = s.starts.map StartCall.id :=
    map_set_of_eq StartCall.id hi hid
  rwa [hmap]

theorem budget_withStart (h : Budget s) {i : ℕ} {old new : StartCall σ}
    (hi : s.starts[i]? = some old) (hid : new.id = old.id)
    (hpending : (↑new.pending.toList : Multiset String) ≤ ↑old.pending.toList) :
    Budget (s.withStart i new) :=
  { h with
    ids := nodup_withStart h.ids hi hid
    requests := requests_withStart h.requests hi hid (add_le_add le_rfl hpending) }

/-- A call of `beginTransaction` sends its request, and has none left to send. -/
theorem budget_publishRequest (h : Budget s) {i : ℕ} {id : String} {metadata : Option Metadata}
    {payload : OfflinePayload σ} {new : StartCall σ}
    (hi : s.starts[i]? = some ⟨id, metadata, .sending payload⟩) (hid : new.id = id)
    (hpending : new.pending = none) :
    Budget ((s.publishRequest ⟨id, payload⟩).withStart i new) :=
  { h with
    ids := nodup_withStart h.ids hi hid
    requests := by
      show (s.requests.send ⟨id, payload⟩).kept.map OfflineRequest.id + _ ≤ _
      rw [Queue.kept_send, Multiset.map_cons]
      refine requests_withStart h.requests hi hid ?_
      show _ + (↑new.pending.toList : Multiset String) ≤ _ + {id}
      rw [hpending, ← Multiset.singleton_add]
      exact ((add_zero _).trans (add_comm _ _)).le }

theorem budget_known (h : Budget s) (prepared : List (OfflineRequestModel σ))
    (signed : List (SignerPayload σ × String)) : Budget { s with prepared, signed } :=
  { h with }

theorem budget_requests (h : Budget s) {queue : Queue (OfflineRequestModel σ) SignPhase}
    (hkept : queue.kept = s.requests.kept) (hrequested : queue.NonePutBack)
    (hsignatures : s.signatures.kept.map OfflineSignatureModel.id + queue.shown pendingSign ≤
      queue.delivered.map OfflineRequest.id) : Budget { s with requests := queue } :=
  { h with
    requests := by
      show queue.kept.map OfflineRequest.id + _ ≤ _
      rw [hkept]
      exact h.requests
    requested := hrequested
    signatures := hsignatures }

theorem budget_advanceRequest (h : Budget s) {i : ℕ}
    {d : Queue.Delivery (OfflineRequestModel σ) SignPhase} (hi : s.requests.deliveries[i]? = some d)
    {phase : SignPhase} {ok : Bool} (hpending : (↑(pendingSign d.message phase).toList :
      Multiset String) ≤ ↑(pendingSign d.message d.phase).toList) :
    Budget { s with requests := s.requests.advance i phase ok } := by
  refine budget_requests h Queue.kept_advance (Queue.nonePutBack_advance h.requested) ?_
  rw [Queue.delivered_advance]
  exact shown_le_of_advance h.signatures hi ok (add_le_add le_rfl hpending)

theorem budget_publishSignature (h : Budget s) {i : ℕ}
    {d : Queue.Delivery (OfflineRequestModel σ) SignPhase} (hi : s.requests.deliveries[i]? = some d)
    {signature : String} (hphase : d.phase = .sending signature) (ok : Bool) :
    Budget { s.publishSignature (signatureModel d.message signature) with
      requests := s.requests.advance i .ended ok } := by
  refine { h with requests := ?_, requested := Queue.nonePutBack_advance h.requested,
                  signatures := ?_ }
  · show (s.requests.advance i .ended ok).kept.map OfflineRequest.id + _ ≤ _
    rw [Queue.kept_advance]
    exact h.requests
  · show (s.signatures.send _).kept.map OfflineSignatureModel.id + _ ≤ _
    rw [Queue.delivered_advance, Queue.kept_send, Multiset.map_cons]
    refine shown_le_of_advance h.signatures hi ok ?_
    rw [hphase, ← Multiset.singleton_add]
    exact ((add_zero _).trans (add_comm _ _)).le

/-- **The step lemma**: a stage gives out no more than it was given. -/
theorem budget_next {a : PipelineAct σ} (h : Budget s) (hundisturbed : s.Undisturbed a)
    (hst : machine.next s a = some s') : Budget s' := by
  cases next_cases hst with
  | beginTransaction id metadata =>
    refine { h with ids := ?_, requests := ?_ }
    · show ((s.starts ++ [_]).map StartCall.id).Nodup
      rw [List.map_append, List.nodup_append]
      refine ⟨h.ids, List.nodup_singleton _, ?_⟩
      rintro a ha b hb rfl
      rw [List.mem_singleton.1 hb] at ha
      exact hundisturbed ha
    · show _ + tally _ (s.starts ++ [_]) ≤ (↑((s.starts ++ [_]).map StartCall.id) : Multiset String)
      rw [List.map_append, ← Multiset.coe_add, tally_append, tally_singleton, ← add_assoc]
      exact add_le_add h.requests le_rfl
  | @prepared i id metadata hi payload =>
    exact budget_withStart (budget_known h (⟨id, payload⟩ :: s.prepared) s.signed) hi rfl le_rfl
  | unprepared hi => exact budget_withStart h hi rfl (Multiset.zero_le _)
  | @sendRequest i id metadata payload hi outcome deliveryId =>
    cases outcome with
    | rejected => exact budget_withStart h hi rfl (Multiset.zero_le _)
    | _ => exact budget_publishRequest h hi rfl rfl
  | deliverRequest hq =>
    -- the message leaves the queue, and its handler may sign once
    refine budget_requests h (Queue.kept_deliver hq)
      (Queue.nonePutBack_deliver h.requested hq) ?_
    rw [Queue.shown_deliver hq, Queue.delivered_deliver hq, Multiset.map_add, ← add_assoc]
    exact add_le_add h.signatures le_rfl
  | @signPayload i d hi hphase signature =>
    refine budget_advanceRequest
      (budget_known h s.prepared ((d.message.payload.payload, signature) :: s.signed)) hi ?_
    rw [hphase]
    exact le_rfl
  | unsigned hi hphase => exact budget_advanceRequest h hi (Multiset.zero_le _)
  | @sendSignature i d hi signature hphase outcome =>
    cases outcome with
    | rejected => exact budget_advanceRequest h hi (Multiset.zero_le _)
    | _ => exact budget_publishSignature h hi hphase _
  | settleRequest hq =>
    refine budget_requests h (Queue.kept_settle hq)
      (Queue.nonePutBack_settle h.requested hq hundisturbed) ?_
    rw [Queue.shown_settle hq, Queue.delivered_settle hq]
    exact h.signatures
  | deliverSignature hq hdeliver =>
    refine { h with signatures := ?_, signed := Queue.nonePutBack_deliver h.signed hq,
                    finalizations := Submitter.within_next h.finalizations hdeliver }
    rw [Queue.kept_deliver hq]
    exact h.signatures
  | @submit act hact submitter hsubmit =>
    -- the submitter publishes within what it was given, and the broker keeps as much as before
    have hwithin := Submitter.within_next h.finalizations hsubmit
    have hkept := (messages_afterSubmit s.signatures act).1
    have hsigned : (afterSubmit s.signatures act).NonePutBack := by
      cases act with
      | settle i => exact Queue.nonePutBack_advance h.signed
      | _ => exact h.signed
    have hsignatures : (afterSubmit s.signatures act).kept.map OfflineSignatureModel.id +
        s.requests.shown pendingSign ≤ s.requests.delivered.map OfflineRequest.id := by
      rw [hkept]
      exact h.signatures
    -- the message that goes to the log is not recorded yet
    cases s.submitter.finalization act with
    | none =>
      exact { h with signatures := hsignatures, signed := hsigned, finalizations := hwithin }
    | some message =>
      exact { h with signatures := hsignatures, signed := hsigned, finalizations := hwithin }
  | settleSignature hq =>
    refine { h with signatures := ?_, signed := Queue.nonePutBack_settle h.signed hq hundisturbed }
    rw [Queue.kept_settle hq]
    exact h.signatures
  | deliverEvent hq =>
    refine { h with events := ?_, logged := Queue.nonePutBack_deliver h.logged hq }
    rw [Queue.shown_deliver hq, Queue.delivered_deliver hq, ← add_assoc]
    exact add_le_add h.events le_rfl
  | @recordEvent i d hi hphase outcome =>
    refine { h with events := ?_, logged := Queue.nonePutBack_advance h.logged }
    rw [Queue.delivered_advance]
    refine shown_le_of_advance h.events hi _ ?_
    rw [hphase]
    cases outcome with
    | rejected => exact add_le_add le_rfl (Multiset.zero_le _)
    | _ =>
      show (↑(PostgresOfflineEventRepo.bodies (PostgresOfflineEventRepo.recordEvent s.events
        d.message).2) : Multiset (OfflineMessage σ)) + 0 ≤ _
      rw [PostgresOfflineEventRepo.bodies_recordEvent, ← Multiset.coe_add, add_zero]
      exact le_rfl
  | settleEvent hq =>
    refine { h with events := ?_, logged := Queue.nonePutBack_settle h.logged hq hundisturbed }
    rw [Queue.shown_settle hq, Queue.delivered_settle hq]
    exact h.events

/-! ### Runs -/

theorem custody_budget_of_reaches (h : machine.Reaches Undisturbed {} s) : Custody s ∧ Budget s :=
  h.invariant (I := fun t => Custody t ∧ Budget t) ⟨custody_init, budget_init⟩
    fun _ _ _ hinv hundisturbed hst =>
      ⟨custody_next hinv.1 hst, budget_next hinv.2 hundisturbed hst⟩

/-- **Nothing happens twice**: in every undisturbed run, whichever steps fail, no id is requested,
signed, submitted or finalized twice, and no message is recorded twice. -/
theorem once_of_reaches (h : machine.Reaches Undisturbed {} s) : s.Once :=
  have ⟨hcustody, hbudget⟩ := custody_budget_of_reaches h
  hbudget.once hcustody

/-- Two calls; a request of the first is put aside, and the second is finalized, though its
transaction could not be recorded as such. -/
def partlyFailed : List (PipelineAct Unit) :=
  [.beginTransaction "7" none, .beginTransaction "8" none,
    .toSignablePayload 0 (some transferPayload), .toSignablePayload 1 (some transferPayload),
    .sendRequest 1 .unconfirmed 1, .sendRequest 0 .resolved 2, .deliverRequest 1,
    .deliverRequest 0, .signPayload 0 none, .settleRequest 0 .buried, .signPayload 1 (some "0x01"),
    .sendSignature 1 .resolved, .settleRequest 1 .accepted, .deliverSignature 0,
    .submit (.createTx 0 .resolved), .submit (.submitTransaction 0 (some ⟨"0x03", 1, "0x04"⟩)),
    .submit (.sendMessage 0 .resolved), .submit (.updateTx 0 .rejected), .deliverEvent 0,
    .recordEvent 0 .unconfirmed, .settleEvent 0 .buried]

theorem once_partlyFailed :
    ∃ s : Pipeline Unit, s.submitter.finalized.card = 1 ∧ s.Once := by
  obtain ⟨s, hreaches, hs⟩ := Machine.exists_reaches_of_run (M := machine) (C := Undisturbed)
    ({} : Pipeline Unit) partlyFailed (fun s => s.submitter.published.length == 1) (by decide)
    (by decide)
  exact ⟨s, by simpa [Submitter.finalized] using hs, once_of_reaches hreaches⟩

/-! ### When the broker is drained -/

/-- The broker has nothing left to deliver, and has put nothing aside. -/
structure Drained (s : Pipeline σ) : Prop where
  requests : s.requests.Drained
  signatures : s.signatures.Drained
  eventsLog : s.eventsLog.Drained

/-- Every transaction that a client has a receipt of was submitted once, and its finalization was
published once; and what was sent is recorded, once. -/
structure Completed (s : Pipeline σ) : Prop where
  receipts : ∀ call ∈ s.starts, ∀ receipt, call.phase = .returned receipt →
    ∃ request deliveryId, request.id = call.id ∧ receipt = requestReceipt request deliveryId ∧
      ∃ signature result,
        (signatureModel request signature).finalizationMsg result ∈ s.submitter.published
  submitted : ∀ message ∈ s.submitter.published, s.submitter.ids.count message.id = 1
  finalized : ∀ message ∈ s.submitter.published, s.submitter.finalized.count message.id = 1
  events : ↑(PostgresOfflineEventRepo.bodies s.events) = s.sent
  recorded : (PostgresOfflineEventRepo.bodies s.events).Nodup

/-- No message is sent twice. -/
theorem Once.nodup_sent (h : s.Once) : s.sent.Nodup := by
  have hrequests : (s.requests.kept.map OfflineMessage.request).Nodup :=
    h.requests.of_map.map fun _ _ heq => OfflineMessage.request.inj heq
  have hsignatures : (s.signatures.kept.map OfflineMessage.signature).Nodup :=
    h.signatures.of_map.map fun _ _ heq => OfflineMessage.signature.inj heq
  have hfinalizations : ((↑s.submitter.published : Multiset FinalizationMessage).map
      (.finalization : _ → OfflineMessage σ)).Nodup := by
    refine Multiset.Nodup.map (fun _ _ heq => OfflineMessage.finalization.inj heq) ?_
    exact Multiset.Nodup.of_map FinalizationMessage.id h.finalizations
  rw [sent, Multiset.nodup_add, Multiset.nodup_add]
  refine ⟨⟨hrequests, hsignatures, ?_⟩, hfinalizations, ?_⟩
  · rw [Multiset.disjoint_map_map]
    intro _ _ _ _ heq
    cases heq
  · rw [Multiset.disjoint_left]
    simp only [Multiset.mem_add, Multiset.mem_map]
    rintro _ (⟨_, -, rfl⟩ | ⟨_, -, rfl⟩) ⟨_, -, heq⟩ <;> cases heq

/-- **Everything happens once**: when an undisturbed run has left the broker nothing, every receipt
has been honoured once, and the log of the events is complete. -/
theorem completed_of_reaches (h : machine.Reaches Undisturbed {} s) (hdrained : s.Drained) :
    s.Completed := by
  obtain ⟨hcustody, hbudget⟩ := custody_budget_of_reaches h
  have honce : s.Once := hbudget.once hcustody
  have hrecorded : s.sent ≤ ↑(PostgresOfflineEventRepo.bodies s.events) := by
    rw [Multiset.le_iff_subset honce.nodup_sent]
    intro message hmessage
    rw [← hcustody.diverted] at hmessage
    obtain ⟨d, hd, rfl, hhandled⟩ := hdrained.eventsLog.handled hmessage
    exact hcustody.recorded d hd hhandled
  have hevents := le_antisymm honce.events hrecorded
  have hids : ∀ message ∈ s.submitter.published, message.id ∈ s.submitter.finalized :=
    fun message hmessage => Multiset.mem_coe.2 (List.mem_map_of_mem hmessage)
  refine ⟨fun call hcall receipt hreceipt => ?_, fun message hmessage => ?_,
    fun message hmessage => ?_, hevents, ?_⟩
  · obtain ⟨request, deliveryId, hid, hof, hkept⟩ := hcustody.receipts call hcall receipt hreceipt
    obtain ⟨d, hd, rfl, hhandled⟩ := hdrained.requests.handled hkept
    obtain ⟨signature, hsignature⟩ := hcustody.signed d hd hhandled
    obtain ⟨d', hd', hmessage', hhandled'⟩ := hdrained.signatures.handled hsignature
    obtain ⟨result, hresult⟩ := hcustody.finalized d' hd' hhandled'
    rw [hmessage'] at hresult
    exact ⟨d.message, deliveryId, hid, hof, signature, result, hresult⟩
  · refine Multiset.count_eq_one_of_mem honce.submissions ?_
    exact Multiset.mem_of_le ((Multiset.le_add_right _ _).trans hbudget.finalizations)
      (hids message hmessage)
  · exact Multiset.count_eq_one_of_mem honce.finalizations (hids message hmessage)
  · rw [← Multiset.coe_nodup, hevents]
    exact honce.nodup_sent

/-- The broker has only accepted deliveries. -/
def allAccepted (s : Pipeline Unit) : Bool :=
  s.requests.allAccepted && s.signatures.allAccepted && s.eventsLog.allAccepted

/-- Two calls, of which one gets no receipt, though its request was sent; and a finalization that
the database did not get. -/
def bothFinalized : List (PipelineAct Unit) :=
  [.beginTransaction "7" none, .beginTransaction "8" none,
    .toSignablePayload 0 (some transferPayload), .toSignablePayload 1 (some transferPayload),
    .sendRequest 1 .unconfirmed 1, .sendRequest 0 .resolved 2, .deliverRequest 1,
    .deliverRequest 0, .signPayload 1 (some "0x01"), .signPayload 0 (some "0x02"),
    .sendSignature 0 .resolved, .sendSignature 1 .resolved, .settleRequest 0 .accepted,
    .settleRequest 1 .accepted, .deliverSignature 0, .submit (.createTx 0 .resolved),
    .deliverSignature 0, .submit (.createTx 1 .resolved),
    .submit (.submitTransaction 1 (some ⟨"0x03", 1, "0x04"⟩)),
    .submit (.submitTransaction 0 (some ⟨"0x03", 2, "0x05"⟩)), .submit (.sendMessage 0 .resolved),
    .submit (.sendMessage 1 .resolved), .submit (.updateTx 0 .rejected),
    .submit (.updateTx 1 .resolved), .submit (.settle 1), .submit (.settle 0),
    .settleSignature 0 .accepted, .settleSignature 1 .accepted, .deliverEvent 5, .deliverEvent 4,
    .deliverEvent 3, .deliverEvent 2, .deliverEvent 1, .deliverEvent 0, .recordEvent 0 .resolved,
    .recordEvent 1 .resolved, .recordEvent 2 .resolved, .recordEvent 3 .resolved,
    .recordEvent 4 .resolved, .recordEvent 5 .resolved, .settleEvent 0 .accepted,
    .settleEvent 1 .accepted, .settleEvent 2 .accepted, .settleEvent 3 .accepted,
    .settleEvent 4 .accepted, .settleEvent 5 .accepted]

theorem completed_bothFinalized :
    ∃ s : Pipeline Unit, s.submitter.published.length = 2 ∧ s.Completed := by
  obtain ⟨s, hreaches, hs⟩ := Machine.exists_reaches_of_run (M := machine) (C := Undisturbed)
    ({} : Pipeline Unit) bothFinalized
    (fun s => s.submitter.published.length == 2 && s.allAccepted) (by decide) (by decide)
  obtain ⟨hpublished, haccepted⟩ := Bool.and_eq_true_iff.1 hs
  obtain ⟨hqueues, heventsLog⟩ := Bool.and_eq_true_iff.1 haccepted
  obtain ⟨hrequests, hsignatures⟩ := Bool.and_eq_true_iff.1 hqueues
  exact ⟨s, by simpa using hpublished, completed_of_reaches hreaches
    ⟨Queue.drained_of_allAccepted hrequests, Queue.drained_of_allAccepted hsignatures,
      Queue.drained_of_allAccepted heventsLog⟩⟩

end Pipeline

end PolymeshRest
