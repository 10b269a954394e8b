import PolymeshRest.Offline.Pipeline

/-!
# What becomes of everything in the offline pipeline

A receipt is a promise: the broker has the request.  No failure, redelivery or restart of a service
takes the transaction out of the pipeline.  It is with the broker, as a request or as a signature,
or the dead letters have it, or it has been finalized.  The same goes for the transcription: what
has been sent is recorded, or is yet to be.

## Main definitions

* `Pipeline.NoneLost` : where the transaction of a receipt is.
* `Pipeline.Transcribed` : what has been sent is what `EventsLog` has and what is recorded.

## Main results

* `Pipeline.custody_next` : what each step keeps.
* `Pipeline.noneLost_of_reaches`, `Pipeline.transcribed_of_reaches` : in every run no transaction
  and no message is lost.
-/

namespace PolymeshRest

open Js SubmitTransaction

namespace Pipeline

variable {σ : Type}

/-- A signature of the request is with the broker or among the dead letters, or the request has
been finalized. -/
def Passed (s : Pipeline σ) (request : OfflineRequestModel σ) : Prop :=
  ∃ signature, s.signatures.Waiting (signatureModel request signature) ∨
    s.signatures.Buried (signatureModel request signature) ∨
      ∃ result, (signatureModel request signature).finalizationMsg result ∈ s.submitter.published

/-- The transaction of every receipt is with the broker, among the dead letters, or finalized. -/
def NoneLost (s : Pipeline σ) : Prop :=
  ∀ call ∈ s.starts, ∀ receipt, call.phase = .returned receipt →
    ∃ request deliveryId, request.id = call.id ∧ receipt = requestReceipt request deliveryId ∧
      (s.requests.Waiting request ∨ s.requests.Buried request ∨ s.Passed request)

/-- All that has been sent. -/
def sent (s : Pipeline σ) : Multiset (OfflineMessage σ) :=
  s.requests.kept.map .request + s.signatures.kept.map .signature +
    (↑s.submitter.published : Multiset FinalizationMessage).map .finalization

/-- Everything that has been sent was diverted once, and is recorded unless it is with the broker
or among the dead letters; and nothing else is recorded. -/
structure Transcribed (s : Pipeline σ) : Prop where
  diverted : s.eventsLog.kept = s.sent
  recorded : ∀ message ∈ s.sent, s.eventsLog.Waiting message ∨ s.eventsLog.Buried message ∨
    message ∈ PostgresOfflineEventRepo.bodies s.events
  sent : ∀ message ∈ PostgresOfflineEventRepo.bodies s.events, message ∈ s.sent

/-- What the steps keep. -/
structure Custody (s : Pipeline σ) : Prop where
  receipts : ∀ call ∈ s.starts, ∀ receipt, call.phase = .returned receipt →
    ∃ request deliveryId, request.id = call.id ∧ receipt = requestReceipt request deliveryId ∧
      request ∈ s.requests.kept
  signed : ∀ d ∈ s.requests.deliveries, d.handled = true →
    ∃ signature, signatureModel d.message signature ∈ s.signatures.kept
  bodies : s.signatures.deliveries.map Queue.Delivery.message =
    s.submitter.calls.map SubmitCall.body
  submitter : s.submitter.Stems fun _ => True
  finalized : ∀ d ∈ s.signatures.deliveries, d.handled = true →
    ∃ result, d.message.finalizationMsg result ∈ s.submitter.published
  diverted : s.eventsLog.kept = s.sent
  logged : s.eventsLog.All (· ∈ s.eventsLog.kept)
  recorded : ∀ d ∈ s.eventsLog.deliveries, d.handled = true →
    d.message ∈ PostgresOfflineEventRepo.bodies s.events
  events : ∀ message ∈ PostgresOfflineEventRepo.bodies s.events, message ∈ s.eventsLog.kept

theorem custody_init : Custody ({} : Pipeline σ) where
  receipts _ h := nomatch h
  signed _ h := nomatch h
  bodies := rfl
  submitter := Submitter.stems_init
  finalized _ h := nomatch h
  diverted := rfl
  logged := Queue.all_empty
  recorded _ h := nomatch h
  events _ h := nomatch h

variable {s s' : Pipeline σ}

theorem Custody.noneLost (h : Custody s) : s.NoneLost := by
  intro call hcall receipt hreceipt
  obtain ⟨request, deliveryId, hid, hof, hkept⟩ := h.receipts call hcall receipt hreceipt
  refine ⟨request, deliveryId, hid, hof, (Queue.mem_kept_cases hkept).imp_right fun hrest => ?_⟩
  refine hrest.imp_right fun ⟨d, hd, hmessage, hhandled⟩ => ?_
  obtain ⟨signature, hsignature⟩ := h.signed d hd hhandled
  rw [hmessage] at hsignature
  refine ⟨signature, (Queue.mem_kept_cases hsignature).imp_right fun hrest => ?_⟩
  refine hrest.imp_right fun ⟨d', hd', hmessage', hhandled'⟩ => ?_
  rw [← hmessage']
  exact h.finalized d' hd' hhandled'

theorem Custody.transcribed (h : Custody s) : s.Transcribed where
  diverted := h.diverted
  recorded message hmessage := by
    rw [← h.diverted] at hmessage
    refine (Queue.mem_kept_cases hmessage).imp_right fun hrest => ?_
    refine hrest.imp_right fun ⟨d, hd, heq, hhandled⟩ => ?_
    rw [← heq]
    exact h.recorded d hd hhandled
  sent message hmessage := h.diverted ▸ h.events message hmessage

/-! ### The steps of the services -/

theorem custody_withStart (h : Custody s) {i : ℕ} {call : StartCall σ}
    (hreceipt : ∀ receipt, call.phase = .returned receipt →
      ∃ request deliveryId, request.id = call.id ∧ receipt = requestReceipt request deliveryId ∧
        request ∈ s.requests.kept) : Custody (s.withStart i call) := by
  refine { h with receipts := fun other hother => ?_ }
  rcases List.mem_or_eq_of_mem_set hother with hold | rfl
  · exact h.receipts other hold
  · exact hreceipt

/-- Custody does not depend on what the SDK and the signing manager have made. -/
theorem custody_known (h : Custody s) (prepared : List (OfflineRequestModel σ))
    (signed : List (SignerPayload σ × String)) : Custody { s with prepared, signed } :=
  { h with }

/-- A message is diverted, next to its own way. -/
theorem logged_send (h : s.eventsLog.All (· ∈ s.eventsLog.kept)) (message : OfflineMessage σ) :
    (s.eventsLog.send message).All (· ∈ (s.eventsLog.send message).kept) := by
  rw [Queue.kept_send]
  exact Queue.all_send (h.imp fun _ hm => Multiset.mem_cons_of_mem hm) (Multiset.mem_cons_self _ _)

theorem mem_kept_send {β φ : Type*} {q : Queue β φ} {m : β} (h : m ∈ q.kept) (m' : β) :
    m ∈ (q.send m').kept := by
  rw [Queue.kept_send]
  exact Multiset.mem_cons_of_mem h

theorem custody_publishRequest (h : Custody s) (request : OfflineRequestModel σ) :
    Custody (s.publishRequest request) :=
  { h with
    receipts := fun call hcall receipt hphase => by
      obtain ⟨r, deliveryId, hid, hof, hkept⟩ := h.receipts call hcall receipt hphase
      exact ⟨r, deliveryId, hid, hof, mem_kept_send hkept request⟩
    diverted := by
      simp only [publishRequest, sent, Queue.kept_send, Multiset.map_cons, h.diverted,
        Multiset.cons_add]
    logged := logged_send h.logged _
    events := fun message hmessage => mem_kept_send (h.events message hmessage) _ }

theorem custody_publishSignature (h : Custody s) (body : OfflineSignature σ) :
    Custody (s.publishSignature body) :=
  { h with
    signed := fun d hd hhandled =>
      (h.signed d hd hhandled).imp fun _ hsignature => mem_kept_send hsignature body
    diverted := by
      simp only [publishSignature, sent, Queue.kept_send, Multiset.map_cons, h.diverted,
        Multiset.cons_add, Multiset.add_cons]
    logged := logged_send h.logged _
    events := fun message hmessage => mem_kept_send (h.events message hmessage) _ }

theorem custody_requests (h : Custody s) {queue : Queue (OfflineRequestModel σ) SignPhase}
    (hkept : queue.kept = s.requests.kept)
    (hsigned : ∀ d ∈ queue.deliveries, d.handled = true →
      ∃ signature, signatureModel d.message signature ∈ s.signatures.kept) :
    Custody { s with requests := queue } := by
  refine { h with receipts := ?_, signed := hsigned, diverted := ?_ }
  · simpa only [hkept] using h.receipts
  · simpa only [sent, hkept] using h.diverted

theorem custody_advanceRequest (h : Custody s) {i : ℕ} {phase : SignPhase} {ok : Bool}
    (hnew : ok = true → ∀ d, s.requests.deliveries[i]? = some d →
      ∃ signature, signatureModel d.message signature ∈ s.signatures.kept) :
    Custody { s with requests := s.requests.advance i phase ok } := by
  refine custody_requests h Queue.kept_advance (Queue.forall_advance h.signed ?_)
  intro d hd hhandled
  rcases Bool.or_eq_true_iff.1 hhandled with hbefore | hok
  · exact h.signed d (List.mem_of_getElem? hd) hbefore
  · exact hnew hok d hd

theorem custody_eventsLog (h : Custody s) {queue : Queue (OfflineMessage σ) RecordPhase}
    (hkept : queue.kept = s.eventsLog.kept) (hlogged : queue.All (· ∈ s.eventsLog.kept))
    (hrecorded : ∀ d ∈ queue.deliveries, d.handled = true →
      d.message ∈ PostgresOfflineEventRepo.bodies s.events) :
    Custody { s with eventsLog := queue } := by
  refine { h with diverted := ?_, logged := ?_, recorded := hrecorded, events := ?_ }
  · exact hkept.trans h.diverted
  · rwa [hkept]
  · rw [hkept]
    exact h.events

theorem custody_recorded (h : Custody s) {message : OfflineMessage σ}
    (hmessage : message ∈ s.eventsLog.kept) :
    Custody { s with events := (PostgresOfflineEventRepo.recordEvent s.events message).2 } := by
  refine { h with recorded := fun d hd hhandled => ?_, events := fun m hm => ?_ }
  · rw [PostgresOfflineEventRepo.bodies_recordEvent]
    exact List.mem_append_left _ (h.recorded d hd hhandled)
  · rw [PostgresOfflineEventRepo.bodies_recordEvent] at hm
    rcases List.mem_append.1 hm with hm | hm
    · exact h.events m hm
    · rwa [List.mem_singleton.1 hm]

theorem custody_advanceEvent (h : Custody s) {i : ℕ} {ok : Bool}
    (hnew : ok = true → ∀ d, s.eventsLog.deliveries[i]? = some d →
      d.message ∈ PostgresOfflineEventRepo.bodies s.events) :
    Custody { s with eventsLog := s.eventsLog.advance i .ended ok } := by
  refine custody_eventsLog h Queue.kept_advance (Queue.all_advance h.logged)
    (Queue.forall_advance h.recorded fun d hd hhandled => ?_)
  rcases Bool.or_eq_true_iff.1 hhandled with hbefore | hok
  · exact h.recorded d (List.mem_of_getElem? hd) hbefore
  · exact hnew hok d hd

theorem custody_signatures (h : Custody s) {queue : Queue (OfflineSignature σ) Unit}
    {submitter : Submitter (OfflinePayload σ)} (hkept : queue.kept = s.signatures.kept)
    (hbodies : queue.deliveries.map Queue.Delivery.message = submitter.calls.map SubmitCall.body)
    (hsubmitter : submitter.Stems fun _ => True)
    (hpublished : submitter.published = s.submitter.published)
    (hfinalized : ∀ d ∈ queue.deliveries, d.handled = true →
      ∃ result, d.message.finalizationMsg result ∈ s.submitter.published) :
    Custody { s with signatures := queue, submitter } := by
  refine { h with signed := ?_, bodies := hbodies, submitter := hsubmitter, finalized := ?_,
                  diverted := ?_ }
  · simpa only [hkept] using h.signed
  · simpa only [hpublished] using hfinalized
  · simpa only [sent, hkept, hpublished] using h.diverted

theorem custody_publishFinalization (h : Custody s) {submitter : Submitter (OfflinePayload σ)}
    (hbodies : submitter.calls.map SubmitCall.body = s.submitter.calls.map SubmitCall.body)
    (hsubmitter : submitter.Stems fun _ => True) {finalization : Option FinalizationMessage}
    (hpublished : submitter.published = finalization.toList ++ s.submitter.published) :
    Custody { s.publishFinalization finalization with submitter } := by
  have hfinalized : ∀ d ∈ s.signatures.deliveries, d.handled = true →
      ∃ result, d.message.finalizationMsg result ∈ submitter.published := by
    intro d hd hhandled
    obtain ⟨result, hresult⟩ := h.finalized d hd hhandled
    exact ⟨result, by rw [hpublished]; exact List.mem_append_right _ hresult⟩
  cases finalization with
  | none =>
    exact { h with
      bodies := h.bodies.trans hbodies.symm
      submitter := hsubmitter
      finalized := hfinalized
      diverted := by
        have hsame : submitter.published = s.submitter.published := hpublished
        simp only [publishFinalization, sent, hsame]
        exact h.diverted }
  | some message =>
    exact { h with
      bodies := h.bodies.trans hbodies.symm
      submitter := hsubmitter
      finalized := hfinalized
      diverted := by
        simp only [publishFinalization, sent, Queue.kept_send, h.diverted, hpublished,
          Option.toList_some, List.singleton_append, ← Multiset.cons_coe, Multiset.map_cons,
          Multiset.add_cons]
      logged := logged_send h.logged _
      events := fun m hm => mem_kept_send (h.events m hm) _ }

/-- Where a call of `submit` returns, the handler of its signature resolves, and the finalization
has been published. -/
theorem finalized_afterSubmit (h : Custody s) {act : SubmitterAct (OfflinePayload σ)}
    {submitter : Submitter (OfflinePayload σ)}
    (hst : Submitter.machine.next s.submitter act = some submitter) :
    ∀ d ∈ (afterSubmit s.signatures act).deliveries, d.handled = true →
      ∃ result, d.message.finalizationMsg result ∈ s.submitter.published := by
  cases Submitter.next_cases hst with
  | @settle i body update hi =>
    refine Queue.forall_advance h.finalized fun d hd hhandled => ?_
    -- the call is that of the delivery
    have hbody : d.message = body := by
      have hmap := congrArg (·[i]?) h.bodies
      simp only [List.getElem?_map, hd, hi, Option.map_some] at hmap
      exact Option.some.inj hmap
    show ∃ result, d.message.finalizationMsg result ∈ _
    rw [hbody]
    exact (h.submitter.calls _ (List.mem_of_getElem? hi)).returning rfl
  | _ => exact h.finalized

theorem messages_afterSubmit (signatures : Queue (OfflineSignature σ) Unit)
    (act : SubmitterAct (OfflinePayload σ)) :
    (afterSubmit signatures act).kept = signatures.kept ∧
      (afterSubmit signatures act).deliveries.map Queue.Delivery.message =
        signatures.deliveries.map Queue.Delivery.message := by
  cases act with
  | settle i => exact ⟨Queue.kept_advance, Queue.messages_advance⟩
  | _ => exact ⟨rfl, rfl⟩

theorem custody_submit (h : Custody s) {act : SubmitterAct (OfflinePayload σ)}
    (hact : ∀ body, act ≠ .deliver body) {submitter : Submitter (OfflinePayload σ)}
    (hst : Submitter.machine.next s.submitter act = some submitter) :
    Custody { s.publishFinalization (s.submitter.finalization act) with
      signatures := afterSubmit s.signatures act
      submitter } := by
  have hstems := Submitter.stems_next h.submitter (fun _ _ => trivial) hst
  have hpublished := custody_publishFinalization h (Submitter.bodies_next hst hact) hstems
    (Submitter.published_next hst)
  obtain ⟨hkept, hmessages⟩ := messages_afterSubmit s.signatures act
  refine custody_signatures hpublished ?_ ?_ hstems rfl fun d hd hhandled => ?_
  · rw [publishFinalization_signatures, hkept]
  · rw [hmessages, h.bodies, Submitter.bodies_next hst hact]
  · obtain ⟨result, hresult⟩ := finalized_afterSubmit h hst d hd hhandled
    exact ⟨result, Submitter.published_subset hst hresult⟩

/-- **The step lemma**: nothing leaves the pipeline but what has been passed on. -/
theorem custody_next {a : PipelineAct σ} (h : Custody s) (hst : machine.next s a = some s') :
    Custody s' := by
  cases next_cases hst with
  | beginTransaction id metadata =>
    refine { h with receipts := fun call hcall => ?_ }
    rcases List.mem_append.1 hcall with hold | hnew
    · exact h.receipts call hold
    · rw [List.mem_singleton.1 hnew]
      exact nofun
  | @prepared i id metadata hi payload =>
    refine custody_withStart (custody_known h (⟨id, payload⟩ :: s.prepared) s.signed) ?_
    exact nofun
  | unprepared hi => exact custody_withStart h nofun
  | @sendRequest i id metadata payload hi outcome deliveryId =>
    cases outcome with
    | resolved =>
      -- the receipt is for the message that the broker has kept
      refine custody_withStart (custody_publishRequest h _) fun receipt hreceipt => ?_
      cases hreceipt
      refine ⟨⟨id, payload⟩, deliveryId, rfl, rfl, ?_⟩
      show _ ∈ (s.requests.send _).kept
      rw [Queue.kept_send]
      exact Multiset.mem_cons_self _ _
    | rejected => exact custody_withStart h nofun
    | unconfirmed => exact custody_withStart (custody_publishRequest h _) nofun
  | deliverRequest hq =>
    exact custody_requests h (Queue.kept_deliver hq)
      (Queue.forall_deliver h.signed hq Bool.false_ne_true.elim)
  | @signPayload i d hi hphase signature =>
    refine custody_advanceRequest
      (custody_known h s.prepared ((d.message.payload.payload, signature) :: s.signed)) ?_
    exact nofun
  | unsigned hi hphase => exact custody_advanceRequest h nofun
  | @sendSignature i d hi signature hphase outcome =>
    cases outcome with
    | resolved =>
      -- the handler resolves, and the signature is with the broker
      refine custody_advanceRequest (custody_publishSignature h _) fun _ other hother => ?_
      cases hi.symm.trans hother
      refine ⟨signature, ?_⟩
      show _ ∈ (s.signatures.send _).kept
      rw [Queue.kept_send]
      exact Multiset.mem_cons_self _ _
    | rejected => exact custody_advanceRequest h nofun
    | unconfirmed => exact custody_advanceRequest (custody_publishSignature h _) nofun
  | settleRequest hq =>
    exact custody_requests h (Queue.kept_settle hq)
      (Queue.forall_settle h.signed hq fun _ _ hd => hd)
  | @deliverSignature k signature queue hq submitter hdeliver =>
    refine custody_signatures h (Queue.kept_deliver hq) ?_
      (Submitter.stems_next h.submitter (fun _ _ => trivial) hdeliver)
      (Submitter.published_next hdeliver)
      (Queue.forall_deliver h.finalized hq Bool.false_ne_true.elim)
    cases hdeliver
    rw [Queue.messages_deliver hq, List.map_append, h.bodies]
    rfl
  | submit hact hsubmit => exact custody_submit h hact hsubmit
  | settleSignature hq =>
    exact custody_signatures h (Queue.kept_settle hq) ((Queue.messages_settle hq).trans h.bodies)
      h.submitter rfl (Queue.forall_settle h.finalized hq fun _ _ hd => hd)
  | deliverEvent hq =>
    exact custody_eventsLog h (Queue.kept_deliver hq) (Queue.all_deliver h.logged hq).2
      (Queue.forall_deliver h.recorded hq Bool.false_ne_true.elim)
  | @recordEvent i d hi hphase outcome =>
    have hmessage := h.logged.2 d (List.mem_of_getElem? hi)
    cases outcome with
    | resolved =>
      -- the handler resolves, and the message is in the table
      refine custody_advanceEvent (custody_recorded h hmessage) fun _ other hother => ?_
      cases hi.symm.trans hother
      rw [PostgresOfflineEventRepo.bodies_recordEvent]
      exact List.mem_append_right _ (List.mem_singleton_self _)
    | rejected => exact custody_advanceEvent h nofun
    | unconfirmed => exact custody_advanceEvent (custody_recorded h hmessage) nofun
  | settleEvent hq =>
    exact custody_eventsLog h (Queue.kept_settle hq) (Queue.all_settle h.logged hq)
      (Queue.forall_settle h.recorded hq fun _ _ hd => hd)

/-! ### Runs -/

/-- **No transaction is lost**: in every run, the transaction of every receipt that a client has
been given is with the broker, among the dead letters, or finalized. -/
theorem noneLost_of_reaches (h : machine.Reaches Machine.Unrestricted {} s) : s.NoneLost :=
  (h.invariant custody_init fun _ _ _ hinv _ hst => custody_next hinv hst).noneLost

/-- A transaction is finalized, though its request was delivered to a service that went down, and
the submitter failed on one of the two signatures; its messages are partly recorded. -/
def restarted : List (PipelineAct Unit) :=
  [.beginTransaction "7" none, .toSignablePayload 0 (some transferPayload),
    .sendRequest 0 .resolved 1, .deliverRequest 0, .settleRequest 0 .requeued, .deliverRequest 0,
    .signPayload 1 (some "0x01"), .sendSignature 1 .unconfirmed, .settleRequest 1 .requeued,
    .deliverRequest 0, .signPayload 2 (some "0x02"), .sendSignature 2 .resolved,
    .settleRequest 2 .accepted, .deliverSignature 0, .submit (.createTx 0 .rejected),
    .settleSignature 0 .buried, .deliverSignature 0, .submit (.createTx 1 .resolved),
    .submit (.submitTransaction 1 (some ⟨"0x03", 1, "0x04"⟩)), .submit (.sendMessage 1 .resolved),
    .submit (.settle 1), .settleSignature 1 .accepted, .deliverEvent 0, .recordEvent 0 .resolved,
    .settleEvent 0 .accepted]

/-- A receipt was given and one message recorded, and the broker has neither request nor
signature. -/
def drained (s : Pipeline Unit) : Bool :=
  (s.starts.any fun call => match call.phase with | .returned _ => true | _ => false) &&
    s.requests.ready.isEmpty && s.signatures.ready.isEmpty &&
      (PostgresOfflineEventRepo.bodies s.events).length == 1

theorem noneLost_restarted : ∃ s, drained s = true ∧ s.NoneLost := by
  obtain ⟨s, hreaches, hs⟩ := Machine.exists_reaches_of_run (M := machine)
    (C := Machine.Unrestricted) ({} : Pipeline Unit) restarted drained (by decide)
    (Machine.meets_unrestricted _ _)
  exact ⟨s, hs, noneLost_of_reaches hreaches⟩

/-- **The transcription is complete**: in every run, every message that was sent has been diverted
once, and what is not recorded is with the broker or among the dead letters. -/
theorem transcribed_of_reaches (h : machine.Reaches Machine.Unrestricted {} s) : s.Transcribed :=
  (h.invariant custody_init fun _ _ _ hinv _ hst => custody_next hinv hst).transcribed

theorem transcribed_restarted : ∃ s, drained s = true ∧ s.Transcribed := by
  obtain ⟨s, hreaches, hs⟩ := Machine.exists_reaches_of_run (M := machine)
    (C := Machine.Unrestricted) ({} : Pipeline Unit) restarted drained (by decide)
    (Machine.meets_unrestricted _ _)
  exact ⟨s, hs, transcribed_of_reaches hreaches⟩

end Pipeline

end PolymeshRest
