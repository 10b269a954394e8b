import PolymeshRest.Offline.Pipeline

/-!
# Where everything in the offline pipeline comes from

Requests, signatures, submissions, records, finalizations and recorded events all stem from a call
of `beginTransaction`: they carry its id and the payload that the SDK made for it, and a signature
that the signing manager has given for this payload.  This is so whatever fails, however often
messages are delivered and in whatever order the services work.

## Main definitions

* `Pipeline.Attaches` : the SDK puts the metadata on the payload as it was given.
* `Pipeline.Authentic` : a signature of a payload that was made under its id.
* `Pipeline.Provenance` : what is to hold of all that is in the pipeline.

## Main results

* `Pipeline.inv_next` : what each step keeps.
* `Pipeline.provenance_of_reaches` : all that is in the pipeline has its provenance.
-/

namespace PolymeshRest

open Js SubmitTransaction

namespace Pipeline

variable {σ : Type}

/-- The SDK makes a payload with the metadata it is given. -/
def Attaches (s : Pipeline σ) : PipelineAct σ → Prop
  | .toSignablePayload i (some payload) =>
    ∀ call ∈ s.starts[i]?, payload.metadata = call.requestMetadata
  | _ => True

instance (s : Pipeline σ) : ∀ a, Decidable (s.Attaches a)
  | .toSignablePayload _ (some _) => inferInstanceAs (Decidable (∀ call ∈ _, _))
  | .toSignablePayload _ none | .beginTransaction _ _ | .sendRequest _ _ _ | .deliverRequest _
  | .signPayload _ _ | .sendSignature _ _ | .settleRequest _ _ | .deliverSignature _ | .submit _
  | .settleSignature _ _ | .deliverEvent _ | .recordEvent _ _ | .settleEvent _ _ => .isTrue trivial

/-- The payload was made under the id, and the signing manager has signed it. -/
structure Authentic (prepared : List (OfflineRequestModel σ))
    (signed : List (SignerPayload σ × String)) (body : OfflineSignature σ) : Prop where
  prepared : ⟨body.id, body.payload⟩ ∈ prepared
  signed : (body.payload.payload, body.signature) ∈ signed
  address : body.address = body.payload.payload.address
  nonce : body.nonce = body.payload.payload.nonce

/-- The signature that a handler is to send is one of the payload of its request. -/
def Signs (signed : List (SignerPayload σ × String))
    (d : Queue.Delivery (OfflineRequestModel σ) SignPhase) : Prop :=
  ∀ signature, d.phase = .sending signature → (d.message.payload.payload, signature) ∈ signed

/-- A message that has its provenance. -/
def Known (s : Pipeline σ) : OfflineMessage σ → Prop
  | .request request => request ∈ s.prepared
  | .signature body => Authentic s.prepared s.signed body
  | .finalization message => message ∈ s.submitter.published

/-- The payload of a request was made for a call of `beginTransaction`, and carries the metadata of
the call and its id. -/
def Begun (s : Pipeline σ) (request : OfflineRequestModel σ) : Prop :=
  ∃ call ∈ s.starts, call.id = request.id ∧
    request.payload.metadata.lookup "internalTxId" = some request.id ∧
    ∀ key, key ≠ "internalTxId" →
      request.payload.metadata.lookup key = (call.metadata.getD []).lookup key

/-- What is to hold of all that is in the pipeline. -/
structure Provenance (s : Pipeline σ) : Prop where
  prepared : ∀ request ∈ s.prepared, s.Begun request
  submissions : ∀ call ∈ s.submitter.calls, Authentic s.prepared s.signed call.body
  finalizations : ∀ message ∈ s.submitter.published, ∃ body result,
    Authentic s.prepared s.signed body ∧ (body.id, result) ∈ s.submitter.succeeded ∧
      message = body.finalizationMsg result
  records : ∀ id row, s.submitter.repo.rows id = some row →
    ∃ body, Authentic s.prepared s.signed body ∧ body.id = id ∧
      Submitter.RecordOf s.submitter.succeeded body row
  events : ∀ message ∈ PostgresOfflineEventRepo.bodies s.events, s.Known message

/-- What the steps keep. -/
structure Inv (s : Pipeline σ) : Prop where
  prepared : ∀ request ∈ s.prepared, s.Begun request
  sending : ∀ call ∈ s.starts, ∀ payload, call.phase = .sending payload →
    ⟨call.id, payload⟩ ∈ s.prepared
  requests : s.requests.All (· ∈ s.prepared)
  signing : ∀ d ∈ s.requests.deliveries, Signs s.signed d
  signatures : s.signatures.All (Authentic s.prepared s.signed)
  submitter : s.submitter.Stems (Authentic s.prepared s.signed)
  eventsLog : s.eventsLog.All s.Known
  events : ∀ message ∈ PostgresOfflineEventRepo.bodies s.events, s.Known message

theorem inv_init : Inv ({} : Pipeline σ) where
  prepared _ h := nomatch h
  sending _ h := nomatch h
  requests := Queue.all_empty
  signing _ h := nomatch h
  signatures := Queue.all_empty
  submitter := Submitter.stems_init
  eventsLog := Queue.all_empty
  events _ h := nomatch h

variable {s s' : Pipeline σ}

theorem Inv.provenance (h : Inv s) : s.Provenance where
  prepared := h.prepared
  submissions call hcall := (h.submitter.calls call hcall).body
  finalizations := h.submitter.published
  records := h.submitter.records
  events := h.events

/-! ### What comes does not take anything away -/

theorem Authentic.mono {prepared prepared' : List (OfflineRequestModel σ)}
    {signed signed' : List (SignerPayload σ × String)} {body : OfflineSignature σ}
    (h : Authentic prepared signed body) (hprepared : prepared ⊆ prepared')
    (hsigned : signed ⊆ signed') : Authentic prepared' signed' body :=
  { h with prepared := hprepared h.prepared, signed := hsigned h.signed }

theorem Known.mono {message : OfflineMessage σ} (h : s.Known message)
    (hprepared : s.prepared ⊆ s'.prepared) (hsigned : s.signed ⊆ s'.signed)
    (hpublished : s.submitter.published ⊆ s'.submitter.published) : s'.Known message := by
  cases message with
  | request request => exact hprepared h
  | signature body => exact Authentic.mono h hprepared hsigned
  | finalization message => exact hpublished h

theorem inv_known (h : Inv s) {prepared : List (OfflineRequestModel σ)}
    {signed : List (SignerPayload σ × String)} (hprepared : s.prepared ⊆ prepared)
    (hsigned : s.signed ⊆ signed) (hbegun : ∀ request ∈ prepared, s.Begun request) :
    Inv { s with prepared, signed } := by
  have hauthentic : ∀ body, Authentic s.prepared s.signed body → Authentic prepared signed body :=
    fun body hbody => hbody.mono hprepared hsigned
  have hknown : ∀ message, s.Known message → Known { s with prepared, signed } message :=
    fun message hmessage => hmessage.mono hprepared hsigned (List.Subset.refl _)
  exact
    { prepared := hbegun
      sending := fun call hcall payload hphase => hprepared (h.sending call hcall payload hphase)
      requests := h.requests.imp fun _ hm => hprepared hm
      signing := fun d hd signature hphase => hsigned (h.signing d hd signature hphase)
      signatures := h.signatures.imp hauthentic
      submitter := h.submitter.imp hauthentic
      eventsLog := h.eventsLog.imp hknown
      events := fun m hm => hknown m (h.events m hm) }

theorem inv_prepared (h : Inv s) {request : OfflineRequestModel σ} (hbegun : s.Begun request) :
    Inv { s with prepared := request :: s.prepared } :=
  inv_known h (List.subset_cons_self _ _) (List.Subset.refl _)
    (List.forall_mem_cons.2 ⟨hbegun, h.prepared⟩)

theorem inv_signed (h : Inv s) (payload : SignerPayload σ) (signature : String) :
    Inv { s with signed := (payload, signature) :: s.signed } :=
  inv_known h (List.Subset.refl _) (List.subset_cons_self _ _) h.prepared

theorem inv_submitter (h : Inv s) {submitter : Submitter (OfflinePayload σ)}
    (hstems : submitter.Stems (Authentic s.prepared s.signed))
    (hpublished : s.submitter.published ⊆ submitter.published) : Inv { s with submitter } := by
  have hknown : ∀ message, s.Known message → Known { s with submitter } message :=
    fun message hmessage => hmessage.mono (List.Subset.refl _) (List.Subset.refl _) hpublished
  exact { h with
    submitter := hstems
    eventsLog := h.eventsLog.imp hknown
    events := fun m hm => hknown m (h.events m hm) }

/-! ### The steps of the services -/

theorem inv_withStart (h : Inv s) {i : ℕ} {old new : StartCall σ} (hi : s.starts[i]? = some old)
    (hid : new.id = old.id) (hmetadata : new.metadata = old.metadata)
    (hsending : ∀ payload, new.phase = .sending payload → ⟨new.id, payload⟩ ∈ s.prepared) :
    Inv (s.withStart i new) := by
  refine { h with prepared := fun request hrequest => ?_, sending := fun call hcall => ?_ }
  · refine exists_mem_set hi (fun hold => ?_) (h.prepared request hrequest)
    rwa [hid, hmetadata]
  · rcases List.mem_or_eq_of_mem_set hcall with hold | rfl
    · exact h.sending call hold
    · exact hsending

theorem begun_of_attaches {i : ℕ} {call : StartCall σ} (hi : s.starts[i]? = some call)
    {payload : OfflinePayload σ} (hmetadata : payload.metadata = call.requestMetadata) :
    s.Begun ⟨call.id, payload⟩ := by
  refine ⟨call, List.mem_of_getElem? hi, rfl, ?_, fun key hkey => ?_⟩
  · show payload.metadata.lookup _ = _
    rw [hmetadata, StartCall.requestMetadata, Record.lookup_assign, if_pos rfl]
  · show payload.metadata.lookup _ = _
    rw [hmetadata, StartCall.requestMetadata, Record.lookup_assign, if_neg hkey]

theorem inv_publishRequest (h : Inv s) {request : OfflineRequestModel σ}
    (hrequest : request ∈ s.prepared) : Inv (s.publishRequest request) :=
  { h with
    requests := Queue.all_send h.requests hrequest
    eventsLog := Queue.all_send h.eventsLog hrequest }

theorem inv_publishSignature (h : Inv s) {body : OfflineSignature σ} 
    (hbody : Authentic s.prepared s.signed body) : Inv (s.publishSignature body) :=
  { h with
    signatures := Queue.all_send h.signatures hbody
    eventsLog := Queue.all_send h.eventsLog hbody }

theorem inv_advanceRequest (h : Inv s) {i : ℕ} {phase : SignPhase} {ok : Bool}
    (hnew : ∀ d, s.requests.deliveries[i]? = some d → Signs s.signed (d.advance phase ok)) :
    Inv { s with requests := s.requests.advance i phase ok } :=
  { h with
    requests := Queue.all_advance h.requests
    signing := Queue.forall_advance h.signing hnew }

/-- What `autoSign` sends is authentic. -/
theorem authentic_signatureModel (h : Inv s) {i : ℕ}
    {d : Queue.Delivery (OfflineRequestModel σ) SignPhase}
    (hi : s.requests.deliveries[i]? = some d) {signature : String}
    (hphase : d.phase = .sending signature) :
    Authentic s.prepared s.signed (signatureModel d.message signature) where
  prepared := h.requests.2 d (List.mem_of_getElem? hi)
  signed := h.signing d (List.mem_of_getElem? hi) signature hphase
  address := rfl
  nonce := rfl

theorem inv_submit (h : Inv s) {act : SubmitterAct (OfflinePayload σ)}
    (hact : ∀ body, act ≠ .deliver body) {submitter : Submitter (OfflinePayload σ)}
    (hst : Submitter.machine.next s.submitter act = some submitter) :
    Inv { s.publishFinalization (s.submitter.finalization act) with
      signatures := afterSubmit s.signatures act
      submitter } := by
  have hstems := Submitter.stems_next h.submitter (fun body hbody => absurd hbody (hact body)) hst
  have hsubmitter := inv_submitter h hstems (Submitter.published_subset hst)
  have hsignatures : (afterSubmit s.signatures act).All (Authentic s.prepared s.signed) := by
    cases act with
    | settle i => exact Queue.all_advance h.signatures
    | _ => exact h.signatures
  cases hfinalization : s.submitter.finalization act with
  | none => exact { hsubmitter with signatures := hsignatures }
  | some message =>
    have hmessage : message ∈ submitter.published := by
      rw [Submitter.published_next hst, hfinalization]
      exact List.mem_cons_self
    exact { hsubmitter with
      signatures := hsignatures
      eventsLog := Queue.all_send hsubmitter.eventsLog hmessage }

/-- **The step lemma**: everything keeps its provenance, and what comes has it. -/
theorem inv_next {a : PipelineAct σ} (h : Inv s) (hattaches : s.Attaches a)
    (hst : machine.next s a = some s') : Inv s' := by
  cases next_cases hst with
  | beginTransaction id metadata =>
    refine { h with prepared := fun request hrequest => ?_, sending := fun call hcall => ?_ }
    · obtain ⟨call, hcall, hbegun⟩ := h.prepared request hrequest
      exact ⟨call, List.mem_append_left _ hcall, hbegun⟩
    · rcases List.mem_append.1 hcall with hold | hnew
      · exact h.sending call hold
      · rw [List.mem_singleton.1 hnew]
        exact nofun
  | prepared hi payload =>
    -- the SDK attaches the metadata it was given, which has the id of the call
    have hbegun := begun_of_attaches hi (hattaches _ hi)
    refine inv_withStart (inv_prepared h hbegun) hi rfl rfl fun other hother => ?_
    cases hother
    exact List.mem_cons_self
  | unprepared hi => exact inv_withStart h hi rfl rfl nofun
  | @sendRequest i id metadata payload hi outcome deliveryId =>
    have hprepared := h.sending _ (List.mem_of_getElem? hi) payload rfl
    have hnot : ∀ other, (if outcome.ok then
        StartPhase.returned (requestReceipt ⟨id, payload⟩ deliveryId) else .failed) ≠
          .sending other := by
      intro other
      split <;> nofun
    cases outcome with
    | rejected => exact inv_withStart h hi rfl rfl fun other hother => absurd hother (hnot other)
    | _ =>
      exact inv_withStart (inv_publishRequest h hprepared) hi rfl rfl fun other hother =>
        absurd hother (hnot other)
  | deliverRequest hq =>
    exact { h with
      requests := (Queue.all_deliver h.requests hq).2
      signing := Queue.forall_deliver h.signing hq nofun }
  | signPayload hi hphase signature =>
    refine inv_advanceRequest (inv_signed h _ _) fun d hd other hother => ?_
    cases hother
    cases hi.symm.trans hd
    exact List.mem_cons_self
  | unsigned hi hphase => exact inv_advanceRequest h fun _ _ _ => nofun
  | sendSignature hi hphase outcome =>
    -- the signature is for the payload of the request it answers
    have hauthentic := authentic_signatureModel h hi hphase
    cases outcome with
    | rejected => exact inv_advanceRequest h fun _ _ _ => nofun
    | _ => exact inv_advanceRequest (inv_publishSignature h hauthentic) fun _ _ _ => nofun
  | settleRequest hq =>
    exact { h with
      requests := Queue.all_settle h.requests hq
      signing := Queue.forall_settle h.signing hq fun _ _ hd => hd }
  | deliverSignature hq hdeliver =>
    obtain ⟨hauthentic, hall⟩ := Queue.all_deliver h.signatures hq
    have hstems := Submitter.stems_next h.submitter (fun body hbody => ?_) hdeliver
    · have hsubmitter := inv_submitter h hstems (Submitter.published_subset hdeliver)
      exact { hsubmitter with signatures := hall }
    · cases hbody
      exact hauthentic
  | submit hact hsubmit => exact inv_submit h hact hsubmit
  | settleSignature hq => exact { h with signatures := Queue.all_settle h.signatures hq }
  | deliverEvent hq => exact { h with eventsLog := (Queue.all_deliver h.eventsLog hq).2 }
  | recordEvent hi hphase outcome =>
    have hmessage := h.eventsLog.2 _ (List.mem_of_getElem? hi)
    refine { h with eventsLog := Queue.all_advance h.eventsLog, events := fun m hm => ?_ }
    cases outcome with
    | rejected => exact h.events m hm
    | _ =>
      change m ∈ PostgresOfflineEventRepo.bodies
        (PostgresOfflineEventRepo.recordEvent s.events _).2 at hm
      rw [PostgresOfflineEventRepo.bodies_recordEvent] at hm
      rcases List.mem_append.1 hm with hm | hm
      · exact h.events m hm
      · rwa [List.mem_singleton.1 hm]
  | settleEvent hq => exact { h with eventsLog := Queue.all_settle h.eventsLog hq }

/-! ### Runs -/

/-- **Provenance**: whatever fails, is delivered again or is delayed, all that is submitted,
published and recorded stems from a call of `beginTransaction` and carries its id, the payload made
for it, and a signature of this payload by the signing manager. -/
theorem provenance_of_reaches (h : machine.Reaches Attaches {} s) : s.Provenance :=
  (h.invariant inv_init fun _ _ _ hinv hattaches hst => inv_next hinv hattaches hst).provenance

/-- A request is delivered twice and signed twice, and one of the signatures is submitted. -/
def redelivered : List (PipelineAct Unit) :=
  [.beginTransaction "7" none, .toSignablePayload 0 (some transferPayload),
    .sendRequest 0 .resolved 1, .deliverRequest 0, .signPayload 0 (some "0x01"),
    .settleRequest 0 .requeued, .deliverRequest 0, .signPayload 1 (some "0x02"),
    .sendSignature 1 .resolved, .sendSignature 0 .unconfirmed, .settleRequest 1 .accepted,
    .deliverSignature 0, .submit (.createTx 0 .resolved),
    .submit (.submitTransaction 0 (some ⟨"0x03", 1, "0x04"⟩)), .submit (.sendMessage 0 .resolved),
    .submit (.settle 0), .submit (.updateTx 0 .resolved), .settleSignature 0 .accepted,
    .deliverEvent 0, .recordEvent 0 .resolved]

/-- One of two signatures has been finalized, and one message recorded. -/
def halfway (s : Pipeline Unit) : Bool :=
  s.submitter.published.length == 1 && s.signatures.ready.length == 1 &&
    (PostgresOfflineEventRepo.bodies s.events).length == 1

theorem provenance_redelivered : ∃ s, halfway s = true ∧ s.Provenance := by
  obtain ⟨s, hreaches, hs⟩ := Machine.exists_reaches_of_run (M := machine) (C := Attaches)
    ({} : Pipeline Unit) redelivered halfway (by decide) (by decide)
  exact ⟨s, hs, provenance_of_reaches hreaches⟩

end Pipeline

end PolymeshRest
