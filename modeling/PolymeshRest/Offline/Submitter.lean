import PolymeshRest.Data.Lists
import PolymeshRest.Datastore.OfflineTxs

/-!
# The offline submitter

`OfflineSubmitterService.submit` forwards a signed transaction to the chain.  It records the
transaction, submits it, publishes the outcome and updates the record, and it does not await the
last of these.  Signatures are delivered any number of times, several can be in progress at once,
and each of the four calls can fail, with its effect or without it.

## Main definitions

* `OfflineSignatureModel`, `ChainResult`, `FinalizationMessage`
* `Submitter` : the repository, the calls of `submit`, and what the chain and the broker have seen.
* `Submitter.machine` : the steps of the calls.
* `Submitter.Sound` : where a call of `submit` ends, the record and the messages of its id are
  those of the chain; and no step makes a Finalized transaction Signed.
* `Submitter.Orderly` : the order and the outcomes on which that rests.

## Main results

* `Submitter.inv_next` : what an orderly step keeps.
* `Submitter.sound_of_orderly` : where all steps of a run are orderly, all of them are sound.
-/

namespace PolymeshRest

/-- `OfflineSignatureModel`, with the account and the parsed nonce of its payload. -/
structure OfflineSignatureModel (π : Type*) where
  id : String
  signature : String
  payload : π
  /-- `payload.payload.address` -/
  address : String
  /-- `parseInt(payload.payload.nonce, 16)` -/
  nonce : ℤ
  deriving DecidableEq, Repr

/-- What `submitTransaction` resolves with. -/
structure ChainResult where
  blockHash : String
  transactionIndex : ℕ
  transactionHash : String
  deriving DecidableEq, Repr

/-- The message that is sent to `Finalizations`. -/
structure FinalizationMessage where
  id : String
  address : String
  nonce : ℤ
  result : ChainResult
  deriving DecidableEq, Repr

variable {π : Type*}

namespace OfflineSignatureModel

/-- The transaction that `submit` records. -/
def transaction (body : OfflineSignatureModel π) : OfflineTxModel π where
  id := body.id
  payload := body.payload
  status := .signed
  signature := body.signature
  address := body.address
  nonce := body.nonce

/-- The transaction that `submit` updates the record with. -/
def finalized (body : OfflineSignatureModel π) (result : ChainResult) : OfflineTxPatch π where
  payload := .value body.payload
  signature := .value body.signature
  status := .value .finalized
  address := .value body.address
  nonce := .value body.nonce
  blockHash := .value result.blockHash
  txIndex := .value result.transactionIndex.repr
  txHash := .value result.transactionHash

/-- `finalizationMsg` -/
def finalizationMsg (body : OfflineSignatureModel π) (result : ChainResult) :
    FinalizationMessage where
  id := body.id
  address := body.address
  nonce := body.nonce
  result := result

end OfflineSignatureModel

/-- What a call of `submit` awaits. -/
inductive SubmitPhase where
  /-- `createTx` -/
  | creating
  /-- `submitTransaction` -/
  | submitting
  /-- `sendMessage`, with the result of the chain. -/
  | sending (result : ChainResult)
  /-- Only its own return. -/
  | returning
  /-- Nothing: its promise has settled. -/
  | settled
  deriving DecidableEq, Repr

/-- The transaction has been recorded, and the call goes on. -/
def SubmitPhase.recorded : SubmitPhase → Bool
  | .submitting | .sending _ | .returning => true
  | _ => false

/-- The call awaits the sending of the message. -/
def SubmitPhase.isSending : SubmitPhase → Bool
  | .sending _ => true
  | _ => false

/-- A call of `submit`. -/
structure SubmitCall (π : Type*) where
  body : OfflineSignatureModel π
  phase : SubmitPhase
  /-- The result that its `updateTx` is storing, while that is under way. -/
  update : Option ChainResult
  deriving DecidableEq, Repr

/-- The state of the submitter and of what it talks to. -/
structure Submitter (π : Type*) where
  repo : PostgresOfflineTxRepo π := .empty
  calls : List (SubmitCall π) := []
  /-- The results of the submissions that have succeeded, with the ids. -/
  succeeded : List (String × ChainResult) := []
  /-- The messages that have been published. -/
  published : List FinalizationMessage := []

/-- One atomic step. -/
inductive SubmitterAct (π : Type*) where
  /-- A signature is delivered, for the first time or again. -/
  | deliver (body : OfflineSignatureModel π)
  | createTx (i : ℕ) (outcome : Outcome)
  /-- The submission ends, with a result or rejected. -/
  | submitTransaction (i : ℕ) (result : Option ChainResult)
  | sendMessage (i : ℕ) (outcome : Outcome)
  /-- The update that nothing awaits ends. -/
  | updateTx (i : ℕ) (outcome : Outcome)
  /-- The promise of a call that has done all its steps resolves. -/
  | settle (i : ℕ)
  deriving DecidableEq, Repr

namespace Submitter

/-- The state with the `i`-th call changed. -/
def withCall (s : Submitter π) (i : ℕ) (call : SubmitCall π) : Submitter π :=
  { s with calls := s.calls.set i call }

/-- The state a step leads to. -/
def next (s : Submitter π) : SubmitterAct π → Option (Submitter π)
  | .deliver body => some { s with calls := s.calls ++ [⟨body, .creating, none⟩] }
  | .createTx i outcome =>
    match s.calls[i]? with
    | some ⟨body, .creating, update⟩ =>
      some { s.withCall i ⟨body, if outcome.ok then .submitting else .settled, update⟩ with
        repo := outcome.apply s.repo (s.repo.createTx body.transaction).2 }
    | _ => none
  | .submitTransaction i result =>
    match s.calls[i]?, result with
    | some ⟨body, .submitting, update⟩, some result =>
      some { s.withCall i ⟨body, .sending result, update⟩ with
        succeeded := (body.id, result) :: s.succeeded }
    | some ⟨body, .submitting, update⟩, none => some (s.withCall i ⟨body, .settled, update⟩)
    | _, _ => none
  | .sendMessage i outcome =>
    match s.calls[i]? with
    | some ⟨body, .sending result, update⟩ =>
      some { s.withCall i (if outcome.ok then ⟨body, .returning, some result⟩
          else ⟨body, .settled, update⟩) with
        published := outcome.apply s.published (body.finalizationMsg result :: s.published) }
    | _ => none
  | .updateTx i outcome =>
    match s.calls[i]? with
    | some ⟨body, phase, some result⟩ =>
      some { s.withCall i ⟨body, phase, none⟩ with
        repo := outcome.apply s.repo (s.repo.updateTx body.id (body.finalized result)).2 }
    | _ => none
  | .settle i =>
    match s.calls[i]? with
    | some ⟨body, .returning, update⟩ => some (s.withCall i ⟨body, .settled, update⟩)
    | _ => none

/-- The submitter at work. -/
def machine : Machine (Submitter π) (SubmitterAct π) := ⟨next⟩

/-! ### What is to hold -/

/-- The status of the record of an id. -/
def statusOf (s : Submitter π) (id : String) : Option OfflineTxStatus :=
  (s.repo.rows id).bind OfflineTxObject.status

/-- The record of an id is Finalized, with the data of a result. -/
def FinalizedWith (s : Submitter π) (id : String) (result : ChainResult) : Prop :=
  ∃ row, s.repo.rows id = some row ∧ row.status = some .finalized ∧
    row.blockHash = some result.blockHash ∧ row.txIndex = some result.transactionIndex.repr ∧
      row.txHash = some result.transactionHash

/-- A submission of the id has succeeded. -/
def Succeeded (s : Submitter π) (id : String) : Prop := ∃ result, (id, result) ∈ s.succeeded

/-- The number of messages that were published for an id. -/
def messages (s : Submitter π) (id : String) : ℕ :=
  (s.published.map FinalizationMessage.id).count id

/-- The record and the messages of an id are those of the chain. -/
structure Consistent (s : Submitter π) (id : String) : Prop where
  of_succeeded : s.Succeeded id →
    (∃ result, (id, result) ∈ s.succeeded ∧ s.FinalizedWith id result) ∧ s.messages id = 1
  of_not_succeeded : ¬ s.Succeeded id → s.statusOf id ≠ some .finalized ∧ s.messages id = 0

/-- The id whose call of `submit` settles in a step. -/
def settles (s : Submitter π) : SubmitterAct π → Option String
  | .createTx i outcome | .sendMessage i outcome =>
    if outcome.ok then none else s.calls[i]?.map fun call => call.body.id
  | .submitTransaction i none | .settle i => s.calls[i]?.map fun call => call.body.id
  | _ => none

/-- Where a call of `submit` settles, the record and the messages of its id are those of the chain;
and no Finalized transaction becomes Signed. -/
structure Sound (s : Submitter π) (a : SubmitterAct π) : Prop where
  settled : ∀ s', machine.next s a = some s' → ∀ id, s.settles a = some id → s'.Consistent id
  kept : ∀ s', machine.next s a = some s' → ∀ id, s.statusOf id = some .finalized →
    s'.statusOf id ≠ some .signed

/-! ### On what it rests -/

/-- A message has been published for the id. -/
def Published (s : Submitter π) (id : String) : Prop :=
  id ∈ s.published.map FinalizationMessage.id

instance (s : Submitter π) (id : String) : Decidable (s.Published id) :=
  inferInstanceAs (Decidable (_ ∈ _))

/-- Nothing of an id is under way that a success has begun: no update, and no message unless one
has been published. -/
def Quiet (s : Submitter π) (id : String) : Prop :=
  ∀ call ∈ s.calls, call.body.id = id →
    call.update = none ∧ (s.Published id ∨ call.phase.isSending = false)

instance (s : Submitter π) (id : String) : Decidable (s.Quiet id) :=
  inferInstanceAs (Decidable (∀ call ∈ _, _ → _ ∧ _))

/-- A call settles only while its id is quiet; `createTx` takes effect only while the record of the
id is not Finalized; the first message for an id is sent, no other one is, and the update that
follows takes effect. -/
def Orderly (s : Submitter π) (a : SubmitterAct π) : Prop :=
  (∀ id ∈ s.settles a, s.Quiet id) ∧
  match a with
  | .createTx i outcome => ∀ call ∈ s.calls[i]?,
      outcome.written = true → s.statusOf call.body.id ≠ some .finalized
  | .sendMessage i outcome => ∀ call ∈ s.calls[i]?,
      outcome = if s.Published call.body.id then .rejected else .resolved
  | .updateTx _ outcome => outcome.written = true
  | _ => True

instance (s : Submitter π) : ∀ a, Decidable (Orderly s a)
  | .createTx _ _ | .sendMessage _ _ => inferInstanceAs (Decidable (_ ∧ ∀ call ∈ _, _))
  | .updateTx _ _ => inferInstanceAs (Decidable (_ ∧ _ = true))
  | .deliver _ | .submitTransaction _ _ | .settle _ => inferInstanceAs (Decidable (_ ∧ True))

/-- What orderly steps keep. -/
structure Inv (s : Submitter π) : Prop where
  /-- No two messages are for one id. -/
  once : (s.published.map FinalizationMessage.id).Nodup
  succeeded : ∀ id, s.Published id → s.Succeeded id
  finalized : ∀ id, s.statusOf id = some .finalized →
    ∃ result, (id, result) ∈ s.succeeded ∧ s.FinalizedWith id result
  /-- Where a transaction was recorded there is a record. -/
  recorded : ∀ call ∈ s.calls, call.phase.recorded = true ∨ call.update ≠ none →
    ∃ row, s.repo.rows call.body.id = some row
  results : ∀ call ∈ s.calls, ∀ result, call.phase = .sending result ∨ call.update = some result →
    (call.body.id, result) ∈ s.succeeded
  /-- Of a success, the message is to be sent, or the record is to be updated, or all is done. -/
  unpublished : ∀ id, s.Succeeded id → ¬ s.Published id →
    ∃ call ∈ s.calls, call.body.id = id ∧ call.phase.isSending = true
  unfinished : ∀ id, s.Published id →
    s.statusOf id = some .finalized ∨ ∃ call ∈ s.calls, call.body.id = id ∧ call.update ≠ none

theorem inv_init : Inv ({} : Submitter π) where
  once := List.nodup_nil
  succeeded id hid := by simp [Published] at hid
  finalized id hid := by simp [statusOf, PostgresOfflineTxRepo.empty] at hid
  recorded call hcall := nomatch hcall
  results call hcall := nomatch hcall
  unpublished id hid := by simp [Succeeded] at hid
  unfinished id hid := by simp [Published] at hid

/-! ### One step -/

/-- The row of a transaction that was recorded is Signed; the other rows are as before. -/
theorem rows_createTx (repo : PostgresOfflineTxRepo π) (body : OfflineSignatureModel π) :
    ∃ row, (repo.createTx body.transaction).2.rows = Function.update repo.rows body.id (some row) ∧
      row.status = some .signed := by
  refine ⟨_, PostgresOfflineTxRepo.createTx_rows, ?_⟩
  unfold PostgresOfflineTxRepo.stored
  split <;> rfl

/-- The row that was updated is Finalized, with the data of the result; the other rows are as
before. -/
theorem rows_updateTx {repo : PostgresOfflineTxRepo π} {body : OfflineSignatureModel π}
    {old : OfflineTxObject π} (hrow : repo.rows body.id = some old) (result : ChainResult) :
    ∃ row, (repo.updateTx body.id (body.finalized result)).2.rows =
        Function.update repo.rows body.id (some row) ∧
      row.status = some .finalized ∧ row.blockHash = some result.blockHash ∧
        row.txIndex = some result.transactionIndex.repr ∧
          row.txHash = some result.transactionHash :=
  ⟨_, (repo.updateTx_of_row hrow).2, rfl, rfl, rfl, rfl⟩

theorem eq_or_mem_of_mem_withCall {s : Submitter π} {i : ℕ} {new call : SubmitCall π}
    (hcall : call ∈ (s.withCall i new).calls) : call = new ∨ call ∈ s.calls :=
  (List.mem_or_eq_of_mem_set hcall).symm

/-- What each step does. -/
inductive StepCase (s : Submitter π) : SubmitterAct π → Submitter π → Prop
  | deliver (body : OfflineSignatureModel π) : StepCase s (.deliver body)
      { s with calls := s.calls ++ [⟨body, .creating, none⟩] }
  | createTx {i : ℕ} {body : OfflineSignatureModel π} {update : Option ChainResult}
      (hi : s.calls[i]? = some ⟨body, .creating, update⟩) (outcome : Outcome) :
      StepCase s (.createTx i outcome)
        { s.withCall i ⟨body, if outcome.ok then .submitting else .settled, update⟩ with
          repo := outcome.apply s.repo (s.repo.createTx body.transaction).2 }
  | submitted {i : ℕ} {body : OfflineSignatureModel π} {update : Option ChainResult}
      (hi : s.calls[i]? = some ⟨body, .submitting, update⟩) (result : ChainResult) :
      StepCase s (.submitTransaction i (some result))
        { s.withCall i ⟨body, .sending result, update⟩ with
          succeeded := (body.id, result) :: s.succeeded }
  | refused {i : ℕ} {body : OfflineSignatureModel π} {update : Option ChainResult}
      (hi : s.calls[i]? = some ⟨body, .submitting, update⟩) :
      StepCase s (.submitTransaction i none) (s.withCall i ⟨body, .settled, update⟩)
  | sendMessage {i : ℕ} {body : OfflineSignatureModel π} {result : ChainResult}
      {update : Option ChainResult}
      (hi : s.calls[i]? = some ⟨body, .sending result, update⟩) (outcome : Outcome) :
      StepCase s (.sendMessage i outcome)
        { s.withCall i (if outcome.ok then ⟨body, .returning, some result⟩
            else ⟨body, .settled, update⟩) with
          published := outcome.apply s.published (body.finalizationMsg result :: s.published) }
  | updateTx {i : ℕ} {body : OfflineSignatureModel π} {phase : SubmitPhase} {result : ChainResult}
      (hi : s.calls[i]? = some ⟨body, phase, some result⟩) (outcome : Outcome) :
      StepCase s (.updateTx i outcome)
        { s.withCall i ⟨body, phase, none⟩ with
          repo := outcome.apply s.repo (s.repo.updateTx body.id (body.finalized result)).2 }
  | settle {i : ℕ} {body : OfflineSignatureModel π} {update : Option ChainResult}
      (hi : s.calls[i]? = some ⟨body, .returning, update⟩) :
      StepCase s (.settle i) (s.withCall i ⟨body, .settled, update⟩)

theorem next_cases {s s' : Submitter π} {a : SubmitterAct π} (h : machine.next s a = some s') :
    StepCase s a s' := by
  cases a with
  | deliver body =>
    cases h
    exact .deliver body
  | createTx i outcome =>
    simp only [machine, next] at h
    split at h
    · rename_i hi
      cases h
      exact .createTx hi outcome
    · cases h
  | submitTransaction i result =>
    simp only [machine, next] at h
    split at h
    · rename_i hi
      cases h
      exact .submitted hi _
    · rename_i hi
      cases h
      exact .refused hi
    · cases h
  | sendMessage i outcome =>
    simp only [machine, next] at h
    split at h
    · rename_i hi
      cases h
      exact .sendMessage hi outcome
    · cases h
  | updateTx i outcome =>
    simp only [machine, next] at h
    split at h
    · rename_i hi
      cases h
      exact .updateTx hi outcome
    · cases h
  | settle i =>
    simp only [machine, next] at h
    split at h
    · rename_i hi
      cases h
      exact .settle hi
    · cases h

/-! ### The invariant -/

theorem inv_settled {s : Submitter π} (h : Inv s) {i : ℕ} {body : OfflineSignatureModel π}
    {phase : SubmitPhase} {update : Option ChainResult}
    (hi : s.calls[i]? = some ⟨body, phase, update⟩)
    (hphase : phase.isSending = true → s.Published body.id) :
    Inv (s.withCall i ⟨body, .settled, update⟩) where
  once := h.once
  succeeded := h.succeeded
  finalized := h.finalized
  recorded call hcall hrecorded := by
    rcases eq_or_mem_of_mem_withCall hcall with rfl | hold
    · refine h.recorded ⟨body, phase, update⟩ (List.mem_of_getElem? hi) (.inr ?_)
      exact hrecorded.resolve_left Bool.false_ne_true
    · exact h.recorded call hold hrecorded
  results call hcall result hresult := by
    rcases eq_or_mem_of_mem_withCall hcall with rfl | hold
    · exact h.results ⟨body, phase, update⟩ (List.mem_of_getElem? hi) result
        (.inr (hresult.resolve_left nofun))
    · exact h.results call hold result hresult
  unpublished id hsucceeded hnot := by
    refine exists_mem_set hi (fun ⟨hid, hsending⟩ => ?_) (h.unpublished id hsucceeded hnot)
    exact absurd (hid ▸ hphase hsending) hnot
  unfinished id hpublished :=
    (h.unfinished id hpublished).imp_right (exists_mem_set hi fun hold => hold)

/-- Storing a row takes no record away. -/
theorem exists_row_update {rows : String → Option (OfflineTxObject π)} {id k : String}
    {row : OfflineTxObject π} (h : ∃ row, rows k = some row) :
    ∃ row', Function.update rows id (some row) k = some row' := by
  by_cases hk : k = id
  · exact ⟨row, by rw [hk, Function.update_self]⟩
  · rwa [Function.update_of_ne hk]

/-- A transaction has been recorded, over a record that is not Finalized. -/
theorem inv_recorded {s : Submitter π} (h : Inv s) {i : ℕ} {body : OfflineSignatureModel π}
    {update : Option ChainResult} (hi : s.calls[i]? = some ⟨body, .creating, update⟩)
    {phase : SubmitPhase} (hphase : phase.isSending = false) {repo : PostgresOfflineTxRepo π}
    {row : OfflineTxObject π} (hrows : repo.rows = Function.update s.repo.rows body.id (some row))
    (hsigned : row.status = some .signed) (hstatus : s.statusOf body.id ≠ some .finalized) :
    Inv { s.withCall i ⟨body, phase, update⟩ with repo := repo } where
  once := h.once
  succeeded := h.succeeded
  finalized id hid := by
    by_cases hne : id = body.id
    · subst hne
      simp [statusOf, hrows, hsigned] at hid
    · have hrow : repo.rows id = s.repo.rows id := by rw [hrows, Function.update_of_ne hne]
      rw [statusOf, hrow] at hid
      obtain ⟨result, hresult, hwith⟩ := h.finalized id hid
      refine ⟨result, hresult, ?_⟩
      rwa [FinalizedWith, hrow]
  recorded call hcall hrecorded := by
    show ∃ row, repo.rows call.body.id = some row
    rw [hrows]
    rcases eq_or_mem_of_mem_withCall hcall with rfl | hold
    · exact ⟨row, Function.update_self ..⟩
    · exact exists_row_update (h.recorded call hold hrecorded)
  results call hcall result hresult := by
    rcases eq_or_mem_of_mem_withCall hcall with rfl | hold
    · refine h.results ⟨body, .creating, update⟩ (List.mem_of_getElem? hi) result (.inr ?_)
      refine hresult.resolve_left ?_
      rintro rfl
      cases hphase
    · exact h.results call hold result hresult
  unpublished id hsucceeded hnot := by
    refine exists_mem_set hi (fun ⟨_, hsending⟩ => ?_) (h.unpublished id hsucceeded hnot)
    cases hsending
  unfinished id hpublished := by
    rcases h.unfinished id hpublished with hfinal | hupdate
    · have hne : id ≠ body.id := by
        rintro rfl
        exact hstatus hfinal
      refine .inl ?_
      rw [← hfinal]
      simp [statusOf, hrows, Function.update_of_ne hne]
    · exact .inr (exists_mem_set hi (fun hold => hold) hupdate)

/-- The chain has taken a transaction. -/
theorem inv_submitted {s : Submitter π} (h : Inv s) {i : ℕ} {body : OfflineSignatureModel π}
    {update : Option ChainResult} (hi : s.calls[i]? = some ⟨body, .submitting, update⟩)
    (result : ChainResult) : Inv { s.withCall i ⟨body, .sending result, update⟩ with
      succeeded := (body.id, result) :: s.succeeded } where
  once := h.once
  succeeded id hid := by
    obtain ⟨r, hr⟩ := h.succeeded id hid
    exact ⟨r, List.mem_cons_of_mem _ hr⟩
  finalized id hid := by
    obtain ⟨r, hr, hwith⟩ := h.finalized id hid
    exact ⟨r, List.mem_cons_of_mem _ hr, hwith⟩
  recorded call hcall hrecorded := by
    rcases eq_or_mem_of_mem_withCall hcall with rfl | hold
    · exact h.recorded ⟨body, .submitting, update⟩ (List.mem_of_getElem? hi) (.inl rfl)
    · exact h.recorded call hold hrecorded
  results call hcall r hr := by
    rcases eq_or_mem_of_mem_withCall hcall with rfl | hold
    · rcases hr with hr | hr
      · cases hr
        exact List.mem_cons_self
      · exact List.mem_cons_of_mem _
          (h.results ⟨body, .submitting, update⟩ (List.mem_of_getElem? hi) r (.inr hr))
    · exact List.mem_cons_of_mem _ (h.results call hold r hr)
  unpublished id hsucceeded hnot := by
    by_cases hid : id = body.id
    · exact ⟨_, mem_set_self _ hi, hid.symm, rfl⟩
    · have hbefore : s.Succeeded id := by
        obtain ⟨r, hr⟩ := hsucceeded
        refine ⟨r, (List.mem_cons.1 hr).resolve_left fun heq => hid (congrArg Prod.fst heq)⟩
      refine exists_mem_set hi (fun ⟨_, hsending⟩ => ?_) (h.unpublished id hbefore hnot)
      cases hsending
  unfinished id hpublished :=
    (h.unfinished id hpublished).imp_right (exists_mem_set hi fun hold => hold)

theorem inv_sent {s : Submitter π} (h : Inv s) {i : ℕ} {body : OfflineSignatureModel π}
    {update : Option ChainResult} {result : ChainResult}
    (hi : s.calls[i]? = some ⟨body, .sending result, update⟩) (hnot : ¬ s.Published body.id) :
    Inv { s.withCall i ⟨body, .returning, some result⟩ with
      published := body.finalizationMsg result :: s.published } := by
  have hcall := List.mem_of_getElem? hi
  have hresult := h.results _ hcall result (.inl rfl)
  refine ⟨List.nodup_cons.2 ⟨hnot, h.once⟩, fun id hid => ?_, h.finalized, ?_, ?_, ?_, ?_⟩
  · rcases List.mem_cons.1 hid with rfl | hid
    · exact ⟨result, hresult⟩
    · exact h.succeeded id hid
  · intro call hnew hrecorded
    rcases eq_or_mem_of_mem_withCall hnew with rfl | hold
    · exact h.recorded ⟨body, .sending result, update⟩ hcall (.inl rfl)
    · exact h.recorded call hold hrecorded
  · intro call hnew r hr
    rcases eq_or_mem_of_mem_withCall hnew with rfl | hold
    · cases hr.resolve_left nofun
      exact hresult
    · exact h.results call hold r hr
  · intro id hsucceeded hunpublished
    have hne : id ≠ body.id := fun hid => hunpublished (List.mem_cons.2 (.inl hid))
    have hbefore := h.unpublished id hsucceeded fun hid =>
      hunpublished (List.mem_cons_of_mem _ hid)
    exact exists_mem_set hi (fun ⟨hid, _⟩ => absurd hid.symm hne) hbefore
  · intro id hpublished
    by_cases hid : id = body.id
    · exact .inr ⟨_, mem_set_self _ hi, hid.symm, Option.some_ne_none _⟩
    · have hbefore := h.unfinished id ((List.mem_cons.1 hpublished).resolve_left hid)
      exact hbefore.imp_right (exists_mem_set hi fun ⟨hcallId, _⟩ => absurd hcallId.symm hid)

/-- The record has been updated. -/
theorem inv_updated {s : Submitter π} (h : Inv s) {i : ℕ} {body : OfflineSignatureModel π}
    {phase : SubmitPhase} {result : ChainResult}
    (hi : s.calls[i]? = some ⟨body, phase, some result⟩) :
    Inv { s.withCall i ⟨body, phase, none⟩ with
      repo := (s.repo.updateTx body.id (body.finalized result)).2 } := by
  have hcall := List.mem_of_getElem? hi
  have hresult := h.results _ hcall result (.inr rfl)
  obtain ⟨old, hold⟩ := h.recorded _ hcall (.inr (Option.some_ne_none _))
  obtain ⟨row, hrows, hstatus, hdata⟩ := rows_updateTx hold result
  have hother : ∀ {id}, id ≠ body.id →
      (s.repo.updateTx body.id (body.finalized result)).2.rows id = s.repo.rows id := by
    intro id hid
    rw [hrows, Function.update_of_ne hid]
  refine ⟨h.once, h.succeeded, fun id hid => ?_, ?_, ?_, ?_, ?_⟩
  · by_cases heq : id = body.id
    · subst heq
      exact ⟨result, hresult, row, by rw [hrows, Function.update_self], hstatus, hdata⟩
    · rw [statusOf, hother heq] at hid
      obtain ⟨r, hr, hwith⟩ := h.finalized id hid
      refine ⟨r, hr, ?_⟩
      rwa [FinalizedWith, hother heq]
  · intro call hnew hrecorded
    show ∃ row, (s.repo.updateTx body.id (body.finalized result)).2.rows call.body.id = some row
    rw [hrows]
    refine exists_row_update ?_
    rcases eq_or_mem_of_mem_withCall hnew with rfl | hbefore
    · exact ⟨old, hold⟩
    · exact h.recorded call hbefore hrecorded
  · intro call hnew r hr
    rcases eq_or_mem_of_mem_withCall hnew with rfl | hbefore
    · exact h.results _ hcall r (.inl (hr.resolve_right nofun))
    · exact h.results call hbefore r hr
  · intro id hsucceeded hnot
    exact exists_mem_set hi (fun hold => hold) (h.unpublished id hsucceeded hnot)
  · intro id hpublished
    by_cases heq : id = body.id
    · refine .inl ?_
      simp [statusOf, hrows, heq, hstatus]
    · rcases h.unfinished id hpublished with hfinal | hupdate
      · refine .inl ?_
        show Option.bind ((s.repo.updateTx _ _).2.rows id) _ = _
        rw [hother heq]
        exact hfinal
      · exact .inr (exists_mem_set hi (fun ⟨hid, _⟩ => absurd hid.symm heq) hupdate)

theorem inv_deliver {s : Submitter π} (h : Inv s) (body : OfflineSignatureModel π) :
    Inv { s with calls := s.calls ++ [⟨body, .creating, none⟩] } where
  once := h.once
  succeeded := h.succeeded
  finalized := h.finalized
  recorded call hcall hrecorded := by
    rcases List.mem_append.1 hcall with hold | hnew
    · exact h.recorded call hold hrecorded
    · cases List.mem_singleton.1 hnew
      exact absurd hrecorded (by simp [SubmitPhase.recorded])
  results call hcall result hresult := by
    rcases List.mem_append.1 hcall with hold | hnew
    · exact h.results call hold result hresult
    · cases List.mem_singleton.1 hnew
      exact absurd hresult (by simp)
  unpublished id hsucceeded hnot := by
    obtain ⟨call, hcall, hid⟩ := h.unpublished id hsucceeded hnot
    exact ⟨call, List.mem_append_left _ hcall, hid⟩
  unfinished id hpublished :=
    (h.unfinished id hpublished).imp_right fun ⟨call, hcall, hid⟩ =>
      ⟨call, List.mem_append_left _ hcall, hid⟩

/-- **One orderly step** keeps the invariant. -/
theorem inv_next {s s' : Submitter π} {a : SubmitterAct π} (h : Inv s) (horderly : Orderly s a)
    (hst : machine.next s a = some s') : Inv s' := by
  cases next_cases hst with
  | deliver body => exact inv_deliver h body
  | createTx hi outcome =>
    have hstatus := horderly.2 _ (Option.mem_def.2 hi)
    obtain ⟨row, hrows, hsigned⟩ := rows_createTx s.repo _
    cases outcome with
    | resolved | unconfirmed => exact inv_recorded h hi rfl hrows hsigned (hstatus rfl)
    | rejected => exact inv_settled h hi nofun
  | submitted hi result => exact inv_submitted h hi result
  | refused hi => exact inv_settled h hi nofun
  | @sendMessage i body result update hi outcome =>
    have houtcome := horderly.2 _ (Option.mem_def.2 hi)
    by_cases hpublished : s.Published body.id
    · rw [if_pos hpublished] at houtcome
      subst houtcome
      exact inv_settled h hi fun _ => hpublished
    · rw [if_neg hpublished] at houtcome
      subst houtcome
      exact inv_sent h hi hpublished
  | updateTx hi outcome =>
    have hwritten : outcome.written = true := horderly.2
    cases outcome with
    | resolved | unconfirmed => exact inv_updated h hi
    | rejected => cases hwritten
  | settle hi => exact inv_settled h hi nofun

/-! ### Where calls settle -/

/-- While an id is quiet, its record and its messages are those of the chain. -/
theorem consistent_of_quiet {s : Submitter π} (h : Inv s) {id : String} (hquiet : s.Quiet id) :
    s.Consistent id := by
  constructor
  · intro hsucceeded
    have hpublished : s.Published id := by
      by_contra hnot
      obtain ⟨call, hcall, hid, hsending⟩ := h.unpublished id hsucceeded hnot
      rcases (hquiet call hcall hid).2 with hpublished | hphase
      · exact hnot hpublished
      · rw [hsending] at hphase
        cases hphase
    refine ⟨h.finalized id ?_, List.count_eq_one_of_mem h.once hpublished⟩
    rcases h.unfinished id hpublished with hfinal | ⟨call, hcall, hid, hupdate⟩
    · exact hfinal
    · exact absurd (hquiet call hcall hid).1 hupdate
  · intro hnot
    refine ⟨fun hfinal => ?_,
      List.count_eq_zero.2 fun hpublished => hnot (h.succeeded id hpublished)⟩
    obtain ⟨result, hresult, -⟩ := h.finalized id hfinal
    exact hnot ⟨result, hresult⟩

theorem quiet_settled {s s' : Submitter π} {i : ℕ} {body : OfflineSignatureModel π}
    {phase : SubmitPhase} {update : Option ChainResult} {id : String} (hquiet : s.Quiet id)
    (hi : s.calls[i]? = some ⟨body, phase, update⟩)
    (hcalls : s'.calls = (s.withCall i ⟨body, .settled, update⟩).calls)
    (hpublished : s'.published = s.published) : s'.Quiet id := by
  intro call hcall hid
  rw [hcalls] at hcall
  rw [Published, hpublished]
  rcases eq_or_mem_of_mem_withCall hcall with rfl | hold
  · exact ⟨(hquiet _ (List.mem_of_getElem? hi) hid).1, .inr rfl⟩
  · exact hquiet call hold hid

/-- Where a call settles in an orderly step, its id is quiet after it. -/
theorem quiet_next {s s' : Submitter π} {a : SubmitterAct π} (horderly : Orderly s a)
    (hst : machine.next s a = some s') {id : String} (hsettles : s.settles a = some id) :
    s'.Quiet id := by
  have hquiet := horderly.1 id hsettles
  cases next_cases hst with
  | deliver | submitted | updateTx => cases hsettles
  | createTx hi outcome =>
    have hok : outcome.ok = false := by
      by_contra hok
      simp [settles, hok] at hsettles
    exact quiet_settled hquiet hi (by simp [hok, withCall]) rfl
  | refused hi => exact quiet_settled hquiet hi rfl rfl
  | @sendMessage i body result update hi outcome =>
    have houtcome := horderly.2 _ (Option.mem_def.2 hi)
    split_ifs at houtcome
    · subst houtcome
      exact quiet_settled hquiet hi rfl rfl
    · subst houtcome
      cases hsettles
  | settle hi => exact quiet_settled hquiet hi rfl rfl

/-- No orderly step makes a Finalized transaction Signed. -/
theorem statusOf_next {s s' : Submitter π} {a : SubmitterAct π} (h : Inv s)
    (horderly : Orderly s a) (hst : machine.next s a = some s') {id : String}
    (hid : s.statusOf id = some .finalized) : s'.statusOf id ≠ some .signed := by
  have hsame : ∀ {repo : PostgresOfflineTxRepo π}, repo.rows id = s.repo.rows id →
      (repo.rows id).bind OfflineTxObject.status ≠ some .signed := by
    intro repo hrow
    rw [hrow, ← statusOf, hid]
    decide
  cases next_cases hst with
  | deliver | submitted | refused | sendMessage | settle => exact hsame rfl
  | @createTx i body update hi outcome =>
    have hstatus := horderly.2 _ (Option.mem_def.2 hi)
    obtain ⟨row, hrows, -⟩ := rows_createTx s.repo body
    cases outcome with
    | resolved | unconfirmed =>
      have hne : id ≠ body.id := by
        rintro rfl
        exact hstatus rfl hid
      refine hsame ?_
      show (s.repo.createTx body.transaction).2.rows id = _
      rw [hrows, Function.update_of_ne hne]
    | rejected => exact hsame rfl
  | @updateTx i body phase result hi outcome =>
    obtain ⟨old, hold⟩ := h.recorded _ (List.mem_of_getElem? hi) (.inr (Option.some_ne_none _))
    obtain ⟨row, hrows, hfinal, -⟩ := rows_updateTx hold result
    cases outcome with
    | resolved | unconfirmed =>
      show Option.bind ((s.repo.updateTx _ _).2.rows id) _ ≠ _
      by_cases heq : id = body.id
      · rw [hrows, heq, Function.update_self, Option.bind_some, hfinal]
        decide
      · refine hsame ?_
        rw [hrows, Function.update_of_ne heq]
    | rejected => exact hsame rfl

/-! ### Runs -/

/-- **Where all steps of a run are orderly**, every call of `submit` settles with the record and
the messages of its id being those of the chain, and no Finalized transaction becomes Signed. -/
theorem sound_of_orderly (acts : List (SubmitterAct π)) (h : machine.Meets Orderly {} acts) :
    machine.Meets Sound {} acts := by
  refine h.imp (J := Inv) (fun s a s' hs horderly hst => inv_next hs horderly hst) ?_ inv_init
  intro s a hs horderly
  refine ⟨fun s' hst id hsettles => ?_, fun s' hst id hid => statusOf_next hs horderly hst hid⟩
  exact consistent_of_quiet (inv_next hs horderly hst) (quiet_next horderly hst hsettles)

/-- A signature of id `"7"`. -/
def signature : OfflineSignatureModel Unit := ⟨"7", "0x01", (), "address", 1⟩

/-- A transaction is finalized, its signature is delivered again and not recorded again, and
another one fails on the chain. -/
theorem sound_redelivered :
    ((machine.run {} [.deliver signature, .createTx 0 .resolved,
      .submitTransaction 0 (some ⟨"0x02", 1, "0x03"⟩), .sendMessage 0 .resolved,
      .updateTx 0 .resolved, .settle 0, .deliver signature, .createTx 1 .rejected,
      .deliver { signature with id := "8" }, .createTx 2 .resolved,
      .submitTransaction 2 none]).isSome = true) ∧
    machine.Meets Sound {} [.deliver signature, .createTx 0 .resolved,
      .submitTransaction 0 (some ⟨"0x02", 1, "0x03"⟩), .sendMessage 0 .resolved,
      .updateTx 0 .resolved, .settle 0, .deliver signature, .createTx 1 .rejected,
      .deliver { signature with id := "8" }, .createTx 2 .resolved,
      .submitTransaction 2 none] :=
  ⟨by decide, sound_of_orderly _ (by decide)⟩

/-- The promise of `submit` resolves before the update that it does not await has been made. -/
theorem settled_before_update :
    ¬ ∀ acts : List (SubmitterAct Unit), machine.Meets Sound {} acts := by
  intro h
  have hrun := h [.deliver signature, .createTx 0 .resolved,
    .submitTransaction 0 (some ⟨"0x02", 1, "0x03"⟩), .sendMessage 0 .resolved, .settle 0]
  have hsound := ((((hrun.2 _ rfl).2 _ rfl).2 _ rfl).2 _ rfl).1
  have hconsistent := hsound.settled _ rfl "7" rfl
  obtain ⟨result, -, row, hrow, hstatus, -⟩ :=
    (hconsistent.of_succeeded ⟨⟨"0x02", 1, "0x03"⟩, by decide⟩).1
  cases Option.some.inj hrow
  cases hstatus

end Submitter

end PolymeshRest
