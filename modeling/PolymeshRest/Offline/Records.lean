import PolymeshRest.Offline.Submitter

/-!
# What the submitter records and publishes

Whatever fails and however often signatures are delivered, the submitter makes nothing up: a record
and a message are about one signature that was delivered, and what they say of the chain is what a
submission of this id has resolved with.

* `Submitter.RecordOf` : a row that holds one delivered signature, and results of the chain.
* `Submitter.Stems P` : all that is recorded, published or under way stems from signatures that
  satisfy `P`.
* `Submitter.stems_next` : every step keeps this, where what is delivered satisfies `P`.
-/

namespace PolymeshRest

namespace Submitter

variable {π : Type*}

/-- The properties that a row has of a result of the chain. -/
structure ResultOf (result : ChainResult) (row : OfflineTxObject π) : Prop where
  blockHash : row.blockHash = some result.blockHash
  txIndex : row.txIndex = some result.transactionIndex.repr
  txHash : row.txHash = some result.transactionHash

/-- The row holds a signature that was delivered.  It is Finalized only with a result that a
submission of its id has had. -/
structure RecordOf (succeeded : List (String × ChainResult)) (body : OfflineSignatureModel π)
    (row : OfflineTxObject π) : Prop where
  payload : row.payload = some body.payload
  signature : row.signature = some body.signature
  address : row.address = some body.address
  nonce : row.nonce = some body.nonce
  result : row.status ≠ some .finalized ∧ row.blockHash = none ∧ row.txIndex = none ∧
      row.txHash = none ∨
    ∃ result, (body.id, result) ∈ succeeded ∧ ResultOf result row

/-- What a call holds: a signature that was delivered, and results of submissions of its id; a call
that is about to return has published its message. -/
structure CallStems (P : OfflineSignatureModel π → Prop) (s : Submitter π) (call : SubmitCall π) :
    Prop where
  body : P call.body
  result : ∀ result, call.phase = .sending result ∨ call.update = some result →
    (call.body.id, result) ∈ s.succeeded
  returning : call.phase = .returning → ∃ result, call.body.finalizationMsg result ∈ s.published

/-- What is under way, published and recorded stems from signatures that satisfy `P`. -/
structure Stems (P : OfflineSignatureModel π → Prop) (s : Submitter π) : Prop where
  calls : ∀ call ∈ s.calls, CallStems P s call
  published : ∀ m ∈ s.published, ∃ body result, P body ∧ (body.id, result) ∈ s.succeeded ∧
    m = body.finalizationMsg result
  records : ∀ id row, s.repo.rows id = some row →
    ∃ body, P body ∧ body.id = id ∧ RecordOf s.succeeded body row

variable {P Q : OfflineSignatureModel π → Prop} {s s' : Submitter π}

theorem stems_init : Stems P ({} : Submitter π) where
  calls _ hcall := nomatch hcall
  published _ hm := nomatch hm
  records _ _ hrow := nomatch hrow

theorem Stems.imp (h : Stems P s) (hPQ : ∀ body, P body → Q body) : Stems Q s where
  calls call hcall := { h.calls call hcall with body := hPQ _ (h.calls call hcall).body }
  published m hm := by
    obtain ⟨body, result, hbody, hrest⟩ := h.published m hm
    exact ⟨body, result, hPQ body hbody, hrest⟩
  records id row hrow := by
    obtain ⟨body, hbody, hrest⟩ := h.records id row hrow
    exact ⟨body, hPQ body hbody, hrest⟩

theorem CallStems.mono {call : SubmitCall π} (h : CallStems P s call)
    (hsucceeded : s.succeeded ⊆ s'.succeeded) (hpublished : s.published ⊆ s'.published) :
    CallStems P s' call where
  body := h.body
  result result hresult := hsucceeded (h.result result hresult)
  returning hphase := (h.returning hphase).imp fun _ hmem => hpublished hmem

theorem RecordOf.mono {succeeded succeeded' : List (String × ChainResult)}
    {body : OfflineSignatureModel π} {row : OfflineTxObject π} (h : RecordOf succeeded body row)
    (hsub : succeeded ⊆ succeeded') : RecordOf succeeded' body row :=
  { h with result := h.result.imp_right fun ⟨result, hmem, hof⟩ => ⟨result, hsub hmem, hof⟩ }

/-! ### Rows -/

theorem recordOf_createTx {succeeded : List (String × ChainResult)}
    {repo : PostgresOfflineTxRepo π} {body : OfflineSignatureModel π}
    (hold : ∀ row, repo.rows body.id = some row →
      ∃ other, P other ∧ other.id = body.id ∧ RecordOf succeeded other row) :
    RecordOf succeeded body (repo.stored body.id body.transaction.toObject) := by
  unfold PostgresOfflineTxRepo.stored
  cases hrow : repo.rows body.id with
  | none => exact ⟨rfl, rfl, rfl, rfl, .inl ⟨nofun, rfl, rfl, rfl⟩⟩
  | some row =>
    obtain ⟨other, -, hid, hrecord⟩ := hold row hrow
    refine ⟨rfl, rfl, rfl, rfl, ?_⟩
    rcases hrecord.result with ⟨-, hblock, hindex, htx⟩ | ⟨result, hmem, hof⟩
    · exact .inl ⟨nofun, hblock, hindex, htx⟩
    · exact .inr ⟨result, hid ▸ hmem, ⟨hof.blockHash, hof.txIndex, hof.txHash⟩⟩

theorem records_createTx {succeeded : List (String × ChainResult)} {repo : PostgresOfflineTxRepo π}
    {body : OfflineSignatureModel π} (hbody : P body)
    (hold : ∀ id row, repo.rows id = some row →
      ∃ other, P other ∧ other.id = id ∧ RecordOf succeeded other row) (id : String)
    (row : OfflineTxObject π) (hrow : (repo.createTx body.transaction).2.rows id = some row) :
    ∃ other, P other ∧ other.id = id ∧ RecordOf succeeded other row := by
  rw [PostgresOfflineTxRepo.createTx_rows] at hrow
  by_cases hid : id = body.id
  · subst hid
    change Function.update repo.rows body.id _ body.id = some row at hrow
    rw [Function.update_self] at hrow
    cases hrow
    exact ⟨body, hbody, rfl, recordOf_createTx (hold body.id)⟩
  · change Function.update repo.rows body.id _ id = some row at hrow
    rw [Function.update_of_ne hid] at hrow
    exact hold id row hrow

theorem records_updateTx {succeeded : List (String × ChainResult)} {repo : PostgresOfflineTxRepo π}
    {body : OfflineSignatureModel π} (hbody : P body) {result : ChainResult}
    (hresult : (body.id, result) ∈ succeeded)
    (hold : ∀ id row, repo.rows id = some row →
      ∃ other, P other ∧ other.id = id ∧ RecordOf succeeded other row) (id : String)
    (row : OfflineTxObject π)
    (hrow : (repo.updateTx body.id (body.finalized result)).2.rows id = some row) :
    ∃ other, P other ∧ other.id = id ∧ RecordOf succeeded other row := by
  cases hnow : repo.rows body.id with
  | none =>
    rw [PostgresOfflineTxRepo.updateTx_of_none hnow] at hrow
    exact hold id row hrow
  | some old =>
    rw [(repo.updateTx_of_row hnow).2] at hrow
    by_cases hid : id = body.id
    · subst hid
      rw [Function.update_self] at hrow
      cases hrow
      exact ⟨body, hbody, rfl, rfl, rfl, rfl, rfl, .inr ⟨result, hresult, rfl, rfl, rfl⟩⟩
    · rw [Function.update_of_ne hid] at hrow
      exact hold id row hrow

/-! ### One step -/

theorem callStems_set (h : Stems P s) {i : ℕ} {call : SubmitCall π}
    (hcalls : s'.calls = s.calls.set i call) (hnew : CallStems P s' call)
    (hsucceeded : s.succeeded ⊆ s'.succeeded) (hpublished : s.published ⊆ s'.published) :
    ∀ other ∈ s'.calls, CallStems P s' other := by
  intro other hother
  rw [hcalls] at hother
  rcases List.mem_or_eq_of_mem_set hother with hold | rfl
  · exact (h.calls other hold).mono hsucceeded hpublished
  · exact hnew

/-- **The step lemma**: nothing is made up. -/
theorem stems_next {a : SubmitterAct π} (h : Stems P s)
    (hdeliver : ∀ body, a = .deliver body → P body) (hst : machine.next s a = some s') :
    Stems P s' := by
  cases next_cases hst with
  | deliver body =>
    refine { h with calls := fun call hcall => ?_ }
    rcases List.mem_append.1 hcall with hold | hnew
    · exact (h.calls call hold).mono (List.Subset.refl _) (List.Subset.refl _)
    · rw [List.mem_singleton.1 hnew]
      exact ⟨hdeliver body rfl, fun _ hresult => by simp at hresult, nofun⟩
  | @createTx i body update hi outcome =>
    have hold := h.calls _ (List.mem_of_getElem? hi)
    refine ⟨callStems_set h rfl ⟨hold.body, fun result hresult => hold.result result ?_, ?_⟩
      (List.Subset.refl _) (List.Subset.refl _), h.published, ?_⟩
    · refine .inr (hresult.resolve_left ?_)
      split <;> nofun
    · dsimp only
      split <;> nofun
    · cases outcome with
      | rejected => exact h.records
      | _ => exact records_createTx hold.body h.records
  | @submitted i body update hi result =>
    have hold := h.calls _ (List.mem_of_getElem? hi)
    -- the result of the chain is what all that follows stems from
    have hsub : s.succeeded ⊆ (body.id, result) :: s.succeeded := List.subset_cons_self _ _
    refine ⟨callStems_set h rfl ⟨hold.body, fun r hr => ?_, nofun⟩ hsub (List.Subset.refl _),
      fun m hm => ?_, fun id row hrow => ?_⟩
    · rcases hr with hr | hr
      · cases hr
        exact List.mem_cons_self
      · exact hsub (hold.result r (.inr hr))
    · obtain ⟨other, r, hother, hr, rfl⟩ := h.published m hm
      exact ⟨other, r, hother, hsub hr, rfl⟩
    · obtain ⟨other, hother, hid, hrecord⟩ := h.records id row hrow
      exact ⟨other, hother, hid, hrecord.mono hsub⟩
  | @refused i body update hi =>
    have hold := h.calls _ (List.mem_of_getElem? hi)
    refine ⟨callStems_set h rfl ⟨hold.body, fun r hr => hold.result r ?_, nofun⟩
      (List.Subset.refl _) (List.Subset.refl _), h.published, h.records⟩
    exact .inr (hr.resolve_left nofun)
  | @sendMessage i body result update hi outcome =>
    have hold := h.calls _ (List.mem_of_getElem? hi)
    have hresult := hold.result result (.inl rfl)
    cases outcome with
    | resolved =>
      have hsub : s.published ⊆ body.finalizationMsg result :: s.published :=
        List.subset_cons_self _ _
      refine ⟨callStems_set h rfl ⟨hold.body, fun r hr => ?_, fun _ => ⟨result, ?_⟩⟩
        (List.Subset.refl _) hsub, fun m hm => ?_, h.records⟩
      · -- the call has the result it has sent, and no other one
        cases hr.resolve_left nofun
        exact hresult
      · exact List.mem_cons_self
      · rcases List.mem_cons.1 hm with rfl | hm
        · exact ⟨body, result, hold.body, hresult, rfl⟩
        · exact h.published m hm
    | rejected =>
      refine ⟨callStems_set h rfl ⟨hold.body, fun r hr => hold.result r ?_, nofun⟩
        (List.Subset.refl _) (List.Subset.refl _), h.published, h.records⟩
      exact .inr (hr.resolve_left nofun)
    | unconfirmed =>
      have hsub : s.published ⊆ body.finalizationMsg result :: s.published :=
        List.subset_cons_self _ _
      refine ⟨callStems_set h rfl ⟨hold.body, fun r hr => hold.result r ?_, nofun⟩
        (List.Subset.refl _) hsub, fun m hm => ?_, h.records⟩
      · exact .inr (hr.resolve_left nofun)
      · rcases List.mem_cons.1 hm with rfl | hm
        · exact ⟨body, result, hold.body, hresult, rfl⟩
        · exact h.published m hm
  | @updateTx i body phase result hi outcome =>
    have hold := h.calls _ (List.mem_of_getElem? hi)
    refine ⟨callStems_set h rfl ⟨hold.body, fun r hr => hold.result r ?_, hold.returning⟩
      (List.Subset.refl _) (List.Subset.refl _), h.published, ?_⟩
    · exact .inl (hr.resolve_right nofun)
    · cases outcome with
      | rejected => exact h.records
      | _ => exact records_updateTx hold.body (hold.result result (.inr rfl)) h.records
  | @settle i body update hi =>
    have hold := h.calls _ (List.mem_of_getElem? hi)
    refine ⟨callStems_set h rfl ⟨hold.body, fun r hr => hold.result r ?_, nofun⟩
      (List.Subset.refl _) (List.Subset.refl _), h.published, h.records⟩
    exact .inr (hr.resolve_left nofun)

/-! ### What a step shows -/

/-- The message that a step publishes. -/
def finalization (s : Submitter π) : SubmitterAct π → Option FinalizationMessage
  | .sendMessage i outcome =>
    match s.calls[i]? with
    | some ⟨body, .sending result, _⟩ =>
      if outcome.written then some (body.finalizationMsg result) else none
    | _ => none
  | _ => none

theorem published_next {a : SubmitterAct π} (hst : machine.next s a = some s') :
    s'.published = (s.finalization a).toList ++ s.published := by
  cases next_cases hst with
  | sendMessage hi outcome =>
    rw [finalization, hi]
    cases outcome <;> rfl
  | _ => rfl

theorem published_subset {a : SubmitterAct π} (hst : machine.next s a = some s') :
    s.published ⊆ s'.published := by
  rw [published_next hst]
  exact List.subset_append_right _ _

theorem bodies_next {a : SubmitterAct π} (hst : machine.next s a = some s')
    (hdeliver : ∀ body, a ≠ .deliver body) :
    s'.calls.map SubmitCall.body = s.calls.map SubmitCall.body := by
  cases next_cases hst with
  | deliver body => exact absurd rfl (hdeliver body)
  | createTx hi outcome => exact map_set_of_eq _ hi rfl
  | submitted hi result => exact map_set_of_eq _ hi rfl
  | refused hi => exact map_set_of_eq _ hi rfl
  | sendMessage hi outcome =>
    refine map_set_of_eq _ hi ?_
    split <;> rfl
  | updateTx hi outcome => exact map_set_of_eq _ hi rfl
  | settle hi => exact map_set_of_eq _ hi rfl

end Submitter

end PolymeshRest
