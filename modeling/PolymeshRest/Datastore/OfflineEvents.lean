import PolymeshRest.Data.Table
import PolymeshRest.Machine.Calls

/-!
# The two repositories of offline events

Everything that is sent for offline transactions is recorded.  `LocalOfflineEventRepo` keeps the
records in an object under ids that it counts, and `PostgresOfflineEventRepo` in a table.

* `OfflineEventModel`, `LocalOfflineEventRepo`, `PostgresOfflineEventRepo`
* `OfflineEventRepos.agree` : from the start on they give the same models and hold the same events.
-/

namespace PolymeshRest

/-- `OfflineEventModel`, with bodies `β`. -/
structure OfflineEventModel (β : Type*) where
  id : String
  body : β
  deriving DecidableEq, Repr

/-- `LocalOfflineEventRepo`; nothing reads the events by their ids. -/
structure LocalOfflineEventRepo (β : Type*) where
  events : List (OfflineEventModel β) := []
  /-- `_id` -/
  id : ℕ := 1

/-- The entity `OfflineEvent`. -/
structure OfflineEvent (β : Type*) where
  id : ℕ
  body : β
  deriving DecidableEq, Repr

/-- The table `OfflineEvent`. -/
abbrev PostgresOfflineEventRepo (β : Type*) : Type _ := Table (OfflineEvent β) OfflineEvent.id

variable {β : Type*}

/-- `recordEvent` -/
def LocalOfflineEventRepo.recordEvent (repo : LocalOfflineEventRepo β) (body : β) :
    OfflineEventModel β × LocalOfflineEventRepo β :=
  let model := ⟨repo.id.repr, body⟩
  (model, ⟨repo.events ++ [model], repo.id + 1⟩)

namespace PostgresOfflineEventRepo

/-- `toModel` -/
def toModel (event : OfflineEvent β) : OfflineEventModel β := ⟨event.id.repr, event.body⟩

/-- `recordEvent`; the database gives the next id. -/
def recordEvent (repo : PostgresOfflineEventRepo β) (body : β) :
    OfflineEventModel β × PostgresOfflineEventRepo β :=
  (toModel ⟨repo.currentId + 1, body⟩, repo.insert (fun id => ⟨id, body⟩) fun _ => rfl)

/-- The bodies of all events, in the order in which they were recorded. -/
def bodies (repo : PostgresOfflineEventRepo β) : List β := repo.all.map OfflineEvent.body

@[simp] theorem bodies_empty : bodies (Table.empty : PostgresOfflineEventRepo β) = [] := rfl

@[simp] theorem bodies_recordEvent (repo : PostgresOfflineEventRepo β) (body : β) :
    bodies (recordEvent repo body).2 = bodies repo ++ [body] := by
  rw [bodies, recordEvent, Table.all_insert, List.map_append]
  rfl

end PostgresOfflineEventRepo

/-! ### The two side by side -/

namespace OfflineEventRepos

/-- The calls of `LocalOfflineEventRepo`. -/
def memory : Service (LocalOfflineEventRepo β) β (OfflineEventModel β) :=
  ⟨LocalOfflineEventRepo.recordEvent⟩

/-- The calls of `PostgresOfflineEventRepo`. -/
def postgres : Service (PostgresOfflineEventRepo β) β (OfflineEventModel β) :=
  ⟨PostgresOfflineEventRepo.recordEvent⟩

/-- Both hold the same events, and give the same id next. -/
structure Same (s : LocalOfflineEventRepo β × PostgresOfflineEventRepo β) : Prop where
  events : s.1.events = s.2.all.map PostgresOfflineEventRepo.toModel
  id : s.1.id = s.2.currentId + 1

theorem same_init : Same (({}, .empty) : LocalOfflineEventRepo β × PostgresOfflineEventRepo β) :=
  ⟨rfl, rfl⟩

theorem same_next {s : LocalOfflineEventRepo β × PostgresOfflineEventRepo β} (h : Same s)
    (body : β) : memory.Answers postgres (· = ·) s body ∧
      Same (memory.after s.1 body, postgres.after s.2 body) := by
  have hmodel : (⟨s.1.id.repr, body⟩ : OfflineEventModel β) =
      PostgresOfflineEventRepo.toModel ⟨s.2.currentId + 1, body⟩ := by
    rw [h.id]
    rfl
  refine ⟨hmodel, ?_, congrArg (· + 1) h.id⟩
  show s.1.events ++ [_] = (s.2.insert (fun id => ⟨id, body⟩) fun _ => rfl).all.map _
  rw [Table.all_insert, List.map_append, h.events, hmodel]
  rfl

/-- **The repositories agree**: in every run they give the same models. -/
theorem agree (bodies : List β) :
    (memory.beside postgres).Meets (memory.Answers postgres (· = ·))
      (({}, .empty) : LocalOfflineEventRepo β × PostgresOfflineEventRepo β) bodies := by
  refine (Machine.meets_unrestricted _ bodies).imp (J := Same) (fun s body s' h _ hst => ?_)
    (fun s body h _ => (same_next h body).1) same_init
  cases hst
  exact (same_next h body).2

end OfflineEventRepos

end PolymeshRest
