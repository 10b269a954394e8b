import PolymeshRest.Auth.ApiKeys
import PolymeshRest.Datastore.Basic

/-!
# The two repositories of users

Three places say what a user's name may be: the validation of `CreateUserDto`, the constraints of
the table `User` and the search through the users in memory, which start with `defaultUser`.

## Main definitions

* `CreateUserDto.accepts` : the names that pass the validation.
* `LocalUserRepo`, `PostgresUsersRepo` : their calls, and `service`.
* `UserRepos` : both repositories, with the names that have been asked for.
* `UserRepos.Expected` : a call is answered as the names created before demand, in both.

## Main results

* `UserRepos.inv_next` : one call keeps the names in both repositories those that were created.
* `UserRepos.expected` : every call of a run is answered as expected, where the name of the
  default user counts as created in memory from the start.
-/

namespace PolymeshRest

open Js

/-- `UsersRepo.type` -/
def UsersRepo.type : String := "User"

/-- `Length(3, 127)`: a character outside the basic plane counts once, a variation selector not
at all. -/
def CreateUserDto.accepts (name : String) : Bool :=
  let length := (name.toList.filter fun c => c.toNat ≠ 0xFE0E && c.toNat ≠ 0xFE0F).length
  3 ≤ length && length ≤ 127

/-- The calls of a `UsersRepo`.  The id of a new row is generated by the database. -/
inductive UserCall where
  | createUser (name : String) (uuid : String)
  | findByName (name : String)
  deriving DecidableEq, Repr

/-- The name a call is about. -/
def UserCall.name : UserCall → String
  | .createUser name _ | .findByName name => name

/-- The names that `createUser` was called with, after the call. -/
def UserCall.creates (created : List String) : UserCall → List String
  | .createUser name _ => name :: created
  | .findByName _ => created

/-! ### `LocalUserRepo` -/

structure LocalUserRepo where
  users : Record String UserModel := Record.empty.set defaultUser.id defaultUser
  /-- `_nextId` -/
  nextId : ℕ := 0

namespace LocalUserRepo

/-- `getUserByName` -/
def getUserByName (repo : LocalUserRepo) (name : String) : Option UserModel :=
  repo.users.values.find? fun user => user.name = name

/-- `createUser` -/
def createUser (repo : LocalUserRepo) (name : String) : Answer UserModel × LocalUserRepo :=
  match repo.getUserByName name with
  | some _ => (.rejected (.app (.conflict name UsersRepo.type)), repo)
  | none =>
    let id := (repo.nextId + 1).repr
    let user : UserModel := ⟨id, name⟩
    (.resolved (some user), ⟨repo.users.set id user, repo.nextId + 1⟩)

/-- `findByName` -/
def findByName (repo : LocalUserRepo) (name : String) : Answer UserModel :=
  match repo.getUserByName name with
  | some storedUser => .resolved (some storedUser)
  | none => .rejected (.app (.notFound name UsersRepo.type))

/-- The calls of the repository. -/
def service : Service LocalUserRepo UserCall (Answer UserModel) where
  call repo
    | .createUser name _ => repo.createUser name
    | .findByName name => (repo.findByName name, repo)

end LocalUserRepo

/-! ### `PostgresUsersRepo` -/

/-- The rows of the table `User`, in the order of their creation. -/
structure PostgresUsersRepo where
  rows : List UserModel := []

namespace PostgresUsersRepo

/-- `save`: the check of the length comes before the unique keys. -/
def save (repo : PostgresUsersRepo) (entity : UserModel) :
    Except DatabaseError PostgresUsersRepo :=
  if ¬ entity.name.length < 127 then .error .checkViolation
  else if entity.id ∈ repo.rows.map UserModel.id ∨ entity.name ∈ repo.rows.map UserModel.name then
    .error .duplicateKey
  else .ok ⟨repo.rows ++ [entity]⟩

/-- `createUser`; the database has generated `uuid`. -/
def createUser (repo : PostgresUsersRepo) (name uuid : String) :
    Answer UserModel × PostgresUsersRepo :=
  let entity : UserModel := ⟨uuid, name⟩
  match repo.save entity with
  | .ok repo => (.resolved (some entity), repo)
  | .error e => (.rejected (convertTypeOrmErrorToAppError name UsersRepo.type e), repo)

/-- `findByName` -/
def findByName (repo : PostgresUsersRepo) (name : String) : Answer UserModel :=
  match repo.rows.find? fun user => user.name = name with
  | some entity => .resolved (some entity)
  | none => .rejected (.app (.notFound name UsersRepo.type))

/-- The calls of the repository. -/
def service : Service PostgresUsersRepo UserCall (Answer UserModel) where
  call repo
    | .createUser name uuid => repo.createUser name uuid
    | .findByName name => (repo.findByName name, repo)

end PostgresUsersRepo

/-! ### The two side by side -/

/-- Both repositories. -/
structure UserRepos where
  inMemory : LocalUserRepo := {}
  inDatabase : PostgresUsersRepo := {}
  /-- The names that `createUser` was called with: each of these calls has created the user or
  found it. -/
  created : List String := []

namespace UserRepos

/-- Both repositories, given the same calls. -/
def machine : Machine UserRepos UserCall where
  next s call := some
    { inMemory := LocalUserRepo.service.after s.inMemory call
      inDatabase := PostgresUsersRepo.service.after s.inDatabase call
      created := call.creates s.created }

/-- The answer to a call about a name, by whether there is a user of that name. -/
def AnswersTo (present : Prop) : UserCall → Answer UserModel → Prop
  | .createUser name _, answer =>
    present ∧ answer = .rejected (.app (.conflict name UsersRepo.type)) ∨
      ¬ present ∧ ∃ user, answer = .resolved (some user) ∧ user.name = name
  | .findByName name, answer =>
    present ∧ (∃ user, answer = .resolved (some user) ∧ user.name = name) ∨
      ¬ present ∧ answer = .rejected (.app (.notFound name UsersRepo.type))

/-- No two users share a name or an id. -/
def Distinct (users : List UserModel) : Prop :=
  (users.map UserModel.name).Nodup ∧ (users.map UserModel.id).Nodup

/-- The call is answered as the names created before demand, where the names in `seeded` count as
created in memory; and the users are distinct. -/
structure Expected (seeded : List String) (s : UserRepos) (call : UserCall) : Prop where
  inMemory : AnswersTo (call.name ∈ seeded ∨ call.name ∈ s.created) call
    (LocalUserRepo.service.answer s.inMemory call)
  inDatabase : AnswersTo (call.name ∈ s.created) call
    (PostgresUsersRepo.service.answer s.inDatabase call)
  distinct_inMemory : Distinct (LocalUserRepo.service.after s.inMemory call).users.values
  distinct_inDatabase : Distinct (PostgresUsersRepo.service.after s.inDatabase call).rows

/-- The name passes the validation, and the database generates an id that it has not used. -/
def Valid (s : UserRepos) : UserCall → Prop
  | .createUser name uuid =>
    CreateUserDto.accepts name = true ∧ uuid ∉ s.inDatabase.rows.map UserModel.id
  | .findByName name => CreateUserDto.accepts name = true

instance (s : UserRepos) : ∀ call, Decidable (Valid s call)
  | .createUser _ _ => inferInstanceAs (Decidable (_ ∧ _))
  | .findByName _ => inferInstanceAs (Decidable (_ = true))

/-- The call is valid, and its name has fewer than 127 characters. -/
def Permitted (s : UserRepos) (call : UserCall) : Prop := Valid s call ∧ call.name.length < 127

instance (s : UserRepos) (call : UserCall) : Decidable (Permitted s call) :=
  inferInstanceAs (Decidable (_ ∧ _))

/-! ### The users that are stored -/

/-- In memory there are the default user and the users that were created. -/
structure InMemory (repo : LocalUserRepo) (created : List String) : Prop where
  names : ∀ name, name ∈ repo.users.entries.map (fun e => e.2.name) ↔
    name ∈ [defaultUser.name] ∨ name ∈ created
  nodup : (repo.users.entries.map fun e => e.2.name).Nodup
  ids : ∀ e ∈ repo.users.entries, e.2.id = e.1
  fresh : ∀ n, repo.nextId < n → repo.users.get n.repr = none

/-- In the database there are the users that were created. -/
structure InDatabase (repo : PostgresUsersRepo) (created : List String) : Prop where
  names : ∀ name, name ∈ repo.rows.map UserModel.name ↔ name ∈ created
  distinct : Distinct repo.rows

/-- Both repositories hold what was created. -/
structure Inv (s : UserRepos) : Prop where
  inMemory : InMemory s.inMemory s.created
  inDatabase : InDatabase s.inDatabase s.created

theorem inv_init : Inv {} where
  inMemory := by
    refine ⟨by simp [Record.set, Record.assign, Record.empty], by decide, by decide, ?_⟩
    intro n _
    have hne : n.repr ≠ defaultUser.id :=
      repr_ne_of_not_digit (c := '-') (by decide) (by decide) n
    exact Record.get_set_of_ne hne
  inDatabase := ⟨by simp, by simp [Distinct]⟩

theorem getUserByName_cases {repo : LocalUserRepo} {created : List String}
    (h : InMemory repo created) (name : String) :
    (name ∈ [defaultUser.name] ∨ name ∈ created) ∧
        (∃ user, repo.getUserByName name = some user ∧ user.name = name) ∨
      ¬ (name ∈ [defaultUser.name] ∨ name ∈ created) ∧ repo.getUserByName name = none := by
  rw [← h.names]
  have hvalues : name ∈ repo.users.entries.map (fun e => e.2.name) ↔
      ∃ user ∈ repo.users.values, user.name = name := by
    rw [← List.mem_map, (Record.values_perm.map UserModel.name).mem_iff, List.map_map]
    rfl
  rw [hvalues, LocalUserRepo.getUserByName]
  cases hfind : repo.users.values.find? fun user => user.name = name with
  | some user =>
    have hname : user.name = name := by simpa using List.find?_some hfind
    exact .inl ⟨⟨user, List.mem_of_find?_eq_some hfind, hname⟩, user, rfl, hname⟩
  | none =>
    rw [List.find?_eq_none] at hfind
    refine .inr ⟨?_, rfl⟩
    rintro ⟨user, huser, hname⟩
    exact hfind user huser (decide_eq_true hname)

theorem InMemory.distinct {repo : LocalUserRepo} {created : List String}
    (h : InMemory repo created) : Distinct repo.users.values := by
  constructor
  · refine (Record.values_perm.map _).nodup_iff.2 ?_
    rw [List.map_map]
    exact h.nodup
  · refine (Record.values_perm.map _).nodup_iff.2 ?_
    have hkeys : repo.users.entries.map (UserModel.id ∘ Prod.snd) =
        repo.users.entries.map Prod.fst := List.map_congr_left h.ids
    rw [List.map_map, hkeys]
    exact repo.users.nodup_keys

theorem InMemory.again {repo : LocalUserRepo} {created : List String} (h : InMemory repo created)
    {name : String} (hname : name ∈ [defaultUser.name] ∨ name ∈ created) :
    InMemory repo (name :: created) where
  names other := by
    rw [h.names]
    constructor
    · exact Or.imp_right (List.mem_cons_of_mem _)
    · rintro (hother | hother)
      · exact .inl hother
      · rcases List.mem_cons.1 hother with rfl | hother
        · exact hname
        · exact .inr hother
  nodup := h.nodup
  ids := h.ids
  fresh := h.fresh

theorem InMemory.create {repo : LocalUserRepo} {created : List String} (h : InMemory repo created)
    {name : String} (hnew : ¬ (name ∈ [defaultUser.name] ∨ name ∈ created)) :
    InMemory ⟨repo.users.set (repo.nextId + 1).repr ⟨(repo.nextId + 1).repr, name⟩,
      repo.nextId + 1⟩ (name :: created) := by
  have hfresh := h.fresh (repo.nextId + 1) (Nat.lt_succ_self _)
  have hentries := Record.entries_set hfresh ⟨(repo.nextId + 1).repr, name⟩
  refine ⟨fun other => ?_, ?_, ?_, fun n hn => ?_⟩
  · simp only [hentries, List.map_append, List.mem_append, h.names, List.mem_cons,
      List.map_cons, List.map_nil, List.not_mem_nil, or_false]
    tauto
  · simp only [hentries, List.map_append]
    refine h.nodup.append (List.nodup_singleton _) ?_
    rw [List.map_singleton, List.disjoint_singleton, h.names]
    exact hnew
  · intro e he
    rw [hentries, List.mem_append, List.mem_singleton] at he
    rcases he with he | rfl
    · exact h.ids e he
    · rfl
  · change repo.nextId + 1 < n at hn
    have hne : n.repr ≠ (repo.nextId + 1).repr := injective_repr.ne (by omega)
    rw [Record.get_set_of_ne hne]
    exact h.fresh n (by omega)

theorem InDatabase.create {repo : PostgresUsersRepo} {created : List String}
    (h : InDatabase repo created) {name uuid : String} (hnew : name ∉ created)
    (huuid : uuid ∉ repo.rows.map UserModel.id) :
    InDatabase ⟨repo.rows ++ [⟨uuid, name⟩]⟩ (name :: created) := by
  refine ⟨fun other => ?_, ?_, ?_⟩
  · simp only [List.map_append, List.mem_append, h.names, List.mem_cons,
      List.map_cons, List.map_nil, List.not_mem_nil, or_false]
    tauto
  · rw [List.map_append, List.map_singleton]
    refine h.distinct.1.append (List.nodup_singleton _) ?_
    rw [List.disjoint_singleton, h.names]
    exact hnew
  · rw [List.map_append, List.map_singleton]
    exact h.distinct.2.append (List.nodup_singleton _) (List.disjoint_singleton.2 huuid)

/-! ### One call -/

/-- **One call in memory** is answered as the names demand, and keeps them. -/
theorem inMemory_next {repo : LocalUserRepo} {created : List String} (h : InMemory repo created)
    (call : UserCall) :
    AnswersTo (call.name ∈ [defaultUser.name] ∨ call.name ∈ created) call
        (LocalUserRepo.service.answer repo call) ∧
      InMemory (LocalUserRepo.service.after repo call) (call.creates created) := by
  cases call with
  | createUser name uuid =>
    show AnswersTo _ _ (repo.createUser name).1 ∧ InMemory (repo.createUser name).2 _
    rw [LocalUserRepo.createUser]
    rcases getUserByName_cases h name with ⟨hname, user, hfound, -⟩ | ⟨hname, hfound⟩
    · rw [hfound]
      exact ⟨.inl ⟨hname, rfl⟩, h.again hname⟩
    · rw [hfound]
      exact ⟨.inr ⟨hname, _, rfl, rfl⟩, h.create hname⟩
  | findByName name =>
    refine ⟨?_, h⟩
    show AnswersTo _ _ (repo.findByName name)
    rw [LocalUserRepo.findByName]
    rcases getUserByName_cases h name with ⟨hname, user, hfound, huser⟩ | ⟨hname, hfound⟩
    · rw [hfound]
      exact .inl ⟨hname, user, rfl, huser⟩
    · rw [hfound]
      exact .inr ⟨hname, rfl⟩

/-- **One call in the database** is answered as the names demand, and keeps them. -/
theorem inDatabase_next {s : UserRepos} (h : InDatabase s.inDatabase s.created) {call : UserCall}
    (hcall : Permitted s call) :
    AnswersTo (call.name ∈ s.created) call (PostgresUsersRepo.service.answer s.inDatabase call) ∧
      InDatabase (PostgresUsersRepo.service.after s.inDatabase call) (call.creates s.created) := by
  cases call with
  | createUser name uuid =>
    show AnswersTo _ _ (s.inDatabase.createUser name uuid).1 ∧
      InDatabase (s.inDatabase.createUser name uuid).2 _
    have hlength : name.length < 127 := hcall.2
    have huuid := hcall.1.2
    rw [PostgresUsersRepo.createUser, PostgresUsersRepo.save, if_neg (not_not_intro hlength)]
    by_cases hname : name ∈ s.created
    · rw [if_pos (.inr ((h.names name).2 hname))]
      refine ⟨.inl ⟨hname, rfl⟩, fun other => ?_, h.distinct⟩
      rw [h.names, UserCall.creates, List.mem_cons]
      constructor
      · exact .inr
      · rintro (rfl | hother)
        · exact hname
        · exact hother
    · have hnew : ¬ (uuid ∈ s.inDatabase.rows.map UserModel.id ∨
          name ∈ s.inDatabase.rows.map UserModel.name) := by
        rw [h.names]
        exact not_or.2 ⟨huuid, hname⟩
      rw [if_neg hnew]
      exact ⟨.inr ⟨hname, _, rfl, rfl⟩, h.create hname huuid⟩
  | findByName name =>
    refine ⟨?_, h⟩
    show AnswersTo _ _ (s.inDatabase.findByName name)
    have hname : (name ∈ s.created) ↔ ∃ user ∈ s.inDatabase.rows, user.name = name := by
      rw [← h.names, List.mem_map]
    rw [PostgresUsersRepo.findByName]
    cases hfind : s.inDatabase.rows.find? fun user => user.name = name with
    | some user =>
      have huser : user.name = name := by simpa using List.find?_some hfind
      exact .inl ⟨hname.2 ⟨user, List.mem_of_find?_eq_some hfind, huser⟩, user, rfl, huser⟩
    | none =>
      rw [List.find?_eq_none] at hfind
      refine .inr ⟨?_, rfl⟩
      show name ∉ s.created
      rw [hname]
      rintro ⟨user, huser, hn⟩
      exact hfind user huser (decide_eq_true hn)

theorem inv_next {s s' : UserRepos} {call : UserCall} (h : Inv s) (hcall : Permitted s call)
    (hst : machine.next s call = some s') : Inv s' := by
  cases hst
  exact ⟨(inMemory_next h.inMemory call).2, (inDatabase_next h.inDatabase hcall).2⟩

/-! ### Runs -/

/-- **Every call of a run is answered as expected.** -/
theorem expected (calls : List UserCall) (h : machine.Meets Permitted {} calls) :
    machine.Meets (Expected [defaultUser.name]) {} calls := by
  refine h.imp (J := Inv) (fun s call s' hs hcall hst => inv_next hs hcall hst)
    (fun s call hs hcall => ?_) inv_init
  obtain ⟨hmemory, hmemory'⟩ := inMemory_next hs.inMemory call
  obtain ⟨hdatabase, hdatabase'⟩ := inDatabase_next hs.inDatabase hcall
  exact ⟨hmemory, hdatabase, hmemory'.distinct, hdatabase'.distinct⟩

/-- A user is created, not created again, and found; another one is not found. -/
theorem expected_alice : machine.Meets (Expected [defaultUser.name]) {}
    [.createUser "Alice" "u1", .createUser "Alice" "u2", .findByName "Alice",
      .findByName "Bobby"] :=
  expected _ (by decide)

/-- The default user is in memory, though no call has created it, and not in the database. -/
theorem defaultUser_found : ¬ ∀ calls, machine.Meets Valid {} calls →
    machine.Meets (Expected []) {} calls := by
  intro h
  have hexpected := (h [.findByName "DefaultUser"] (by decide)).1.inMemory
  have hanswer := (inMemory_next inv_init.inMemory (.findByName "DefaultUser")).1
  rcases hexpected with ⟨hcreated, -⟩ | ⟨-, hmissing⟩
  · exact absurd hcreated (by decide)
  · rcases hanswer with ⟨-, user, hfound, -⟩ | ⟨hpresent, -⟩
    · cases hmissing.symm.trans hfound
    · exact hpresent (.inl (by decide))

end UserRepos

end PolymeshRest
