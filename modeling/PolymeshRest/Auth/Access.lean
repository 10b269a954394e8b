import PolymeshRest.Auth.Guard
import PolymeshRest.Data.Lists
import PolymeshRest.Data.Tally
import PolymeshRest.Datastore.Users
import PolymeshRest.Machine.Basic
import Mathlib.Data.List.Induction

/-!
# Who is let in

The requests that one instance serves at the same time: each is decided by the guard when its turn
comes, and the handlers of `AuthController` and `UsersController` work on the users and the keys in
memory.  Creating a key waits for random bytes, and other requests are served meanwhile.

## Main definitions

* `Access.machine` : the requests under way, step by step.
* `Access.LetIn` : why a request is let in and as whom: the configuration, or a key that a request
  has created which was itself let in.

## Main results

* `Access.letIn_of_reaches` : every request that was let in was let in for such a reason.
* `Access.decided_of_reaches` : a key is accepted exactly if the last request that has created or
  deleted it has created it, or it is configured and none has.
-/

namespace PolymeshRest

open Js

/-- What a request asks for.  The bodies of the first three are checked to be strings. -/
inductive Route where
  | createApiKey (userName : String)
  | deleteApiKey (apiKey : String)
  | createUser (name : String)
  /-- Another endpoint. -/
  | other
  deriving DecidableEq, Repr

structure Request where
  /-- The header `x-api-key`, if it is there and not empty. -/
  apiKey : Option String
  route : Route
  deriving DecidableEq, Repr

namespace Access

/-! ### The requests under way -/

/-- The key that a call of the repository changes. -/
def keyOf : ApiKeyAct → String
  | .createApiKey _ buf => toBase64 buf
  | .deleteApiKey apiKey => apiKey

/-- How far the handler of a request is. -/
inductive Phase where
  | pending
  /-- `AuthService.createApiKey` has found the user and waits for the random bytes. -/
  | generating (owner : UserModel)
  | created (owner : UserModel) (key : ApiKeyModel)
  | finished
  | failed (failure : Failure)
  deriving DecidableEq, Repr

/-- A request under way. -/
structure Call where
  request : Request
  /-- What the guard has decided. -/
  decision : Option (Except Refusal (Value UserModel)) := none
  phase : Phase := .pending

/-- The environment of the instance; it starts only if the strategies can be read. -/
structure Config where
  passport : Passport
  /-- `AUTH_STRATEGY` -/
  authStrategy : String
  /-- `API_KEYS` -/
  apiKeys : String
  strategies : List AuthStrategy
  parsed : parseAuthStrategyConfig authStrategy = .ok strategies

/-- The guard in front of every request. -/
def Config.guard (config : Config) : Guard := guardOf config.passport config.strategies

structure State where
  users : LocalUserRepo := {}
  apiKeys : LocalApiKeysRepo
  calls : List Call := []
  /-- What has been done to the keys, in this order. -/
  acts : List ApiKeyAct := []

namespace State

/-- The call `i` is now `call`. -/
def withCall (s : State) (i : ℕ) (call : Call) : State := { s with calls := s.calls.set i call }

/-- A change of the keys. -/
def act (s : State) (a : ApiKeyAct) : State :=
  { s with apiKeys := s.apiKeys.next a, acts := s.acts ++ [a] }

/-- The handler of a request that was let in, up to where it first waits for something else than the
repositories. -/
def handle (s : State) (i : ℕ) (call : Call) : State :=
  match call.request.route with
  | .createApiKey userName =>
    match s.users.findByName userName with
    | .resolved (some owner) => s.withCall i { call with phase := .generating owner }
    | .rejected e => s.withCall i { call with phase := .failed e }
    -- `findByName` does not end in another way
    | _ => s.withCall i { call with phase := .failed (.typeError "user is undefined") }
  | .deleteApiKey apiKey =>
    (s.act (.deleteApiKey apiKey)).withCall i { call with phase := .finished }
  | .createUser name =>
    match s.users.createUser name with
    | (.rejected e, _) => s.withCall i { call with phase := .failed e }
    | (_, users) => { s with users := users }.withCall i { call with phase := .finished }
  | .other => s.withCall i { call with phase := .finished }

end State

inductive Act where
  | arrive (request : Request)
  /-- The guard decides about the request `i`. -/
  | guard (i : ℕ)
  /-- The handler of the request `i` runs. -/
  | handle (i : ℕ)
  /-- `generateBase64Secret` gives the request `i` the bytes `buf`. -/
  | generated (i : ℕ) (buf : List UInt8)
  deriving DecidableEq, Repr

def next (config : Config) (s : State) : Act → Option State
  | .arrive request => some { s with calls := s.calls ++ [{ request }] }
  | .guard i =>
    match s.calls[i]? with
    | some { request, decision := none, phase } => some <| s.withCall i
        { request, decision := some (config.guard s.apiKeys request.apiKey), phase }
    | _ => none
  | .handle i =>
    match s.calls[i]? with
    | some { request, decision := some (.ok user), phase := .pending } =>
      some (s.handle i { request, decision := some (.ok user), phase := .pending })
    | _ => none
  | .generated i buf =>
    match s.calls[i]? with
    | some { request, decision, phase := .generating owner } =>
      some <| (s.act (.createApiKey owner buf)).withCall i
        { request, decision, phase := .created owner (s.apiKeys.createApiKey owner buf).2 }
    | _ => none

def machine (config : Config) : Machine State Act where
  next := next config

/-- The instance has started. -/
def init (config : Config) : State where
  apiKeys := .new config.apiKeys

/-! ### What one step does -/

variable {config : Config} {s s' : State} {a : Act}

/-- What a step does to a request and, with it, to the stores. -/
inductive StepCase (config : Config) (s : State) : State → Prop where
  | arrive (request : Request) : StepCase config s { s with calls := s.calls ++ [{ request }] }
  | guard (i : ℕ) (call : Call) (hcall : s.calls[i]? = some call) (hnone : call.decision = none) :
    StepCase config s (s.withCall i
      { call with decision := some (config.guard s.apiKeys call.request.apiKey) })
  /-- A handler ends without a change of the users and the keys. -/
  | quiet (i : ℕ) (call : Call) (phase : Phase) (user : Value UserModel)
    (hcall : s.calls[i]? = some call) (huser : call.decision = some (.ok user))
    (hpending : call.phase = .pending) (hphase : phase = .finished ∨ ∃ e, phase = .failed e)
    (hroute : phase = .finished → ∀ apiKey, call.request.route ≠ .deleteApiKey apiKey) :
    StepCase config s (s.withCall i { call with phase })
  | found (i : ℕ) (call : Call) (user : Value UserModel) (owner : UserModel)
    (hcall : s.calls[i]? = some call) (huser : call.decision = some (.ok user))
    (hpending : call.phase = .pending) (hroute : call.request.route = .createApiKey owner.name)
    (howner : owner ∈ s.users.users.values) :
    StepCase config s (s.withCall i { call with phase := .generating owner })
  | deleted (i : ℕ) (call : Call) (user : Value UserModel) (apiKey : String)
    (hcall : s.calls[i]? = some call) (huser : call.decision = some (.ok user))
    (hpending : call.phase = .pending) (hroute : call.request.route = .deleteApiKey apiKey) :
    StepCase config s ((s.act (.deleteApiKey apiKey)).withCall i { call with phase := .finished })
  | newUser (i : ℕ) (call : Call) (user : Value UserModel) (name : String)
    (hcall : s.calls[i]? = some call) (huser : call.decision = some (.ok user))
    (hpending : call.phase = .pending) (hroute : call.request.route = .createUser name) :
    StepCase config s
      ({ s with users := (s.users.createUser name).2 }.withCall i { call with phase := .finished })
  | generated (i : ℕ) (call : Call) (owner : UserModel) (buf : List UInt8)
    (hcall : s.calls[i]? = some call) (hphase : call.phase = .generating owner) :
    StepCase config s ((s.act (.createApiKey owner buf)).withCall i
      { call with phase := .created owner ⟨owner.id, toBase64 buf⟩ })

theorem mem_of_findByName {repo : LocalUserRepo} {name : String} {owner : UserModel}
    (h : repo.findByName name = .resolved (some owner)) :
    owner ∈ repo.users.values ∧ owner.name = name := by
  unfold LocalUserRepo.findByName at h
  cases hfound : repo.getUserByName name with
  | none => simp [hfound] at h
  | some user =>
    simp only [hfound, Answer.resolved.injEq, Option.some.injEq] at h
    subst h
    exact ⟨List.mem_of_find?_eq_some hfound, by simpa using List.find?_some hfound⟩

theorem handle_cases {i : ℕ} {call : Call} {user : Value UserModel}
    (hcall : s.calls[i]? = some call) (huser : call.decision = some (.ok user))
    (hpending : call.phase = .pending) : StepCase config s (s.handle i call) := by
  unfold State.handle
  cases hroute : call.request.route with
  | createApiKey userName =>
    dsimp only
    split
    · rename_i owner hfound
      obtain ⟨hmem, rfl⟩ := mem_of_findByName hfound
      exact .found i call user owner hcall huser hpending hroute hmem
    · exact .quiet i call _ user hcall huser hpending (.inr ⟨_, rfl⟩) (by simp)
    · exact .quiet i call _ user hcall huser hpending (.inr ⟨_, rfl⟩) (by simp)
  | deleteApiKey apiKey => exact .deleted i call user apiKey hcall huser hpending hroute
  | createUser name =>
    dsimp only
    split
    · exact .quiet i call _ user hcall huser hpending (.inr ⟨_, rfl⟩) (by simp)
    · rename_i users _ hcreated
      have hcase : StepCase config s _ := .newUser i call user name hcall huser hpending hroute
      rwa [hcreated] at hcase
  | other => exact .quiet i call _ user hcall huser hpending (.inl rfl) (by simp [hroute])

theorem next_cases (hst : next config s a = some s') : StepCase config s s' := by
  cases a with
  | arrive request =>
    cases hst
    exact .arrive request
  | guard i =>
    unfold next at hst
    dsimp only at hst
    split at hst
    · rename_i hcall
      cases hst
      exact .guard i _ hcall rfl
    · cases hst
  | handle i =>
    unfold next at hst
    dsimp only at hst
    split at hst
    · rename_i hcall
      cases hst
      exact handle_cases hcall rfl rfl
    · cases hst
  | generated i buf =>
    unfold next at hst
    dsimp only at hst
    split at hst
    · rename_i hcall
      cases hst
      exact .generated i _ _ buf hcall rfl
    · cases hst

/-! ### Reasons to be let in -/

/-- Why a request with this header is let in, and as which user. -/
inductive LetIn (config : Config) (s : State) : Option String → Value UserModel → Prop where
  /-- Everybody is, and no key is looked at. -/
  | anyone {header : Option String} (hopen : .open ∈ config.strategies)
    (hkey : header = none ∨ .apiKey ∉ config.strategies) :
    LetIn config s header (.object defaultUser)
  | configured {key : String} (hkey : key ∈ parseApiKeysConfig config.apiKeys) :
    LetIn config s (some key) (.object defaultUser)
  /-- The object that holds the keys inherits the name. -/
  | inherited {key : String} {user : Value UserModel}
    (hkey : key ∈ inheritedNames config.apiKeys) : LetIn config s (some key) user
  /-- The key was created by a request that was itself let in. -/
  | created {call : Call} {user : Value UserModel} {owner : UserModel} {key : ApiKeyModel}
    (hcall : call ∈ s.calls) (huser : call.decision = some (.ok user))
    (hphase : call.phase = .created owner key) (hletIn : LetIn config s call.request.apiKey user) :
    LetIn config s (some key.secret) (.object owner)

/-- The requests that have created a key stay. -/
def Keeps (s s' : State) : Prop :=
  ∀ call ∈ s.calls, ∀ owner key, call.phase = .created owner key → call ∈ s'.calls

theorem LetIn.mono (hkeeps : Keeps s s') {header : Option String} {user : Value UserModel}
    (h : LetIn config s header user) : LetIn config s' header user := by
  induction h with
  | anyone hopen hkey => exact .anyone hopen hkey
  | configured hkey => exact .configured hkey
  | inherited hkey => exact .inherited hkey
  | created hcall huser hphase _ ih => exact .created (hkeeps _ hcall _ _ hphase) huser hphase ih

/-- What has become of a request is accounted for. -/
structure Accounted (config : Config) (s : State) (call : Call) : Prop where
  letIn : ∀ user, call.decision = some (.ok user) → LetIn config s call.request.apiKey user
  /-- No handler runs before the guard has let the request in. -/
  decided : call.phase ≠ .pending → ∃ user, call.decision = some (.ok user)
  /-- A key is created for the user that the request names. -/
  generating : ∀ owner, call.phase = .generating owner →
    call.request.route = .createApiKey owner.name ∧ owner ∈ s.users.users.values
  created : ∀ owner key, call.phase = .created owner key →
    call.request.route = .createApiKey owner.name ∧ owner ∈ s.users.users.values ∧
      key.userId = owner.id

/-- What holds between the requests and the stores. -/
structure Inv (config : Config) (s : State) : Prop where
  calls : ∀ call ∈ s.calls, Accounted config s call
  represents : LocalApiKeysRepo.Represents config.apiKeys s.apiKeys (.run config.apiKeys s.acts)
  users : ∃ created, UserRepos.InMemory s.users created
  keys : ∀ key owner, ApiKeys.run config.apiKeys s.acts key = some owner →
    LetIn config s (some key) (.object owner)

theorem Accounted.mono (hkeeps : Keeps s s')
    (husers : ∀ user ∈ s.users.users.values, user ∈ s'.users.users.values) {call : Call}
    (h : Accounted config s call) : Accounted config s' call where
  letIn user huser := (h.letIn user huser).mono hkeeps
  decided := h.decided
  generating owner hphase := (h.generating owner hphase).imp_right (husers owner)
  created owner key hphase :=
    (h.created owner key hphase).imp_right (And.imp_left (husers owner))

/-! ### The guard -/

theorem Config.sorted (config : Config) :
    config.strategies.Pairwise fun a b => cmpAuthStrategyOrder a b ≤ 0 := by
  have hparsed := config.parsed
  unfold parseAuthStrategyConfig at hparsed
  dsimp only at hparsed
  split_ifs at hparsed
  rw [← Except.ok.inj hparsed]
  exact sorted_sortStrategies _

theorem Config.guard_eq (config : Config) (repo : LocalApiKeysRepo) (header : Option String) :
    config.guard repo header = Decided (· ∈ config.strategies) repo header :=
  authenticate_of_sorted config.passport repo header config.sorted

theorem guard_some (hkeys : .apiKey ∈ config.strategies) (repo : LocalApiKeysRepo) (key : String) :
    config.guard repo (some key) = (repo.getUserByApiKey key).mapError .app := by
  rw [Config.guard_eq, Decided, if_pos hkeys, LocalApiKeysRepo.validate_eq]

theorem guard_key (h : Inv config s) (hkeys : .apiKey ∈ config.strategies) {key : String}
    (hkey : key ∉ inheritedNames config.apiKeys) : config.guard s.apiKeys (some key) =
      ((ApiKeys.run config.apiKeys s.acts).check key).mapError .app := by
  have hchecks := (LocalApiKeysRepo.checks_of_represents h.represents key).2 (.inr hkey)
  rw [guard_some hkeys, hchecks.1]

/-- **Whom the guard lets in, it lets in for a reason.** -/
theorem letIn_of_guard (h : Inv config s) {header : Option String} {user : Value UserModel}
    (hguard : config.guard s.apiKeys header = .ok user) : LetIn config s header user := by
  by_cases hkeys : ∃ key, header = some key ∧ .apiKey ∈ config.strategies
  · obtain ⟨key, rfl, hkeys⟩ := hkeys
    by_cases hkey : key ∈ inheritedNames config.apiKeys
    · exact .inherited hkey
    · rw [guard_key h hkeys hkey, ApiKeys.check] at hguard
      split at hguard
      · rename_i owner howner
        cases hguard
        exact h.keys key owner howner
      · cases hguard
  · have hother : header = none ∨ .apiKey ∉ config.strategies := by
      by_contra hne
      push Not at hne
      obtain ⟨key, hheader⟩ := Option.ne_none_iff_exists'.1 hne.1
      exact hkeys ⟨key, hheader, hne.2⟩
    have hopen : config.guard s.apiKeys header =
        if .open ∈ config.strategies then .ok (.object defaultUser) else .error .unauthorized := by
      rw [Config.guard_eq]
      cases header with
      | none => rfl
      | some key => exact if_neg (hother.resolve_left (by simp))
    rw [hopen] at hguard
    split_ifs at hguard with hnamed
    cases hguard
    exact .anyone hnamed hother

/-! ### Steps -/

theorem inv_init (config : Config) : Inv config (init config) where
  calls _ hcall := by cases hcall
  represents := LocalApiKeysRepo.represents_run config.apiKeys []
  users := ⟨[], UserRepos.inv_init.inMemory⟩
  keys key owner howner := by
    rw [init, ApiKeys.run, List.foldl_nil, ApiKeys.configured] at howner
    split_ifs at howner with hkey
    cases howner
    exact .configured hkey

theorem mem_users_createUser {repo : LocalUserRepo} {created : List String}
    (h : UserRepos.InMemory repo created) (name : String) {user : UserModel}
    (huser : user ∈ repo.users.values) : user ∈ (repo.createUser name).2.users.values := by
  unfold LocalUserRepo.createUser
  cases repo.getUserByName name with
  | some _ => exact huser
  | none =>
    obtain ⟨k, hk⟩ := Record.mem_values.1 huser
    have hfresh := h.fresh (repo.nextId + 1) (Nat.lt_succ_self _)
    have hne : k ≠ (repo.nextId + 1).repr := by
      rintro rfl
      rw [hfresh] at hk
      cases hk
    exact Record.mem_values.2 ⟨k, (Record.get_set_of_ne hne).trans hk⟩

/-- A step replaces one request, or adds one. -/
theorem keeps_next (h : Inv config s) (hst : next config s a = some s') : Keeps s s' := by
  intro call hcall owner key hphase
  have hset : ∀ {i : ℕ} {old : Call} (new : Call), s.calls[i]? = some old →
      (∀ owner key, old.phase ≠ .created owner key) → call ∈ s.calls.set i new := by
    intro i old new hold hne
    obtain hmem | rfl := mem_set_or_eq new hold hcall
    · exact hmem
    · exact absurd hphase (hne owner key)
  cases next_cases hst with
  | arrive request => exact List.mem_append_left _ hcall
  | guard i old hold hnone =>
    refine hset _ hold fun owner key hold' => ?_
    obtain ⟨user, huser⟩ := (h.calls old (List.mem_of_getElem? hold)).decided (by simp [hold'])
    rw [hnone] at huser
    cases huser
  | quiet i old _ _ hold _ hpending | found i old _ _ hold _ hpending
  | deleted i old _ _ hold _ hpending | newUser i old _ _ hold _ hpending =>
    exact hset _ hold fun owner key hold' => by simp [hold'] at hpending
  | generated i old _ _ hold hgenerating =>
    exact hset _ hold fun owner key hold' => by simp [hold'] at hgenerating

theorem users_next (h : Inv config s) (hst : next config s a = some s') :
    (∀ user ∈ s.users.users.values, user ∈ s'.users.users.values) ∧
      ∃ created, UserRepos.InMemory s'.users created := by
  cases next_cases hst with
  | arrive | guard | quiet | found | deleted | generated => exact ⟨fun _ h => h, h.users⟩
  | newUser i call user name =>
    obtain ⟨created, hcreated⟩ := h.users
    exact ⟨fun _ => mem_users_createUser hcreated name, _,
      (UserRepos.inMemory_next hcreated (.createUser name "")).2⟩

/-- **One step**: what has become of each request is still accounted for. -/
theorem calls_next (h : Inv config s) (hst : next config s a = some s') :
    ∀ call ∈ s'.calls, Accounted config s' call := by
  have hkeeps := keeps_next h hst
  have husers := (users_next h hst).1
  intro call hcall
  have hold : call ∈ s.calls → Accounted config s' call := fun hmem =>
    (h.calls call hmem).mono hkeeps husers
  cases next_cases hst with
  | arrive request =>
    obtain hmem | hnew := List.mem_append.1 hcall
    · exact hold hmem
    · cases List.mem_singleton.1 hnew
      exact ⟨nofun, fun hne => absurd rfl hne, nofun, nofun⟩
  | guard i old hget hnone =>
    obtain hmem | rfl := List.mem_or_eq_of_mem_set hcall
    · exact hold hmem
    · have hbefore := (h.calls old (List.mem_of_getElem? hget)).mono hkeeps husers
      refine ⟨fun user huser => ?_, fun hphase => ?_, hbefore.generating, hbefore.created⟩
      · -- the guard has decided by the keys as they are now
        exact (letIn_of_guard h (Option.some.inj huser)).mono hkeeps
      · obtain ⟨user, huser⟩ := hbefore.decided hphase
        rw [hnone] at huser
        cases huser
  | quiet i old phase user hget huser _ hphase =>
    obtain hmem | rfl := List.mem_or_eq_of_mem_set hcall
    · exact hold hmem
    · have hbefore := (h.calls old (List.mem_of_getElem? hget)).mono hkeeps husers
      refine ⟨hbefore.letIn, fun _ => ⟨user, huser⟩, ?_, ?_⟩
      · obtain rfl | ⟨e, rfl⟩ := hphase <;> simp
      · obtain rfl | ⟨e, rfl⟩ := hphase <;> simp
  | found i old user owner hget huser _ hroute howner =>
    obtain hmem | rfl := List.mem_or_eq_of_mem_set hcall
    · exact hold hmem
    · have hbefore := (h.calls old (List.mem_of_getElem? hget)).mono hkeeps husers
      refine ⟨hbefore.letIn, fun _ => ⟨user, huser⟩, ?_, nofun⟩
      rintro _ ⟨⟩
      exact ⟨hroute, howner⟩
  | deleted i old user _ hget huser | newUser i old user _ hget huser =>
    obtain hmem | rfl := List.mem_or_eq_of_mem_set hcall
    · exact hold hmem
    · have hbefore := (h.calls old (List.mem_of_getElem? hget)).mono hkeeps husers
      exact ⟨hbefore.letIn, fun _ => ⟨user, huser⟩, nofun, nofun⟩
  | generated i old owner buf hget hphase =>
    obtain hmem | rfl := List.mem_or_eq_of_mem_set hcall
    · exact hold hmem
    · have hbefore := (h.calls old (List.mem_of_getElem? hget)).mono hkeeps husers
      refine ⟨hbefore.letIn, fun _ => hbefore.decided (by simp [hphase]), nofun, ?_⟩
      rintro _ _ ⟨⟩
      obtain ⟨hroute, howner⟩ := hbefore.generating owner hphase
      exact ⟨hroute, howner, rfl⟩

theorem run_append (apiKeys : String) (acts : List ApiKeyAct) (act : ApiKeyAct) :
    ApiKeys.run apiKeys (acts ++ [act]) = (ApiKeys.run apiKeys acts).next act := by
  rw [ApiKeys.run, List.foldl_append]
  rfl

theorem represents_next (h : Inv config s) (hst : next config s a = some s') :
    LocalApiKeysRepo.Represents config.apiKeys s'.apiKeys (.run config.apiKeys s'.acts) := by
  have hact : ∀ act, LocalApiKeysRepo.Represents config.apiKeys (s.apiKeys.next act)
      (.run config.apiKeys (s.acts ++ [act])) := by
    intro act
    rw [run_append]
    exact LocalApiKeysRepo.represents_next h.represents act
  cases next_cases hst with
  | arrive | guard | quiet | found | newUser => exact h.represents
  | deleted i call user apiKey => exact hact (.deleteApiKey apiKey)
  | generated i call owner buf => exact hact (.createApiKey owner buf)

/-- **One step**: every key stands for a reason to let its bearer in. -/
theorem keys_next (h : Inv config s) (hst : next config s a = some s') {key : String}
    {owner : UserModel} (hkey : ApiKeys.run config.apiKeys s'.acts key = some owner) :
    LetIn config s' (some key) (.object owner) := by
  have hkept : ApiKeys.run config.apiKeys s.acts key = some owner →
      LetIn config s' (some key) (.object owner) :=
    fun hold => (h.keys key owner hold).mono (keeps_next h hst)
  have hcalls := calls_next h hst
  cases next_cases hst with
  | arrive | guard | quiet | found | newUser => exact hkept hkey
  | deleted i call user apiKey =>
    change ApiKeys.run config.apiKeys (s.acts ++ [_]) key = some owner at hkey
    rw [run_append, ApiKeys.next, Function.update_apply] at hkey
    split_ifs at hkey
    exact hkept hkey
  | generated i call creator buf hget hphase =>
    change ApiKeys.run config.apiKeys (s.acts ++ [_]) key = some owner at hkey
    rw [run_append, ApiKeys.next, Function.update_apply] at hkey
    split_ifs at hkey with hsecret
    · -- the key that the request has just created
      cases hkey
      subst hsecret
      have hnew := mem_set_self
        { call with phase := .created owner ⟨owner.id, toBase64 buf⟩ } hget
      have haccounted := hcalls _ hnew
      obtain ⟨user, huser⟩ := haccounted.decided (by simp)
      exact .created hnew huser rfl (haccounted.letIn user huser)
    · exact hkept hkey

theorem inv_next (h : Inv config s) (hst : next config s a = some s') : Inv config s' where
  calls := calls_next h hst
  represents := represents_next h hst
  users := (users_next h hst).2
  keys _ _ := keys_next h hst

theorem inv_of_reaches (h : (machine config).Reaches Machine.Unrestricted (init config) s) :
    Inv config s :=
  h.invariant (inv_init config) fun _ _ _ hs _ hst => inv_next hs hst

/-! ### Runs -/

/-- **Every request that was let in was let in for a reason**: through "open", by a key of the
configuration, by a name that the object of the keys inherits, or by a key that was created for a
stored user, whom the request named that created it, and this request had been let in itself. -/
theorem letIn_of_reaches (h : (machine config).Reaches Machine.Unrestricted (init config) s) :
    ∀ call ∈ s.calls, Accounted config s call :=
  (inv_of_reaches h).calls

/-- An instance with one key, where everything is decided by keys. -/
def oneKey : Config where
  passport := .inSeries
  authStrategy := "apiKey"
  apiKeys := "abc"
  strategies := [.apiKey]
  parsed := by decide

/-- The bearer of `abc` creates a key for the default user. -/
def creating : List Act :=
  [.arrive ⟨some "abc", .createApiKey "DefaultUser"⟩, .guard 0, .handle 0]

/-- The user was found. -/
def generating : State where
  apiKeys := .new "abc"
  calls := [⟨⟨some "abc", .createApiKey "DefaultUser"⟩, some (.ok (.object defaultUser)),
    .generating defaultUser⟩]

theorem run_creating : (machine oneKey).run (init oneKey) creating = some generating := by
  have hvalues : (init oneKey).users.users.values = [defaultUser] :=
    List.perm_singleton.1 Record.values_perm
  have hfound : (init oneKey).users.findByName "DefaultUser" = .resolved (some defaultUser) := by
    rw [LocalUserRepo.findByName, LocalUserRepo.getUserByName, hvalues]
    rfl
  have hhandled : ∀ call : Call, call.request.route = .createApiKey "DefaultUser" →
      ∀ s : State, s.users = (init oneKey).users →
        s.handle 0 call = s.withCall 0 { call with phase := .generating defaultUser } := by
    intro call hroute s husers
    rw [State.handle, hroute]
    dsimp only
    rw [husers, hfound]
  refine (congrArg some (hhandled _ ?_ _ ?_) :)
  · rfl
  · rfl

/-- With the key, `abc` is deleted, and then presented again. -/
def revoking : List Act :=
  [.generated 0 [77, 97, 110], .arrive ⟨some "TWFu", .deleteApiKey "abc"⟩, .guard 1, .handle 1,
    .arrive ⟨some "abc", .other⟩, .guard 2]

theorem reaches_revoking (p : State → Bool)
    (hp : ((machine oneKey).run generating revoking).any p = true) :
    ∃ s, (machine oneKey).Reaches Machine.Unrestricted (init oneKey) s ∧ p s = true := by
  obtain ⟨s, hreaches, hs⟩ := Machine.exists_reaches_of_run (C := Machine.Unrestricted) generating
    revoking p hp (Machine.meets_unrestricted _ _)
  have hfirst : (machine oneKey).Reaches Machine.Unrestricted (init oneKey) generating :=
    ⟨creating, run_creating, Machine.meets_unrestricted _ _⟩
  exact ⟨s, hfirst.trans hreaches, hs⟩

theorem letIn_revoking : ∃ (s : State) (call : Call), call ∈ s.calls ∧
    call.request = ⟨some "TWFu", .deleteApiKey "abc"⟩ ∧ call.phase = .finished ∧
      Accounted oneKey s call := by
  obtain ⟨s, hreaches, hs⟩ := reaches_revoking (fun s => (s.calls[1]?).any fun call =>
    call.request = ⟨some "TWFu", .deleteApiKey "abc"⟩ ∧ call.phase = .finished) (by decide)
  obtain ⟨call, hcall, hrequest⟩ := (Option.any_eq_true ..).1 hs
  obtain ⟨hrequest, hphase⟩ := of_decide_eq_true hrequest
  have hmem := List.mem_of_getElem? hcall
  exact ⟨s, call, hmem, hrequest, hphase, letIn_of_reaches hreaches call hmem⟩

/-- The last change of a key was its creation, for `owner`. -/
def LastCreated (acts : List ApiKeyAct) (key : String) (owner : UserModel) : Prop :=
  ∃ before buf after, acts = before ++ .createApiKey owner buf :: after ∧ toBase64 buf = key ∧
    ∀ act ∈ after, keyOf act ≠ key

/-- A key stands for `owner` by what was done to it, or because it is configured and nothing was. -/
def StandsFor (config : Config) (acts : List ApiKeyAct) (key : String) (owner : UserModel) : Prop :=
  LastCreated acts key owner ∨
    key ∈ parseApiKeysConfig config.apiKeys ∧ owner = defaultUser ∧ ∀ act ∈ acts, keyOf act ≠ key

theorem lastCreated_append {acts : List ApiKeyAct} {act : ApiKeyAct} {key : String}
    {owner : UserModel} : LastCreated (acts ++ [act]) key owner ↔
      (∃ buf, act = .createApiKey owner buf ∧ toBase64 buf = key) ∨
        LastCreated acts key owner ∧ keyOf act ≠ key := by
  constructor
  · rintro ⟨before, buf, after, heq, hbuf, hafter⟩
    obtain rfl | ⟨rest, last, rfl⟩ := List.eq_nil_or_concat' after
    · obtain ⟨rfl, hact⟩ := List.append_inj' heq rfl
      exact .inl ⟨buf, List.cons.inj hact |>.1, hbuf⟩
    · rw [← List.cons_append, ← List.append_assoc] at heq
      obtain ⟨rfl, hact⟩ := List.append_inj' heq rfl
      obtain rfl := (List.cons.inj hact).1
      exact .inr ⟨⟨before, buf, rest, rfl, hbuf, fun a ha => hafter a (by simp [ha])⟩,
        hafter act (by simp)⟩
  · rintro (⟨buf, rfl, hbuf⟩ | ⟨⟨before, buf, after, rfl, hbuf, hafter⟩, hact⟩)
    · exact ⟨acts, buf, [], rfl, hbuf, nofun⟩
    · refine ⟨before, buf, after ++ [act], by simp, hbuf, fun a ha => ?_⟩
      obtain ha | ha := List.mem_append.1 ha
      · exact hafter a ha
      · rwa [List.mem_singleton.1 ha]

/-- **What a key stands for is decided by its last change.** -/
theorem run_eq_some_iff (config : Config) (acts : List ApiKeyAct) (key : String)
    (owner : UserModel) :
    ApiKeys.run config.apiKeys acts key = some owner ↔ StandsFor config acts key owner := by
  induction acts using List.reverseRecOn with
  | nil =>
    have hnone : ¬ LastCreated [] key owner := by
      rintro ⟨before, buf, after, heq, -⟩
      simp at heq
    rw [ApiKeys.run, List.foldl_nil, ApiKeys.configured, StandsFor, or_iff_right hnone]
    constructor
    · intro h
      split_ifs at h with hkey
      exact ⟨hkey, (Option.some.inj h).symm, nofun⟩
    · rintro ⟨hkey, rfl, -⟩
      exact if_pos hkey
  | append_singleton acts act ih =>
    rw [run_append, StandsFor, lastCreated_append]
    by_cases hkey : keyOf act = key
    · -- the change decides, and nothing before it matters
      subst hkey
      cases act with
      | createApiKey user buf => simp [ApiKeys.next, keyOf, eq_comm]
      | deleteApiKey apiKey => simp [ApiKeys.next, keyOf]
    · have hkept : (ApiKeys.run config.apiKeys acts).next act key =
          ApiKeys.run config.apiKeys acts key := by
        cases act <;> exact Function.update_of_ne (Ne.symm hkey) _ _
      have hother : ∀ buf, act = .createApiKey owner buf → toBase64 buf ≠ key := by
        rintro buf rfl
        exact hkey
      rw [hkept, ih, StandsFor]
      simp only [List.mem_append, List.mem_singleton]
      constructor
      · rintro (hcreated | ⟨hconfigured, howner, hacts⟩)
        · exact .inl (.inr ⟨hcreated, hkey⟩)
        · refine .inr ⟨hconfigured, howner, ?_⟩
          rintro a (ha | rfl)
          · exact hacts a ha
          · exact hkey
      · rintro ((⟨buf, hact, hbuf⟩ | ⟨hcreated, -⟩) | ⟨hconfigured, howner, hacts⟩)
        · exact absurd hbuf (hother buf hact)
        · exact .inl hcreated
        · exact .inr ⟨hconfigured, howner, fun a ha => hacts a (.inl ha)⟩

/-- What the handler of a request has done to the keys: one was created, or deleted. -/
def Call.change (call : Call) : Option (String × Option UserModel) :=
  match call.phase, call.request.route with
  | .created owner key, _ => some (key.secret, some owner)
  | .finished, .deleteApiKey apiKey => some (apiKey, none)
  | _, _ => none

/-- What a call of the repository does to the keys. -/
def changeOf : ApiKeyAct → String × Option UserModel
  | .createApiKey user buf => (toBase64 buf, some user)
  | .deleteApiKey apiKey => (apiKey, none)

theorem change_eq_none {call : Call} (hphase : call.phase = .pending ∨
    ∃ owner, call.phase = .generating owner) : call.change = none := by
  obtain hphase | ⟨owner, hphase⟩ := hphase <;> rw [Call.change, hphase]

/-- The change that a request makes is added to those of the others. -/
theorem tally_change {i : ℕ} {old new : Call} {act : ApiKeyAct} (hget : s.calls[i]? = some old)
    (hold : old.change = none) (hnew : new.change = some (changeOf act))
    (h : tally Call.change s.calls = ↑(s.acts.map changeOf)) :
    tally Call.change (s.calls.set i new) = ↑((s.acts ++ [act]).map changeOf) := by
  have hset := tally_set (f := Call.change) hget new
  rw [hold, hnew] at hset
  simpa [h, ← Multiset.coe_add] using hset

/-- **One step**: the keys are changed by the requests that do so, once by each. -/
theorem changes_next (hst : next config s a = some s')
    (h : tally Call.change s.calls = ↑(s.acts.map changeOf)) :
    tally Call.change s'.calls = ↑(s'.acts.map changeOf) := by
  cases next_cases hst with
  | arrive request => simpa [Call.change] using h
  | guard i call hget hnone =>
    refine (tally_set_of_eq hget ?_).trans h
    rfl
  | quiet i call phase user hget huser hpending hphase hroute =>
    refine (tally_set_of_eq hget ?_).trans h
    rw [change_eq_none (.inl hpending)]
    obtain rfl | ⟨e, rfl⟩ := hphase
    · have hno := hroute rfl
      unfold Call.change
      split
      · rename_i hphase
        cases hphase
      · rename_i apiKey _ hdelete
        exact absurd hdelete (hno apiKey)
      · rfl
    · rfl
  | found i call user owner hget huser hpending hroute =>
    refine (tally_set_of_eq hget ?_).trans h
    rw [change_eq_none (.inl hpending), change_eq_none (.inr ⟨owner, rfl⟩)]
  | deleted i call user apiKey hget huser hpending hroute =>
    refine tally_change hget (change_eq_none (.inl hpending)) ?_ h
    simp [Call.change, hroute, changeOf]
  | newUser i call user name hget huser hpending hroute =>
    refine (tally_set_of_eq hget ?_).trans h
    rw [change_eq_none (.inl hpending)]
    simp [Call.change, hroute]
  | generated i call owner buf hget hphase =>
    exact tally_change hget (change_eq_none (.inr ⟨owner, hphase⟩)) rfl h

/-- **Which keys are accepted**: in every state that is reached, a key that is no name that the
object inherits is accepted, as the user it stands for, exactly if its last change was its creation
or it is configured and was not changed; every other one is refused in the same words.  The changes
are those made by the requests, one by each that creates or deletes a key. -/
theorem decided_of_reaches (h : (machine config).Reaches Machine.Unrestricted (init config) s)
    (hkeys : .apiKey ∈ config.strategies) {key : String}
    (hkey : key ∉ inheritedNames config.apiKeys) :
    (∀ user, config.guard s.apiKeys (some key) = .ok user ↔
        ∃ owner, user = .object owner ∧ StandsFor config s.acts key owner) ∧
      ((¬ ∃ owner, StandsFor config s.acts key owner) →
        config.guard s.apiKeys (some key) = .error (.app (.notFound "*REDACTED*" "ApiKey"))) ∧
      tally Call.change s.calls = ↑(s.acts.map changeOf) := by
  have hinv := inv_of_reaches h
  have hguard := guard_key hinv hkeys hkey
  have hstands := run_eq_some_iff config s.acts key
  refine ⟨fun user => ?_, fun hnone => ?_, ?_⟩
  · simp only [← hstands, hguard, ApiKeys.check]
    cases ApiKeys.run config.apiKeys s.acts key with
    | none => simp [Except.mapError]
    | some owner => simp [Except.mapError, eq_comm]
  · have hrun : ApiKeys.run config.apiKeys s.acts key = none := by
      rw [Option.eq_none_iff_forall_ne_some]
      exact fun owner howner => hnone ⟨owner, (hstands owner).1 howner⟩
    rw [hguard, ApiKeys.check, hrun]
    rfl
  · exact h.invariant (I := fun s => tally Call.change s.calls = ↑(s.acts.map changeOf)) rfl
      fun _ _ _ hs _ hst => changes_next hst hs

theorem decided_revoking : ∃ s : State, s.acts = [.createApiKey defaultUser [77, 97, 110],
      .deleteApiKey "abc"] ∧
    oneKey.guard s.apiKeys (some "TWFu") = .ok (.object defaultUser) ∧
    oneKey.guard s.apiKeys (some "abc") = .error (.app (.notFound "*REDACTED*" "ApiKey")) := by
  obtain ⟨s, hreaches, hs⟩ := reaches_revoking (fun s => s.acts =
    [.createApiKey defaultUser [77, 97, 110], .deleteApiKey "abc"]) (by decide)
  have hacts := of_decide_eq_true hs
  refine ⟨s, hacts, ?_, ?_⟩
  · refine ((decided_of_reaches hreaches (by decide) (by decide)).1 _).2 ⟨defaultUser, rfl, .inl ?_⟩
    exact ⟨[], [77, 97, 110], [.deleteApiKey "abc"], hacts, by decide, by decide⟩
  · refine (decided_of_reaches hreaches (by decide) (by decide)).2.1 ?_
    rw [hacts]
    rintro ⟨owner, hlast | ⟨-, -, hnone⟩⟩
    · change LastCreated ([_] ++ [.deleteApiKey "abc"]) "abc" owner at hlast
      obtain ⟨buf, hact, -⟩ | ⟨-, hne⟩ := lastCreated_append.1 hlast
      · cases hact
      · exact hne rfl
    · exact hnone (.deleteApiKey "abc") (by simp) rfl

end Access

end PolymeshRest
