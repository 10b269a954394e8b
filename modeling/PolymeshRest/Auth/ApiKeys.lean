import PolymeshRest.Common.Errors
import PolymeshRest.Js.Object
import PolymeshRest.Js.Text

/-!
# API keys

`LocalApiKeysRepo` keeps the user of each key in a plain object, under the key itself.  The keys
come from the configuration, where they can be any strings, and from `generateBase64Secret`; the
key that a request presents is any string as well.

## Main definitions

* `parseApiKeysConfig`, `LocalApiKeysRepo`, `ApiKeyStrategy.validate`
* `ApiKeys` : what the repository is for, a table from keys to users.
* `LocalApiKeysRepo.Represents` : how the object holds such a table.
* `inheritedNames` : the keys that the object knows without having been given them.

## Main results

* `LocalApiKeysRepo.represents_run` : the object holds the table after every run.
* `LocalApiKeysRepo.checks_iff` : a key is checked as the table says exactly if it is in the table
  or is no such name.
-/

namespace PolymeshRest

open Js

/-- `UserModel` -/
structure UserModel where
  id : String
  name : String
  deriving DecidableEq, Repr

/-- The fields of a user, and the `constructor` of its class. -/
instance : Members UserModel where
  member user
    | "id" => some (.string user.id)
    | "name" => some (.string user.name)
    | "constructor" => some (.function "UserModel")
    | _ => none

/-- `defaultUser` -/
def defaultUser : UserModel := ⟨"-1", "DefaultUser"⟩

/-- `ApiKeyModel` -/
structure ApiKeyModel where
  userId : String
  secret : String
  deriving DecidableEq, Repr

/-- `parseApiKeysConfig` -/
def parseApiKeysConfig (rawApiKeyConfig : String) : List String :=
  if trim rawApiKeyConfig = "" then [] else (split rawApiKeyConfig ',').map trim

/-- `LocalApiKeysRepo` -/
structure LocalApiKeysRepo where
  apiKeys : PlainObject UserModel

/-- The calls that change the keys. -/
inductive ApiKeyAct where
  /-- `generateBase64Secret` has been given the random bytes `buf`. -/
  | createApiKey (user : UserModel) (buf : List UInt8)
  | deleteApiKey (apiKey : String)
  deriving DecidableEq, Repr

namespace LocalApiKeysRepo

/-- The constructor. -/
def new (givenApiKeys : String) : LocalApiKeysRepo where
  apiKeys := (parseApiKeysConfig givenApiKeys).foldl (fun o key => o.set key defaultUser) .empty

/-- `getUserByApiKey` -/
def getUserByApiKey (repo : LocalApiKeysRepo) (apiKey : String) :
    Except AppError (Value UserModel) :=
  match repo.apiKeys.get apiKey with
  | some user => if user.truthy then .ok user else .error (.notFound "*REDACTED*" "ApiKey")
  | none => .error (.notFound "*REDACTED*" "ApiKey")

/-- `deleteApiKey` -/
def deleteApiKey (repo : LocalApiKeysRepo) (apiKey : String) : LocalApiKeysRepo where
  apiKeys := repo.apiKeys.delete apiKey

/-- `createApiKey` -/
def createApiKey (repo : LocalApiKeysRepo) (user : UserModel) (buf : List UInt8) :
    LocalApiKeysRepo × ApiKeyModel :=
  let secret := toBase64 buf
  (⟨repo.apiKeys.set secret user⟩, ⟨user.id, secret⟩)

def next (repo : LocalApiKeysRepo) : ApiKeyAct → LocalApiKeysRepo
  | .createApiKey user buf => (repo.createApiKey user buf).1
  | .deleteApiKey apiKey => repo.deleteApiKey apiKey

/-- The repository after a run. -/
def run (givenApiKeys : String) (acts : List ApiKeyAct) : LocalApiKeysRepo :=
  acts.foldl next (new givenApiKeys)

end LocalApiKeysRepo

/-- `ApiKeyStrategy.validate`; `AuthService.validateApiKey` only passes the key on. -/
def ApiKeyStrategy.validate (repo : LocalApiKeysRepo) (apiKey : String) :
    Except AppError (Value UserModel) := do
  let user ← repo.getUserByApiKey apiKey
  if user.truthy then return user else throw (.unauthorized "API key not found")

/-! ### The table of keys -/

/-- The keys that were configured or created and not deleted since, with their users. -/
abbrev ApiKeys : Type := String → Option UserModel

namespace ApiKeys

/-- The keys of the configuration. -/
def configured (givenApiKeys : String) : ApiKeys := fun key =>
  if key ∈ parseApiKeysConfig givenApiKeys then some defaultUser else none

def next (keys : ApiKeys) : ApiKeyAct → ApiKeys
  | .createApiKey user buf => Function.update keys (toBase64 buf) (some user)
  | .deleteApiKey apiKey => Function.update keys apiKey none

/-- The keys after a run. -/
def run (givenApiKeys : String) (acts : List ApiKeyAct) : ApiKeys :=
  acts.foldl next (configured givenApiKeys)

/-- What presenting a key is to give. -/
def check (keys : ApiKeys) (apiKey : String) : Except AppError (Value UserModel) :=
  match keys apiKey with
  | some user => .ok (.object user)
  | none => .error (.notFound "*REDACTED*" "ApiKey")

end ApiKeys

/-- The object that a key of the configuration has made the prototype, if there is one. -/
def configuredProto (givenApiKeys : String) : Option UserModel :=
  if "__proto__" ∈ parseApiKeysConfig givenApiKeys then some defaultUser else none

/-- The names that can be read from the object though no key was stored under them. -/
def inheritedNames (givenApiKeys : String) : List String :=
  "__proto__" :: objectMethods ++
    if "__proto__" ∈ parseApiKeysConfig givenApiKeys then ["id", "name"] else []

namespace LocalApiKeysRepo

/-- The object holds the table, but for `__proto__`, which stands for the prototype. -/
structure Represents (givenApiKeys : String) (repo : LocalApiKeysRepo) (keys : ApiKeys) : Prop where
  own : ∀ k, k ≠ "__proto__" → repo.apiKeys.own k = keys k
  proto : repo.apiKeys.proto = configuredProto givenApiKeys
  /-- `__proto__` is a key only while it is one of the configuration. -/
  keys_proto : ∀ user, keys "__proto__" = some user → configuredProto givenApiKeys = some user

theorem toBase64_ne_proto (buf : List UInt8) : toBase64 buf ≠ "__proto__" := by
  intro h
  have hchars : base64Chars buf = "__proto__".toList := by
    rw [← h, toBase64, String.toList_ofList]
  have hlength := length_base64Chars buf
  rw [hchars] at hlength
  have hnine : "__proto__".toList.length = 9 := by decide
  omega

theorem foldl_set (names : List String) (o : PlainObject UserModel) :
    (∀ k, k ≠ "__proto__" → (names.foldl (fun o key => o.set key defaultUser) o).own k =
      if k ∈ names then some defaultUser else o.own k) ∧
    (names.foldl (fun o key => o.set key defaultUser) o).proto =
      if "__proto__" ∈ names then some defaultUser else o.proto := by
  induction names generalizing o with
  | nil => simp
  | cons name names ih =>
    obtain ⟨hown, hproto⟩ := ih (o.set name defaultUser)
    simp only [List.foldl_cons]
    by_cases hname : name = "__proto__"
    · subst hname
      refine ⟨fun k hk => ?_, ?_⟩
      · rw [hown k hk]
        simp [hk]
      · rw [hproto]
        simp
    · refine ⟨fun k hk => ?_, ?_⟩
      · rw [hown k hk, PlainObject.set_own hname]
        by_cases hkn : k = name
        · simp [hkn]
        · simp [hkn]
      · rw [hproto, PlainObject.set_proto hname]
        simp [Ne.symm hname]

theorem represents_new (givenApiKeys : String) :
    Represents givenApiKeys (new givenApiKeys) (.configured givenApiKeys) := by
  obtain ⟨hown, hproto⟩ := foldl_set (parseApiKeysConfig givenApiKeys) .empty
  constructor
  · intro k hk
    rw [new, hown k hk]
    rfl
  · rw [new, hproto]
    rfl
  · exact fun user huser => huser

/-- **One call.** -/
theorem represents_next {givenApiKeys : String} {repo : LocalApiKeysRepo} {keys : ApiKeys}
    (h : Represents givenApiKeys repo keys) (act : ApiKeyAct) :
    Represents givenApiKeys (repo.next act) (keys.next act) := by
  cases act with
  | createApiKey user buf =>
    have hsecret := toBase64_ne_proto buf
    refine ⟨fun k hk => ?_, ?_, fun u hu => ?_⟩
    · show (repo.apiKeys.set (toBase64 buf) user).own k =
        Function.update keys (toBase64 buf) (some user) k
      rw [PlainObject.set_own hsecret]
      by_cases hkey : k = toBase64 buf
      · rw [hkey, Function.update_self, Function.update_self]
      · rw [Function.update_of_ne hkey, Function.update_of_ne hkey, h.own k hk]
    · show (repo.apiKeys.set (toBase64 buf) user).proto = _
      rw [PlainObject.set_proto hsecret, h.proto]
    · change Function.update keys (toBase64 buf) (some user) "__proto__" = some u at hu
      rw [Function.update_of_ne hsecret.symm] at hu
      exact h.keys_proto u hu
  | deleteApiKey apiKey =>
    refine ⟨fun k hk => ?_, h.proto, fun u hu => ?_⟩
    · show (repo.apiKeys.delete apiKey).own k = Function.update keys apiKey none k
      rw [PlainObject.delete_own]
      by_cases hkey : k = apiKey
      · rw [hkey, Function.update_self, Function.update_self]
      · rw [Function.update_of_ne hkey, Function.update_of_ne hkey, h.own k hk]
    · change Function.update keys apiKey none "__proto__" = some u at hu
      by_cases hkey : "__proto__" = apiKey
      · rw [hkey, Function.update_self] at hu
        cases hu
      · rw [Function.update_of_ne hkey] at hu
        exact h.keys_proto u hu

/-- **The object holds the table after every run.** -/
theorem represents_run (givenApiKeys : String) (acts : List ApiKeyAct) :
    Represents givenApiKeys (run givenApiKeys acts) (.run givenApiKeys acts) := by
  have hfoldl : ∀ (repo : LocalApiKeysRepo) (keys : ApiKeys), Represents givenApiKeys repo keys →
      Represents givenApiKeys (acts.foldl next repo) (acts.foldl ApiKeys.next keys) := by
    induction acts with
    | nil => exact fun _ _ h => h
    | cons act acts ih => exact fun repo keys h => ih _ _ (represents_next h act)
  exact hfoldl _ _ (represents_new givenApiKeys)

/-! ### Checking a key -/

/-- What can be read from the default user before `Object.prototype` is reached. -/
theorem member_defaultUser (k : String) :
    k ∈ ["id", "name", "constructor"] ∧
        (∃ v, Members.member defaultUser k = some v ∧ v.truthy = true) ∨
      k ∉ ["id", "name", "constructor"] ∧ Members.member defaultUser k = none := by
  by_cases hid : k = "id"
  · subst hid
    exact .inl ⟨by decide, _, rfl, by decide⟩
  by_cases hname : k = "name"
  · subst hname
    exact .inl ⟨by decide, _, rfl, by decide⟩
  by_cases hclass : k = "constructor"
  · subst hclass
    exact .inl ⟨by decide, _, rfl, rfl⟩
  · exact .inr ⟨by simp [hid, hname, hclass], by simp [Members.member]⟩

/-- What the object inherits: the methods of `Object.prototype` and, where the configuration has
made the default user its prototype, what that has. -/
theorem inherited_cases {givenApiKeys : String} {o : PlainObject UserModel}
    (hproto : o.proto = configuredProto givenApiKeys) {k : String} (hk : k ≠ "__proto__") :
    k ∈ inheritedNames givenApiKeys ∧ (∃ v, o.inherited k = some v ∧ v.truthy = true) ∨
      k ∉ inheritedNames givenApiKeys ∧ o.inherited k = none := by
  have hconstructor : "constructor" ∈ objectMethods := by decide
  unfold PlainObject.inherited inheritedNames
  rw [hproto, configuredProto]
  by_cases hconfigured : "__proto__" ∈ parseApiKeysConfig givenApiKeys
  · simp only [hconfigured, if_true, Option.bind_some]
    rcases member_defaultUser k with ⟨hmember, v, hv, htruthy⟩ | ⟨hmember, hv⟩
    · refine .inl ⟨?_, v, by rw [hv]; rfl, htruthy⟩
      simp only [List.mem_cons, List.not_mem_nil, or_false] at hmember
      rcases hmember with rfl | rfl | rfl <;> simp [hconstructor]
    · rw [hv]
      by_cases hmethod : k ∈ objectMethods
      · simp [hmethod, Value.truthy]
      · simp only [List.mem_cons, List.not_mem_nil, or_false, not_or] at hmember
        simp [hmethod, hk, hmember]
  · by_cases hmethod : k ∈ objectMethods
    · simp [hconfigured, hmethod, Value.truthy]
    · simp [hconfigured, hmethod, hk]

theorem validate_eq (repo : LocalApiKeysRepo) (apiKey : String) :
    ApiKeyStrategy.validate repo apiKey = repo.getUserByApiKey apiKey := by
  unfold ApiKeyStrategy.validate getUserByApiKey
  split
  · rename_i user _
    by_cases htruthy : user.truthy = true
    · simp [htruthy, Bind.bind, Except.bind, Pure.pure, Except.pure]
    · simp [htruthy, Bind.bind, Except.bind]
  · rfl

/-- A key is checked, by the repository and by the strategy, as the table says. -/
def Checks (repo : LocalApiKeysRepo) (keys : ApiKeys) (apiKey : String) : Prop :=
  repo.getUserByApiKey apiKey = keys.check apiKey ∧
    ApiKeyStrategy.validate repo apiKey = keys.check apiKey

theorem getUserByApiKey_of_get {repo : LocalApiKeysRepo} {apiKey : String} {user : Value UserModel}
    (hget : repo.apiKeys.get apiKey = some user) (htruthy : user.truthy = true) :
    repo.getUserByApiKey apiKey = .ok user := by
  rw [getUserByApiKey, hget]
  exact if_pos htruthy

theorem getUserByApiKey_of_get_none {repo : LocalApiKeysRepo} {apiKey : String}
    (hget : repo.apiKeys.get apiKey = none) :
    repo.getUserByApiKey apiKey = .error (.notFound "*REDACTED*" "ApiKey") := by
  rw [getUserByApiKey, hget]

theorem get_of_key {givenApiKeys : String} {repo : LocalApiKeysRepo} {keys : ApiKeys}
    (h : Represents givenApiKeys repo keys) {apiKey : String} {user : UserModel}
    (hkey : keys apiKey = some user) : repo.apiKeys.get apiKey = some (.object user) := by
  by_cases hproto : apiKey = "__proto__"
  · subst hproto
    rw [PlainObject.get, if_pos rfl, h.proto, h.keys_proto user hkey]
    rfl
  · exact PlainObject.get_of_own ((h.own apiKey hproto).trans hkey)

/-- What is not in the table is found exactly if it is a name that the object inherits. -/
theorem get_of_not_key {givenApiKeys : String} {repo : LocalApiKeysRepo} {keys : ApiKeys}
    (h : Represents givenApiKeys repo keys) {apiKey : String} (hkey : keys apiKey = none) :
    apiKey ∈ inheritedNames givenApiKeys ∧
        (∃ user, repo.apiKeys.get apiKey = some user ∧ user.truthy = true) ∨
      apiKey ∉ inheritedNames givenApiKeys ∧ repo.apiKeys.get apiKey = none := by
  by_cases hproto : apiKey = "__proto__"
  · subst hproto
    refine .inl ⟨by simp [inheritedNames], _, if_pos rfl, ?_⟩
    cases repo.apiKeys.proto <;> rfl
  · rw [PlainObject.get_of_own_none hproto ((h.own apiKey hproto).trans hkey)]
    exact inherited_cases h.proto hproto

theorem checks_of_represents {givenApiKeys : String} {repo : LocalApiKeysRepo} {keys : ApiKeys}
    (h : Represents givenApiKeys repo keys) (apiKey : String) :
    Checks repo keys apiKey ↔
      (keys apiKey).isSome = true ∨ apiKey ∉ inheritedNames givenApiKeys := by
  have hcheck : Checks repo keys apiKey ↔ repo.getUserByApiKey apiKey = keys.check apiKey := by
    rw [Checks, validate_eq, and_self]
  rw [hcheck, ApiKeys.check]
  cases hkey : keys apiKey with
  | some user =>
    rw [getUserByApiKey_of_get (get_of_key h hkey) rfl]
    simp
  | none =>
    rcases get_of_not_key h hkey with ⟨hinherited, user, hget, htruthy⟩ | ⟨hinherited, hget⟩
    · rw [getUserByApiKey_of_get hget htruthy]
      simp [hinherited]
    · rw [getUserByApiKey_of_get_none hget]
      simp [hinherited]

/-- **A key is checked as the table says exactly if it is in the table or is not a name that the
object inherits.** -/
theorem checks_iff (givenApiKeys : String) (acts : List ApiKeyAct) (apiKey : String) :
    Checks (run givenApiKeys acts) (.run givenApiKeys acts) apiKey ↔
      (ApiKeys.run givenApiKeys acts apiKey).isSome = true ∨
        apiKey ∉ inheritedNames givenApiKeys :=
  checks_of_represents (represents_run givenApiKeys acts) apiKey

/-- Without any key, `constructor` is accepted. -/
theorem constructor_accepted : ¬ Checks (run "" []) (.run "" []) "constructor" := by
  rw [Checks]
  decide

/-- A key `__proto__` makes the fields of the default user keys as well. -/
example : (run "abc, __proto__" [.deleteApiKey "__proto__"]).getUserByApiKey "id" =
    .ok (.string "-1") := by decide

end LocalApiKeysRepo

end PolymeshRest
