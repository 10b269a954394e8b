import PolymeshRest.Auth.ApiKeys
import Mathlib.Data.List.Sort
import Mathlib.Data.Set.List

/-!
# The guard in front of every request

`AUTH_STRATEGY` names the strategies that may let a request in.  They are sorted, so that "open",
which lets everybody in as the default user, is asked last; the package that asks them is known by
its documentation only.

## Main definitions

* `AuthStrategy`, `parseAuthStrategyConfig`, `createAuthGuard`
* `Passport` : a list of strategies asked one after the other.
* `Decided` : what becomes of a request, by the strategies that are named.

## Main results

* `createAuthGuard_cases` : which configurations give a guard, and what it decides.
-/

namespace PolymeshRest

open Js

/-! ### The configuration -/

/-- `AuthStrategy` -/
inductive AuthStrategy where
  | apiKey
  | «open»
  deriving DecidableEq, Repr

/-- The value of the member. -/
def AuthStrategy.value : AuthStrategy → String
  | .apiKey => "apiKey"
  | .open => "open"

/-- `authStrategyValues` -/
def authStrategyValues : List AuthStrategy := [.apiKey, .open]

/-- `isStrategyKey`, with the strategy that it finds. -/
def isStrategyKey (key : String) : Option AuthStrategy :=
  authStrategyValues.find? fun strategy => strategy.value = key

/-- `cmpAuthStrategyOrder` -/
def cmpAuthStrategyOrder (a b : AuthStrategy) : ℤ :=
  authStrategyValues.idxOf a - authStrategyValues.idxOf b

/-- `.sort(cmpAuthStrategyOrder)` -/
def sortStrategies (strategies : List AuthStrategy) : List AuthStrategy :=
  strategies.insertionSort fun a b => cmpAuthStrategyOrder a b ≤ 0

/-- The pieces of the configuration. -/
def givenStrategies (rawStrategyConfig : String) : List String :=
  (split rawStrategyConfig ',').map trim

/-- `parseAuthStrategyConfig`, which throws an `Error` with a message. -/
def parseAuthStrategyConfig (rawStrategyConfig : String) : Except String (List AuthStrategy) :=
  let given := givenStrategies rawStrategyConfig
  let filteredStrategies := given.filterMap isStrategyKey
  if filteredStrategies.length ≠ given.length then
    .error ("Auth config error! \"" ++ ",".intercalate given ++
      "\" contains an unrecognized option. Valid values are: \"" ++
      ",".intercalate (authStrategyValues.map AuthStrategy.value) ++ "\"")
  else .ok (sortStrategies filteredStrategies)

/-! ### Asking the strategies -/

/-- What a strategy says of a request. -/
inductive Verdict where
  | success (user : Value UserModel)
  /-- The strategy does not know the request: another one may. -/
  | fail
  | error (error : AppError)
  deriving DecidableEq, Repr

/-- What a request is refused with. -/
inductive Refusal where
  | app (error : AppError)
  /-- The `UnauthorizedException` of the framework. -/
  | unauthorized
  deriving DecidableEq, Repr

/-- `AuthGuard` of the package, given what each of its strategies would say: they are asked in their
order until one of them does not fail. -/
structure Passport where
  authenticate : List Verdict → Except Refusal (Value UserModel)
  authenticate_nil : authenticate [] = .error .unauthorized
  authenticate_success : ∀ user rest, authenticate (.success user :: rest) = .ok user
  authenticate_fail : ∀ rest, authenticate (.fail :: rest) = authenticate rest
  authenticate_error : ∀ e rest, authenticate (.error e :: rest) = .error (.app e)

/-- The strategies asked one after the other. -/
def askInSeries : List Verdict → Except Refusal (Value UserModel)
  | [] => .error .unauthorized
  | .fail :: rest => askInSeries rest
  | .success user :: _ => .ok user
  | .error e :: _ => .error (.app e)

/-- A package that does what is documented. -/
def Passport.inSeries : Passport where
  authenticate := askInSeries
  authenticate_nil := rfl
  authenticate_success _ _ := rfl
  authenticate_fail _ := rfl
  authenticate_error _ _ := rfl

/-- `OpenStrategy.validate` -/
def OpenStrategy.validate : Value UserModel := .object defaultUser

/-- What a strategy says of a request, given what the header `x-api-key` has: a request where it is
missing or empty is none that `ApiKeyStrategy` knows. -/
def AuthStrategy.attempt (repo : LocalApiKeysRepo) (header : Option String) :
    AuthStrategy → Verdict
  | .apiKey =>
    match header with
    | none => .fail
    | some key =>
      match ApiKeyStrategy.validate repo key with
      | .ok user => .success user
      | .error e => .error e
  | .open => .success OpenStrategy.validate

/-- A guard, once it is configured. -/
abbrev Guard : Type := LocalApiKeysRepo → Option String → Except Refusal (Value UserModel)

/-- The guard for a list of strategies. -/
def guardOf (passport : Passport) (strategies : List AuthStrategy) : Guard := fun repo header =>
  passport.authenticate (strategies.map (AuthStrategy.attempt repo header))

/-- `createAuthGuard` -/
def createAuthGuard (passport : Passport) (rawStrategy : String) : Except String Guard := do
  let strategies ← parseAuthStrategyConfig rawStrategy
  return guardOf passport strategies

/-! ### What the configuration decides -/

/-- What becomes of a request where the strategies that `named` holds of are configured: a key is
for the keys to decide, and everybody else is let in if "open" is one of them. -/
def Decided (named : AuthStrategy → Prop) [DecidablePred named] : Guard := fun repo header =>
  match header with
  | some key =>
    if named .apiKey then (ApiKeyStrategy.validate repo key).mapError .app
    else if named .open then .ok (.object defaultUser) else .error .unauthorized
  | none => if named .open then .ok (.object defaultUser) else .error .unauthorized

variable {raw : String} {strategies : List AuthStrategy} {a b : AuthStrategy}

theorem value_injective : Function.Injective AuthStrategy.value := by
  intro a b h
  cases a <;> cases b <;> first | rfl | exact absurd h (by decide)

theorem mem_authStrategyValues (a : AuthStrategy) : a ∈ authStrategyValues := by
  cases a <;> decide

theorem isStrategyKey_eq_some {key : String} : isStrategyKey key = some a ↔ a.value = key := by
  constructor
  · intro h
    simpa using List.find?_some h
  · rintro rfl
    cases a <;> decide

theorem cmpAuthStrategyOrder_le_zero : cmpAuthStrategyOrder a b ≤ 0 ↔ (a = .open → b = .open) := by
  cases a <;> cases b <;> decide

theorem parse_of_known {named : List AuthStrategy}
    (h : givenStrategies raw = named.map AuthStrategy.value) :
    parseAuthStrategyConfig raw = .ok (sortStrategies named) := by
  have hsome : isStrategyKey ∘ AuthStrategy.value = some :=
    funext fun a => isStrategyKey_eq_some.2 rfl
  have hknown : (named.map AuthStrategy.value).filterMap isStrategyKey = named := by
    rw [List.filterMap_map, hsome, List.filterMap_some]
  unfold parseAuthStrategyConfig
  simp only [h, hknown, List.length_map, ne_eq, not_true_eq_false, if_false]

theorem parse_of_unknown {piece : String} (hpiece : piece ∈ givenStrategies raw)
    (hunknown : piece ∉ authStrategyValues.map AuthStrategy.value) :
    ∃ message, parseAuthStrategyConfig raw = .error message := by
  have hnone : isStrategyKey piece = none := by
    rw [Option.eq_none_iff_forall_ne_some]
    intro a ha
    exact hunknown (List.mem_map.2 ⟨a, mem_authStrategyValues a, isStrategyKey_eq_some.1 ha⟩)
  have hshort : ((givenStrategies raw).filterMap isStrategyKey).length ≠
      (givenStrategies raw).length := by
    intro heq
    have hsome := List.filterMap_length_eq_length.1 heq piece hpiece
    rw [hnone] at hsome
    cases hsome
  exact ⟨_, if_pos hshort⟩

theorem known_or_unknown (pieces : List String) :
    (∃ named : List AuthStrategy, pieces = named.map AuthStrategy.value) ∨
      ∃ piece ∈ pieces, piece ∉ authStrategyValues.map AuthStrategy.value := by
  by_cases h : ∀ piece ∈ pieces, piece ∈ authStrategyValues.map AuthStrategy.value
  · have hrange : pieces ∈ Set.range (List.map AuthStrategy.value) := by
      rw [Set.range_list_map]
      intro piece hpiece
      obtain ⟨a, -, ha⟩ := List.mem_map.1 (h piece hpiece)
      exact ⟨a, ha⟩
    obtain ⟨named, hnamed⟩ := hrange
    exact .inl ⟨named, hnamed.symm⟩
  · push Not at h
    exact .inr h

/-! ### Asking in order -/

/-- **Asking the strategies in order decides a request as their names do**: behind `open` in the
list there is no other strategy that could know the key. -/
theorem authenticate_of_sorted (passport : Passport) (repo : LocalApiKeysRepo)
    (header : Option String)
    (hsorted : strategies.Pairwise fun a b => cmpAuthStrategyOrder a b ≤ 0) :
    guardOf passport strategies repo header = Decided (· ∈ strategies) repo header := by
  unfold guardOf
  induction strategies with
  | nil => cases header <;> simp [Decided, passport.authenticate_nil]
  | cons a rest ih =>
    obtain ⟨hfirst, hrest⟩ := List.pairwise_cons.1 hsorted
    cases a with
    | apiKey =>
      cases header with
      | none =>
        rw [List.map_cons, AuthStrategy.attempt, passport.authenticate_fail, ih hrest]
        simp [Decided]
      | some key =>
        -- the key decides, so what is behind the strategy does not matter
        rw [List.map_cons, AuthStrategy.attempt]
        cases hvalidate : ApiKeyStrategy.validate repo key with
        | ok user => simp [Decided, hvalidate, passport.authenticate_success, Except.mapError]
        | error e => simp [Decided, hvalidate, passport.authenticate_error, Except.mapError]
    | «open» =>
      have hno : .apiKey ∉ rest := fun h => by
        cases cmpAuthStrategyOrder_le_zero.1 (hfirst _ h) rfl
      rw [List.map_cons, AuthStrategy.attempt, passport.authenticate_success]
      cases header <;> simp [Decided, hno, OpenStrategy.validate]

theorem sorted_sortStrategies (named : List AuthStrategy) :
    (sortStrategies named).Pairwise fun a b => cmpAuthStrategyOrder a b ≤ 0 := by
  have htotal : Std.Total fun a b : AuthStrategy => cmpAuthStrategyOrder a b ≤ 0 := by
    refine ⟨fun a b => ?_⟩
    unfold cmpAuthStrategyOrder
    omega
  have htrans : IsTrans AuthStrategy fun a b => cmpAuthStrategyOrder a b ≤ 0 := by
    refine ⟨fun a b c hab hbc => ?_⟩
    unfold cmpAuthStrategyOrder at *
    omega
  exact List.pairwise_insertionSort _ named

/-- **The configuration gives a guard exactly if each piece of it names a strategy, and the guard
decides by which strategies are named**: neither their order nor how often one is named matters,
and "open" never decides about a key that the other strategy refuses. -/
theorem createAuthGuard_cases (passport : Passport) (raw : String) :
    (∀ piece ∈ givenStrategies raw, piece = "apiKey" ∨ piece = "open") ∧
        (∃ guard, createAuthGuard passport raw = .ok guard ∧ ∀ repo header, guard repo header =
          Decided (fun strategy => strategy.value ∈ givenStrategies raw) repo header) ∨
      (∃ piece ∈ givenStrategies raw, piece ≠ "apiKey" ∧ piece ≠ "open") ∧
        ∃ message, createAuthGuard passport raw = .error message := by
  obtain ⟨named, hnamed⟩ | ⟨piece, hpiece, hunknown⟩ := known_or_unknown (givenStrategies raw)
  · refine .inl ⟨?_, guardOf passport (sortStrategies named), ?_, fun repo header => ?_⟩
    · rw [hnamed]
      intro piece hpiece
      obtain ⟨a, -, rfl⟩ := List.mem_map.1 hpiece
      cases a
      · exact .inl rfl
      · exact .inr rfl
    · rw [createAuthGuard, parse_of_known hnamed]
      rfl
    · rw [authenticate_of_sorted passport repo header (sorted_sortStrategies named)]
      have hmem : ∀ a, a ∈ sortStrategies named ↔ a.value ∈ givenStrategies raw := by
        intro a
        rw [sortStrategies, List.mem_insertionSort, hnamed,
          List.mem_map_of_injective value_injective]
      cases header <;> simp only [Decided, hmem]
  · refine .inr ⟨⟨piece, hpiece, ?_, ?_⟩, ?_⟩
    · rintro rfl
      exact hunknown (by decide)
    · rintro rfl
      exact hunknown (by decide)
    · obtain ⟨message, hmessage⟩ := parse_of_unknown hpiece hunknown
      exact ⟨message, by rw [createAuthGuard, hmessage]; rfl⟩

end PolymeshRest
