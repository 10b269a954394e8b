import PolymeshRest.Common.Decorators
import PolymeshRest.Js.ClassTransformer
import PolymeshRest.Js.ClassValidator

/-!
# Permissions of groups

Permissions are sent to four endpoints: to create a group, to modify one, to invite an agent to a
new one and to assign an agent to one.  `GroupPermissionsDto` is picked from
`CreatePermissionGroupDto`, so that the same two properties are read everywhere: transactions, or
groups of transactions.  Each of the two is only checked if it is there or the other one is not,
and it is refused beside a defined other one.

* `accepts` : the validation of an instance.
* `toPermissionGroupPermissions` : what the SDK is given for the two properties.
* `createPermissionGroup`, `modifyPermissions`, `inviteAgentToGroup`, `assignAgentToGroup` : what
  each of the endpoints gives it.
* `Agree` : the endpoints give the same, and full permissions if they are asked for.
* `givenTransactions_iff` : for accepted permissions the endpoints agree unless the transactions are
  an array, or the permissions pass for a number.
-/

namespace PolymeshRest

namespace PermissionGroups

open Js

/-! ### The classes -/

/-- Values of the SDK: those of `TxTags` and `ModuleName`, and `AGENT_TX_GROUP_VALUES`. -/
structure Sdk where
  txTags : List String
  moduleNames : List String
  agentTxGroupValues : List String

/-- `getTxTags` -/
def Sdk.getTxTags (sdk : Sdk) : List String := sdk.txTags

/-- `getTxTagsWithModuleNames` -/
def Sdk.getTxTagsWithModuleNames (sdk : Sdk) : List String := sdk.moduleNames ++ sdk.getTxTags

/-- The classes of permissions, and that of plain objects. -/
inductive Dto (sdk : Sdk) where
  | plain
  | groupPermissions
  | transactionPermissions

variable {sdk : Sdk}

/-- `@IsArray()` -/
def isArray : Data (Dto sdk) → Bool
  | .array _ => true
  | _ => false

/-- A decorator with `each`. -/
def each (check : Data (Dto sdk) → Bool) : Data (Dto sdk) → Bool
  | .array items => items.all check
  | value => check value

/-- The values of `PermissionType`. -/
def permissionTypes : List String := ["Include", "Exclude"]

/-- `TransactionPermissionsDto`; `GroupPermissionsDto` has conditions and is checked by
`accepts`. -/
instance : Decorated (Dto sdk) where
  properties
    | .transactionPermissions =>
      [{ name := "type", checks := [Common.isEnum permissionTypes] },
        { name := "values", checks :=
          [isArray, Common.arrayNotEmpty, each (Common.isEnum sdk.getTxTagsWithModuleNames)] },
        { name := "exceptions", optional := true, checks :=
          [isArray, Common.arrayNotEmpty, each (Common.isEnum sdk.getTxTags)] }]
    | _ => []

/-- The decorators that convert properties. -/
def conversion : Dto sdk → String → Conversion (Dto sdk)
  | .groupPermissions, "transactions" => { type := some (.class .transactionPermissions) }
  | _, _ => {}

/-- The instance that is made of the permissions that were sent. -/
def instanceOf (sent : List (String × Json)) : Option (List (String × Data (Dto sdk))) :=
  instantiateFields conversion .groupPermissions (Json.toFields .plain sent)

/-- `incompatibleSiblingsNotPresent`, for one sibling -/
def incompatibleSiblingsNotPresent (sibling value : Data (Dto sdk)) : Bool :=
  match value, sibling with
  | .undefined, .undefined => true
  | .undefined, _ => false
  | _, _ => true

/-- `IsNotSiblingOfConstraint`, for one sibling -/
def isNotSiblingOf (sibling value : Data (Dto sdk)) : Bool := value.isNullish || sibling.isNullish

/-- A property with `@IncompatibleWith()` and other decorators passes. -/
def incompatibleWith (sibling value : Data (Dto sdk)) (checks : Bool) : Bool :=
  !incompatibleSiblingsNotPresent sibling value || isNotSiblingOf sibling value && checks

/-- `@IsArray()` and `@IsEnum(AGENT_TX_GROUP_VALUES, { each: true })` -/
def isTransactionGroups (value : Data (Dto sdk)) : Bool :=
  isArray value && each (Common.isEnum sdk.agentTxGroupValues) value

/-- The validation accepts an instance. -/
def accepts (made : List (String × Data (Dto sdk))) : Bool :=
  let transactions := get made "transactions"
  let transactionGroups := get made "transactionGroups"
  incompatibleWith transactionGroups transactions (nested .refuse transactions) &&
    incompatibleWith transactions transactionGroups (isTransactionGroups transactionGroups)

/-! ### The endpoints -/

/-- `TransactionPermissions` -/
structure TransactionPermissions (sdk : Sdk) where
  values : Data (Dto sdk)
  type : Data (Dto sdk)
  exceptions : Data (Dto sdk)

/-- Permissions in the form that the SDK takes, where `some none` stands for `null` and `none` for
a property that is left out. -/
structure GroupPermissions (sdk : Sdk) where
  transactions : Option (Option (TransactionPermissions sdk)) := none
  transactionGroups : Option (Data (Dto sdk)) := none

/-- `toTransactionPermissions`, which only instances of `TransactionPermissionsDto` have. -/
def toTransactionPermissions : Data (Dto sdk) → Option (TransactionPermissions sdk)
  | .object .transactionPermissions fields =>
    some ⟨get fields "values", get fields "type", get fields "exceptions"⟩
  | _ => none

/-- `toPermissionGroupPermissions` -/
def toPermissionGroupPermissions (input : List (String × Data (Dto sdk))) :
    Option (GroupPermissions sdk) :=
  if (get input "transactions").isTruthy then
    (toTransactionPermissions (get input "transactions")).map fun transactions =>
      { transactions := some (some transactions) }
  else if (get input "transactionGroups").isTruthy then
    some { transactionGroups := some (get input "transactionGroups") }
  else some {}

/-- What an agent is given: a group that exists, by its number or its type, or permissions. -/
inductive Group (sdk : Sdk) where
  | existing (group : Data (Dto sdk))
  | permissions (permissions : GroupPermissions sdk)

section

variable (isBigNumber : Data (Dto sdk) → Bool)

/-- `createPermissionGroup` -/
def createPermissionGroup (args : List (String × Data (Dto sdk))) :
    Option (GroupPermissions sdk) :=
  toPermissionGroupPermissions args

/-- `modifyPermissions` -/
def modifyPermissions (args : List (String × Data (Dto sdk))) : Option (GroupPermissions sdk) :=
  toPermissionGroupPermissions args

/-- `inviteAgentToGroup`; nothing can be read of what is no object. -/
def inviteAgentToGroup (permissions : Data (Dto sdk)) : Option (Group sdk) :=
  if isBigNumber permissions then some (.existing permissions)
  else
    match permissions with
    | .string type => some (.existing (.string type))
    | .object _ fields => (toPermissionGroupPermissions fields).map .permissions
    | _ => none

/-- `assignAgentToGroup` -/
def assignAgentToGroup (permissions : Data (Dto sdk)) : Option (Group sdk) :=
  if isBigNumber permissions then some (.existing permissions)
  else
    match permissions with
    | .string type => some (.existing (.string type))
    | .object _ fields =>
      (toPermissionGroupPermissions fields).map fun permissions =>
        match permissions.transactions, permissions.transactionGroups with
        | some transactions, _ => .permissions { transactions := some transactions }
        | none, some transactionGroups =>
          .permissions { transactionGroups := some transactionGroups }
        | none, none => .permissions { transactions := some none }
    | _ => none

/-! ### What they agree on -/

/-- The endpoints give the same permissions, and full ones if they are asked for; and only one of
the two properties is there. -/
structure Agree (made : List (String × Data (Dto sdk))) : Prop where
  given : ∃ permissions : GroupPermissions sdk, createPermissionGroup made = some permissions ∧
    modifyPermissions made = some permissions ∧
      inviteAgentToGroup isBigNumber (.object .groupPermissions made) =
          some (.permissions permissions) ∧
        assignAgentToGroup isBigNumber (.object .groupPermissions made) =
            some (.permissions permissions) ∧
          (permissions.transactions = some none ↔ get made "transactions" = .null)
  not_both : get made "transactions" = .undefined ∨ get made "transactionGroups" = .undefined

/-- The instance, if it is accepted. -/
def accepted (sent : List (String × Json)) : Option (List (String × Data (Dto sdk))) :=
  (instanceOf sent).filter accepts

/-- The endpoints agree on the permissions that were sent, if they are accepted. -/
def AgreeOn (sent : List (String × Json)) : Prop :=
  ∀ made, accepted sent = some made → Agree isBigNumber made

/-- The transactions are no array. -/
def OwnTransactions : Option Json → Prop
  | some (.array _) => False
  | _ => True

/-- The instance does not pass for a number. -/
def NoNumber (sent : List (String × Json)) : Prop :=
  ∀ made, instanceOf sent = some made → isBigNumber (.object .groupPermissions made) = false

end

/-! ### The two properties -/

section

variable {sent : List (String × Json)} {made : List (String × Data (Dto sdk))}

/-- What the transactions become. -/
inductive Transactions : Option Json → Data (Dto sdk) → Prop where
  | missing : Transactions none .undefined
  | array (items : List Json) (made : List (Data (Dto sdk))) :
    Transactions (some (.array items)) (.array made)
  | object (fields : List (String × Json)) (made : List (String × Data (Dto sdk))) :
    Transactions (some (.object fields)) (.object .transactionPermissions made)
  /-- `null` is none of the values that a nested value can be, and neither is a primitive. -/
  | other (json : Json) (value : Data (Dto sdk)) (hdefined : value ≠ .undefined)
    (hnested : nested .refuse value = false) : Transactions (some json) value

theorem transactions_cases (h : instanceOf sent = some made) :
    Transactions (sent.lookup "transactions") (get made "transactions") := by
  have hname : "transactions" ∉ objectMethods := by decide
  have hget := get_instantiateFields h hname
  rw [lookup_toFields] at hget
  cases hsent : sent.lookup "transactions" with
  | none =>
    rw [hsent] at hget
    rw [Option.some.inj hget]
    exact .missing
  | some transactions =>
    rw [hsent] at hget
    have hmade : instantiate conversion (.class .transactionPermissions)
        (transactions.toData .plain) = some (get made "transactions") :=
      (Option.bind_fun_some _).symm.trans hget.symm
    cases transactions with
    | array items =>
      rw [Json.toData, instantiate] at hmade
      obtain ⟨instances, -, heq⟩ := Option.map_eq_some_iff.1 hmade
      rw [← heq]
      exact .array items instances
    | object fields =>
      rw [Json.toData, instantiate] at hmade
      obtain ⟨properties, -, heq⟩ := Option.map_eq_some_iff.1 hmade
      rw [← heq]
      exact .object fields properties
    | _ =>
      rw [← Option.some.inj hmade]
      refine .other _ _ ?_ rfl
      simp [Json.toData]

theorem exists_groups (h : accepts made = true) (hmissing : get made "transactions" = .undefined) :
    ∃ items, get made "transactionGroups" = .array items := by
  rw [accepts, hmissing, Bool.and_eq_true] at h
  cases hgroups : get made "transactionGroups" with
  | array items => exact ⟨items, rfl⟩
  | _ =>
    rw [hgroups] at h
    exact absurd h.2 Bool.false_ne_true

theorem groups_eq_undefined (h : accepts made = true)
    (hdefined : (get made "transactions").isNullish = false) :
    get made "transactionGroups" = .undefined := by
  rw [accepts, Bool.and_eq_true] at h
  have hgroups := h.2
  rw [incompatibleWith, isNotSiblingOf, hdefined, Bool.or_false] at hgroups
  cases hvalue : get made "transactionGroups" with
  | undefined => rfl
  | _ =>
    rw [hvalue] at hgroups
    exact absurd hgroups Bool.false_ne_true

/-- What is given as transactions passes only if it passes as a nested value. -/
theorem nested_transactions (h : accepts made = true)
    (hdefined : get made "transactions" ≠ .undefined) :
    nested .refuse (get made "transactions") = true := by
  rw [accepts, Bool.and_eq_true] at h
  have htransactions := h.1
  have hpresent : incompatibleSiblingsNotPresent (get made "transactionGroups")
      (get made "transactions") = true := by
    cases hvalue : get made "transactions" with
    | undefined => exact absurd hvalue hdefined
    | _ => rfl
  rw [incompatibleWith, hpresent, Bool.not_true, Bool.false_or, Bool.and_eq_true] at htransactions
  exact htransactions.2

/-! ### Agreement -/

variable {isBigNumber : Data (Dto sdk) → Bool}

/-- What passes for a number is given as a group that exists. -/
theorem Agree.not_number (h : Agree isBigNumber made) :
    isBigNumber (.object .groupPermissions made) = false := by
  obtain ⟨permissions, -, -, hinvite, -⟩ := h.given
  by_contra hnumber
  rw [Bool.not_eq_false] at hnumber
  rw [inviteAgentToGroup, if_pos hnumber] at hinvite
  cases hinvite

/-- The endpoints agree where the SDK is given something, since only assigning falls back. -/
theorem agree_of_given {permissions : GroupPermissions sdk}
    (hnumber : isBigNumber (.object .groupPermissions made) = false)
    (hcreate : toPermissionGroupPermissions made = some permissions)
    (hassign : (∃ transactions, permissions = { transactions := some (some transactions) }) ∨
      ∃ groups, permissions = { transactionGroups := some groups })
    (hnull : get made "transactions" ≠ .null)
    (hboth : get made "transactions" = .undefined ∨ get made "transactionGroups" = .undefined) :
    Agree isBigNumber made := by
  refine ⟨⟨permissions, hcreate, hcreate, ?_, ?_, ?_⟩, hboth⟩
  · rw [inviteAgentToGroup, hnumber]
    simp only [hcreate, Bool.false_eq_true, if_false, Option.map_some]
  · rw [assignAgentToGroup, hnumber]
    simp only [hcreate, Bool.false_eq_true, if_false, Option.map_some]
    rcases hassign with ⟨transactions, rfl⟩ | ⟨groups, rfl⟩ <;> rfl
  · refine iff_of_false ?_ hnull
    rcases hassign with ⟨transactions, rfl⟩ | ⟨groups, rfl⟩ <;> exact nofun

/-- The endpoints agree on an accepted instance unless its transactions are an array, or it passes
for a number. -/
theorem agree_instance_iff (hmade : instanceOf sent = some made) (h : accepts made = true) :
    Agree isBigNumber made ↔ OwnTransactions (sent.lookup "transactions") ∧
      isBigNumber (.object .groupPermissions made) = false := by
  have hcases := transactions_cases hmade
  generalize sent.lookup "transactions" = transactions at hcases
  generalize hvalue : get made "transactions" = value at hcases
  cases hcases with
  | missing =>
    refine ⟨fun hagree => ⟨trivial, hagree.not_number⟩, fun hown => ?_⟩
    obtain ⟨items, hitems⟩ := exists_groups h hvalue
    refine agree_of_given hown.2 ?_ (.inr ⟨.array items, rfl⟩) (by simp [hvalue]) (.inl hvalue)
    rw [toPermissionGroupPermissions, hvalue, hitems]
    rfl
  | array items instances =>
    refine iff_of_false (fun hagree => ?_) fun hown => hown.1
    obtain ⟨permissions, hcreate, -⟩ := hagree.given
    rw [createPermissionGroup, toPermissionGroupPermissions, hvalue] at hcreate
    cases hcreate
  | object fields properties =>
    refine ⟨fun hagree => ⟨trivial, hagree.not_number⟩, fun hown => ?_⟩
    have hdefined : (get made "transactions").isNullish = false := by rw [hvalue]; rfl
    have hcreate : toPermissionGroupPermissions made = some { transactions := some (some
        ⟨get properties "values", get properties "type", get properties "exceptions"⟩) } := by
      rw [toPermissionGroupPermissions, hvalue]
      rfl
    exact agree_of_given hown.2 hcreate (.inl ⟨_, rfl⟩) (by simp [hvalue])
      (.inr (groups_eq_undefined h hdefined))
  | other json value hdefined hnested =>
    have hpasses := nested_transactions h (by rw [hvalue]; exact hdefined)
    rw [hvalue, hnested] at hpasses
    cases hpasses

end

/-- **Permissions agree across the endpoints**, if they are accepted, unless the transactions are an
array, or the permissions pass for a number. -/
theorem givenTransactions_iff (isBigNumber : Data (Dto sdk) → Bool) (sent : List (String × Json)) :
    AgreeOn isBigNumber sent ↔
      ((accepted sent : Option (List (String × Data (Dto sdk)))).isSome = true →
        OwnTransactions (sent.lookup "transactions") ∧ NoNumber isBigNumber sent) := by
  constructor
  · intro h haccepted
    obtain ⟨made, haccepted⟩ := Option.isSome_iff_exists.1 haccepted
    obtain ⟨hmade, haccepts⟩ := Option.filter_eq_some_iff.1 haccepted
    obtain ⟨hown, hnumber⟩ := (agree_instance_iff hmade haccepts).1 (h made haccepted)
    exact ⟨hown, fun other hother => Option.some.inj (hmade.symm.trans hother) ▸ hnumber⟩
  · intro h made haccepted
    obtain ⟨hmade, haccepts⟩ := Option.filter_eq_some_iff.1 haccepted
    obtain ⟨hown, hnumber⟩ := h (by rw [haccepted]; rfl)
    exact (agree_instance_iff hmade haccepts).2 ⟨hown, hnumber made hmade⟩

/-- An array of transactions is accepted, and no endpoint can bring it to the form of the SDK. -/
theorem not_agreeOn :
    ¬AgreeOn
      (fun _ : Data (Dto ⟨["asset.issue"], ["asset"], ["Distribution"]⟩) => false)
      [("transactions", .array [])] := by
  intro h
  obtain ⟨permissions, hcreate, -⟩ := (h _ rfl).given
  cases hcreate

end PermissionGroups

end PolymeshRest
