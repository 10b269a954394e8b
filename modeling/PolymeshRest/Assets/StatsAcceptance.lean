import PolymeshRest.Assets.Stats
import PolymeshRest.Data.Lists

/-!
# What the statistics of a request may be

The items that are meant to be accepted, in terms of the JSON of the request, and the ones that
are.  They differ in a number of kinds of items that pass because nothing looks at them, and in
values of the field that are not lists of items at all.

* `recognised` : the shapes that an item is meant to have.
* `passes` : what the pipeline lets through, by the shape of the JSON.
* `slips` : the kinds of items that are let through without being recognised.
* `recognised_eq` : an item is recognised if it passes and is of none of these kinds.
* `nested_transformStat`, `accepted_array` : `passes` says what the pipeline does.
-/

namespace PolymeshRest

open Js
open Common (isDid isEnum isInstanceOfBigNumber isBigNumber)

variable (onNull : OnNull) (bigNumber : String → BigNumber)

/-! ### Parts -/

/-- A count that is a number. -/
def recognisedCount : Option Json → Bool
  | some (.string s) => !(bigNumber s).isNaN
  | _ => false

/-- An empty list where a count is meant to be. -/
def isEmptyList : Option Json → Bool
  | some (.array []) => true
  | _ => false

/-- A count that is let through. -/
def passesCount (count : Option Json) : Bool := recognisedCount bigNumber count || isEmptyList count

/-- A DID. -/
def recognisedDid : Option Json → Bool
  | some (.string s) => isDidText s
  | _ => false

/-- The claim type of a `ScopedBalance`. -/
def recognisedTrustedFor : Option Json → Bool
  | some .null => true
  | some (.string s) => isTrustedForText s
  | _ => false

/-- A country code, or none. -/
def recognisedCountryCode : Option Json → Bool
  | none | some .null => true
  | some (.string s) => s ∈ countryCodes
  | _ => false

/-! ### Items of a `value` -/

/-- An item of the `value` of a `Jurisdiction`. -/
def recognisedItem : Json → Bool
  | .object fields =>
    recognisedCountryCode (fields.lookup "countryCode") &&
      recognisedCount bigNumber (fields.lookup "count")
  | _ => false

def passesItem : Json → Bool
  | .object fields =>
    recognisedCountryCode (fields.lookup "countryCode") &&
      passesCount bigNumber (fields.lookup "count")
  | _ => false

def slipsItem : Json → Bool
  | .object fields => isEmptyList (fields.lookup "count")
  | _ => false

/-! ### The `value` of a `ScopedCount` -/

/-- The `value` that goes with a claim type. -/
def recognisedValue : ClaimType → Option Json → Bool
  | .accredited, some (.object fields) =>
    recognisedCount bigNumber (fields.lookup "accredited") &&
      recognisedCount bigNumber (fields.lookup "nonAccredited")
  | .affiliate, some (.object fields) =>
    recognisedCount bigNumber (fields.lookup "affiliate") &&
      recognisedCount bigNumber (fields.lookup "nonAffiliate")
  | .jurisdiction, some (.array items) => items.all (recognisedItem bigNumber)
  | _, _ => false

/-- The `value` that is let through, for the three claim types. -/
def passesValue : ClaimType → Option Json → Bool
  | _, none => true
  | _, some .null => onNull.passes
  | _, some (.array items) => items.all (passesItem bigNumber)
  | .accredited, some (.object fields) =>
    passesCount bigNumber (fields.lookup "accredited") &&
      passesCount bigNumber (fields.lookup "nonAccredited")
  | .affiliate, some (.object fields) =>
    passesCount bigNumber (fields.lookup "affiliate") &&
      passesCount bigNumber (fields.lookup "nonAffiliate")
  | _, some (.object _) => true
  | _, _ => false

/-- No `value`, one of the shape of another claim type, or an empty list for one of its counts. -/
def slipsValue : ClaimType → Option Json → Bool
  | _, none | _, some .null => true
  | .jurisdiction, some (.array items) => items.any slipsItem
  | .jurisdiction, some (.object _) => true
  | .accredited, some (.object fields) =>
    isEmptyList (fields.lookup "accredited") || isEmptyList (fields.lookup "nonAccredited")
  | .affiliate, some (.object fields) =>
    isEmptyList (fields.lookup "affiliate") || isEmptyList (fields.lookup "nonAffiliate")
  | _, some (.array _) => true
  | _, _ => false

/-! ### Items -/

/-- The claim types that a `ScopedCount` may have. -/
def isScopedCountType : ClaimType → Bool
  | .accredited | .affiliate | .jurisdiction => true
  | _ => false

/-- The claim type of a `ScopedCount`, if it is one of the three. -/
def scopedCountType (fields : List (String × Json)) : Option ClaimType :=
  (enumOf claimTypes (fields.lookup "claimType")).filter isScopedCountType

/-- A recognised item: a plain object that is a `Count`, a `Balance`, a `ScopedBalance` or a
`ScopedCount` of one of three claim types with the `value` that goes with it. -/
def recognised : Json → Bool
  | .object fields =>
    !(fields.lookup "constructor").isSome &&
      match enumOf statTypes (fields.lookup "type") with
      | some .count => recognisedCount bigNumber (fields.lookup "count")
      | some .balance => true
      | some .scopedBalance =>
        recognisedDid (fields.lookup "issuer") && recognisedTrustedFor (fields.lookup "claimType")
      | some .scopedCount =>
        match scopedCountType fields with
        | some claimType => recognisedDid (fields.lookup "issuer") &&
            recognisedValue bigNumber claimType (fields.lookup "value")
        | none => false
      | none => false
  | _ => false

mutual

/-- A value that is no primitive and no list with primitives in it, however deep. -/
def withoutPrimitives : Json → Bool
  | .null => onNull.passes
  | .object _ => true
  | .array items => allWithoutPrimitives items
  | _ => false

def allWithoutPrimitives : List Json → Bool
  | [] => true
  | item :: items => withoutPrimitives item && allWithoutPrimitives items

end

/-- The `value` is a list with `null` in it. -/
def holdsNull : Option Json → Bool
  | some (.array items) => items.any fun
    | .null => true
    | _ => false
  | _ => false

/-- An item that is let through. -/
def passes : Json → Bool
  | .object fields =>
    (fields.lookup "constructor").isSome ||
      match enumOf statTypes (fields.lookup "type") with
      | some .count => passesCount bigNumber (fields.lookup "count")
      | some .balance => true
      | some .scopedBalance =>
        recognisedDid (fields.lookup "issuer") && recognisedTrustedFor (fields.lookup "claimType")
      | some .scopedCount =>
        match scopedCountType fields with
        | some claimType => recognisedDid (fields.lookup "issuer") &&
            passesValue onNull bigNumber claimType (fields.lookup "value")
        | none => !holdsNull (fields.lookup "value")
      | none => true
  | item => withoutPrimitives onNull item

/-- The kinds of items that nothing looks at: `null`, a list, an object that is no plain one or of
no known type, a `ScopedCount` of another claim type, and items in which a count is an empty list or
the `value` is of another shape. -/
def slips : Json → Bool
  | .null | .array _ => true
  | .object fields =>
    (fields.lookup "constructor").isSome ||
      match enumOf statTypes (fields.lookup "type") with
      | some .count => isEmptyList (fields.lookup "count")
      | some .balance | some .scopedBalance => false
      | some .scopedCount =>
        match scopedCountType fields with
        | some claimType => slipsValue claimType (fields.lookup "value")
        | none => true
      | none => true
  | _ => false

/-! ### Recognised items are the ones that pass and do not slip through -/

variable {onNull bigNumber}

theorem recognisedCount_eq (count : Option Json) :
    recognisedCount bigNumber count = (passesCount bigNumber count && !isEmptyList count) := by
  rcases count with _ | ⟨⟩ | ⟨⟩ | ⟨⟩ | ⟨⟩ | ⟨_ | _⟩ | ⟨⟩ <;>
    simp [passesCount, recognisedCount, isEmptyList]

theorem recognisedItem_eq (item : Json) :
    recognisedItem bigNumber item = (passesItem bigNumber item && !slipsItem item) := by
  cases item with
  | object fields =>
    simp [recognisedItem, passesItem, slipsItem, recognisedCount_eq, Bool.and_assoc]
  | _ => rfl

theorem all_recognisedItem (items : List Json) :
    items.all (recognisedItem bigNumber) =
      (items.all (passesItem bigNumber) && !items.any slipsItem) := by
  induction items with
  | nil => rfl
  | cons item items ih =>
    rw [List.all_cons, List.all_cons, List.any_cons, ih, recognisedItem_eq, Bool.not_or]
    cases passesItem bigNumber item <;> cases slipsItem item <;> simp

theorem recognisedValue_eq (onNull : OnNull) {claimType : ClaimType}
    (h : isScopedCountType claimType = true) (value : Option Json) :
    recognisedValue bigNumber claimType value =
      (passesValue onNull bigNumber claimType value && !slipsValue claimType value) := by
  have hcounts : ∀ a b, (recognisedCount bigNumber a && recognisedCount bigNumber b) =
      (passesCount bigNumber a && passesCount bigNumber b &&
        !(isEmptyList a || isEmptyList b)) := by
    intro a b
    rw [recognisedCount_eq, recognisedCount_eq, Bool.not_or]
    cases passesCount bigNumber a <;> cases isEmptyList a <;> simp
  cases claimType with
  | accredited =>
    rcases value with _ | ⟨⟩ | ⟨⟩ | ⟨⟩ | ⟨⟩ | ⟨items⟩ | ⟨fields⟩ <;>
      simp [recognisedValue, passesValue, slipsValue, hcounts]
  | affiliate =>
    rcases value with _ | ⟨⟩ | ⟨⟩ | ⟨⟩ | ⟨⟩ | ⟨items⟩ | ⟨fields⟩ <;>
      simp [recognisedValue, passesValue, slipsValue, hcounts]
  | jurisdiction =>
    rcases value with _ | ⟨⟩ | ⟨⟩ | ⟨⟩ | ⟨⟩ | ⟨items⟩ | ⟨fields⟩ <;>
      simp [recognisedValue, passesValue, slipsValue, all_recognisedItem]
  | _ => cases h

/-- **An item is recognised** if it passes and is none of the kinds that slip through. -/
theorem recognised_eq (onNull : OnNull) (item : Json) :
    recognised bigNumber item = (passes onNull bigNumber item && !slips item) := by
  cases item with
  | object fields =>
    rw [recognised, passes, slips]
    cases (fields.lookup "constructor").isSome with
    | true => simp
    | false =>
      simp only [Bool.not_false, Bool.true_and, Bool.false_or]
      cases enumOf statTypes (fields.lookup "type") with
      | none => rfl
      | some type =>
        cases type with
        | count => exact recognisedCount_eq _
        | balance => rfl
        | scopedBalance => simp
        | scopedCount =>
          cases htype : scopedCountType fields with
          | none => simp
          | some claimType =>
            have hscoped := (Option.filter_eq_some_iff.1 htype).2
            simp only [recognisedValue_eq onNull hscoped, Bool.and_assoc]
  | _ => simp [recognised, passes, slips, withoutPrimitives]

/-! ### Properties of what the transformer makes -/

/-- The value of a property of a plain object. -/
def asData (value : Option Json) : Data StatDto := (value.map (Json.toData .plain)).getD .undefined

theorem get_toFields (fields : List (String × Json)) (name : String) :
    get (Json.toFields StatDto.plain fields) name = asData (fields.lookup name) := by
  rw [Js.get, Json.toFields_eq_map, lookup_map_snd fun _ => Json.toData StatDto.plain]
  rfl

theorem get_assign (fields : List (String × Data StatDto)) (k name : String) (v : Data StatDto) :
    get (Record.assign k v fields) name = if name = k then v else get fields name := by
  rw [Js.get, Record.lookup_assign]
  split_ifs <;> rfl

theorem lookup_convertCount (fields : List (String × Data StatDto)) (name : String) :
    (convertCount bigNumber fields).lookup name =
      if name = "count" then (fields.lookup name).map (toBigNumber bigNumber)
      else fields.lookup name := by
  rw [convertCount]
  split
  · next count hcount =>
    rw [Record.lookup_assign]
    split_ifs with hname
    · subst hname
      cases hlookup : fields.lookup "count" with
      | none => rw [Js.get, hlookup] at hcount; cases hcount
      | some value =>
        rw [Js.get, hlookup] at hcount
        cases hcount
        rfl
    · rfl
  · next hcount =>
    split_ifs with hname
    · subst hname
      cases hlookup : fields.lookup "count" with
      | none => rfl
      | some value =>
        cases value with
        | string count => exact absurd (by rw [Js.get, hlookup]; rfl) (hcount count)
        | _ => rfl
    · rfl

theorem lookup_convertValue (fields : List (String × Data StatDto)) (name : String) :
    (convertValue bigNumber fields).lookup name = (fields.lookup name).map fun field =>
      if name ∈ ["accredited", "nonAccredited", "affiliate", "nonAffiliate"] then
        toBigNumber bigNumber field
      else field :=
  lookup_map_snd (fun name field =>
    if name ∈ ["accredited", "nonAccredited", "affiliate", "nonAffiliate"] then
      toBigNumber bigNumber field
    else field) fields name

theorem get_convertCount (fields : List (String × Data StatDto)) (name : String) :
    get (convertCount bigNumber fields) name =
      if name = "count" then toBigNumber bigNumber (get fields name) else get fields name := by
  rw [Js.get, lookup_convertCount, Js.get]
  split_ifs
  · cases fields.lookup name <;> rfl
  · rfl

theorem get_convertValue (fields : List (String × Data StatDto)) (name : String) :
    get (convertValue bigNumber fields) name =
      if name ∈ ["accredited", "nonAccredited", "affiliate", "nonAffiliate"] then
        toBigNumber bigNumber (get fields name)
      else get fields name := by
  rw [Js.get, lookup_convertValue, Js.get]
  split_ifs
  · cases fields.lookup name <;> rfl
  · cases fields.lookup name <;> rfl

/-- No number of any size is made but from a text. -/
theorem isInstanceOfBigNumber_toData (value : Json) :
    isInstanceOfBigNumber (Json.toData StatDto.plain value) = false := by
  cases value <;> rfl

theorem isBigNumber_toBigNumber (count : Option Json) :
    isBigNumber {} (toBigNumber bigNumber (asData count)) = passesCount bigNumber count := by
  rcases count with _ | ⟨⟩ | ⟨⟩ | ⟨⟩ | ⟨⟩ | ⟨_ | ⟨item, items⟩⟩ | ⟨⟩
  · rfl
  · rfl
  · rfl
  · rfl
  · simp [asData, Json.toData, toBigNumber, isBigNumber, passesCount, recognisedCount, isEmptyList]
  · rfl
  · simp [asData, Json.toData, Json.toDataAll, toBigNumber, isBigNumber, passesCount,
      recognisedCount, isEmptyList, isInstanceOfBigNumber_toData]
  · rfl

theorem isDid_asData (did : Option Json) : isDid (asData did) = recognisedDid did := by
  rcases did with _ | ⟨⟩ | ⟨⟩ | ⟨⟩ | ⟨⟩ | ⟨⟩ | ⟨⟩ <;> rfl

theorem isTrustedForClaimType_asData (claimType : Option Json) :
    isTrustedForClaimType (asData claimType) = recognisedTrustedFor claimType := by
  rcases claimType with _ | ⟨⟩ | ⟨⟩ | ⟨⟩ | ⟨⟩ | ⟨⟩ | ⟨fields⟩
  · rfl
  · rfl
  · rfl
  · rfl
  · rfl
  · rfl
  · -- the id of a custom claim type stays what it was in the request
    have hnone : isInstanceOfBigNumber
        (get (Json.toFields StatDto.plain fields) "customClaimTypeId") = false := by
      rw [get_toFields]
      cases fields.lookup "customClaimTypeId" with
      | none => rfl
      | some value => exact isInstanceOfBigNumber_toData value
    simp [asData, Json.toData, isTrustedForClaimType, recognisedTrustedFor, hnone]

theorem isEnum_asData {E : Type*} {values : List (String × E)} {value : Option Json} {e : E}
    (h : enumOf values value = some e) :
    isEnum (values.map Prod.fst) (asData value) = true := by
  rcases value with _ | ⟨⟩ | ⟨⟩ | ⟨⟩ | ⟨s⟩ | ⟨⟩ | ⟨⟩ <;> try cases h
  refine decide_eq_true (List.mem_map.2 ⟨(s, e), ?_, rfl⟩)
  obtain ⟨before, after, hvalues, -⟩ := List.lookup_eq_some_iff.1 h
  rw [hvalues]
  exact List.mem_append_right _ List.mem_cons_self

/-! ### What the pipeline lets through -/

mutual

theorem nested_toData : ∀ value : Json,
    nested onNull (Json.toData StatDto.plain value) = withoutPrimitives onNull value
  | .null => rfl
  | .bool _ => rfl
  | .number _ => rfl
  | .string _ => rfl
  | .array items => nestedAll_toData items
  | .object _ => nested_object onNull StatDto.plain _

theorem nestedAll_toData : ∀ items : List Json,
    nestedAll onNull (Json.toDataAll StatDto.plain items) = allWithoutPrimitives onNull items
  | [] => rfl
  | item :: items => congrArg₂ _ (nested_toData item) (nestedAll_toData items)

end

theorem nested_plain (onNull : OnNull) (fields : List (String × Data StatDto)) :
    nested onNull (.object .plain fields) = true :=
  nested_object onNull StatDto.plain fields

theorem accepts_count (name : String) (count : Data StatDto) :
    (countProperty name).accepts onNull count = isBigNumber {} count := by
  simp [countProperty, Property.accepts]

theorem nested_of_no_count {fields : List (String × Json)} (h : fields.lookup "count" = none) :
    nested onNull (.object StatDto.claimCountJurisdictionValueItem (Json.toFields .plain fields)) =
      false := by
  have hcount : get (Json.toFields StatDto.plain fields) "count" = .undefined := by
    rw [get_toFields, h]
    rfl
  rw [nested_object]
  simp [Decorated.properties, countProperty, Property.accepts, hcount, isBigNumber]

theorem any_nested_transformItem (item : Json) :
    (transformItem bigNumber item).any (nested onNull) = passesItem bigNumber item := by
  have hindexed : ∀ items : List Json, (indexed items).lookup "count" = none := fun items =>
    lookup_indexed (by decide : 'c' ∈ _) rfl items
  cases item with
  | null => rfl
  | array items => exact nested_of_no_count (hindexed items)
  | string s => exact nested_of_no_count (hindexed _)
  | object fields =>
    rw [transformItem, Option.any_some, nested_object, passesItem, ← isBigNumber_toBigNumber]
    simp only [Decorated.properties, List.all_cons, List.all_nil, Bool.and_true]
    rw [accepts_count]
    show (_ && isBigNumber {} (get _ "count")) = _
    rw [get_convertCount, get_convertCount, get_toFields, get_toFields]
    simp only [String.reduceEq, if_false, if_true]
    refine congrArg (· && _) ?_
    rcases fields.lookup "countryCode" with _ | ⟨⟩ | ⟨⟩ | ⟨⟩ | ⟨⟩ | ⟨⟩ | ⟨⟩ <;>
      simp [Property.accepts, asData, Json.toData, Data.isNullish, isEnum, recognisedCountryCode]
  | _ => rfl

theorem any_nestedAll_mapM {f : Json → Option (Data StatDto)} (items : List Json) :
    (items.mapM f).any (nestedAll onNull) = items.all fun item => (f item).any (nested onNull) := by
  induction items with
  | nil => rfl
  | cons item items ih =>
    rw [List.mapM_cons, List.all_cons, ← ih]
    cases f item with
    | none => rfl
    | some made => cases items.mapM f <;> simp [nestedAll]

theorem any_nested_map_array (items : Option (List (Data StatDto))) :
    (items.map Data.array).any (nested onNull) = items.any (nestedAll onNull) := by
  cases items <;> rfl

theorem nested_counts {cls : StatDto} {a b : String} {fields : List (String × Json)}
    (hcls : Decorated.properties cls = [countProperty a, countProperty b])
    (ha : a ∈ ["accredited", "nonAccredited", "affiliate", "nonAffiliate"])
    (hb : b ∈ ["accredited", "nonAccredited", "affiliate", "nonAffiliate"]) :
    nested onNull (.object cls (convertValue bigNumber (Json.toFields .plain fields))) =
      (passesCount bigNumber (fields.lookup a) && passesCount bigNumber (fields.lookup b)) := by
  rw [nested_object, hcls]
  simp only [List.all_cons, List.all_nil, Bool.and_true, accepts_count]
  show (isBigNumber {} (get _ a) && isBigNumber {} (get _ b)) = _
  rw [get_convertValue, get_convertValue, if_pos ha, if_pos hb, get_toFields, get_toFields,
    isBigNumber_toBigNumber, isBigNumber_toBigNumber]

theorem any_nested_transformValue {claimType : ClaimType}
    (h : isScopedCountType claimType = true) (value : Json) :
    (transformValue bigNumber (some claimType) value).any (nested onNull) =
      passesValue onNull bigNumber claimType (some value) := by
  cases value with
  | array items =>
    rw [transformValue, any_nested_map_array, any_nestedAll_mapM]
    simp only [any_nested_transformItem]
    cases claimType <;> rfl
  | object fields =>
    rw [transformValue, Option.any_some]
    cases claimType with
    | accredited => exact nested_counts rfl (by decide) (by decide)
    | affiliate => exact nested_counts rfl (by decide) (by decide)
    | jurisdiction => exact nested_plain onNull (Json.toFields .plain fields)
    | _ => cases h
  | null => cases claimType <;> rfl
  | _ => cases claimType <;> rfl

theorem get_transformScopedCount {fields : List (String × Json)}
    {transformed : List (String × Data StatDto)}
    (h : transformScopedCount bigNumber fields = some transformed) {name : String}
    (hname : name ≠ "value") : get transformed name = asData (fields.lookup name) := by
  rw [transformScopedCount] at h
  split at h
  · cases h
    exact get_toFields fields name
  · obtain ⟨made, -, rfl⟩ := Option.map_eq_some_iff.1 h
    rw [get_assign, if_neg hname, get_toFields]

theorem any_nested_value {claimType : ClaimType} (h : isScopedCountType claimType = true)
    {fields : List (String × Json)}
    (htype : enumOf claimTypes (fields.lookup "claimType") = some claimType) :
    (transformScopedCount bigNumber fields).any (fun transformed =>
        nested onNull (get transformed "value")) =
      passesValue onNull bigNumber claimType (fields.lookup "value") := by
  rw [transformScopedCount, htype]
  cases hvalue : fields.lookup "value" with
  | none =>
    show nested onNull (get _ "value") = _
    rw [get_toFields, hvalue]
    cases claimType <;> rfl
  | some value =>
    have hnested : (transformValue bigNumber (some claimType) value).any (nested onNull) = _ :=
      any_nested_transformValue h value
    show (Option.map _ _).any _ = _
    cases hmade : transformValue bigNumber (some claimType) value with
    | none =>
      rw [hmade] at hnested
      exact hnested
    | some made =>
      rw [hmade] at hnested
      show nested onNull (get _ "value") = _
      rw [get_assign, if_pos rfl]
      exact hnested

theorem any_nested_scopedCount {claimType : ClaimType} (h : isScopedCountType claimType = true)
    {fields : List (String × Json)} {cls : StatDto}
    (hcls : Decorated.properties cls = addClaimCountStat)
    (hstat : enumOf statTypes (fields.lookup "type") = some .scopedCount)
    (htype : enumOf claimTypes (fields.lookup "claimType") = some claimType) :
    ((transformScopedCount bigNumber fields).map (Data.object cls)).any (nested onNull) =
      (recognisedDid (fields.lookup "issuer") &&
        passesValue onNull bigNumber claimType (fields.lookup "value")) := by
  rw [← any_nested_value h htype]
  cases hmade : transformScopedCount bigNumber fields with
  | none => simp
  | some transformed =>
    have hget : ∀ name, name ≠ "value" → get transformed name = asData (fields.lookup name) :=
      fun _ => get_transformScopedCount hmade
    rw [Option.map_some, Option.any_some, Option.any_some, nested_object, hcls]
    simp [addClaimCountStat, assetStatBase, Property.accepts, hget, isDid_asData,
      isEnum_asData hstat, isEnum_asData htype]

theorem isSome_transformScopedCount (fields : List (String × Json)) :
    (transformScopedCount bigNumber fields).isSome = !holdsNull (fields.lookup "value") := by
  rw [transformScopedCount]
  cases fields.lookup "value" with
  | none => rfl
  | some value =>
    rw [Option.isSome_map]
    cases value with
    | array items =>
      rw [transformValue, Option.isSome_map, isSome_mapM, holdsNull, List.not_any_eq_all_not]
      refine congrArg (List.all _) (funext fun item => ?_)
      cases item <;> rfl
    | _ => rfl

/-- **What the pipeline lets through**, item by item. -/
theorem nested_transformStat (item : Json) :
    (transformStat bigNumber item).any (nested onNull) = passes onNull bigNumber item := by
  cases item with
  | object fields =>
    rw [transformStat, passes]
    split_ifs with hconstructor
    · rw [hconstructor, Bool.true_or]
      exact nested_plain onNull (Json.toFields .plain fields)
    · simp only [Bool.not_eq_true] at hconstructor
      rw [hconstructor, Bool.false_or]
      cases hstat : enumOf statTypes (fields.lookup "type") with
      | none => exact nested_plain onNull (Json.toFields .plain fields)
      | some type =>
        have htype := isEnum_asData hstat
        cases type with
        | count =>
          rw [Option.any_some, nested_object, ← isBigNumber_toBigNumber]
          simp [Decorated.properties, assetStatBase, countProperty, Property.accepts,
            get_convertCount, get_toFields, htype]
        | balance =>
          rw [Option.any_some, nested_object]
          simp [Decorated.properties, assetStatBase, Property.accepts, get_toFields, htype]
        | scopedBalance =>
          rw [Option.any_some, nested_object, ← isDid_asData, ← isTrustedForClaimType_asData]
          simp [Decorated.properties, assetStatBase, Property.accepts, get_toFields, htype]
        | scopedCount =>
          -- of another claim type it stays a plain object, of which nothing is asked
          have hother : ((transformScopedCount bigNumber fields).map fun _ =>
              Data.object StatDto.plain (Json.toFields .plain fields)).any (nested onNull) =
                !holdsNull (fields.lookup "value") := by
            rw [← @isSome_transformScopedCount bigNumber]
            cases transformScopedCount bigNumber fields with
            | none => rfl
            | some transformed => exact nested_plain onNull (Json.toFields .plain fields)
          cases hclaim : enumOf claimTypes (fields.lookup "claimType") with
          | none =>
            have hscoped : scopedCountType fields = none := by rw [scopedCountType, hclaim]; rfl
            simp only [hscoped]
            exact hother
          | some claimType =>
            have hfilter : scopedCountType fields = (some claimType).filter isScopedCountType := by
              rw [scopedCountType, hclaim]
            cases claimType with
            | accredited =>
              simp only [hfilter]
              exact any_nested_scopedCount rfl rfl hstat hclaim
            | affiliate =>
              simp only [hfilter]
              exact any_nested_scopedCount rfl rfl hstat hclaim
            | jurisdiction =>
              simp only [hfilter]
              exact any_nested_scopedCount rfl rfl hstat hclaim
            | _ =>
              simp only [hfilter]
              exact hother
  | array items => exact nested_toData (.array items)
  | _ => rfl

theorem accepted_array (items : List Json) :
    accepted onNull bigNumber (some (.array items)) = items.all (passes onNull bigNumber) := by
  rw [accepted, transformStats, any_nested_map_array, any_nestedAll_mapM]
  simp only [nested_transformStat]

end PolymeshRest
