import PolymeshRest.Assets.SetStats

/-!
# The transformer of statistics on values of any kind

`TransformScopedCountStats` takes the items of a request, and it may be given items that are
instances already or hold numbers of any size.  On the JSON of a request it does what
`transformStats` says.

* `TransformScopedCountStats.transform`, `TransformScopedCountStats.transformStats` : one item, and
  the field.
* `transform_toData`, `transformStats_asData` : on a request they are the functions there are.
-/

namespace PolymeshRest

open Js

/-! ### The transformer -/

namespace TransformScopedCountStats

variable (bigNumber : String → BigNumber) (parts : BigNumber → List (String × Data StatDto))

/-- An item of a `value` that is an array; reading `count` of `null` throws. -/
def transformItem : Data StatDto → Option (Data StatDto)
  | .undefined | .null => none
  | item =>
    some (.object .claimCountJurisdictionValueItem (convertCount bigNumber (spread parts item)))

/-- `value` -/
def transformValue (claimType : Option ClaimType) : Data StatDto → Option (Data StatDto)
  | .object _ fields => some (.object (valueClass claimType) (convertValue bigNumber fields))
  | .bigNumber value =>
    some (.object (valueClass claimType) (convertValue bigNumber (parts value)))
  | .array items => (items.mapM (transformItem bigNumber parts)).map .array
  | value => some value

/-- The properties of a `ScopedCount`, with its `value` if it has one. -/
def transformScopedCount (fields : List (String × Data StatDto)) :
    Option (List (String × Data StatDto)) :=
  match fields.lookup "value" with
  | none => some fields
  | some value =>
    (transformValue bigNumber parts (enumOfData claimTypes (get fields "claimType")) value).map
      fun value => Record.assign "value" value fields

/-- The classes whose instances stay as they are. -/
def isInstance : StatDto → Bool
  | .addCountStat | .addPercentageStat | .addClaimPercentageStat | .addClaimCountAccreditedStat
  | .addClaimCountAffiliateStat | .addClaimCountJurisdictionStat => true
  | _ => false

/-- `stat.constructor === Object || stat.constructor === undefined` -/
def isPlain (cls : StatDto) (fields : List (String × Data StatDto)) : Bool :=
  match fields.lookup "constructor" with
  | none => cls = .plain
  | some .undefined => true
  | _ => false

/-- One item. -/
def transform : Data StatDto → Option (Data StatDto)
  | .object cls fields =>
    if !isInstance cls && isPlain cls fields then
      match enumOfData statTypes (get fields "type") with
      | some .count => some (.object .addCountStat (convertCount bigNumber fields))
      | some .balance => some (.object .addPercentageStat fields)
      | some .scopedBalance => some (.object .addClaimPercentageStat fields)
      | some .scopedCount =>
        (transformScopedCount bigNumber parts fields).map fun transformed =>
          match enumOfData claimTypes (get fields "claimType") with
          | some .accredited => .object .addClaimCountAccreditedStat transformed
          | some .affiliate => .object .addClaimCountAffiliateStat transformed
          | some .jurisdiction => .object .addClaimCountJurisdictionStat transformed
          | _ => .object cls fields
      | none => some (.object cls fields)
    else some (.object cls fields)
  | stat => some stat

/-- The items of the field. -/
def transformAll (stats : List (Data StatDto)) : Option (List (Data StatDto)) :=
  stats.mapM (transform bigNumber parts)

/-- The field; what is no list stays. -/
def transformStats : Data StatDto → Option (Data StatDto)
  | .array stats => (transformAll bigNumber parts stats).map .array
  | stats => some stats

/-! ### The JSON of a request -/

variable {bigNumber parts}

theorem convertCount_of_undefined {fields : List (String × Data StatDto)}
    (h : get fields "count" = .undefined) : convertCount bigNumber fields = fields := by
  rw [convertCount, h]

theorem convertCount_indexed (items : List Json) :
    convertCount bigNumber (Json.toFields .plain (indexed items)) =
      Json.toFields .plain (indexed items) := by
  refine convertCount_of_undefined ?_
  rw [get_toFields, lookup_indexed (by decide : 'c' ∈ _) rfl items]
  rfl

theorem transformItem_toData (item : Json) :
    transformItem bigNumber parts (item.toData .plain) =
      PolymeshRest.transformItem bigNumber item := by
  have hentries : item ≠ .null → transformItem bigNumber parts (item.toData .plain) =
      some (.object .claimCountJurisdictionValueItem
        (convertCount bigNumber (Json.toFields .plain item.entries))) := by
    intro hnull
    rw [← spread_toData parts]
    cases item with
    | null => exact absurd rfl hnull
    | _ => rfl
  cases item with
  | array items =>
    rw [hentries (by simp), Json.entries, convertCount_indexed]
    rfl
  | string s =>
    rw [hentries (by simp), Json.entries, convertCount_indexed]
    rfl
  | _ => rfl

theorem transformItems_toData (items : List Json) :
    ((Json.toDataAll .plain items).mapM (transformItem bigNumber parts)) =
      items.mapM (PolymeshRest.transformItem bigNumber) := by
  rw [Json.toDataAll_eq_map, List.mapM_map]
  exact congrArg (items.mapM ·) (funext transformItem_toData)

theorem transformValue_toData (claimType : Option ClaimType) (value : Json) :
    transformValue bigNumber parts claimType (value.toData .plain) =
      PolymeshRest.transformValue bigNumber claimType value := by
  cases value with
  | array items => exact congrArg (Option.map Data.array) (transformItems_toData items)
  | _ => rfl

theorem transformScopedCount_toFields (fields : List (String × Json)) :
    transformScopedCount bigNumber parts (Json.toFields .plain fields) =
      PolymeshRest.transformScopedCount bigNumber fields := by
  rw [transformScopedCount, PolymeshRest.transformScopedCount, lookup_toFields, get_toFields,
    enumOfData_asData]
  cases fields.lookup "value" with
  | none => rfl
  | some value =>
    rw [Option.map_some]
    simp only [transformValue_toData]

/-- **An item of a request** is taken as the model of requests says. -/
theorem transform_toData (stat : Json) :
    transform bigNumber parts (stat.toData .plain) = transformStat bigNumber stat := by
  cases stat with
  | object fields =>
    have hplain : isPlain .plain (Json.toFields .plain fields) =
        !(fields.lookup "constructor").isSome := by
      rw [isPlain, lookup_toFields]
      cases fields.lookup "constructor" with
      | none => rfl
      | some value => cases value <;> rfl
    rw [Json.toData, transform, transformStat, hplain]
    cases (fields.lookup "constructor").isSome with
    | true => rfl
    | false =>
      simp only [get_toFields, enumOfData_asData, transformScopedCount_toFields]
      rfl
  | _ => rfl

/-- **The field of a request** is taken as the model of requests says. -/
theorem transformStats_asData (stats : Option Json) :
    transformStats bigNumber parts (asData stats) =
      PolymeshRest.transformStats bigNumber stats := by
  rcases stats with _ | ⟨⟩ | ⟨⟩ | ⟨⟩ | ⟨⟩ | ⟨items⟩ | ⟨⟩ <;> try rfl
  show ((Json.toDataAll .plain items).mapM (transform bigNumber parts)).map Data.array =
    (items.mapM (transformStat bigNumber)).map .array
  rw [Json.toDataAll_eq_map, List.mapM_map]
  exact congrArg (fun f => (items.mapM f).map Data.array) (funext transform_toData)

end TransformScopedCountStats

end PolymeshRest
