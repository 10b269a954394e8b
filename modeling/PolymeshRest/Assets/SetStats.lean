import PolymeshRest.Assets.StatsAcceptance

/-!
# What is handed on of a request for statistics

`setStats` takes the items that the pipeline has left of the request and hands them to the asset.

* `isStat` : the statistics that the asset is meant to be given.
* `ensureStat_of_recognised` : a recognised item is handed on as such a statistic.
* `OnlyRecognised`, `NothingSlips` : the property of a request, and the requests that have it.
* `onlyRecognised_iff` : exactly these have it.
-/

namespace PolymeshRest

open Js
open Common (isDid isEnum isInstanceOfBigNumber isBigNumber)

/-! ### Statistics -/

/-- A count, as a number. -/
def isStatCount : Data StatDto → Bool
  | .bigNumber value => !value.isNaN
  | _ => false

/-- The count of a jurisdiction. -/
def isStatItem : Data StatDto → Bool
  | .object _ fields =>
    ((get fields "countryCode").isNullish || isEnum countryCodes (get fields "countryCode")) &&
      isStatCount (get fields "count")
  | _ => false

/-- The `value` that goes with a claim type. -/
def isStatValue : ClaimType → Data StatDto → Bool
  | .accredited, .object _ fields =>
    isStatCount (get fields "accredited") && isStatCount (get fields "nonAccredited")
  | .affiliate, .object _ fields =>
    isStatCount (get fields "affiliate") && isStatCount (get fields "nonAffiliate")
  | .jurisdiction, .array items => items.all isStatItem
  | _, _ => false

/-- A statistic that the asset is meant to be given. -/
def isStat : Data StatDto → Bool
  | .object _ fields =>
    match enumOfData statTypes (get fields "type") with
    | some .count => isStatCount (get fields "count")
    | some .balance => true
    | some .scopedBalance =>
      isDid (get fields "issuer") && isTrustedForClaimType (get fields "claimType")
    | some .scopedCount =>
      isDid (get fields "issuer") &&
        (enumOfData claimTypes (get fields "claimType")).any fun claimType =>
          isStatValue claimType (get fields "value")
    | none => false
  | _ => false

variable {onNull : OnNull} {bigNumber : String → BigNumber}
  {parts : BigNumber → List (String × Data StatDto)}

theorem enumOfData_asData {E : Type*} (values : List (String × E)) (value : Option Json) :
    enumOfData values (asData value) = enumOf values value := by
  rcases value with _ | ⟨⟩ | ⟨⟩ | ⟨⟩ | ⟨⟩ | ⟨⟩ | ⟨⟩ <;> rfl

theorem isStatCount_toBigNumber {count : Option Json}
    (h : recognisedCount bigNumber count = true) :
    isStatCount (toBigNumber bigNumber (asData count)) = true := by
  rcases count with _ | ⟨⟩ | ⟨⟩ | ⟨⟩ | ⟨s⟩ | ⟨⟩ | ⟨⟩ <;> exact h

theorem toBigNumber_toBigNumber (value : Data StatDto) :
    toBigNumber bigNumber (toBigNumber bigNumber value) = toBigNumber bigNumber value := by
  cases value <;> rfl

/-! ### Recognised items -/

section

variable {cls : StatDto} {fields : List (String × Data StatDto)}

theorem isSome_lookup {t : StatType} (h : enumOfData statTypes (get fields "type") = some t) :
    (fields.lookup "type").isSome = true := by
  rw [Js.get] at h
  cases hlookup : fields.lookup "type" with
  | none =>
    rw [hlookup] at h
    cases h
  | some value => rfl

theorem ensureStat_count (h : enumOfData statTypes (get fields "type") = some .count) :
    ensureStat bigNumber parts (.object cls fields) =
      some (.object .plain (convertCount bigNumber fields)) := by
  rw [ensureStat, if_pos (isSome_lookup h), h]

theorem ensureStat_balance {t : StatType} (h : enumOfData statTypes (get fields "type") = some t)
    (ht : t = .balance ∨ t = .scopedBalance) :
    ensureStat bigNumber parts (.object cls fields) = some (.object .plain fields) := by
  rw [ensureStat, if_pos (isSome_lookup h), h]
  rcases ht with rfl | rfl <;> rfl

theorem ensureStat_object {cls' : StatDto} {value : List (String × Data StatDto)}
    (h : enumOfData statTypes (get fields "type") = some .scopedCount)
    (hvalue : get fields "value" = .object cls' value) :
    ensureStat bigNumber parts (.object cls fields) = some (.object .plain
      (Record.assign "value" (.object .plain (convertValue bigNumber value)) fields)) := by
  rw [ensureStat, if_pos (isSome_lookup h), h, hvalue]

theorem ensureStat_array {items : List (Data StatDto)}
    (h : enumOfData statTypes (get fields "type") = some .scopedCount)
    (hvalue : get fields "value" = .array items) :
    ensureStat bigNumber parts (.object cls fields) =
      (items.mapM (ensureItem bigNumber parts)).map fun items =>
        .object .plain (Record.assign "value" (.array items) fields) := by
  rw [ensureStat, if_pos (isSome_lookup h), h, hvalue]

end

theorem exists_mapM {f : Json → Option (Data StatDto)} {g : Data StatDto → Option (Data StatDto)}
    {P : Data StatDto → Prop} {items : List Json}
    (h : ∀ item ∈ items, ∃ made stat,
      f item = some made ∧ g (whitelist made) = some stat ∧ P stat) :
    ∃ made stats, items.mapM f = some made ∧ (whitelistAll made).mapM g = some stats ∧
      ∀ stat ∈ stats, P stat := by
  induction items with
  | nil => exact ⟨[], [], rfl, rfl, nofun⟩
  | cons item items ih =>
    obtain ⟨made, stat, hmade, hstat, hP⟩ := h item List.mem_cons_self
    obtain ⟨rest, stats, hrest, hstats, hall⟩ := ih fun i hi => h i (List.mem_cons_of_mem _ hi)
    refine ⟨made :: rest, stat :: stats, ?_, ?_, List.forall_mem_cons.2 ⟨hP, hall⟩⟩
    · rw [List.mapM_cons, hmade, hrest]
      rfl
    · rw [whitelistAll, List.mapM_cons, hstat, hstats]
      rfl

theorem ensureItem_of_recognised {item : Json} (h : recognisedItem bigNumber item = true) :
    ∃ made stat, transformItem bigNumber item = some made ∧
      ensureItem bigNumber parts (whitelist made) = some stat ∧ isStatItem stat = true := by
  cases item with
  | object fields =>
    obtain ⟨hcountry, hcount⟩ := Bool.and_eq_true_iff.1 h
    refine ⟨_, _, rfl, rfl, ?_⟩
    have hcode : ((asData (fields.lookup "countryCode")).isNullish ||
        isEnum countryCodes (asData (fields.lookup "countryCode"))) = true := by
      rcases hlookup : fields.lookup "countryCode" with _ | ⟨⟩ | ⟨⟩ | ⟨⟩ | ⟨s⟩ | ⟨⟩ | ⟨⟩ <;>
        rw [hlookup] at hcountry <;> first | rfl | exact hcountry
    have hnumber := isStatCount_toBigNumber hcount
    have hcode' : get (whitelistFields (Decorated.properties .claimCountJurisdictionValueItem)
        (convertCount bigNumber (Json.toFields .plain fields))) "countryCode" = _ :=
      get_whitelistFields_flat rfl _
    have hcount' : get (whitelistFields (Decorated.properties .claimCountJurisdictionValueItem)
        (convertCount bigNumber (Json.toFields .plain fields))) "count" = _ :=
      get_whitelistFields_flat rfl _
    simp [isStatItem, whitelist, spread, get_assign, hcode', hcount', get_convertCount,
      get_toFields, toBigNumber_toBigNumber, hnumber, hcode]
  | _ => cases h

theorem isStatCount_value {fields : List (String × Json)} {properties : List (Property StatDto)}
    {name : String} (hname : name ∈ ["accredited", "nonAccredited", "affiliate", "nonAffiliate"])
    (hfind : (properties.find? fun p => p.name = name).map Property.nested = some false)
    (h : recognisedCount bigNumber (fields.lookup name) = true) :
    isStatCount (get (convertValue bigNumber (whitelistFields properties
      (convertValue bigNumber (Json.toFields .plain fields)))) name) = true := by
  rw [get_convertValue, if_pos hname, get_whitelistFields_flat hfind, get_convertValue,
    if_pos hname, toBigNumber_toBigNumber, get_toFields]
  exact isStatCount_toBigNumber h

section

variable {fields : List (String × Json)} {claimType : ClaimType} {made : Data StatDto}

/-- What is left of a `ScopedCount` with a `value`. -/
def scopedCountFields (fields : List (String × Json)) (made : Data StatDto) :
    List (String × Data StatDto) :=
  whitelistFields addClaimCountStat (Record.assign "value" made (Json.toFields .plain fields))

theorem get_scopedCountFields {name : String} (hname : name ≠ "value")
    (hfind : (addClaimCountStat.find? fun p => p.name = name).map Property.nested = some false) :
    get (scopedCountFields fields made) name = asData (fields.lookup name) := by
  rw [scopedCountFields, get_whitelistFields_flat hfind, get_assign, if_neg hname, get_toFields]

theorem get_scopedCountFields_value :
    get (scopedCountFields fields made) "value" = whitelist made := by
  have hvalue : ∃ p, (addClaimCountStat.find? fun p => p.name = "value") = some p ∧
      p.nested = true := ⟨_, rfl, rfl⟩
  obtain ⟨p, hfind, hnested⟩ := hvalue
  rw [scopedCountFields, get_whitelistFields hfind, hnested, if_pos rfl, get_assign, if_pos rfl]

theorem enumOfData_scopedCountFields
    (hstat : enumOf statTypes (fields.lookup "type") = some .scopedCount) :
    enumOfData statTypes (get (scopedCountFields fields made) "type") = some .scopedCount := by
  rw [get_scopedCountFields (by decide) rfl, enumOfData_asData, hstat]

theorem isStat_scopedCount (hstat : enumOf statTypes (fields.lookup "type") = some .scopedCount)
    (hclaim : enumOf claimTypes (fields.lookup "claimType") = some claimType)
    (hdid : recognisedDid (fields.lookup "issuer") = true) {value : Data StatDto}
    (hvalue : isStatValue claimType value = true) :
    isStat (.object .plain (Record.assign "value" value (scopedCountFields fields made))) =
      true := by
  have htype : enumOfData statTypes (get (Record.assign "value" value
      (scopedCountFields fields made)) "type") = some .scopedCount := by
    rw [get_assign, if_neg (by decide), enumOfData_scopedCountFields hstat]
  rw [isStat, htype]
  simp only [get_assign, String.reduceEq, if_false, if_true]
  rw [get_scopedCountFields (by decide) rfl, get_scopedCountFields (by decide) rfl,
    enumOfData_asData, hclaim, isDid_asData, hdid]
  exact hvalue

variable {cls : StatDto}

theorem whitelist_scopedCount (hcls : Decorated.properties cls = addClaimCountStat) :
    whitelist (.object cls (Record.assign "value" made (Json.toFields .plain fields))) =
      .object cls (scopedCountFields fields made) := by
  rw [whitelist, hcls, scopedCountFields]

theorem ensureStat_scopedCount_object {valueCls : StatDto} {value : List (String × Data StatDto)}
    (hcls : Decorated.properties cls = addClaimCountStat)
    (hstat : enumOf statTypes (fields.lookup "type") = some .scopedCount)
    (hmade : made = .object valueCls value) :
    ensureStat bigNumber parts (whitelist (.object cls
        (Record.assign "value" made (Json.toFields .plain fields)))) =
      some (.object .plain (Record.assign "value" (.object .plain (convertValue bigNumber
        (whitelistFields (Decorated.properties valueCls) value)))
          (scopedCountFields fields made))) := by
  have hget : get (scopedCountFields fields made) "value" =
      .object valueCls (whitelistFields (Decorated.properties valueCls) value) := by
    rw [get_scopedCountFields_value, hmade, whitelist]
  rw [whitelist_scopedCount hcls]
  exact ensureStat_object (enumOfData_scopedCountFields hstat) hget

/-- **What becomes of a recognised `ScopedCount`.** -/
theorem ensureStat_scopedCount (hcls : Decorated.properties cls = addClaimCountStat)
    (hstat : enumOf statTypes (fields.lookup "type") = some .scopedCount)
    (hclaim : enumOf claimTypes (fields.lookup "claimType") = some claimType)
    (hdid : recognisedDid (fields.lookup "issuer") = true)
    (hvalue : recognisedValue bigNumber claimType (fields.lookup "value") = true) :
    ∃ transformed stat, transformScopedCount bigNumber fields = some transformed ∧
      ensureStat bigNumber parts (whitelist (.object cls transformed)) = some stat ∧
        isStat stat = true := by
  have htransformed : ∀ {value made}, fields.lookup "value" = some value →
      transformValue bigNumber (some claimType) value = some made →
        transformScopedCount bigNumber fields =
          some (Record.assign "value" made (Json.toFields .plain fields)) := by
    intro value made hlookup hmade
    rw [transformScopedCount, hlookup]
    show (transformValue bigNumber (enumOf claimTypes _) value).map _ = _
    rw [hclaim, hmade]
    rfl
  cases hlookup : fields.lookup "value" with
  | none =>
    rw [hlookup] at hvalue
    cases claimType <;> cases hvalue
  | some value =>
    rw [hlookup] at hvalue
    cases claimType with
    | accredited =>
      rcases value with ⟨⟩ | ⟨⟩ | ⟨⟩ | ⟨⟩ | ⟨⟩ | ⟨value⟩ <;> try cases hvalue
      obtain ⟨haccredited, hnonAccredited⟩ := Bool.and_eq_true_iff.1 hvalue
      refine ⟨_, _, htransformed hlookup rfl, ensureStat_scopedCount_object hcls hstat rfl,
        isStat_scopedCount hstat hclaim hdid ?_⟩
      exact Bool.and_eq_true_iff.2 ⟨isStatCount_value (by decide) rfl haccredited,
        isStatCount_value (by decide) rfl hnonAccredited⟩
    | affiliate =>
      rcases value with ⟨⟩ | ⟨⟩ | ⟨⟩ | ⟨⟩ | ⟨⟩ | ⟨value⟩ <;> try cases hvalue
      obtain ⟨haffiliate, hnonAffiliate⟩ := Bool.and_eq_true_iff.1 hvalue
      refine ⟨_, _, htransformed hlookup rfl, ensureStat_scopedCount_object hcls hstat rfl,
        isStat_scopedCount hstat hclaim hdid ?_⟩
      exact Bool.and_eq_true_iff.2 ⟨isStatCount_value (by decide) rfl haffiliate,
        isStatCount_value (by decide) rfl hnonAffiliate⟩
    | jurisdiction =>
      rcases value with ⟨⟩ | ⟨⟩ | ⟨⟩ | ⟨⟩ | ⟨items⟩ | ⟨⟩ <;> try cases hvalue
      -- the items of the list are converted one by one, by the transformer and once more
      obtain ⟨made, stats, hmade, hstats, hall⟩ := exists_mapM fun item hitem =>
        ensureItem_of_recognised (List.all_eq_true.1 hvalue item hitem)
      have hitems : transformValue bigNumber (some .jurisdiction) (.array items) =
          some (.array made) := by
        rw [transformValue, hmade]
        rfl
      have hget : get (scopedCountFields fields (.array made)) "value" =
          .array (whitelistAll made) := by
        rw [get_scopedCountFields_value, whitelist]
      refine ⟨_, .object .plain (Record.assign "value" (.array stats)
        (scopedCountFields fields (.array made))), htransformed hlookup hitems, ?_,
        isStat_scopedCount hstat hclaim hdid (List.all_eq_true.2 hall)⟩
      rw [whitelist_scopedCount hcls, ensureStat_array (enumOfData_scopedCountFields hstat) hget,
        hstats]
      rfl
    | _ => cases hvalue

end

section

variable {fields : List (String × Json)}

theorem ensureStat_of_count (hstat : enumOf statTypes (fields.lookup "type") = some .count)
    (h : recognisedCount bigNumber (fields.lookup "count") = true) :
    ∃ stat, ensureStat bigNumber parts (whitelist (.object .addCountStat
        (convertCount bigNumber (Json.toFields .plain fields)))) = some stat ∧
      isStat stat = true := by
  have htype : enumOfData statTypes (get (whitelistFields (Decorated.properties .addCountStat)
      (convertCount bigNumber (Json.toFields .plain fields))) "type") = some .count := by
    rw [get_whitelistFields_flat rfl, get_convertCount, if_neg (by decide), get_toFields,
      enumOfData_asData, hstat]
  have hcount : get (whitelistFields (Decorated.properties .addCountStat)
      (convertCount bigNumber (Json.toFields .plain fields))) "count" =
        toBigNumber bigNumber (asData (fields.lookup "count")) := by
    rw [get_whitelistFields_flat rfl, get_convertCount, if_pos rfl, get_toFields]
  refine ⟨_, ensureStat_count htype, ?_⟩
  rw [isStat, get_convertCount, if_neg (by decide), htype]
  show isStatCount (get _ "count") = true
  rw [get_convertCount, if_pos rfl, hcount, toBigNumber_toBigNumber]
  exact isStatCount_toBigNumber h

theorem ensureStat_of_balance (hstat : enumOf statTypes (fields.lookup "type") = some .balance) :
    ∃ stat, ensureStat bigNumber parts (whitelist (.object .addPercentageStat
        (Json.toFields .plain fields))) = some stat ∧ isStat stat = true := by
  have htype : enumOfData statTypes (get (whitelistFields (Decorated.properties .addPercentageStat)
      (Json.toFields .plain fields)) "type") = some .balance := by
    rw [get_whitelistFields_flat rfl, get_toFields, enumOfData_asData, hstat]
  refine ⟨_, ensureStat_balance htype (.inl rfl), ?_⟩
  rw [isStat, htype]

theorem ensureStat_of_scopedBalance
    (hstat : enumOf statTypes (fields.lookup "type") = some .scopedBalance)
    (hdid : recognisedDid (fields.lookup "issuer") = true)
    (hclaim : recognisedTrustedFor (fields.lookup "claimType") = true) :
    ∃ stat, ensureStat bigNumber parts (whitelist (.object .addClaimPercentageStat
        (Json.toFields .plain fields))) = some stat ∧ isStat stat = true := by
  have hget : ∀ name, ((Decorated.properties StatDto.addClaimPercentageStat).find?
      fun p => p.name = name).map Property.nested = some false →
        get (whitelistFields (Decorated.properties .addClaimPercentageStat)
          (Json.toFields .plain fields)) name = asData (fields.lookup name) := by
    intro name hfind
    rw [get_whitelistFields_flat hfind, get_toFields]
  have htype : enumOfData statTypes (get (whitelistFields
      (Decorated.properties .addClaimPercentageStat) (Json.toFields .plain fields)) "type") =
        some .scopedBalance := by
    rw [hget "type" rfl, enumOfData_asData, hstat]
  refine ⟨_, ensureStat_balance htype (.inr rfl), ?_⟩
  rw [isStat, htype, hget "issuer" rfl, hget "claimType" rfl, isDid_asData,
    isTrustedForClaimType_asData, hdid, hclaim]
  rfl

end

/-- **What becomes of a recognised item**: a statistic that the asset is meant to be given. -/
theorem ensureStat_of_recognised {item : Json} (h : recognised bigNumber item = true) :
    ∃ made stat, transformStat bigNumber item = some made ∧
      ensureStat bigNumber parts (whitelist made) = some stat ∧ isStat stat = true := by
  cases item with
  | object fields =>
    obtain ⟨hconstructor, hshape⟩ := Bool.and_eq_true_iff.1 h
    have hplain : ¬ (fields.lookup "constructor").isSome = true := by
      intro hown
      rw [hown] at hconstructor
      cases hconstructor
    rw [transformStat, if_neg hplain]
    cases hstat : enumOf statTypes (fields.lookup "type") with
    | none =>
      rw [hstat] at hshape
      cases hshape
    | some type =>
      rw [hstat] at hshape
      cases type with
      | count =>
        obtain ⟨stat, hstat'⟩ := ensureStat_of_count hstat hshape
        exact ⟨_, stat, rfl, hstat'⟩
      | balance =>
        obtain ⟨stat, hstat'⟩ := @ensureStat_of_balance bigNumber parts _ hstat
        exact ⟨_, stat, rfl, hstat'⟩
      | scopedBalance =>
        obtain ⟨hdid, hclaim⟩ := Bool.and_eq_true_iff.1 hshape
        obtain ⟨stat, hstat'⟩ := @ensureStat_of_scopedBalance bigNumber parts _ hstat hdid hclaim
        exact ⟨_, stat, rfl, hstat'⟩
      | scopedCount =>
        cases htype : scopedCountType fields with
        | none =>
          rw [htype] at hshape
          cases hshape
        | some claimType =>
          rw [htype] at hshape
          obtain ⟨hdid, hvalue⟩ := Bool.and_eq_true_iff.1 hshape
          obtain ⟨hclaim, hscoped⟩ := Option.filter_eq_some_iff.1 htype
          -- the class goes with the claim type; the argument is the same for the three
          have hensure := fun cls hcls =>
            @ensureStat_scopedCount bigNumber parts _ _ cls hcls hstat hclaim hdid hvalue
          cases claimType with
          | accredited =>
            obtain ⟨_, stat, hmade, hstat'⟩ := hensure .addClaimCountAccreditedStat rfl
            exact ⟨_, stat, by rw [hmade, hclaim]; rfl, hstat'⟩
          | affiliate =>
            obtain ⟨_, stat, hmade, hstat'⟩ := hensure .addClaimCountAffiliateStat rfl
            exact ⟨_, stat, by rw [hmade, hclaim]; rfl, hstat'⟩
          | jurisdiction =>
            obtain ⟨_, stat, hmade, hstat'⟩ := hensure .addClaimCountJurisdictionStat rfl
            exact ⟨_, stat, by rw [hmade, hclaim]; rfl, hstat'⟩
          | _ => cases hscoped
  | _ => cases h

/-! ### The field -/

variable (onNull bigNumber parts)

/-- Only a list of recognised items is accepted, and what is handed on is what is meant to be. -/
structure OnlyRecognised (stats : Option Json) : Prop where
  accepts : accepted onNull bigNumber stats = true →
    ∃ items, stats = some (.array items) ∧ items ≠ [] ∧
      ∀ item ∈ items, recognised bigNumber item = true
  hands : ∀ handed, setStats onNull bigNumber parts stats = some handed →
    ∀ stat ∈ handed, isStat stat = true

/-- The field is not missing, an object, an empty list or a `null` that is skipped; and if it is a
list, something in it is refused, or nothing in it is of the kinds that slip through. -/
def NothingSlips : Option Json → Prop
  | none | some (.object _) => False
  | some .null => onNull = .refuse
  | some (.array items) => items ≠ [] ∧
      ((∃ item ∈ items, passes onNull bigNumber item = false) ∨ ∀ item ∈ items, slips item = false)
  | _ => True

variable {onNull bigNumber parts}

theorem setStats_of_recognised {items : List Json}
    (h : ∀ item ∈ items, recognised bigNumber item = true) {handed : List (Data StatDto)}
    (hhanded : setStats onNull bigNumber parts (some (.array items)) = some handed) :
    ∀ stat ∈ handed, isStat stat = true := by
  obtain ⟨made, stats, hmade, hstats, hall⟩ := exists_mapM fun item hitem =>
    @ensureStat_of_recognised bigNumber parts item (h item hitem)
  rw [setStats, transformStats, hmade, Option.map_some] at hhanded
  simp only [ensureStatsBigNumberConversion, hstats] at hhanded
  split_ifs at hhanded
  cases hhanded
  exact hall

theorem accepted_of_setStats {items : List Json} {handed : List (Data StatDto)}
    (h : setStats onNull bigNumber parts (some (.array items)) = some handed) :
    accepted onNull bigNumber (some (.array items)) = true := by
  rw [setStats, transformStats] at h
  rw [accepted, transformStats, any_nested_map_array]
  cases hmade : items.mapM (transformStat bigNumber) with
  | none =>
    rw [hmade] at h
    cases h
  | some made =>
    rw [hmade] at h
    simp only [Option.map_some] at h
    split_ifs at h with hnested
    exact hnested

theorem onlyRecognised_array (items : List Json) :
    OnlyRecognised onNull bigNumber parts (some (.array items)) ↔
      NothingSlips onNull bigNumber (some (.array items)) := by
  have hrecognised : (∀ item ∈ items, passes onNull bigNumber item = true) →
      ((∀ item ∈ items, recognised bigNumber item = true) ↔ ∀ item ∈ items, slips item = false) :=
    fun hpasses => forall₂_congr fun item hitem => by
      simp [recognised_eq onNull, hpasses item hitem]
  constructor
  · rintro ⟨haccepts, -⟩
    rw [accepted_array, List.all_eq_true] at haccepts
    by_cases hpasses : ∀ item ∈ items, passes onNull bigNumber item = true
    · obtain ⟨_, heq, hne, hall⟩ := haccepts hpasses
      cases heq
      exact ⟨hne, .inr ((hrecognised hpasses).1 hall)⟩
    · push Not at hpasses
      obtain ⟨item, hitem, hrefused⟩ := hpasses
      refine ⟨List.ne_nil_of_mem hitem, .inl ⟨item, hitem, Bool.eq_false_iff.2 hrefused⟩⟩
  · rintro ⟨hne, hslips⟩
    have hall : accepted onNull bigNumber (some (.array items)) = true →
        ∀ item ∈ items, recognised bigNumber item = true := by
      intro haccepted
      rw [accepted_array, List.all_eq_true] at haccepted
      rcases hslips with ⟨item, hitem, hrefused⟩ | hslips
      · rw [haccepted item hitem] at hrefused
        cases hrefused
      · exact (hrecognised haccepted).2 hslips
    exact ⟨fun haccepted => ⟨items, rfl, hne, hall haccepted⟩,
      fun handed hhanded => setStats_of_recognised (hall (accepted_of_setStats hhanded)) hhanded⟩

/-- **Which requests only let recognised statistics through**: the ones in which nothing is missing
or of the kinds that nobody looks at, and the ones that are refused anyhow. -/
theorem onlyRecognised_iff (stats : Option Json) :
    OnlyRecognised onNull bigNumber parts stats ↔ NothingSlips onNull bigNumber stats := by
  have hno : accepted onNull bigNumber stats = true →
      (∀ items, stats ≠ some (.array items)) → ¬ OnlyRecognised onNull bigNumber parts stats := by
    rintro haccepted hne ⟨haccepts, -⟩
    obtain ⟨items, heq, -⟩ := haccepts haccepted
    exact hne items heq
  rcases stats with _ | ⟨⟩ | ⟨⟩ | ⟨⟩ | ⟨⟩ | ⟨items⟩ | ⟨fields⟩
  · exact ⟨hno rfl nofun, False.elim⟩
  · cases onNull with
    | skip => exact iff_of_false (hno rfl nofun) (by simp [NothingSlips])
    | refuse => exact ⟨fun _ => rfl, fun _ => ⟨nofun, nofun⟩⟩
  · exact ⟨fun _ => trivial, fun _ => ⟨nofun, nofun⟩⟩
  · exact ⟨fun _ => trivial, fun _ => ⟨nofun, nofun⟩⟩
  · exact ⟨fun _ => trivial, fun _ => ⟨nofun, nofun⟩⟩
  · exact onlyRecognised_array items
  · exact ⟨hno (nested_plain onNull (Json.toFields .plain fields)) nofun, False.elim⟩

/-- A request without statistics is accepted. -/
theorem missing_accepted :
    ¬ ∀ (bigNumber : String → BigNumber) (parts : BigNumber → List (String × Data StatDto))
      (stats : Option Json), OnlyRecognised .skip bigNumber parts stats := by
  intro hall
  obtain ⟨items, hitems, -⟩ := (hall (fun _ => .nan) (fun _ => []) none).accepts rfl
  cases hitems

end PolymeshRest
