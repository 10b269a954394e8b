import PolymeshRest.Assets.Stats
import PolymeshRest.Js.ClassTransformer
import PolymeshRest.Js.ImplicitConversion

/-!
# Requests of transfer restrictions

The field `restrictions` of a request to set the transfer restrictions of an asset:
`class-transformer` makes instances of it, by the `type` of each restriction and of its claim,
`class-validator` goes over them, and `transferRestrictionsDtoToRestrictions` brings them to the
form that the SDK takes.  The conversion throws for some of the requests that are accepted.

The application converts the properties of its classes implicitly, so that whatever is sent for
`accredited` or `affiliate` becomes a boolean.  What it makes of a property that is a number is part
of what `new BigNumber` is given, a parameter.

* `Dto`, `conversion` : the classes with their decorators.
* `handedOn` : the value that an accepted request has after the pipeline.
* `transferRestrictionsDtoToRestrictions` : the conversion, which throws where there is none.
* `requestedRestriction` : what a restriction of the request asks for, read from its JSON.
* `Reading` : what a value of `accredited` or `affiliate` asks for.
* `convertible` : the requests that are lists of restrictions with a supported claim where there
  has to be one.
* `converts_iff` : an accepted request is converted, to what it asks for, if it is convertible.
-/

namespace PolymeshRest

namespace SetTransferRestrictions

open Js

/-! ### The classes -/

/-- The classes of restrictions and of their claims, and that of plain objects. -/
inductive Dto where
  | plain
  | transferRestrictionBase
  | transferRestrictionCountInput
  | transferRestrictionPercentageInput
  | transferRestrictionClaimCountInput
  | transferRestrictionClaimPercentageInput
  | statClaim
  | statAccreditedClaim
  | statAffiliateClaim
  | statJurisdictionClaim
  deriving DecidableEq, Repr

/-- The values of `TransferRestrictionType`. -/
def transferRestrictionTypes : List String :=
  ["Count", "Percentage", "ClaimCount", "ClaimPercentage"]

/-- `TransferRestrictionBaseDto` -/
def transferRestrictionBase : List (Property Dto) :=
  [{ name := "type", checks := [Common.isEnum transferRestrictionTypes] }]

/-- `TransferRestrictionClaimBaseInputDto` -/
def transferRestrictionClaimBaseInput : List (Property Dto) :=
  transferRestrictionBase ++
    [{ name := "issuer", checks := [Common.isDid] }, { name := "claim", nested := true }]

/-- `StatClaimBaseDto` -/
def statClaimBase : List (Property Dto) :=
  [{ name := "type", checks := [Common.isEnum (claimTypes.map Prod.fst)] }]

/-- `@IsBigNumber({ min: 0, max: 100 })` -/
def isPercentage : Data Dto → Bool := Common.isBigNumber { min := some 0, max := some 100 }

instance : Decorated Dto where
  properties
    | .plain => []
    | .transferRestrictionBase => transferRestrictionBase
    | .transferRestrictionCountInput =>
      transferRestrictionBase ++ [{ name := "count", checks := [Common.isBigNumber {}] }]
    | .transferRestrictionPercentageInput =>
      transferRestrictionBase ++ [{ name := "percentage", checks := [isPercentage] }]
    | .transferRestrictionClaimCountInput =>
      transferRestrictionClaimBaseInput ++
        [{ name := "min", checks := [Common.isBigNumber {}] },
          { name := "max", checks := [Common.isBigNumber {}] }]
    | .transferRestrictionClaimPercentageInput =>
      transferRestrictionClaimBaseInput ++
        [{ name := "min", checks := [isPercentage] }, { name := "max", checks := [isPercentage] }]
    | .statClaim => statClaimBase
    | .statAccreditedClaim =>
      statClaimBase ++ [{ name := "accredited", checks := [Common.isBoolean] }]
    | .statAffiliateClaim =>
      statClaimBase ++ [{ name := "affiliate", checks := [Common.isBoolean] }]
    | .statJurisdictionClaim =>
      statClaimBase ++
        [{ name := "countryCode", optional := true, checks := [Common.isEnum countryCodes] }]

/-- `@Type()` of `restrictions` -/
def restrictionType : TypeOf Dto :=
  .discriminator "type"
    [("Count", .transferRestrictionCountInput),
      ("Percentage", .transferRestrictionPercentageInput),
      ("ClaimCount", .transferRestrictionClaimCountInput),
      ("ClaimPercentage", .transferRestrictionClaimPercentageInput)]
    .transferRestrictionBase

/-- `@Type()` of `claim` -/
def statClaimType : TypeOf Dto :=
  .discriminator "type"
    [("Accredited", .statAccreditedClaim), ("Affiliate", .statAffiliateClaim),
      ("Jurisdiction", .statJurisdictionClaim)]
    .statClaim

/-- What the application is built with: `String(value)`, and `new BigNumber(value)` of what is sent
for a property that is a number, which may throw. -/
structure Library extends Texts Dto where
  bigNumber : Data Dto → Option BigNumber

section

variable (library : Library)

/-- The decorators that convert properties, and the implicit conversions. -/
def conversion : Dto → String → Conversion Dto
  | .plain, _ => {}
  | _, "type" => { transform := library.toText }
  | .transferRestrictionCountInput, "count" | .transferRestrictionPercentageInput, "percentage" =>
    { transform := Common.toBigNumber library.bigNumber }
  | .transferRestrictionClaimCountInput, "issuer"
  | .transferRestrictionClaimPercentageInput, "issuer" => { transform := library.toText }
  | .transferRestrictionClaimCountInput, "claim"
  | .transferRestrictionClaimPercentageInput, "claim" => { type := some statClaimType }
  | .transferRestrictionClaimCountInput, "min" | .transferRestrictionClaimCountInput, "max" =>
    { transform := Common.toBigNumber library.bigNumber }
  | .transferRestrictionClaimPercentageInput, "min"
  | .transferRestrictionClaimPercentageInput, "max" =>
    { transform := Common.toBigNumber library.bigNumber }
  | .statAccreditedClaim, "accredited" | .statAffiliateClaim, "affiliate" =>
    { transform := toBoolean }
  | .statJurisdictionClaim, "countryCode" => { transform := library.toText }
  | _, _ => {}

/-! ### The pipeline -/

/-- The field of the instance; the request may lack it. -/
def transformRestrictions : Option Json → Option (Data Dto)
  | none => some .undefined
  | some restrictions =>
    instantiate (conversion library) restrictionType (restrictions.toData .plain)

/-- The field after the pipeline, if the request is accepted. -/
def handedOn (onNull : OnNull) (restrictions : Option Json) : Option (Data Dto) :=
  ((transformRestrictions library restrictions).filter (nested onNull)).map whitelist

end

/-! ### `transferRestrictionsDtoToRestrictions` -/

/-- `InputStatClaim` -/
inductive InputStatClaim where
  | accredited (accredited : Data Dto)
  | affiliate (affiliate : Data Dto)
  | jurisdiction (countryCode : Data Dto)

/-- A restriction in the form that the SDK takes. -/
inductive RestrictionInput (I : Type) where
  | count (count : Data Dto)
  | percentage (percentage : Data Dto)
  | claimCount (min max : Data Dto) (claim : InputStatClaim) (issuer : I)
  | claimPercentage (min max : Data Dto) (claim : InputStatClaim) (issuer : I)

/-- `toInputStatClaim`; only an object has a `type`, and reading that of `undefined` throws too. -/
def toInputStatClaim : Data Dto → Option InputStatClaim
  | .object _ claim =>
    match get claim "type" with
    | .string "Accredited" => some (.accredited (get claim "accredited"))
    | .string "Affiliate" => some (.affiliate (get claim "affiliate"))
    | .string "Jurisdiction" => some (.jurisdiction (get claim "countryCode"))
    | _ => none
  | _ => none

variable {I : Type} (resolveIdentity : Data Dto → Option I)

/-- One restriction. -/
def toRestriction : Data Dto → Option (RestrictionInput I)
  | .object _ restriction =>
    match get restriction "type" with
    | .string "Count" => some (.count (get restriction "count"))
    | .string "Percentage" => some (.percentage (get restriction "percentage"))
    | .string "ClaimCount" => do
      let issuer ← resolveIdentity (get restriction "issuer")
      let claim ← toInputStatClaim (get restriction "claim")
      return .claimCount (get restriction "min") (get restriction "max") claim issuer
    | .string "ClaimPercentage" => do
      let issuer ← resolveIdentity (get restriction "issuer")
      let claim ← toInputStatClaim (get restriction "claim")
      return .claimPercentage (get restriction "min") (get restriction "max") claim issuer
    | _ => none
  | _ => none

/-- `transferRestrictionsDtoToRestrictions`; only an array has a `map`. -/
def transferRestrictionsDtoToRestrictions : Data Dto → Option (List (RestrictionInput I))
  | .array restrictions => restrictions.mapM (toRestriction resolveIdentity)
  | _ => none

/-! ### What a request asks for -/

/-- What a value of `accredited` or `affiliate` asks for: a boolean asks for itself. -/
structure Reading where
  asks : Data Dto → Option Bool
  asks_bool : ∀ b, asks (.bool b) = some b

/-- Only booleans ask for anything. -/
def Reading.strict : Reading where
  asks
    | .bool b => some b
    | _ => none
  asks_bool _ := rfl

/-- A property of the JSON, `undefined` if it is missing. -/
def sent (fields : List (String × Json)) (name : String) : Data Dto :=
  get (Json.toFields .plain fields) name

section

variable (library : Library) (reading : Reading)

/-- The numbers of a property of the JSON. -/
def numbersOf (fields : List (String × Json)) (name : String) : Option (Data Dto) :=
  match fields.lookup name with
  | none => some .undefined
  | some value => Common.toBigNumber library.bigNumber (value.toData .plain)

/-- The claim that is asked for, if it is a supported one. -/
def requestedClaim : Option Json → Option InputStatClaim
  | some (.object claim) =>
    match claim.lookup "type" with
    | some (.string "Accredited") =>
      (reading.asks (sent claim "accredited")).map fun b => .accredited (.bool b)
    | some (.string "Affiliate") =>
      (reading.asks (sent claim "affiliate")).map fun b => .affiliate (.bool b)
    | some (.string "Jurisdiction") => some (.jurisdiction (sent claim "countryCode"))
    | _ => none
  | _ => none

/-- The restriction that is asked for. -/
def requestedRestriction : Json → Option (RestrictionInput I)
  | .object fields =>
    match fields.lookup "type" with
    | some (.string "Count") => (numbersOf library fields "count").map .count
    | some (.string "Percentage") => (numbersOf library fields "percentage").map .percentage
    | some (.string "ClaimCount") => do
      let min ← numbersOf library fields "min"
      let max ← numbersOf library fields "max"
      let issuer ← resolveIdentity (sent fields "issuer")
      let claim ← requestedClaim reading (fields.lookup "claim")
      return .claimCount min max claim issuer
    | some (.string "ClaimPercentage") => do
      let min ← numbersOf library fields "min"
      let max ← numbersOf library fields "max"
      let issuer ← resolveIdentity (sent fields "issuer")
      let claim ← requestedClaim reading (fields.lookup "claim")
      return .claimPercentage min max claim issuer
    | _ => none
  | _ => none

/-- Whatever the pipeline hands on is converted, one restriction for each that is asked for. -/
def Converts (onNull : OnNull) (restrictions : Option Json) : Prop :=
  ∀ value, handedOn library onNull restrictions = some value →
    ∃ items converted, restrictions = some (.array items) ∧
      transferRestrictionsDtoToRestrictions resolveIdentity value = some converted ∧
        List.Forall₂ (fun item restriction =>
          requestedRestriction resolveIdentity library reading item = some restriction)
          items converted

/-- The value asks for what it is converted to. -/
def Reading.keeps (value : Data Dto) : Bool := reading.asks value = some value.isTruthy

/-- A claim of one of the three supported types, whose boolean is kept. -/
def supportedClaim : Option Json → Bool
  | some (.object claim) =>
    match claim.lookup "type" with
    | some (.string "Accredited") => reading.keeps (sent claim "accredited")
    | some (.string "Affiliate") => reading.keeps (sent claim "affiliate")
    | some (.string "Jurisdiction") => true
    | _ => false
  | _ => false

/-- An object, with a supported claim if it restricts the holders of a claim. -/
def convertibleItem : Json → Bool
  | .object fields =>
    match fields.lookup "type" with
    | some (.string "ClaimCount") | some (.string "ClaimPercentage") =>
      supportedClaim reading (fields.lookup "claim")
    | _ => true
  | _ => false

/-- A list of such restrictions. -/
def convertible : Option Json → Bool
  | some (.array items) => items.all (convertibleItem reading)
  | _ => false

end

/-! ### Reading instances -/

section

variable {library : Library} {onNull : OnNull} {cls : Dto} {fields : List (String × Json)}
  {made : List (String × Data Dto)}

theorem sent_eq (fields : List (String × Json)) (name : String) :
    sent fields name = ((fields.lookup name).map (Json.toData .plain)).getD .undefined := by
  rw [sent, Js.get, lookup_toFields]

theorem sent_eq_string_iff {name value : String} :
    sent fields name = .string value ↔ fields.lookup name = some (.string value) := by
  rw [sent_eq]
  cases fields.lookup name with
  | none => simp
  | some json => cases json <;> simp [Json.toData]

theorem get_implicit
    (h : instantiateFields (conversion library) cls (Json.toFields .plain fields) = some made)
    (name : String) {convert : Data Dto → Option (Data Dto)} (hname : name ∉ objectMethods)
    (hconversion : conversion library cls name = { transform := implicit convert }) :
    implicit convert (sent fields name) = some (get made name) := by
  have hget := get_instantiateFields h hname
  rw [hconversion, lookup_toFields] at hget
  rw [sent_eq, hget]
  cases fields.lookup name <;> rfl

theorem sent_of_text (hdocumented : library.Documented)
    (h : instantiateFields (conversion library) cls (Json.toFields .plain fields) = some made)
    (name : String) {text : String} (hname : name ∉ objectMethods)
    (hconversion : conversion library cls name = { transform := library.toText })
    (hget : get made name = .string text) (hown : isOwnText text = true) :
    sent fields name = .string text :=
  eq_string_of_toText hdocumented hown (hget ▸ get_implicit h name hname hconversion)

theorem get_boolean
    (h : instantiateFields (conversion library) cls (Json.toFields .plain fields) = some made)
    (hnested : nested onNull (.object cls made) = true) (name : String)
    (hflat : ((Decorated.properties cls).find? fun p => p.name = name).map Property.nested =
      some false)
    (hname : name ∉ objectMethods)
    (hmem : { name, checks := [Common.isBoolean] } ∈ Decorated.properties cls)
    (hconversion : conversion library cls name = { transform := toBoolean }) :
    get (whitelistFields (Decorated.properties cls) made) name =
      .bool (sent fields name).isTruthy := by
  rw [get_whitelistFields_flat hflat]
  have hconverted := get_implicit h name hname hconversion
  have hboolean := check_of_nested hnested hmem rfl List.mem_cons_self
  cases hget : get made name with
  | bool b =>
    rw [hget] at hconverted
    rw [eq_isTruthy_of_toBoolean hconverted]
  | _ =>
    rw [hget] at hboolean
    cases hboolean

theorem get_numbers
    (h : instantiateFields (conversion library) cls (Json.toFields .plain fields) = some made)
    (name : String)
    (hflat : ((Decorated.properties cls).find? fun p => p.name = name).map Property.nested =
      some false)
    (hname : name ∉ objectMethods)
    (hconversion : conversion library cls name =
      { transform := Common.toBigNumber library.bigNumber }) :
    numbersOf library fields name =
      some (get (whitelistFields (Decorated.properties cls) made) name) := by
  have hget := get_instantiateFields h hname
  rw [hconversion, lookup_toFields] at hget
  rw [get_whitelistFields_flat hflat, hget, numbersOf]
  cases fields.lookup name <;> rfl

theorem exists_of_instantiate {type : TypeOf Dto} {value : Data Dto}
    (h : instantiate (conversion library) type ((Json.object fields).toData .plain) =
      some value) :
    ∃ made, instantiateFields (conversion library)
        (type.classOf (Json.toFields .plain fields)) (Json.toFields .plain fields) = some made ∧
      value = .object (type.classOf (Json.toFields .plain fields)) made := by
  rw [Json.toData, instantiate] at h
  obtain ⟨made, hmade, heq⟩ := Option.map_eq_some_iff.1 h
  exact ⟨made, hmade, heq.symm⟩

/-- A class that tells its instances apart by a `type` out of some values. -/
structure IsTyped (values : List String) (cls : Dto) : Prop where
  mem : { name := "type", checks := [Common.isEnum values] } ∈ Decorated.properties cls
  flat : ((Decorated.properties cls).find? fun p => p.name = "type").map Property.nested =
    some false
  ne_plain : cls ≠ .plain

theorem exists_type (hdocumented : library.Documented)
    (h : instantiateFields (conversion library) cls (Json.toFields .plain fields) = some made)
    (hnested : nested onNull (.object cls made) = true) {values : List String}
    (htyped : IsTyped values cls) (hown : values.all isOwnText = true) :
    ∃ type ∈ values, fields.lookup "type" = some (.string type) ∧
      get (whitelistFields (Decorated.properties cls) made) "type" = .string type := by
  have hcheck := check_of_nested hnested htyped.mem rfl List.mem_cons_self
  obtain ⟨type, htype, hmem⟩ := Common.isEnum_eq_true_iff.1 hcheck
  have hconversion : conversion library cls "type" = { transform := library.toText } := by
    have hne := htyped.ne_plain
    cases cls <;> first | rfl | exact absurd rfl hne
  have hsent := sent_of_text hdocumented h "type" (by decide) hconversion htype
    (List.all_eq_true.1 hown type hmem)
  exact ⟨type, hmem, sent_eq_string_iff.1 hsent,
    (get_whitelistFields_flat htyped.flat made).trans htype⟩

end

/-! ### Claims -/

section

variable {library : Library} {onNull : OnNull} {reading : Reading}

/-- The value of a property `claim`, as an instance. -/
def transformClaim (library : Library) : Option Json → Option (Data Dto)
  | none => some .undefined
  | some claim => instantiate (conversion library) statClaimType (claim.toData .plain)

theorem isTyped_statClaim (fields : List (String × Data Dto)) :
    IsTyped (claimTypes.map Prod.fst) (statClaimType.classOf fields) := by
  have hmem : statClaimType.classOf fields ∈
      [Dto.statClaim, .statAccreditedClaim, .statAffiliateClaim, .statJurisdictionClaim] :=
    TypeOf.classOf_mem "type" _ _ _
  simp only [List.mem_cons, List.not_mem_nil, or_false] at hmem
  rcases hmem with h | h | h | h <;> rw [h] <;> exact ⟨List.mem_cons_self, rfl, by simp⟩

theorem statClaim_classOf {fields : List (String × Json)} {type : String}
    (htype : fields.lookup "type" = some (.string type)) :
    statClaimType.classOf (Json.toFields .plain fields) =
      ([("Accredited", Dto.statAccreditedClaim), ("Affiliate", .statAffiliateClaim),
        ("Jurisdiction", .statJurisdictionClaim)].lookup type).getD .statClaim := by
  have hsent := sent_eq_string_iff.2 htype
  rw [sent] at hsent
  rw [statClaimType, TypeOf.classOf, hsent]

theorem isOwnText_countryCodes : countryCodes.all isOwnText = true := by decide +kernel

/-- The country of an accepted claim is the one that was sent. -/
theorem get_countryCode (hdocumented : library.Documented) {fields : List (String × Json)}
    {made : List (String × Data Dto)}
    (h : instantiateFields (conversion library) .statJurisdictionClaim
      (Json.toFields .plain fields) = some made)
    (hnested : nested onNull (.object .statJurisdictionClaim made) = true) :
    get (whitelistFields (Decorated.properties .statJurisdictionClaim) made) "countryCode" =
      sent fields "countryCode" := by
  rw [get_whitelistFields_flat rfl]
  have hname : "countryCode" ∉ objectMethods := by decide
  have hconverted : library.toText (sent fields "countryCode") = some (get made "countryCode") :=
    get_implicit h "countryCode" hname rfl
  rw [nested_object, List.all_eq_true] at hnested
  have haccepts := hnested _ (List.mem_cons_of_mem _ List.mem_cons_self)
  simp only [Property.accepts, Bool.or_eq_true, List.all_cons, List.all_nil, Bool.and_true,
    Bool.true_and, Bool.not_false, Bool.true_or] at haccepts
  rcases haccepts with hnullish | hcode
  · obtain ⟨-, heq⟩ | ⟨items, heq⟩ | ⟨text, -, heq⟩ := toText_cases hconverted
    · exact heq
    · rw [heq] at hnullish
      cases hnullish
    · rw [heq] at hnullish
      cases hnullish
  · obtain ⟨code, hget, hmem⟩ := Common.isEnum_eq_true_iff.1 hcode
    rw [hget, sent_of_text hdocumented h "countryCode" hname rfl hget
      (List.all_eq_true.1 isOwnText_countryCodes code hmem)]

theorem keeps_iff {make : Data Dto → InputStatClaim}
    (hmake : Function.Injective fun b => make (.bool b)) (value : Data Dto) :
    (∃ converted, some (make (.bool value.isTruthy)) = some converted ∧
      (reading.asks value).map (fun b => make (.bool b)) = some converted) ↔
        reading.keeps value = true := by
  rw [Reading.keeps, decide_eq_true_iff]
  constructor
  · rintro ⟨converted, hconverted, hasked⟩
    obtain ⟨b, hb, heq⟩ := Option.map_eq_some_iff.1 hasked
    rw [hb, hmake (heq.trans (Option.some.inj hconverted).symm)]
  · intro h
    exact ⟨_, rfl, by rw [h]; rfl⟩

/-- **An accepted claim** is converted to the one that is asked for, if it is supported. -/
theorem claim_iff (hdocumented : library.Documented) {claim : Option Json} {value : Data Dto}
    (hclaim : transformClaim library claim = some value) (hnested : nested onNull value = true) :
    (∃ converted, toInputStatClaim (whitelist value) = some converted ∧
      requestedClaim reading claim = some converted) ↔ supportedClaim reading claim = true := by
  cases claim with
  | none => simp [requestedClaim, supportedClaim]
  | some claim =>
    cases claim with
    | object fields =>
      obtain ⟨made, hmade, rfl⟩ := exists_of_instantiate hclaim
      obtain ⟨type, hmem, htype, hget⟩ := exists_type hdocumented hmade hnested
        (isTyped_statClaim _) (by decide)
      rw [statClaim_classOf htype] at hmade hget hnested ⊢
      rw [requestedClaim, supportedClaim, htype, whitelist, toInputStatClaim, hget]
      by_cases haccredited : type = "Accredited"
      · subst haccredited
        rw [get_boolean hmade hnested "accredited" rfl (by decide)
          (List.mem_cons_of_mem _ List.mem_cons_self) rfl]
        exact keeps_iff (fun b c h => by cases h; rfl) _
      by_cases haffiliate : type = "Affiliate"
      · subst haffiliate
        rw [get_boolean hmade hnested "affiliate" rfl (by decide)
          (List.mem_cons_of_mem _ List.mem_cons_self) rfl]
        exact keeps_iff (fun b c h => by cases h; rfl) _
      by_cases hjurisdiction : type = "Jurisdiction"
      · subst hjurisdiction
        have hread := get_countryCode hdocumented hmade hnested
        exact iff_of_true ⟨_, rfl, congrArg (some ∘ InputStatClaim.jurisdiction) hread.symm⟩ rfl
      · simp [haccredited, haffiliate, hjurisdiction]
    | _ => simp [requestedClaim, supportedClaim]

end

/-! ### Restrictions -/

section

variable {library : Library} {onNull : OnNull} {cls : Dto} {fields : List (String × Json)}
  {made : List (String × Data Dto)}

theorem restriction_classOf {type : String} (htype : fields.lookup "type" = some (.string type)) :
    restrictionType.classOf (Json.toFields .plain fields) =
      ([("Count", Dto.transferRestrictionCountInput),
        ("Percentage", .transferRestrictionPercentageInput),
        ("ClaimCount", .transferRestrictionClaimCountInput),
        ("ClaimPercentage", .transferRestrictionClaimPercentageInput)].lookup type).getD
          .transferRestrictionBase := by
  have hsent := sent_eq_string_iff.2 htype
  rw [sent] at hsent
  rw [restrictionType, TypeOf.classOf, hsent]

theorem isTyped_restriction (fields : List (String × Data Dto)) :
    IsTyped transferRestrictionTypes (restrictionType.classOf fields) := by
  have hmem : restrictionType.classOf fields ∈
      [Dto.transferRestrictionBase, .transferRestrictionCountInput,
        .transferRestrictionPercentageInput, .transferRestrictionClaimCountInput,
        .transferRestrictionClaimPercentageInput] := TypeOf.classOf_mem "type" _ _ _
  simp only [List.mem_cons, List.not_mem_nil, or_false] at hmem
  rcases hmem with h | h | h | h | h <;> rw [h] <;> exact ⟨List.mem_cons_self, rfl, by simp⟩

/-- The classes of restrictions to the holders of a claim. -/
inductive IsClaimRestriction : Dto → Prop where
  | claimCount : IsClaimRestriction .transferRestrictionClaimCountInput
  | claimPercentage : IsClaimRestriction .transferRestrictionClaimPercentageInput

/-- The claim of an accepted restriction is an instance of its own, which has passed. -/
theorem get_claim (hcls : IsClaimRestriction cls)
    (h : instantiateFields (conversion library) cls (Json.toFields .plain fields) = some made)
    (hnested : nested onNull (.object cls made) = true) :
    ∃ claim, transformClaim library (fields.lookup "claim") = some claim ∧
      nested onNull claim = true ∧
        get (whitelistFields (Decorated.properties cls) made) "claim" = whitelist claim := by
  refine ⟨get made "claim", ?_, ?_, ?_⟩
  · have hname : "claim" ∉ objectMethods := by decide
    rw [get_instantiateFields h hname, lookup_toFields]
    cases hcls <;> cases fields.lookup "claim" with
      | none => rfl
      | some claim => exact (Option.bind_fun_some _).symm
  · have hmem : { name := "claim", nested := true } ∈ Decorated.properties cls := by
      cases hcls <;>
        exact List.mem_cons_of_mem _ (List.mem_cons_of_mem _ List.mem_cons_self)
    rw [nested_object, List.all_eq_true] at hnested
    exact hnested _ hmem
  · cases hcls with
    | claimCount =>
      rw [get_whitelistFields rfl]
      rfl
    | claimPercentage =>
      rw [get_whitelistFields rfl]
      rfl

/-- A text with `x` in it is no number, and it is too long for a boolean or an object. -/
theorem isOwnText_of_isDidText {did : String} (h : isDidText did = true) :
    isOwnText did = true := by
  unfold isDidText at h
  split at h
  · next hexValue hchars =>
    have hlength : did.length = 66 := by
      simp only [didLength, Bool.and_eq_true] at h
      exact of_decide_eq_true h.1.1
    have hother : ∀ text ∈ ["true", "false", "[object Object]"], did ≠ text := by
      rintro text htext rfl
      simp only [List.mem_cons, List.not_mem_nil, or_false] at htext
      rcases htext with rfl | rfl | rfl <;> exact absurd hlength (by decide)
    rw [isOwnText, Bool.and_eq_true, decide_eq_true_eq]
    exact ⟨fun hmem => hother did hmem rfl,
      List.any_eq_true.2 ⟨'x', by rw [hchars]; simp, by decide⟩⟩
  · cases h

/-- The issuer of an accepted restriction is a DID. -/
theorem get_issuer (hdocumented : library.Documented) (hcls : IsClaimRestriction cls)
    (h : instantiateFields (conversion library) cls (Json.toFields .plain fields) = some made)
    (hnested : nested onNull (.object cls made) = true) :
    get (whitelistFields (Decorated.properties cls) made) "issuer" = sent fields "issuer" ∧
      ∃ did, isDidText did = true ∧ sent fields "issuer" = .string did := by
  have hmem : { name := "issuer", checks := [Common.isDid] } ∈ Decorated.properties cls := by
    cases hcls <;> exact List.mem_cons_of_mem _ List.mem_cons_self
  have hdid := check_of_nested hnested hmem rfl List.mem_cons_self
  rw [Common.isDid_eq_true_iff] at hdid
  obtain ⟨did, hget, htext⟩ := hdid
  have hsent : sent fields "issuer" = .string did :=
    sent_of_text hdocumented h "issuer" (by decide) (by cases hcls <;> rfl) hget
      (isOwnText_of_isDidText htext)
  refine ⟨?_, did, htext, hsent⟩
  have hread : get (whitelistFields (Decorated.properties cls) made) "issuer" =
      get made "issuer" := by
    cases hcls <;> exact get_whitelistFields_flat rfl made
  rw [hread, hsent]
  exact hget

end

/-! ### Lists of restrictions -/

section

variable {library : Library} {onNull : OnNull} {reading : Reading} {I : Type}
  {resolveIdentity : Data Dto → Option I} {item : Json} {made : Data Dto}

/-- An item of an accepted request, and the instance that is made of it. -/
structure AcceptedItem (library : Library) (onNull : OnNull) (item : Json) (made : Data Dto) :
    Prop where
  exists_type : ∃ itemType, restrictionType.ofItem (item.toData .plain) = some itemType ∧
    instantiate (conversion library) itemType (item.toData .plain) = some made
  passes : nested onNull made = true

/-- The `type` that tells a class of restrictions. -/
inductive ClassOfType : String → Dto → Prop where
  | count : ClassOfType "Count" .transferRestrictionCountInput
  | percentage : ClassOfType "Percentage" .transferRestrictionPercentageInput
  | claimCount : ClassOfType "ClaimCount" .transferRestrictionClaimCountInput
  | claimPercentage : ClassOfType "ClaimPercentage" .transferRestrictionClaimPercentageInput

theorem exists_classOfType {type : String} (h : type ∈ transferRestrictionTypes) :
    ∃ cls, ClassOfType type cls ∧ ∀ fields : List (String × Json),
      fields.lookup "type" = some (.string type) →
        restrictionType.classOf (Json.toFields .plain fields) = cls := by
  simp only [transferRestrictionTypes, List.mem_cons, List.not_mem_nil, or_false] at h
  rcases h with rfl | rfl | rfl | rfl
  · exact ⟨_, .count, fun _ => restriction_classOf⟩
  · exact ⟨_, .percentage, fun _ => restriction_classOf⟩
  · exact ⟨_, .claimCount, fun _ => restriction_classOf⟩
  · exact ⟨_, .claimPercentage, fun _ => restriction_classOf⟩

/-- The instance of a class that is made of an object with its `type`. -/
structure MadeAs (library : Library) (onNull : OnNull) (fields : List (String × Json))
    (type : String) (cls : Dto) (properties : List (String × Data Dto)) : Prop where
  classOfType : ClassOfType type cls
  lookup : fields.lookup "type" = some (.string type)
  made : instantiateFields (conversion library) cls (Json.toFields .plain fields) = some properties
  passes : nested onNull (.object cls properties) = true
  type : get (whitelistFields (Decorated.properties cls) properties) "type" = .string type

theorem AcceptedItem.exists_made (hdocumented : library.Documented)
    {fields : List (String × Json)} (h : AcceptedItem library onNull (.object fields) made) :
    ∃ type cls properties, made = .object cls properties ∧
      MadeAs library onNull fields type cls properties := by
  obtain ⟨itemType, htype, hmade⟩ := h.exists_type
  cases htype
  obtain ⟨properties, hproperties, rfl⟩ := exists_of_instantiate hmade
  obtain ⟨type, hmem, htype, hget⟩ := SetTransferRestrictions.exists_type hdocumented hproperties
    h.passes (isTyped_restriction _) (by decide)
  obtain ⟨cls, hcls, hclassOf⟩ := exists_classOfType hmem
  have heq : TypeOf.classOf _ _ = cls := hclassOf fields htype
  have hpasses := h.passes
  change instantiateFields _ (TypeOf.classOf _ restrictionType) _ = _ at hproperties
  refine ⟨type, cls, properties, congrArg (Data.object · properties) heq, hcls, htype,
    heq ▸ hproperties, heq ▸ hpasses, heq ▸ hget⟩

/-- **A restriction to the holders of a claim** is converted to the one that is asked for, if its
claim is supported. -/
theorem claimRestriction_iff (hdocumented : library.Documented)
    {fields : List (String × Json)} {properties : List (String × Data Dto)} {cls : Dto}
    (hcls : IsClaimRestriction cls)
    (hmade : instantiateFields (conversion library) cls (Json.toFields .plain fields) =
      some properties)
    (hnested : nested onNull (.object cls properties) = true)
    (hresolve : ∀ did, isDidText did = true → (resolveIdentity (.string did)).isSome = true)
    {make : Data Dto → Data Dto → InputStatClaim → I → RestrictionInput I}
    (hmake : ∀ min max issuer, Function.Injective (make min max · issuer)) :
    (∃ restriction,
      (do
        let issuer ← resolveIdentity
          (get (whitelistFields (Decorated.properties cls) properties) "issuer")
        let claim ← toInputStatClaim
          (get (whitelistFields (Decorated.properties cls) properties) "claim")
        return make (get (whitelistFields (Decorated.properties cls) properties) "min")
          (get (whitelistFields (Decorated.properties cls) properties) "max") claim issuer) =
            some restriction ∧
      (do
        let min ← numbersOf library fields "min"
        let max ← numbersOf library fields "max"
        let issuer ← resolveIdentity (sent fields "issuer")
        let claim ← requestedClaim reading (fields.lookup "claim")
        return make min max claim issuer) = some restriction) ↔
      supportedClaim reading (fields.lookup "claim") = true := by
  obtain ⟨claim, hclaim, hpasses, hgetClaim⟩ := get_claim hcls hmade hnested
  obtain ⟨hissuer, did, hdid, hsent⟩ := get_issuer hdocumented hcls hmade hnested
  obtain ⟨identity, hidentity⟩ := Option.isSome_iff_exists.1 (hresolve did hdid)
  -- the bounds are handed on as the request has them, so only the claim decides
  have hmin : numbersOf library fields "min" =
      some (get (whitelistFields (Decorated.properties cls) properties) "min") := by
    cases hcls <;> exact get_numbers hmade "min" rfl (by decide) rfl
  have hmax : numbersOf library fields "max" =
      some (get (whitelistFields (Decorated.properties cls) properties) "max") := by
    cases hcls <;> exact get_numbers hmade "max" rfl (by decide) rfl
  rw [← claim_iff hdocumented hclaim hpasses, hissuer, hsent, hmin, hmax, hgetClaim, hidentity]
  simp only [Option.bind_eq_bind, Option.bind_some, Option.pure_def, Option.bind_eq_some_iff]
  constructor
  · rintro ⟨restriction, ⟨converted, hconverted, hmade⟩, requested, hrequested, hasked⟩
    have heq : requested = converted :=
      hmake _ _ _ (Option.some.inj (hasked.trans hmade.symm))
    exact ⟨converted, hconverted, heq ▸ hrequested⟩
  · rintro ⟨converted, hconverted, hrequested⟩
    exact ⟨_, ⟨converted, hconverted, rfl⟩, converted, hrequested, rfl⟩

/-- **An accepted item** is converted to what it asks for, if it is convertible. -/
theorem AcceptedItem.converted_iff (hdocumented : library.Documented)
    (hresolve : ∀ did, isDidText did = true → (resolveIdentity (.string did)).isSome = true)
    (h : AcceptedItem library onNull item made) :
    (∃ restriction, toRestriction resolveIdentity (whitelist made) = some restriction ∧
      requestedRestriction resolveIdentity library reading item = some restriction) ↔
        convertibleItem reading item = true := by
  cases item with
  | object fields =>
    obtain ⟨type, cls, properties, rfl, hmade⟩ := h.exists_made hdocumented
    rw [convertibleItem, requestedRestriction, whitelist, toRestriction, hmade.lookup, hmade.type]
    cases hmade.classOfType with
    | count =>
      have hcount := get_numbers hmade.made "count" rfl (by decide) rfl
      exact iff_of_true ⟨_, rfl, congrArg (Option.map _) hcount⟩ rfl
    | percentage =>
      have hpercentage := get_numbers hmade.made "percentage" rfl (by decide) rfl
      exact iff_of_true ⟨_, rfl, congrArg (Option.map _) hpercentage⟩ rfl
    | claimCount =>
      exact claimRestriction_iff hdocumented .claimCount hmade.made hmade.passes hresolve
        fun _ _ _ _ _ heq => (RestrictionInput.claimCount.inj heq).2.2.1
    | claimPercentage =>
      exact claimRestriction_iff hdocumented .claimPercentage hmade.made hmade.passes hresolve
        fun _ _ _ _ _ heq => (RestrictionInput.claimPercentage.inj heq).2.2.1
  | _ => simp [requestedRestriction, convertibleItem]

theorem handedOn_array {items : List Json} {value : Data Dto}
    (h : handedOn library onNull (some (.array items)) = some value) :
    ∃ instances, List.Forall₂ (AcceptedItem library onNull) items instances ∧
      value = .array (instances.map whitelist) := by
  obtain ⟨transformed, hfilter, rfl⟩ := Option.map_eq_some_iff.1 h
  obtain ⟨htransformed, hpasses⟩ := Option.filter_eq_some_iff.1 hfilter
  rw [transformRestrictions, Json.toData, instantiate] at htransformed
  obtain ⟨instances, hinstances, rfl⟩ := Option.map_eq_some_iff.1 htransformed
  rw [nested, nestedAll_eq_all, List.all_eq_true] at hpasses
  rw [instantiateAll_eq_some_iff, Json.toDataAll_eq_map, List.forall₂_map_left_iff] at hinstances
  refine ⟨instances, ?_, by rw [whitelist, whitelistAll_eq_map]⟩
  rw [List.forall₂_iff_get] at hinstances ⊢
  exact ⟨hinstances.1, fun i hi hj => ⟨hinstances.2 i hi hj, hpasses _ (List.get_mem _ _)⟩⟩

theorem converted_iff (hdocumented : library.Documented)
    (hresolve : ∀ did, isDidText did = true → (resolveIdentity (.string did)).isSome = true)
    {items : List Json} {instances : List (Data Dto)}
    (h : List.Forall₂ (AcceptedItem library onNull) items instances) :
    (∃ converted,
      transferRestrictionsDtoToRestrictions resolveIdentity (.array (instances.map whitelist)) =
          some converted ∧
        List.Forall₂ (fun item restriction =>
          requestedRestriction resolveIdentity library reading item = some restriction)
          items converted) ↔ items.all (convertibleItem reading) = true := by
  simp only [transferRestrictionsDtoToRestrictions, mapM_eq_some_iff, List.forall₂_map_left_iff]
  induction h with
  | nil => exact iff_of_true ⟨[], .nil, .nil⟩ rfl
  | cons hitem hrest ih =>
    rw [List.all_cons, Bool.and_eq_true, ← ih,
      ← hitem.converted_iff hdocumented hresolve]
    constructor
    · rintro ⟨converted, hconverted, hrequested⟩
      cases hconverted with
      | cons hrestriction hconverted =>
        cases hrequested with
        | cons hasked hrequested =>
          exact ⟨⟨_, hrestriction, hasked⟩, _, hconverted, hrequested⟩
    · rintro ⟨⟨restriction, hrestriction, hasked⟩, converted, hconverted, hrequested⟩
      exact ⟨restriction :: converted, .cons hrestriction hconverted, .cons hasked hrequested⟩

/-- **Accepted restrictions are converted**, one by one and to what they ask for, if the request
is convertible. -/
theorem converts_iff (hdocumented : library.Documented)
    (hresolve : ∀ did, isDidText did = true → (resolveIdentity (.string did)).isSome = true)
    (reading : Reading) (onNull : OnNull) (restrictions : Option Json) :
    Converts resolveIdentity library reading onNull restrictions ↔
      ((handedOn library onNull restrictions).isSome = true →
        convertible reading restrictions = true) := by
  constructor
  · intro h haccepted
    obtain ⟨value, hvalue⟩ := Option.isSome_iff_exists.1 haccepted
    obtain ⟨items, converted, rfl, hconverted, hrequested⟩ := h value hvalue
    obtain ⟨instances, hinstances, rfl⟩ := handedOn_array hvalue
    exact (converted_iff hdocumented hresolve hinstances).1 ⟨converted, hconverted, hrequested⟩
  · intro h value hvalue
    have hconvertible := h (by rw [hvalue]; rfl)
    cases restrictions with
    | none => cases hconvertible
    | some restrictions =>
      cases restrictions with
      | array items =>
        obtain ⟨instances, hinstances, rfl⟩ := handedOn_array hvalue
        obtain ⟨converted, hconverted, hrequested⟩ :=
          (converted_iff hdocumented hresolve hinstances).2 hconvertible
        exact ⟨items, converted, rfl, hconverted, hrequested⟩
      | _ => cases hconvertible

end

/-- A library in which the notation of every number is that of its numerator. -/
def numerators : Library where
  numberText n := n.num.repr
  objectText _ := some "[object Object]"
  bigNumber
    | .number n => some (.finite n)
    | .string "1" => some (.finite 1)
    | _ => some .nan

theorem numerators_documented : numerators.Documented where
  number n := isNumberChar_repr n.num
  object _ _ h := (Option.some.inj h).symm

/-- A restriction to holders, without the claim that they have. -/
def claimCountFields : List (String × Json) :=
  [("type", .string "ClaimCount"),
    ("issuer", .string "0x0600000000000000000000000000000000000000000000000000000000000000"),
    ("min", .string "1"), ("max", .string "1")]

/-- A restriction to the accredited holders. -/
def accreditedHolders (accredited : Json) : Json :=
  .object (("claim", .object [("type", .string "Accredited"), ("accredited", accredited)]) ::
    claimCountFields)

/-- A request with a claim is converted. -/
theorem accreditedHolders_converts :
    Converts (fun _ => some ()) numerators .strict .skip
      (some (.array [accreditedHolders (.bool true)])) :=
  (converts_iff numerators_documented (fun _ _ => rfl) .strict .skip _).2 fun _ => rfl

/-- A request without restrictions is accepted and not converted, and so is one without the claim
of a restriction; one with the text `"false"` restricts the holders that are accredited. -/
theorem not_converts :
    ¬(Converts (fun _ => some ()) numerators .strict .skip none ∨
      Converts (fun _ => some ()) numerators .strict .skip
        (some (.array [.object claimCountFields])) ∨
        Converts (fun _ => some ()) numerators .strict .skip
          (some (.array [accreditedHolders (.string "false")]))) := by
  rintro (h | h | h)
  · obtain ⟨items, converted, heq, -⟩ := h .undefined rfl
    cases heq
  · obtain ⟨items, converted, -, hconverted, -⟩ := h _ rfl
    cases hconverted
  · obtain ⟨items, converted, heq, -, hrequested⟩ := h _ rfl
    cases heq
    cases hrequested with
    | cons hasked hrequested => cases hasked

end SetTransferRestrictions

end PolymeshRest
