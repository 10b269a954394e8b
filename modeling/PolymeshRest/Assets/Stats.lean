import PolymeshRest.Common.Decorators
import PolymeshRest.Js.ClassValidator

/-!
# Statistics for transfer restrictions

A request to set the statistics of an asset carries them in the field `stats`.  The decorator
`TransformScopedCountStats` makes instances of the items it knows, `class-validator` goes over
what it has made, and `setStats` hands the items on.

Both steps of `class-transformer` in the decorator, making an instance of a plain object and
assigning the properties of the object to it once more, leave an instance with the properties of
the object.  What `new BigNumber` makes of a string is a parameter, and so are the own properties of
a `BigNumber` and what becomes of a nested `null`.

* `StatDto` : the classes of the items and of their parts, with their decorators.
* `transformStat`, `transformStats` : `TransformScopedCountStats`.
* `accepted` : the pipeline.
* `ensureStatsBigNumberConversion`, `setStats` : what is handed on.
-/

namespace PolymeshRest

open Js
open Common (isDid isEnum isInstanceOfBigNumber isBigNumber)

/-! ### Enumerations -/

/-- `StatType` -/
inductive StatType where
  | count
  | balance
  | scopedCount
  | scopedBalance
  deriving DecidableEq, Repr

/-- The values of `StatType`. -/
def statTypes : List (String × StatType) :=
  [("Count", .count), ("Balance", .balance), ("ScopedCount", .scopedCount),
    ("ScopedBalance", .scopedBalance)]

/-- `ClaimType` -/
inductive ClaimType where
  | accredited
  | affiliate
  | buyLockup
  | sellLockup
  | customerDueDiligence
  | knowYourCustomer
  | jurisdiction
  | exempted
  | blocked
  | custom
  deriving DecidableEq, Repr

/-- The values of `ClaimType`. -/
def claimTypes : List (String × ClaimType) :=
  [("Accredited", .accredited), ("Affiliate", .affiliate), ("BuyLockup", .buyLockup),
    ("SellLockup", .sellLockup), ("CustomerDueDiligence", .customerDueDiligence),
    ("KnowYourCustomer", .knowYourCustomer), ("Jurisdiction", .jurisdiction),
    ("Exempted", .exempted), ("Blocked", .blocked), ("Custom", .custom)]

/-- The values of `CountryCode`. -/
def countryCodes : List String :=
  ["Af", "Ax", "Al", "Dz", "As", "Ad", "Ao", "Ai", "Aq", "Ag", "Ar", "Am", "Aw", "Au", "At", "Az",
    "Bs", "Bh", "Bd", "Bb", "By", "Be", "Bz", "Bj", "Bm", "Bt", "Bo", "Ba", "Bw", "Bv", "Br", "Vg",
    "Io", "Bn", "Bg", "Bf", "Bi", "Kh", "Cm", "Ca", "Cv", "Ky", "Cf", "Td", "Cl", "Cn", "Hk", "Mo",
    "Cx", "Cc", "Co", "Km", "Cg", "Cd", "Ck", "Cr", "Ci", "Hr", "Cu", "Cy", "Cz", "Dk", "Dj", "Dm",
    "Do", "Ec", "Eg", "Sv", "Gq", "Er", "Ee", "Et", "Fk", "Fo", "Fj", "Fi", "Fr", "Gf", "Pf", "Tf",
    "Ga", "Gm", "Ge", "De", "Gh", "Gi", "Gr", "Gl", "Gd", "Gp", "Gu", "Gt", "Gg", "Gn", "Gw", "Gy",
    "Ht", "Hm", "Va", "Hn", "Hu", "Is", "In", "Id", "Ir", "Iq", "Ie", "Im", "Il", "It", "Jm", "Jp",
    "Je", "Jo", "Kz", "Ke", "Ki", "Kp", "Kr", "Kw", "Kg", "La", "Lv", "Lb", "Ls", "Lr", "Ly", "Li",
    "Lt", "Lu", "Mk", "Mg", "Mw", "My", "Mv", "Ml", "Mt", "Mh", "Mq", "Mr", "Mu", "Yt", "Mx", "Fm",
    "Md", "Mc", "Mn", "Me", "Ms", "Ma", "Mz", "Mm", "Na", "Nr", "Np", "Nl", "An", "Nc", "Nz", "Ni",
    "Ne", "Ng", "Nu", "Nf", "Mp", "No", "Om", "Pk", "Pw", "Ps", "Pa", "Pg", "Py", "Pe", "Ph", "Pn",
    "Pl", "Pt", "Pr", "Qa", "Re", "Ro", "Ru", "Rw", "Bl", "Sh", "Kn", "Lc", "Mf", "Pm", "Vc", "Ws",
    "Sm", "St", "Sa", "Sn", "Rs", "Sc", "Sl", "Sg", "Sk", "Si", "Sb", "So", "Za", "Gs", "Ss", "Es",
    "Lk", "Sd", "Sr", "Sj", "Sz", "Se", "Ch", "Sy", "Tw", "Tj", "Tz", "Th", "Tl", "Tg", "Tk", "To",
    "Tt", "Tn", "Tr", "Tm", "Tc", "Tv", "Ug", "Ua", "Ae", "Gb", "Us", "Um", "Uy", "Uz", "Vu", "Ve",
    "Vn", "Vi", "Wf", "Eh", "Ye", "Zm", "Zw", "Bq", "Cw", "Sx"]

/-! ### Decorators -/

/-- The classes of items and of their parts, and that of plain objects. -/
inductive StatDto where
  | plain
  | addCountStat
  | addPercentageStat
  | addClaimPercentageStat
  | addClaimCountAccreditedStat
  | addClaimCountAffiliateStat
  | addClaimCountJurisdictionStat
  | claimCountAccreditedValue
  | claimCountAffiliateValue
  | claimCountJurisdictionValueItem
  deriving DecidableEq, Repr

/-- The text is that of a claim type that may stand alone. -/
def isTrustedForText (s : String) : Bool :=
  match claimTypes.lookup s with
  | some claimType => claimType ≠ .custom
  | none => false

/-- `@IsTrustedForClaimType()` -/
def isTrustedForClaimType : Data StatDto → Bool
  | .null => true
  | .string value => isTrustedForText value
  | .object _ fields =>
    isEnum ["Custom"] (get fields "type") && isInstanceOfBigNumber (get fields "customClaimTypeId")
  | _ => false

/-- A property that is a count. -/
def countProperty (name : String) : Property StatDto := { name, checks := [isBigNumber {}] }

/-- `AssetStatBaseDto` -/
def assetStatBase : List (Property StatDto) :=
  [{ name := "type", checks := [isEnum (statTypes.map Prod.fst)] }]

/-- `AddClaimCountStatBaseDto` with a value of a class of its own. -/
def addClaimCountStat : List (Property StatDto) :=
  assetStatBase ++
    [{ name := "issuer", checks := [isDid] },
      { name := "claimType", checks := [isEnum (claimTypes.map Prod.fst)] },
      { name := "value", nested := true }]

instance : Decorated StatDto where
  properties
    | .plain => []
    | .addCountStat => assetStatBase ++ [countProperty "count"]
    | .addPercentageStat => assetStatBase
    | .addClaimPercentageStat =>
      assetStatBase ++
        [{ name := "issuer", checks := [isDid] },
          { name := "claimType", checks := [isTrustedForClaimType] }]
    | .addClaimCountAccreditedStat => addClaimCountStat
    | .addClaimCountAffiliateStat => addClaimCountStat
    | .addClaimCountJurisdictionStat => addClaimCountStat
    | .claimCountAccreditedValue => [countProperty "accredited", countProperty "nonAccredited"]
    | .claimCountAffiliateValue => [countProperty "affiliate", countProperty "nonAffiliate"]
    | .claimCountJurisdictionValueItem =>
      [{ name := "countryCode", optional := true, checks := [isEnum countryCodes] },
        countProperty "count"]

/-! ### `TransformScopedCountStats` -/

variable (onNull : OnNull) (bigNumber : String → BigNumber)

/-- The number of a text, and any other value as it is. -/
def toBigNumber : Data StatDto → Data StatDto
  | .string s => .bigNumber (bigNumber s)
  | value => value

/-- The properties of an object with a `count`, where that is made a number if it is a text. -/
def convertCount (fields : List (String × Data StatDto)) : List (String × Data StatDto) :=
  match get fields "count" with
  | .string count => Record.assign "count" (.bigNumber (bigNumber count)) fields
  | _ => fields

/-- The properties of a `value`, where texts are made numbers if they are counts. -/
def convertValue (fields : List (String × Data StatDto)) : List (String × Data StatDto) :=
  fields.map fun field =>
    (field.1,
      if field.1 ∈ ["accredited", "nonAccredited", "affiliate", "nonAffiliate"] then
        toBigNumber bigNumber field.2
      else field.2)

/-- An item of a `value` that is an array; reading `count` of `null` throws.  The entries of a
string or of an array come under their indices, which are no properties of the class. -/
def transformItem : Json → Option (Data StatDto)
  | .null => none
  | .object fields =>
    some (.object .claimCountJurisdictionValueItem
      (convertCount bigNumber (Json.toFields .plain fields)))
  | item => some (.object .claimCountJurisdictionValueItem (Json.toFields .plain item.entries))

/-- The class that an object in `value` gets. -/
def valueClass : Option ClaimType → StatDto
  | some .accredited => .claimCountAccreditedValue
  | some .affiliate => .claimCountAffiliateValue
  | _ => .plain

/-- `value` -/
def transformValue (claimType : Option ClaimType) : Json → Option (Data StatDto)
  | .object fields =>
    some (.object (valueClass claimType) (convertValue bigNumber (Json.toFields .plain fields)))
  | .array items => (items.mapM (transformItem bigNumber)).map .array
  | value => some (value.toData .plain)

/-- The member of an enumeration that a property is. -/
def enumOf {E : Type*} (values : List (String × E)) : Option Json → Option E
  | some (.string s) => values.lookup s
  | _ => none

/-- The properties of a `ScopedCount`, with its `value` if it has one. -/
def transformScopedCount (fields : List (String × Json)) : Option (List (String × Data StatDto)) :=
  match fields.lookup "value" with
  | none => some (Json.toFields .plain fields)
  | some value =>
    (transformValue bigNumber (enumOf claimTypes (fields.lookup "claimType")) value).map
      fun value => Record.assign "value" value (Json.toFields .plain fields)

/-- One item; the transformer throws where there is none. -/
def transformStat : Json → Option (Data StatDto)
  | .object fields =>
    -- with a `constructor` of its own the object does not count as a plain one
    if (fields.lookup "constructor").isSome then some (.object .plain (Json.toFields .plain fields))
    else
      match enumOf statTypes (fields.lookup "type") with
      | some .count =>
        some (.object .addCountStat (convertCount bigNumber (Json.toFields .plain fields)))
      | some .balance => some (.object .addPercentageStat (Json.toFields .plain fields))
      | some .scopedBalance => some (.object .addClaimPercentageStat (Json.toFields .plain fields))
      | some .scopedCount =>
        (transformScopedCount bigNumber fields).map fun transformed =>
          match enumOf claimTypes (fields.lookup "claimType") with
          | some .accredited => .object .addClaimCountAccreditedStat transformed
          | some .affiliate => .object .addClaimCountAffiliateStat transformed
          | some .jurisdiction => .object .addClaimCountJurisdictionStat transformed
          | _ => .object .plain (Json.toFields .plain fields)
      | none => some (.object .plain (Json.toFields .plain fields))
  | stat => some (stat.toData .plain)

/-- The field `stats`, missing if it is `none`. -/
def transformStats : Option Json → Option (Data StatDto)
  | none => some .undefined
  | some (.array items) => (items.mapM (transformStat bigNumber)).map .array
  | some value => some (value.toData .plain)

/-! ### The pipeline and `setStats` -/

/-- The request is accepted. -/
def accepted (stats : Option Json) : Bool :=
  (transformStats bigNumber stats).any (nested onNull)

variable (parts : BigNumber → List (String × Data StatDto))

/-- An item of `value` in `ensureStatsBigNumberConversion`; reading `count` of `null` throws. -/
def ensureItem : Data StatDto → Option (Data StatDto)
  | .undefined | .null => none
  | item =>
    let fields := spread parts item
    let count := toBigNumber bigNumber (get fields "count")
    some (.object .plain (Record.assign "count" count fields))

/-- The member of an enumeration that a value is. -/
def enumOfData {E : Type*} (values : List (String × E)) : Data StatDto → Option E
  | .string s => values.lookup s
  | _ => none

/-- One item of `ensureStatsBigNumberConversion`. -/
def ensureStat : Data StatDto → Option (Data StatDto)
  | .object cls fields =>
    if (fields.lookup "type").isSome then
      match enumOfData statTypes (get fields "type"), get fields "value" with
      | some .count, _ => some (.object .plain (convertCount bigNumber fields))
      | some .scopedCount, .object _ value =>
        let value := .object .plain (convertValue bigNumber value)
        some (.object .plain (Record.assign "value" value fields))
      | some .scopedCount, .bigNumber value =>
        let value := .object .plain (convertValue bigNumber (parts value))
        some (.object .plain (Record.assign "value" value fields))
      | some .scopedCount, .array items =>
        (items.mapM (ensureItem bigNumber parts)).map fun items =>
          .object .plain (Record.assign "value" (.array items) fields)
      | _, _ => some (.object .plain fields)
    else some (.object cls fields)
  | stat => some stat

/-- `ensureStatsBigNumberConversion` -/
def ensureStatsBigNumberConversion (stats : List (Data StatDto)) : Option (List (Data StatDto)) :=
  stats.mapM (ensureStat bigNumber parts)

/-- What `setStats` hands to the asset after the pipeline, if the request gets there. -/
def setStats (stats : Option Json) : Option (List (Data StatDto)) :=
  match transformStats bigNumber stats with
  | some (.array items) =>
    if nestedAll onNull items then
      ensureStatsBigNumberConversion bigNumber parts (whitelistAll items)
    else none
  -- there is no `map` to call on anything else
  | _ => none

end PolymeshRest
