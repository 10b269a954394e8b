import PolymeshRest.Assets.StatsTransformer
import PolymeshRest.Js.ClassTransformer
import PolymeshRest.Js.Same

/-!
# The transformer of statistics and the decorators of their classes

The classes of statistics say with decorators how their properties are converted, and
`TransformScopedCountStats` converts the properties by hand and assigns them over those of the
instance.  Items are plain objects of one of the four types whose other properties are strings,
numbers or numbers of any size, in any mixture.  What `new BigNumber` makes of a value is a
parameter; a number of any size is copied.

* `conversion` : the decorators of the classes.
* `PlainStat` : the items.
* `AgreeOn` : both ways give instances with the same fields, which are both accepted or both
  refused.
* `PlainStat.Agrees` : what has to hold of an item for that.
* `agreeOn_iff` : they agree on exactly these items.
-/

namespace PolymeshRest

open Js

namespace StatsDecorators

open TransformScopedCountStats
open Common (isDid isEnum isInstanceOfBigNumber isBigNumber)

/-! ### The decorators -/

section

variable (bigNumber : String → BigNumber) (ofNumber : ℚ → BigNumber)
  (other : Data StatDto → Option BigNumber)

/-- `new BigNumber(value)` -/
def construct : Data StatDto → Option BigNumber
  | .string s => some (bigNumber s)
  | .number n => some (ofNumber n)
  | .bigNumber b => some b
  | value => other value

/-- `transformToTrustedFor` -/
def transformToTrustedFor : Data StatDto → Data StatDto
  | .object cls fields =>
    let custom := fun b : BigNumber =>
      .object .plain [("type", .string "Custom"), ("customClaimTypeId", .bigNumber b)]
    if enumOfData claimTypes (get fields "type") = some .custom then
      match get fields "customClaimTypeId" with
      | .bigNumber b => custom b
      | .string s => custom (bigNumber s)
      | .number n => custom (ofNumber n)
      | _ => .object cls fields
    else .object cls fields
  | value => value

/-- `@ToTrustedFor()` -/
def toTrustedFor : Data StatDto → Option (Data StatDto)
  | .array items => some (.array (items.map (transformToTrustedFor bigNumber ofNumber)))
  | value => some (transformToTrustedFor bigNumber ofNumber value)

/-- The decorators that convert properties. -/
def conversion : StatDto → String → Conversion StatDto
  | .addCountStat, "count" | .claimCountJurisdictionValueItem, "count" =>
    { transform := Common.toBigNumber (construct bigNumber ofNumber other) }
  | .claimCountAccreditedValue, "accredited" | .claimCountAccreditedValue, "nonAccredited" =>
    { transform := Common.toBigNumber (construct bigNumber ofNumber other) }
  | .claimCountAffiliateValue, "affiliate" | .claimCountAffiliateValue, "nonAffiliate" =>
    { transform := Common.toBigNumber (construct bigNumber ofNumber other) }
  | .addClaimPercentageStat, "claimType" => { transform := toTrustedFor bigNumber ofNumber }
  | .addClaimCountAccreditedStat, "value" => { type := some (.class .claimCountAccreditedValue) }
  | .addClaimCountAffiliateStat, "value" => { type := some (.class .claimCountAffiliateValue) }
  | .addClaimCountJurisdictionStat, "value" =>
    { type := some (.class .claimCountJurisdictionValueItem) }
  | _, _ => {}

end

/-! ### Items -/

/-- A string, a number or a number of any size. -/
inductive Leaf where
  | string (s : String)
  | number (n : ℚ)
  | bigNumber (b : BigNumber)

def Leaf.toData : Leaf → Data StatDto
  | .string s => .string s
  | .number n => .number n
  | .bigNumber b => .bigNumber b

/-- Properties of any names. -/
abbrev Fields := List (String × Leaf)

def leaves (fields : Fields) : List (String × Data StatDto) :=
  fields.map fun field => (field.1, field.2.toData)

/-- The properties other than one. -/
def without (name : String) (fields : Fields) : Fields := fields.filter fun field => field.1 ≠ name

/-- The claims that an issuer is trusted for. -/
inductive TrustedFor where
  | all
  | standard (claimType : String)
  | custom (customClaimTypeId : Leaf)

def TrustedFor.toData : TrustedFor → Data StatDto
  | .all => .null
  | .standard claimType => .string claimType
  | .custom customClaimTypeId =>
    .object .plain [("type", .string "Custom"), ("customClaimTypeId", customClaimTypeId.toData)]

/-- The claim types of a `ScopedCount`. -/
inductive ScopedClaimType where
  | accredited
  | affiliate
  | jurisdiction
  deriving DecidableEq

namespace ScopedClaimType

def text : ScopedClaimType → String
  | accredited => "Accredited"
  | affiliate => "Affiliate"
  | jurisdiction => "Jurisdiction"

/-- The class of a `ScopedCount`. -/
def cls : ScopedClaimType → StatDto
  | accredited => .addClaimCountAccreditedStat
  | affiliate => .addClaimCountAffiliateStat
  | jurisdiction => .addClaimCountJurisdictionStat

/-- The class of its `value`. -/
def valueCls : ScopedClaimType → StatDto
  | accredited => .claimCountAccreditedValue
  | affiliate => .claimCountAffiliateValue
  | jurisdiction => .claimCountJurisdictionValueItem

/-- The counts of that class. -/
def counts : ScopedClaimType → List String
  | accredited => ["accredited", "nonAccredited"]
  | affiliate => ["affiliate", "nonAffiliate"]
  | jurisdiction => ["count"]

end ScopedClaimType

/-- The `value` of a `ScopedCount`. -/
inductive PlainValue where
  | null
  | string (s : String)
  | number (n : ℚ)
  | object (fields : Fields)
  | array (items : List Fields)

def PlainValue.toData : PlainValue → Data StatDto
  | null => .null
  | string s => .string s
  | number n => .number n
  | object fields => .object .plain (leaves fields)
  | array items => .array (items.map fun fields => .object .plain (leaves fields))

/-- A plain item of one of the four types. -/
inductive PlainStat where
  | count (fields : Fields)
  | balance (fields : Fields)
  | scopedBalance (claimType : TrustedFor) (fields : Fields)
  /-- The `value` may be missing. -/
  | scopedCount (claimType : ScopedClaimType) (value : Option PlainValue) (fields : Fields)

namespace PlainStat

/-- The properties of a `ScopedCount` other than its `value`. -/
def scopedCountFields (claimType : ScopedClaimType) (fields : Fields) : Fields :=
  ("type", .string "ScopedCount") :: ("claimType", .string claimType.text) :: without "value" fields

def toFields : PlainStat → List (String × Data StatDto)
  | count fields => leaves (("type", .string "Count") :: fields)
  | balance fields => leaves (("type", .string "Balance") :: fields)
  | scopedBalance claimType fields =>
    ("claimType", claimType.toData) ::
      leaves (("type", .string "ScopedBalance") :: without "claimType" fields)
  | scopedCount claimType none fields => leaves (scopedCountFields claimType fields)
  | scopedCount claimType (some value) fields =>
    ("value", value.toData) :: leaves (scopedCountFields claimType fields)

def toData (item : PlainStat) : Data StatDto := .object .plain item.toFields

/-- The class of an item. -/
def cls : PlainStat → StatDto
  | count _ => .addCountStat
  | balance _ => .addPercentageStat
  | scopedBalance .. => .addClaimPercentageStat
  | scopedCount claimType .. => claimType.cls

end PlainStat

/-! ### Agreement -/

/-- Both ways make instances of an item, which have the same fields and are both accepted or both
refused, whatever becomes of a nested `null`. -/
def AgreeOn (bigNumber : String → BigNumber) (ofNumber : ℚ → BigNumber)
    (other : Data StatDto → Option BigNumber) (parts : BigNumber → List (String × Data StatDto))
    (item : PlainStat) : Prop :=
  ∃ made decorated, transform bigNumber parts item.toData = some made ∧
    instantiate (conversion bigNumber ofNumber other) (.class item.cls) item.toData =
      some decorated ∧ made.Same decorated ∧
        ∀ onNull, nested onNull made = nested onNull decorated

/-- A property is not named like a method, is no number if it is a count of the class, and no text
if it is another count that is converted by hand. -/
def Leaf.Agrees (texts counts : List String) (name : String) (leaf : Leaf) : Prop :=
  name ∉ objectMethods ∧
    match leaf with
    | .string _ => name ∈ texts → name ∈ counts
    | .number _ => name ∉ counts
    | .bigNumber _ => True

/-- Each of the properties is as it has to be. -/
def FieldsAgree (texts counts : List String) (fields : Fields) : Prop :=
  ∀ name leaf, fields.lookup name = some leaf → leaf.Agrees texts counts name

/-- The id of a custom claim is a number of any size already. -/
def TrustedFor.Agrees : TrustedFor → Prop
  | custom customClaimTypeId => ∃ b, customClaimTypeId = .bigNumber b
  | _ => True

/-- The `value` has the shape that goes with the claim type. -/
def PlainValue.Agrees : ScopedClaimType → PlainValue → Prop
  | .jurisdiction, object _ => False
  | claimType, object fields =>
    FieldsAgree ["accredited", "nonAccredited", "affiliate", "nonAffiliate"] claimType.counts fields
  | .jurisdiction, array items => ∀ fields ∈ items, FieldsAgree ["count"] ["count"] fields
  | _, array items => items = []
  | _, _ => True

/-- An item is converted by hand as the decorators say. -/
def PlainStat.Agrees : PlainStat → Prop
  | count fields => FieldsAgree ["count"] ["count"] fields
  | balance fields => FieldsAgree [] [] fields
  | scopedBalance claimType fields => FieldsAgree [] [] fields ∧ claimType.Agrees
  | scopedCount claimType value fields =>
    FieldsAgree [] [] fields ∧ ∀ v ∈ value, v.Agrees claimType

/-! ### Properties that are leaves -/

section

variable {fields : Fields} {name : String}

theorem lookup_leaves (fields : Fields) (name : String) :
    (leaves fields).lookup name = (fields.lookup name).map Leaf.toData :=
  lookup_map_snd (fun _ => Leaf.toData) fields name

theorem get_leaves_none (h : fields.lookup name = none) :
    get (leaves fields) name = .undefined := by
  rw [Js.get, lookup_leaves, h]
  rfl

theorem get_leaves_some {leaf : Leaf} (h : fields.lookup name = some leaf) :
    get (leaves fields) name = leaf.toData := by
  rw [Js.get, lookup_leaves, h]
  rfl

theorem lookup_without (k : String) (fields : Fields) (name : String) :
    (without k fields).lookup name = if name = k then none else fields.lookup name := by
  induction fields with
  | nil => simp [without]
  | cons field fields ih =>
    obtain ⟨j, leaf⟩ := field
    rw [without] at ih ⊢
    by_cases hj : j = k
    · subst hj
      rw [List.filter_cons_of_neg (by simp), ih, List.lookup_cons]
      split_ifs with hname
      · rfl
      · rw [beq_false_of_ne hname]
    · rw [List.filter_cons_of_pos (by simpa using hj), List.lookup_cons, List.lookup_cons, ih]
      by_cases hname : name = j
      · subst hname
        simp [hj]
      · rw [beq_false_of_ne hname]

variable {texts counts : List String}

/-- Nothing is asked of a property that nothing converts. -/
theorem fieldsAgree_congr {others : Fields} (hmethods : name ∉ objectMethods)
    (htexts : name ∉ texts) (hcounts : name ∉ counts)
    (h : ∀ j, j ≠ name → fields.lookup j = others.lookup j) :
    FieldsAgree texts counts fields ↔ FieldsAgree texts counts others := by
  have hself : ∀ leaf : Leaf, leaf.Agrees texts counts name := by
    intro leaf
    refine ⟨hmethods, ?_⟩
    cases leaf with
    | string s => exact fun h => absurd h htexts
    | number n => exact hcounts
    | bigNumber b => trivial
  refine forall_congr' fun j => ?_
  by_cases hj : j = name
  · subst hj
    exact iff_of_true (fun leaf _ => hself leaf) fun leaf _ => hself leaf
  · rw [h j hj]

theorem fieldsAgree_cons {leaf : Leaf} (hmethods : name ∉ objectMethods) (htexts : name ∉ texts)
    (hcounts : name ∉ counts) :
    FieldsAgree texts counts ((name, leaf) :: fields) ↔ FieldsAgree texts counts fields :=
  fieldsAgree_congr hmethods htexts hcounts fun j hj => by
    rw [List.lookup_cons, beq_false_of_ne hj]

theorem fieldsAgree_without (hmethods : name ∉ objectMethods) (htexts : name ∉ texts)
    (hcounts : name ∉ counts) :
    FieldsAgree texts counts (without name fields) ↔ FieldsAgree texts counts fields :=
  fieldsAgree_congr hmethods htexts hcounts fun j hj => by rw [lookup_without, if_neg hj]

end

/-! ### What the decorators make -/

variable {bigNumber : String → BigNumber} {ofNumber : ℚ → BigNumber}
  {other : Data StatDto → Option BigNumber} {parts : BigNumber → List (String × Data StatDto)}

variable (bigNumber ofNumber) in
/-- The number that is made of a leaf. -/
def Leaf.toNumber : Leaf → BigNumber
  | .string s => bigNumber s
  | .number n => ofNumber n
  | .bigNumber b => b

variable (bigNumber ofNumber) in
/-- The properties of an instance of a class with counts. -/
def instances (counts : List String) : Fields → List (String × Data StatDto)
  | [] => []
  | (name, leaf) :: fields =>
    if name ∈ objectMethods then instances counts fields
    else
      (name,
        if name ∈ counts then .bigNumber (leaf.toNumber bigNumber ofNumber) else leaf.toData) ::
        instances counts fields

theorem toBigNumber_leaf (leaf : Leaf) :
    Common.toBigNumber (construct bigNumber ofNumber other) leaf.toData =
      some (.bigNumber (leaf.toNumber bigNumber ofNumber)) := by
  cases leaf <;> rfl

/-- The properties of the class that are named are its counts. -/
theorem instantiateFields_leaves {cls : StatDto} {counts : List String} {fields : Fields}
    (h : ∀ field ∈ fields, conversion bigNumber ofNumber other cls field.1 =
      if field.1 ∈ counts then
        { transform := Common.toBigNumber (construct bigNumber ofNumber other) } else {}) :
    instantiateFields (conversion bigNumber ofNumber other) cls (leaves fields) =
      some (instances bigNumber ofNumber counts fields) := by
  induction fields with
  | nil => rfl
  | cons field fields ih =>
    obtain ⟨name, leaf⟩ := field
    obtain ⟨hname, hfields⟩ := List.forall_mem_cons.1 h
    have hrest := ih hfields
    rw [leaves] at hrest
    rw [leaves, List.map_cons, instantiateFields_cons, instances, hrest]
    split_ifs with hmethod hcount
    · rfl
    · rw [hname, if_pos hcount]
      show (Common.toBigNumber _ leaf.toData).bind _ = _
      rw [toBigNumber_leaf]
      rfl
    · rw [hname, if_neg hcount]
      rfl

theorem lookup_instances (counts : List String) (fields : Fields) (name : String) :
    (instances bigNumber ofNumber counts fields).lookup name =
      if name ∈ objectMethods then none
      else (fields.lookup name).map fun leaf =>
        if name ∈ counts then .bigNumber (leaf.toNumber bigNumber ofNumber) else leaf.toData := by
  induction fields with
  | nil => split_ifs <;> rfl
  | cons field fields ih =>
    obtain ⟨j, leaf⟩ := field
    rw [instances]
    by_cases hname : name = j
    · subst hname
      split_ifs <;> simp [*]
    · split_ifs <;> simp [List.lookup_cons, beq_false_of_ne hname, *]

theorem get_instances (counts : List String) (fields : Fields) (name : String) :
    get (instances bigNumber ofNumber counts fields) name =
      (if name ∈ objectMethods then none
      else (fields.lookup name).map fun leaf =>
        if name ∈ counts then Data.bigNumber (leaf.toNumber bigNumber ofNumber)
        else leaf.toData).getD .undefined := by
  rw [Js.get, lookup_instances]

theorem get_instances_none {counts : List String} {fields : Fields} {name : String}
    (h : fields.lookup name = none) :
    get (instances bigNumber ofNumber counts fields) name = .undefined := by
  rw [get_instances, h]
  split_ifs <;> rfl

/-! ### What is made by hand -/

/-- The text becomes a number, and it is one. -/
theorem same_leaf_iff {texts counts : List String} {name : String} (leaf : Leaf)
    (hcounts : name ∈ counts → name ∈ texts) :
    (if name ∈ texts then toBigNumber bigNumber leaf.toData else leaf.toData).Same
        (if name ∈ counts then .bigNumber (leaf.toNumber bigNumber ofNumber) else leaf.toData) ↔
      (match leaf with
        | .string _ => name ∈ texts → name ∈ counts
        | .number _ => name ∉ counts
        | .bigNumber _ => True) := by
  have hleaf : (if name ∈ texts then toBigNumber bigNumber leaf.toData else leaf.toData).isLeaf =
      true := by
    split_ifs <;> cases leaf <;> rfl
  rw [same_of_leaf hleaf]
  by_cases hcount : name ∈ counts
  · rw [if_pos (hcounts hcount), if_pos hcount]
    cases leaf with
    | string s => exact iff_of_true rfl fun _ => hcount
    | number n => exact iff_of_false nofun fun h => h hcount
    | bigNumber b => exact iff_of_true rfl trivial
  · rw [if_neg hcount]
    cases leaf with
    | string s =>
      split_ifs with htext
      · exact iff_of_false nofun fun h => hcount (h htext)
      · exact iff_of_true rfl fun h => absurd h htext
    | number n => exact iff_of_true (ite_self _) hcount
    | bigNumber b => exact iff_of_true (ite_self _) trivial

/-- **Both ways make the same of leaves** if each of them is as it has to be. -/
theorem same_fields_iff {texts counts : List String} {fields : Fields}
    {made : List (String × Data StatDto)} (hcounts : ∀ name ∈ counts, name ∈ texts)
    (htexts : ∀ name ∈ texts, name ∉ objectMethods)
    (hmade : ∀ name, get made name =
      if name ∈ texts then toBigNumber bigNumber (get (leaves fields) name)
      else get (leaves fields) name) :
    (∀ name, (get made name).Same (get (instances bigNumber ofNumber counts fields) name)) ↔
      FieldsAgree texts counts fields := by
  refine forall_congr' fun name => ?_
  rw [hmade, get_instances]
  cases hlookup : fields.lookup name with
  | none =>
    refine iff_of_true ?_ nofun
    rw [get_leaves_none hlookup]
    split_ifs <;> exact .refl _
  | some leaf =>
    rw [get_leaves_some hlookup, Option.map_some]
    have hagrees : (∀ l, some leaf = some l → l.Agrees texts counts name) ↔
        leaf.Agrees texts counts name := by simp
    rw [hagrees, Leaf.Agrees.eq_def]
    by_cases hmethod : name ∈ objectMethods
    · have htext : name ∉ texts := fun h => htexts name h hmethod
      rw [if_pos hmethod, if_neg htext]
      refine iff_of_false ?_ fun h => h.1 hmethod
      rw [same_of_leaf (by cases leaf <;> rfl)]
      cases leaf <;> nofun
    · rw [if_neg hmethod, Option.getD_some, same_leaf_iff leaf (hcounts name),
        and_iff_right hmethod]

theorem same_cons_iff {k : String} {m d : Data StatDto}
    {made decorated : List (String × Data StatDto)}
    (hmade : get made k = .undefined) (hdecorated : get decorated k = .undefined) :
    (∀ name, (get ((k, m) :: made) name).Same (get ((k, d) :: decorated) name)) ↔
      m.Same d ∧ ∀ name, (get made name).Same (get decorated name) := by
  have hget : ∀ (v : Data StatDto) (fields : List (String × Data StatDto)) (name : String),
      get ((k, v) :: fields) name = if name = k then v else get fields name := by
    intro v fields name
    rw [Js.get, List.lookup_cons]
    split_ifs with hname
    · rw [hname, beq_self_eq_true]
      rfl
    · rw [beq_false_of_ne hname]
      rfl
  simp only [hget]
  constructor
  · intro h
    refine ⟨by simpa using h k, fun name => ?_⟩
    by_cases hname : name = k
    · rw [hname, hmade, hdecorated]
      exact .refl _
    · simpa [hname] using h name
  · rintro ⟨hspecial, hrest⟩ name
    split_ifs
    · exact hspecial
    · exact hrest name

/-! ### The claim type of a `ScopedBalance` -/

variable (bigNumber ofNumber) in
/-- What the decorator makes of a claim. -/
def TrustedFor.decorated : TrustedFor → Data StatDto
  | custom customClaimTypeId =>
    .object .plain [("type", .string "Custom"),
      ("customClaimTypeId", .bigNumber (customClaimTypeId.toNumber bigNumber ofNumber))]
  | claim => claim.toData

theorem toTrustedFor_toData (claimType : TrustedFor) :
    toTrustedFor bigNumber ofNumber claimType.toData =
      some (claimType.decorated bigNumber ofNumber) := by
  rcases claimType with _ | _ | ⟨⟨⟩ | ⟨⟩ | ⟨⟩⟩ <;> rfl

theorem same_trustedFor_iff (claimType : TrustedFor) :
    claimType.toData.Same (claimType.decorated bigNumber ofNumber) ↔ claimType.Agrees := by
  cases claimType with
  | custom customClaimTypeId =>
    rw [TrustedFor.toData, TrustedFor.decorated, same_object_iff, TrustedFor.Agrees]
    constructor
    · rintro ⟨-, h⟩
      have hid : customClaimTypeId.toData.Same
        (.bigNumber (customClaimTypeId.toNumber bigNumber ofNumber)) := h "customClaimTypeId"
      rw [same_of_leaf (by cases customClaimTypeId <;> rfl)] at hid
      cases customClaimTypeId with
      | bigNumber b => exact ⟨b, rfl⟩
      | _ => cases hid
    · rintro ⟨b, rfl⟩
      exact ⟨rfl, fun name => .refl _⟩
  | _ => exact iff_of_true (.refl _) trivial

/-! ### The `value` of a `ScopedCount` -/

/-- The class that an object gets by hand. -/
def ScopedClaimType.madeCls : ScopedClaimType → StatDto
  | jurisdiction => .plain
  | claimType => claimType.valueCls

variable (bigNumber) in
/-- What is made of a `value` by hand. -/
def PlainValue.made (claimType : ScopedClaimType) : PlainValue → Data StatDto
  | object fields => .object claimType.madeCls (convertValue bigNumber (leaves fields))
  | array items => .array (items.map fun fields =>
      .object .claimCountJurisdictionValueItem (convertCount bigNumber (leaves fields)))
  | value => value.toData

variable (bigNumber ofNumber) in
/-- What the decorators make of a `value`. -/
def PlainValue.decorated (claimType : ScopedClaimType) : PlainValue → Data StatDto
  | object fields =>
    .object claimType.valueCls (instances bigNumber ofNumber claimType.counts fields)
  | array items => .array (items.map fun fields =>
      .object claimType.valueCls (instances bigNumber ofNumber claimType.counts fields))
  | value => value.toData

theorem transformValue_plain (claimType : ScopedClaimType) (value : PlainValue) :
    TransformScopedCountStats.transformValue bigNumber parts (claimTypes.lookup claimType.text)
      value.toData = some (value.made bigNumber claimType) := by
  cases value with
  | object fields => cases claimType <;> rfl
  | array items =>
    have hitems : (items.map fun fields => Data.object StatDto.plain (leaves fields)).mapM
        (TransformScopedCountStats.transformItem bigNumber parts) =
          some (items.map fun fields => .object .claimCountJurisdictionValueItem
            (convertCount bigNumber (leaves fields))) := by
      rw [mapM_eq_some_iff, List.forall₂_map_left_iff, List.forall₂_map_right_iff,
        List.forall₂_same]
      exact fun fields _ => rfl
    rw [PlainValue.toData, TransformScopedCountStats.transformValue, hitems]
    rfl
  | _ => rfl

theorem conversion_valueCls (claimType : ScopedClaimType) (name : String) :
    conversion bigNumber ofNumber other claimType.valueCls name =
      if name ∈ claimType.counts then
        { transform := Common.toBigNumber (construct bigNumber ofNumber other) } else {} := by
  cases claimType <;> simp only [ScopedClaimType.valueCls, ScopedClaimType.counts] <;>
    unfold conversion <;> split <;> simp_all

theorem conversion_addCountStat (name : String) :
    conversion bigNumber ofNumber other .addCountStat name =
      if name ∈ ["count"] then
        { transform := Common.toBigNumber (construct bigNumber ofNumber other) } else {} := by
  unfold conversion
  split <;> simp_all

theorem conversion_addClaimPercentageStat {name : String} (h : name ≠ "claimType") :
    conversion bigNumber ofNumber other .addClaimPercentageStat name = {} := by
  unfold conversion
  split <;> simp_all

theorem conversion_cls (claimType : ScopedClaimType) {name : String} (h : name ≠ "value") :
    conversion bigNumber ofNumber other claimType.cls name = {} := by
  cases claimType <;> simp only [ScopedClaimType.cls] <;> unfold conversion <;> split <;> simp_all

theorem instantiate_leaves (claimType : ScopedClaimType) (fields : Fields) :
    instantiate (conversion bigNumber ofNumber other) (.class claimType.valueCls)
        (.object .plain (leaves fields)) =
      some (.object claimType.valueCls (instances bigNumber ofNumber claimType.counts fields)) := by
  rw [instantiate, TypeOf.classOf,
    instantiateFields_leaves fun field _ => conversion_valueCls claimType field.1]
  rfl

theorem instantiate_value (claimType : ScopedClaimType) (value : PlainValue) :
    instantiate (conversion bigNumber ofNumber other) (.class claimType.valueCls) value.toData =
      some (value.decorated bigNumber ofNumber claimType) := by
  cases value with
  | object fields => exact instantiate_leaves claimType fields
  | array items =>
    have hitems : instantiateAll (conversion bigNumber ofNumber other) (.class claimType.valueCls)
        (items.map fun fields => .object .plain (leaves fields)) =
          some (items.map fun fields => .object claimType.valueCls
            (instances bigNumber ofNumber claimType.counts fields)) := by
      rw [instantiateAll_eq_some_iff, List.forall₂_map_left_iff, List.forall₂_map_right_iff,
        List.forall₂_same]
      exact fun fields _ => ⟨_, rfl, instantiate_leaves claimType fields⟩
    rw [PlainValue.toData, instantiate, hitems]
    rfl
  | _ => rfl

theorem get_convertCount_leaves (fields : Fields) (name : String) :
    get (convertCount bigNumber (leaves fields)) name =
      if name ∈ ["count"] then toBigNumber bigNumber (get (leaves fields) name)
      else get (leaves fields) name := by
  rw [get_convertCount]
  simp only [List.mem_singleton]

theorem same_object_value_iff (claimType : ScopedClaimType) (fields : Fields) :
    ((PlainValue.object fields).made bigNumber claimType).Same
        ((PlainValue.object fields).decorated bigNumber ofNumber claimType) ↔
      (PlainValue.object fields).Agrees claimType := by
  have hfields : claimType ≠ .jurisdiction → ((∀ name,
      (get (convertValue bigNumber (leaves fields)) name).Same
        (get (instances bigNumber ofNumber claimType.counts fields) name)) ↔
          FieldsAgree ["accredited", "nonAccredited", "affiliate", "nonAffiliate"]
            claimType.counts fields) := by
    intro hclaim
    refine same_fields_iff ?_ (by decide) (get_convertValue _)
    cases claimType with
    | jurisdiction => exact absurd rfl hclaim
    | _ => decide
  rw [PlainValue.made, PlainValue.decorated, same_object_iff]
  cases claimType with
  | jurisdiction => exact iff_of_false nofun id
  | accredited => exact (and_iff_right rfl).trans (hfields nofun)
  | affiliate => exact (and_iff_right rfl).trans (hfields nofun)

theorem same_array_value_iff (claimType : ScopedClaimType) (items : List Fields) :
    ((PlainValue.array items).made bigNumber claimType).Same
        ((PlainValue.array items).decorated bigNumber ofNumber claimType) ↔
      (PlainValue.array items).Agrees claimType := by
  have hother : claimType ≠ .jurisdiction → ((∀ fields ∈ items,
      (Data.object .claimCountJurisdictionValueItem (convertCount bigNumber (leaves fields))).Same
        (.object claimType.valueCls (instances bigNumber ofNumber claimType.counts fields))) ↔
          items = []) := by
    intro hclaim
    constructor
    · intro h
      refine List.eq_nil_iff_forall_not_mem.2 fun fields hfields => ?_
      have hcls := (same_object_iff.1 (h fields hfields)).1
      cases claimType with
      | jurisdiction => exact hclaim rfl
      | _ => cases hcls
    · rintro rfl
      nofun
  rw [PlainValue.made, PlainValue.decorated, same_array_iff, List.forall₂_map_left_iff,
    List.forall₂_map_right_iff, List.forall₂_same]
  cases claimType with
  | jurisdiction =>
    refine forall₂_congr fun fields _ => ?_
    rw [same_object_iff]
    exact (and_iff_right rfl).trans
      (same_fields_iff (by decide) (by decide) (get_convertCount_leaves fields))
  | accredited => exact hother nofun
  | affiliate => exact hother nofun

theorem same_value_iff (claimType : ScopedClaimType) (value : PlainValue) :
    (value.made bigNumber claimType).Same (value.decorated bigNumber ofNumber claimType) ↔
      value.Agrees claimType := by
  cases value with
  | object fields => exact same_object_value_iff claimType fields
  | array items => exact same_array_value_iff claimType items
  | _ => cases claimType <;> exact iff_of_true (.refl _) trivial

/-! ### The checks of the classes -/

theorem isInstanceOfBigNumber_of_same {a b : Data StatDto} (h : a.Same b) :
    isInstanceOfBigNumber a = isInstanceOfBigNumber b := by
  cases h <;> rfl

theorem isEnum_of_same (values : List String) {a b : Data StatDto} (h : a.Same b) :
    isEnum values a = isEnum values b := by
  cases h <;> rfl

theorem isBigNumber_of_same {a b : Data StatDto} (h : a.Same b) :
    isBigNumber {} a = isBigNumber {} b := by
  cases h with
  | refl => rfl
  | object fields => rfl
  | @array as bs length items =>
    show as.all isInstanceOfBigNumber = bs.all isInstanceOfBigNumber
    have hitems : List.Forall₂ Data.Same as bs :=
      List.forall₂_iff_zip.2 ⟨length, fun h => items _ h⟩
    clear items length
    induction hitems with
    | nil => rfl
    | cons hitem _ ih => rw [List.all_cons, List.all_cons, isInstanceOfBigNumber_of_same hitem, ih]

theorem isTrustedForClaimType_of_same {a b : Data StatDto} (h : a.Same b) :
    isTrustedForClaimType a = isTrustedForClaimType b := by
  cases h with
  | refl => rfl
  | array length items => rfl
  | object fields =>
    rw [isTrustedForClaimType, isTrustedForClaimType, isEnum_of_same _ (fields "type"),
      isInstanceOfBigNumber_of_same (fields "customClaimTypeId")]

theorem isDid_of_same {a b : Data StatDto} (h : a.Same b) : isDid a = isDid b := by
  cases h <;> rfl

theorem respectsSame_count (name : String) : (countProperty name).RespectsSame :=
  List.forall_mem_singleton.2 fun _ _ => isBigNumber_of_same

theorem respectsSame_assetStatBase : ∀ p ∈ assetStatBase, p.RespectsSame :=
  List.forall_mem_singleton.2 (List.forall_mem_singleton.2 fun _ _ => isEnum_of_same _)

theorem respectsSame_issuer :
    ({ name := "issuer", checks := [isDid] } : Property StatDto).RespectsSame :=
  List.forall_mem_singleton.2 fun _ _ => isDid_of_same

theorem respectsSame_addClaimCountStat : ∀ p ∈ addClaimCountStat, p.RespectsSame := by
  refine List.forall_mem_append.2 ⟨respectsSame_assetStatBase,
    List.forall_mem_cons.2 ⟨respectsSame_issuer, List.forall_mem_cons.2 ⟨?_, ?_⟩⟩⟩
  · exact List.forall_mem_singleton.2 fun _ _ => isEnum_of_same _
  · exact List.forall_mem_singleton.2 nofun

/-- The decorators of the classes only look at fields. -/
theorem respectsSame : RespectsSame StatDto := by
  intro cls
  cases cls with
  | plain => exact nofun
  | addCountStat =>
    exact List.forall_mem_append.2 ⟨respectsSame_assetStatBase,
      List.forall_mem_singleton.2 (respectsSame_count _)⟩
  | addPercentageStat => exact respectsSame_assetStatBase
  | addClaimPercentageStat =>
    refine List.forall_mem_append.2 ⟨respectsSame_assetStatBase,
      List.forall_mem_cons.2 ⟨respectsSame_issuer, List.forall_mem_singleton.2 ?_⟩⟩
    exact List.forall_mem_singleton.2 fun _ _ => isTrustedForClaimType_of_same
  | addClaimCountAccreditedStat => exact respectsSame_addClaimCountStat
  | addClaimCountAffiliateStat => exact respectsSame_addClaimCountStat
  | addClaimCountJurisdictionStat => exact respectsSame_addClaimCountStat
  | claimCountAccreditedValue =>
    exact List.forall_mem_cons.2 ⟨respectsSame_count _,
      List.forall_mem_singleton.2 (respectsSame_count _)⟩
  | claimCountAffiliateValue =>
    exact List.forall_mem_cons.2 ⟨respectsSame_count _,
      List.forall_mem_singleton.2 (respectsSame_count _)⟩
  | claimCountJurisdictionValueItem =>
    exact List.forall_mem_cons.2 ⟨List.forall_mem_singleton.2 fun _ _ => isEnum_of_same _,
      List.forall_mem_singleton.2 (respectsSame_count _)⟩

/-! ### Items -/

namespace PlainStat

/-- The properties of an item that are leaves of any names. -/
def fields : PlainStat → Fields
  | count fields | balance fields | scopedBalance _ fields | scopedCount _ _ fields => fields

theorem lookup_constructor (item : PlainStat) :
    item.toFields.lookup "constructor" = (item.fields.lookup "constructor").map Leaf.toData := by
  have hskip : ∀ {k : String} (v : Data StatDto) (fields : List (String × Data StatDto)),
      k ≠ "constructor" →
        ((k, v) :: fields).lookup "constructor" = fields.lookup "constructor" := by
    intro k v fields hk
    rw [List.lookup_cons, beq_false_of_ne hk.symm]
  have hscoped : ∀ claimType fields, (leaves (scopedCountFields claimType fields)).lookup
      "constructor" = (List.lookup "constructor" fields).map Leaf.toData := by
    intro claimType fields
    refine (hskip _ _ (by decide : "type" ≠ _)).trans
      ((hskip _ _ (by decide : "claimType" ≠ _)).trans ?_)
    exact (lookup_leaves _ _).trans
      (congrArg (Option.map _) ((lookup_without _ _ _).trans (if_neg (by decide))))
  cases item with
  | count fields => exact (hskip _ _ (by decide)).trans (lookup_leaves _ _)
  | balance fields => exact (hskip _ _ (by decide)).trans (lookup_leaves _ _)
  | scopedBalance claimType fields =>
    refine (hskip _ _ (by decide)).trans ((hskip _ _ (by decide)).trans ?_)
    exact (lookup_leaves _ _).trans
      (congrArg (Option.map _) ((lookup_without _ _ _).trans (if_neg (by decide))))
  | scopedCount claimType value fields =>
    cases value with
    | none => exact hscoped claimType fields
    | some value => exact (hskip _ _ (by decide)).trans (hscoped claimType fields)

theorem Agrees.lookup_eq_none {item : PlainStat} (h : item.Agrees) {name : String}
    (hname : name ∈ objectMethods) : item.fields.lookup name = none := by
  have hnone : ∀ {texts counts : List String} {fields : Fields},
      FieldsAgree texts counts fields → fields.lookup name = none := by
    intro texts counts fields hfields
    refine Option.eq_none_iff_forall_ne_some.2 fun leaf hleaf => ?_
    exact (hfields name leaf hleaf).1 hname
  cases item with
  | count fields => exact hnone h
  | balance fields => exact hnone h
  | scopedBalance claimType fields => exact hnone h.1
  | scopedCount claimType value fields => exact hnone h.1

section

variable (bigNumber)

/-- The properties of the instance that is made by hand. -/
def made : PlainStat → List (String × Data StatDto)
  | count fields => convertCount bigNumber (leaves (("type", .string "Count") :: fields))
  | scopedCount claimType (some value) fields =>
    ("value", value.made bigNumber claimType) :: leaves (scopedCountFields claimType fields)
  | item => item.toFields

variable (ofNumber)

/-- The properties of the instance that the decorators make. -/
def decorated : PlainStat → List (String × Data StatDto)
  | count fields => instances bigNumber ofNumber ["count"] (("type", .string "Count") :: fields)
  | balance fields => instances bigNumber ofNumber [] (("type", .string "Balance") :: fields)
  | scopedBalance claimType fields =>
    ("claimType", claimType.decorated bigNumber ofNumber) ::
      instances bigNumber ofNumber []
        (("type", .string "ScopedBalance") :: without "claimType" fields)
  | scopedCount claimType none fields =>
    instances bigNumber ofNumber [] (scopedCountFields claimType fields)
  | scopedCount claimType (some value) fields =>
    ("value", value.decorated bigNumber ofNumber claimType) ::
      instances bigNumber ofNumber [] (scopedCountFields claimType fields)

end

theorem ne_of_mem_without {k : String} {fields : Fields} {field : String × Leaf}
    (h : field ∈ without k fields) : field.1 ≠ k := by
  simpa using (List.mem_filter.1 h).2

theorem lookup_value (claimType : ScopedClaimType) (fields : Fields) :
    (scopedCountFields claimType fields).lookup "value" = none := by
  have hnone : (without "value" fields).lookup "value" = none := by
    rw [lookup_without, if_pos rfl]
  exact hnone

theorem lookup_claimType (fields : Fields) :
    (("type", .string "ScopedBalance") :: without "claimType" fields : Fields).lookup "claimType" =
      none := by
  have hnone : (without "claimType" fields).lookup "claimType" = none := by
    rw [lookup_without, if_pos rfl]
  exact hnone

theorem transformScopedCount_toFields (claimType : ScopedClaimType) (value : Option PlainValue)
    (fields : Fields) :
    TransformScopedCountStats.transformScopedCount bigNumber parts
        (scopedCount claimType value fields).toFields =
      some ((scopedCount claimType value fields).made bigNumber) := by
  cases value with
  | none =>
    rw [TransformScopedCountStats.transformScopedCount, toFields, lookup_leaves, lookup_value]
    rfl
  | some value =>
    show (TransformScopedCountStats.transformValue bigNumber parts
      (claimTypes.lookup claimType.text) value.toData).map _ = _
    rw [transformValue_plain]
    rfl

/-- By hand, an item becomes an instance unless it has a `constructor` of its own. -/
theorem transform_eq {item : PlainStat} (h : item.fields.lookup "constructor" = none) :
    transform bigNumber parts item.toData = some (.object item.cls (item.made bigNumber)) := by
  have hplain : isPlain .plain item.toFields = true := by
    rw [isPlain, lookup_constructor, h]
    rfl
  rw [toData, transform, hplain]
  cases item with
  | count fields => rfl
  | balance fields => rfl
  | scopedBalance claimType fields => rfl
  | scopedCount claimType value fields =>
    have htype : get (scopedCount claimType value fields).toFields "type" =
        .string "ScopedCount" := by cases value <;> rfl
    have hclaim : get (scopedCount claimType value fields).toFields "claimType" =
        .string claimType.text := by cases value <;> rfl
    rw [htype, hclaim, transformScopedCount_toFields]
    cases claimType <;> rfl

theorem transform_of_constructor {item : PlainStat} {leaf : Leaf}
    (h : item.fields.lookup "constructor" = some leaf) :
    transform bigNumber parts item.toData = some item.toData := by
  have hplain : isPlain .plain item.toFields = false := by
    rw [isPlain, lookup_constructor, h]
    cases leaf <;> rfl
  rw [toData, transform, hplain]
  rfl

/-- The decorators make an instance of every item. -/
theorem instantiate_eq (item : PlainStat) :
    instantiate (conversion bigNumber ofNumber other) (.class item.cls) item.toData =
      some (.object item.cls (item.decorated bigNumber ofNumber)) := by
  have hfields : ∀ made, instantiateFields (conversion bigNumber ofNumber other) item.cls
      item.toFields = some made →
        instantiate (conversion bigNumber ofNumber other) (.class item.cls) item.toData =
          some (.object item.cls made) := by
    intro made hmade
    rw [toData, instantiate, TypeOf.classOf, hmade]
    rfl
  refine hfields _ ?_
  cases item with
  | count fields => exact instantiateFields_leaves fun field _ => conversion_addCountStat field.1
  | balance fields => exact instantiateFields_leaves fun field _ => rfl
  | scopedBalance claimType fields =>
    have hrest := @instantiateFields_leaves bigNumber ofNumber other .addClaimPercentageStat []
      (("type", .string "ScopedBalance") :: without "claimType" fields)
      (List.forall_mem_cons.2 ⟨rfl, fun field hfield =>
        conversion_addClaimPercentageStat (ne_of_mem_without hfield)⟩)
    rw [toFields, cls, instantiateFields_cons, if_neg (by decide), hrest]
    show (toTrustedFor bigNumber ofNumber claimType.toData).bind _ = _
    rw [toTrustedFor_toData]
    rfl
  | scopedCount claimType value fields =>
    have hrest := @instantiateFields_leaves bigNumber ofNumber other claimType.cls []
      (scopedCountFields claimType fields)
      (List.forall_mem_cons.2 ⟨conversion_cls claimType (by decide),
        List.forall_mem_cons.2 ⟨conversion_cls claimType (by decide : "claimType" ≠ _),
          fun field hfield => conversion_cls claimType (ne_of_mem_without hfield)⟩⟩)
    cases value with
    | none => exact hrest
    | some value =>
      have hvalue : (conversion bigNumber ofNumber other claimType.cls "value").convert
          (conversion bigNumber ofNumber other) value.toData =
            some (value.decorated bigNumber ofNumber claimType) := by
        have htype : conversion bigNumber ofNumber other claimType.cls "value" =
            { type := some (.class claimType.valueCls) } := by cases claimType <;> rfl
        rw [htype, Conversion.convert]
        show (instantiate _ _ value.toData).bind some = _
        rw [instantiate_value]
        rfl
      rw [toFields, cls, instantiateFields_cons, if_neg (by decide), hrest, hvalue]
      rfl

theorem fieldsAgree_scopedCountFields (claimType : ScopedClaimType) (fields : Fields) :
    FieldsAgree [] [] (scopedCountFields claimType fields) ↔ FieldsAgree [] [] fields := by
  rw [scopedCountFields, fieldsAgree_cons (by decide) (by decide) (by decide),
    fieldsAgree_cons (by decide) (by decide) (by decide),
    fieldsAgree_without (by decide) (by decide) (by decide)]

/-- **The two instances have the same fields** if the item is as it has to be. -/
theorem same_iff (item : PlainStat) :
    (∀ name, (get (item.made bigNumber) name).Same
      (get (item.decorated bigNumber ofNumber) name)) ↔ item.Agrees := by
  have hleaves : ∀ fields : Fields, (∀ name, (get (leaves fields) name).Same
      (get (instances bigNumber ofNumber [] fields) name)) ↔ FieldsAgree [] [] fields :=
    fun fields => same_fields_iff nofun nofun fun _ => rfl
  cases item with
  | count fields =>
    exact (same_fields_iff (by decide) (by decide) (get_convertCount_leaves _)).trans
      (fieldsAgree_cons (by decide) (by decide) (by decide))
  | balance fields => exact (hleaves _).trans (fieldsAgree_cons (by decide) (by decide) (by decide))
  | scopedBalance claimType fields =>
    have hnone := lookup_claimType fields
    have hrest := (hleaves (("type", .string "ScopedBalance") :: without "claimType" fields)).trans
      ((fieldsAgree_cons (by decide) (by decide) (by decide)).trans
        (fieldsAgree_without (by decide) (by decide) (by decide)))
    exact (same_cons_iff (get_leaves_none hnone) (get_instances_none hnone)).trans
      ((and_congr (same_trustedFor_iff claimType) hrest).trans and_comm)
  | scopedCount claimType value fields =>
    have hrest := (hleaves (scopedCountFields claimType fields)).trans
      (fieldsAgree_scopedCountFields claimType fields)
    cases value with
    | none => exact hrest.trans (and_iff_left nofun).symm
    | some value =>
      have hnone := lookup_value claimType fields
      have hvalue : (∀ v ∈ some value, v.Agrees claimType) ↔ value.Agrees claimType := by simp
      exact (same_cons_iff (get_leaves_none hnone) (get_instances_none hnone)).trans
        ((and_congr (same_value_iff claimType value) hrest).trans
          (and_comm.trans (and_congr_right fun _ => hvalue.symm)))

theorem cls_ne_plain (item : PlainStat) : item.cls ≠ .plain := by
  cases item with
  | scopedCount claimType _ _ => cases claimType <;> nofun
  | _ => nofun

end PlainStat

theorem same_of_agreeOn {item : PlainStat} (h : AgreeOn bigNumber ofNumber other parts item)
    (hconstructor : item.fields.lookup "constructor" = none) (name : String) :
    (get (item.made bigNumber) name).Same (get (item.decorated bigNumber ofNumber) name) := by
  obtain ⟨made, decorated, hmade, hdecorated, hsame, -⟩ := h
  rw [PlainStat.transform_eq hconstructor] at hmade
  rw [PlainStat.instantiate_eq] at hdecorated
  cases hmade
  cases hdecorated
  exact (same_object_iff.1 hsame).2 name

/-- An item with a `constructor` of its own becomes an instance by the decorators only. -/
theorem not_agreeOn_of_constructor {item : PlainStat} {leaf : Leaf}
    (hconstructor : item.fields.lookup "constructor" = some leaf) :
    ¬AgreeOn bigNumber ofNumber other parts item := by
  rintro ⟨made, decorated, hmade, hdecorated, hsame, -⟩
  rw [PlainStat.transform_of_constructor hconstructor] at hmade
  rw [PlainStat.instantiate_eq] at hdecorated
  cases hmade
  cases hdecorated
  exact item.cls_ne_plain (same_object_iff.1 hsame).1.symm

/-- **The transformer does what the decorators say**, for the items that leave nothing to convert
but texts where the class has a count. -/
theorem agreeOn_iff (item : PlainStat) :
    AgreeOn bigNumber ofNumber other parts item ↔ item.Agrees := by
  cases hconstructor : item.fields.lookup "constructor" with
  | none =>
    rw [← @PlainStat.same_iff bigNumber ofNumber item]
    constructor
    · intro h
      exact same_of_agreeOn h hconstructor
    · intro hsame
      have hobject : (Data.object item.cls (item.made bigNumber)).Same
          (.object item.cls (item.decorated bigNumber ofNumber)) := same_object_iff.2 ⟨rfl, hsame⟩
      exact ⟨_, _, PlainStat.transform_eq hconstructor, PlainStat.instantiate_eq item, hobject,
        fun _ => nested_of_same respectsSame hobject⟩
  | some leaf =>
    refine iff_of_false (not_agreeOn_of_constructor hconstructor) fun h => ?_
    rw [h.lookup_eq_none (by decide)] at hconstructor
    cases hconstructor

/-- The id of a custom claim is not converted. -/
theorem customClaim_differs :
    ¬AgreeOn (fun _ => .finite 1) (fun _ => .nan) (fun _ => none) (fun _ => [])
      (.scopedBalance (.custom (.string "1")) [("issuer",
        .string "0x0600000000000000000000000000000000000000000000000000000000000000")]) := by
  intro h
  obtain ⟨-, b, hb⟩ := (PlainStat.same_iff _).1 (same_of_agreeOn h rfl)
  cases hb

end StatsDecorators

end PolymeshRest
