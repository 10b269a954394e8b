import PolymeshRest.Common.Decorators
import PolymeshRest.Js.ClassTransformer
import PolymeshRest.Js.ClassValidator
import PolymeshRest.Js.ImplicitConversion

/-!
# Amounts of legs

A leg of an instruction, a movement between portfolios and the parameters of a leg to validate
carry either an amount of a fungible asset or a list of NFTs.  Each of the two fields is only
checked where the other one does not count as true, which is decided after both were converted:
whatever is sent is a number or a list of numbers by then, and counts as true.

The application converts the properties of its classes implicitly: a property that is declared as a
string becomes one, and an object that is sent as `nfts` becomes an array.  A nested portfolio that
is `null` is refused.

* `Dto`, `conversion`, `accepts` : the classes with their decorators.
* `toLeg` : the leg in the form that the SDK takes.
* `Amounts`, `Portfolio` : an amount or a list of NFTs, and a portfolio, as they should be.
* `SoundAmounts`, `SoundLeg` : an accepted instance has such amounts, and its leg carries them.
* `AmountsAlone`, `OwnPortfolio` : what the client has to send for that.
* `soundLegs_iff` : accepted instances are sound if that was sent.
-/

namespace PolymeshRest

namespace Legs

open Js

/-! ### The classes -/

/-- The classes of legs and movements, and that of plain objects. -/
inductive Dto where
  | plain
  | portfolio
  | leg
  | portfolioMovement
  | legValidationParams
  deriving DecidableEq, Repr

/-- Checks of other packages: `isHexUuid` and `isUuid` of the SDK, `maxLength` and `isUppercase` of
`class-validator`. -/
structure Validators where
  isHexUuid : Data Dto → Bool
  isUuid : Data Dto → Bool
  maxLength : Data Dto → ℕ → Bool
  isUppercase : Data Dto → Bool

namespace Validators

variable (validators : Validators)

/-- `isAssetId` -/
def isAssetId (id : Data Dto) : Bool := validators.isHexUuid id || validators.isUuid id

/-- `MAX_TICKER_LENGTH` -/
def maxTickerLength : ℕ := 12

/-- `isTicker` -/
def isTicker (ticker : Data Dto) : Bool :=
  validators.maxLength ticker maxTickerLength && validators.isUppercase ticker

/-- `@IsAsset()` -/
def isAsset (value : Data Dto) : Bool := validators.isAssetId value || validators.isTicker value

end Validators

/-- `PortfolioDto`; the other classes have conditions and are checked by `accepts`. -/
instance : Decorated Dto where
  properties
    | .portfolio =>
      [{ name := "did", checks := [Common.isDid] },
        { name := "id", checks := [Common.isBigNumber {}] }]
    | _ => []

/-- The values of `LegType`. -/
def legTypes : List String := ["offChain", "onChain"]

/-- `@IsString()` and `@IsByteLength(0, 32)` -/
def isMemo : Data Dto → Bool
  | .string memo => memo.utf8ByteSize ≤ 32
  | _ => false

/-- The decorated properties of a class other than `amount` and `nfts`. -/
def properties (validators : Validators) : Dto → List (Property Dto)
  | .leg =>
    [{ name := "from", nested := true }, { name := "to", nested := true },
      { name := "asset", checks := [validators.isAsset] },
      { name := "type", checks := [Common.isEnum legTypes] }]
  | .portfolioMovement =>
    [{ name := "asset", checks := [validators.isAsset] },
      { name := "memo", optional := true, checks := [isMemo] }]
  | .legValidationParams =>
    [{ name := "fromDid", checks := [Common.isDid] },
      { name := "fromPortfolio", checks := [Common.isBigNumber {}] },
      { name := "toDid", checks := [Common.isDid] },
      { name := "toPortfolio", checks := [Common.isBigNumber {}] },
      { name := "asset", checks := [validators.isAsset] }]
  | _ => []

/-- `@ValidateIf(({ nfts }) => !nfts)` and `@IsBigNumber()` of `amount` -/
def acceptsAmount (made : List (String × Data Dto)) : Bool :=
  (get made "nfts").isTruthy || Common.isBigNumber {} (get made "amount")

/-- `@ValidateIf(({ amount }) => !amount)` and `@IsBigNumber()` of `nfts` -/
def acceptsNfts (made : List (String × Data Dto)) : Bool :=
  (get made "amount").isTruthy || Common.isBigNumber {} (get made "nfts")

/-- The validation accepts an instance. -/
def accepts (validators : Validators) (cls : Dto) (made : List (String × Data Dto)) : Bool :=
  acceptsAmount made && acceptsNfts made &&
    (properties validators cls).all fun p => p.accepts .refuse (get made p.name)

/-- What the application is built with: `String(value)`, `new BigNumber(value)` of what is sent for
a property that is a number, which may throw, and the array that is made of an object. -/
structure Library extends Texts Dto where
  bigNumber : Data Dto → Option BigNumber
  arrayOf : List (String × Data Dto) → Option (List (Data Dto))

section

variable (library : Library)

/-- `@ToBigNumber()` of `nfts`, which is declared as an array. -/
def Library.toNfts (value : Data Dto) : Option (Data Dto) :=
  (toArray library.arrayOf value).bind (Common.toBigNumber library.bigNumber)

/-- The decorators that convert properties, and the implicit conversions. -/
def conversion : Dto → String → Conversion Dto
  | .leg, "amount" | .portfolioMovement, "amount" | .legValidationParams, "amount"
  | .legValidationParams, "fromPortfolio" | .legValidationParams, "toPortfolio"
  | .portfolio, "id" => { transform := Common.toBigNumber library.bigNumber }
  | .leg, "nfts" | .portfolioMovement, "nfts" | .legValidationParams, "nfts" =>
    { transform := library.toNfts }
  | .leg, "from" | .leg, "to" => { type := some (.class .portfolio) }
  | .leg, "asset" | .leg, "type" | .portfolioMovement, "asset" | .portfolioMovement, "memo"
  | .legValidationParams, "fromDid" | .legValidationParams, "toDid"
  | .legValidationParams, "asset" | .portfolio, "did" => { transform := library.toText }
  | _, _ => {}

/-- The values that the properties of a new instance have. -/
def defaults : Dto → List (String × Data Dto)
  | .leg => [("type", .string "onChain")]
  | _ => []

/-- The instance that is made of what was sent. -/
def instanceOf (cls : Dto) (sent : List (String × Json)) : Option (List (String × Data Dto)) :=
  (instantiateFields (conversion library) cls (Json.toFields .plain sent)).map (· ++ defaults cls)

/-- The instance, if it is accepted. -/
def accepted (validators : Validators) (cls : Dto) (sent : List (String × Json)) :
    Option (List (String × Data Dto)) :=
  (instanceOf library cls sent).filter (accepts validators cls)

end

/-! ### `toLeg` -/

/-- A portfolio in the form that the SDK takes. -/
inductive PortfolioLike where
  | did (did : Data Dto)
  | numbered (identity id : Data Dto)

/-- `toPortfolioId`; only numbers have an `eq`. -/
def toPortfolioId : Data Dto → Option (Option BigNumber)
  | .bigNumber id => some (if id.eq (.finite 0) then none else some id)
  | _ => none

/-- `toPortfolioLike`, which only instances of `PortfolioDto` have. -/
def toPortfolioLike : Data Dto → Option PortfolioLike
  | .object .portfolio fields =>
    (toPortfolioId (get fields "id")).map fun portfolioId =>
      match portfolioId with
      | some id => .numbered (get fields "did") (.bigNumber id)
      | none => .did (get fields "did")
  | _ => none

/-- A leg in the form that the SDK takes, where `undefined` stands for what is left out. -/
structure Leg where
  sender : PortfolioLike
  receiver : PortfolioLike
  asset : Data Dto
  amount : Data Dto := .undefined
  nfts : Data Dto := .undefined

/-- `toLeg` -/
def toLeg (made : List (String × Data Dto)) : Option Leg :=
  if (get made "amount").isTruthy then do
    let sender ← toPortfolioLike (get made "from")
    let receiver ← toPortfolioLike (get made "to")
    return { sender, receiver, asset := get made "asset", amount := get made "amount" }
  else if (get made "nfts").isTruthy then do
    let sender ← toPortfolioLike (get made "from")
    let receiver ← toPortfolioLike (get made "to")
    return { sender, receiver, asset := get made "asset", nfts := get made "nfts" }
  else none

/-! ### What legs are for -/

/-- A number. -/
abbrev Numeric := { number : BigNumber // number.isNaN = false }

/-- An amount of a fungible asset, or NFTs. -/
inductive Amounts where
  | fungible (amount : Numeric)
  | nonFungible (nfts : List Numeric)

namespace Amounts

/-- The field `amount` for amounts. -/
def amount : Amounts → Data Dto
  | fungible amount => .bigNumber amount
  | nonFungible _ => .undefined

/-- The field `nfts` for amounts. -/
def nfts : Amounts → Data Dto
  | fungible _ => .undefined
  | nonFungible nfts => .array ((nfts.map Subtype.val).map .bigNumber)

end Amounts

/-- A portfolio of an identity; the default one has the number 0. -/
structure Portfolio where
  did : String
  id : BigNumber

/-- A field is an instance that tells a portfolio. -/
def Portfolio.Given (p : Portfolio) (value : Data Dto) : Prop :=
  ∃ fields, value = .object .portfolio fields ∧ get fields "did" = .string p.did ∧
    get fields "id" = .bigNumber p.id

/-- The SDK is given a portfolio. -/
def Portfolio.Denoted (p : Portfolio) : PortfolioLike → Prop
  | .did did => did = .string p.did ∧ p.id = .finite 0
  | .numbered identity id => identity = .string p.did ∧ id = .bigNumber p.id

section

variable (library : Library) (validators : Validators)

/-- An instance has an amount or a list of NFTs, and not both. -/
def HasAmounts (made : List (String × Data Dto)) (amounts : Amounts) : Prop :=
  get made "amount" = amounts.amount ∧ get made "nfts" = amounts.nfts

/-- An accepted instance has an amount or a list of NFTs. -/
def SoundAmounts (cls : Dto) (sent : List (String × Json)) : Prop :=
  ∀ made, accepted library validators cls sent = some made → ∃ amounts, HasAmounts made amounts

/-- A leg carries what an instance tells. -/
structure Carries (made : List (String × Data Dto)) (leg : Leg) : Prop where
  hasAmounts : ∃ amounts, HasAmounts made amounts ∧ leg.amount = amounts.amount ∧
    leg.nfts = amounts.nfts
  asset : leg.asset = get made "asset"
  sender : ∃ p : Portfolio, p.Given (get made "from") ∧ p.Denoted leg.sender
  receiver : ∃ p : Portfolio, p.Given (get made "to") ∧ p.Denoted leg.receiver

/-- An accepted `LegDto` is converted to a leg that carries what it tells. -/
def SoundLeg (sent : List (String × Json)) : Prop :=
  ∀ made, accepted library validators .leg sent = some made →
    ∃ leg, toLeg made = some leg ∧ Carries made leg

/-- One of the two is sent: an amount that is no array, or NFTs of which an array of numbers is
made. -/
def AmountsAlone : Option Json → Option Json → Prop
  | some (.array _), none => False
  | some _, none => True
  | none, some nfts => ∃ items, toArray library.arrayOf (nfts.toData .plain) = some (.array items) ∧
      ∀ item ∈ items, ∀ number, library.bigNumber item = some number → number.isNaN = false
  | _, _ => False

/-- An object is sent, whose `id` is no array. -/
def OwnPortfolio : Option Json → Prop
  | some (.object fields) => ∀ items, fields.lookup "id" ≠ some (.array items)
  | _ => False

end

/-! ### Reading instances -/

section

variable {library : Library} {cls : Dto} {sent : List (String × Json)}
  {made : List (String × Data Dto)}

theorem get_instanceOf (h : instanceOf library cls sent = some made) {name : String}
    (hname : name ∉ objectMethods) (hdefault : (defaults cls).lookup name = none) :
    some (get made name) =
      match sent.lookup name with
      | none => some .undefined
      | some value =>
        (conversion library cls name).convert (conversion library) (value.toData .plain) := by
  obtain ⟨converted, hconverted, rfl⟩ := Option.map_eq_some_iff.1 h
  have hget := get_instantiateFields hconverted hname
  rw [lookup_toFields] at hget
  rw [Js.get, List.lookup_append, hdefault, Option.or_none]
  cases hvalue : sent.lookup name with
  | none =>
    rw [hvalue] at hget
    exact hget
  | some value =>
    rw [hvalue] at hget
    exact hget

/-- A property with `@Transform()` is missing, or it has been converted. -/
theorem transform_cases (h : instanceOf library cls sent = some made) {name : String}
    (hname : name ∉ objectMethods) (hdefault : (defaults cls).lookup name = none)
    {transform : Data Dto → Option (Data Dto)}
    (hconversion : conversion library cls name = { transform }) :
    (sent.lookup name = none ∧ get made name = .undefined) ∨
      ∃ value, sent.lookup name = some value ∧
        transform (value.toData .plain) = some (get made name) := by
  have hget := get_instanceOf h hname hdefault
  rw [hconversion] at hget
  cases hvalue : sent.lookup name with
  | none =>
    rw [hvalue] at hget
    exact .inl ⟨rfl, Option.some.inj hget⟩
  | some value =>
    rw [hvalue] at hget
    exact .inr ⟨value, rfl, hget.symm⟩

theorem exists_number {value : Json} {d : Data Dto} (hvalue : ∀ items, value ≠ .array items)
    (h : Common.toBigNumber library.bigNumber (value.toData .plain) = some d) :
    ∃ number, d = .bigNumber number := by
  have hdata : ∀ items, value.toData Dto.plain ≠ .array items := by
    intro items heq
    cases value with
    | array items => exact hvalue items rfl
    | _ => cases heq
  obtain ⟨number, -, hnumber⟩ := Common.exists_of_toBigNumber library.bigNumber hdata h
  exact ⟨number, hnumber⟩

/-! ### Amounts -/

/-- A list of numbers is sound as NFTs if each of them is a number. -/
theorem exists_nonFungible {numbers : List BigNumber} :
    (∃ nfts : List Numeric, nfts.map Subtype.val = numbers) ↔
      ∀ number ∈ numbers, number.isNaN = false := by
  constructor
  · rintro ⟨nfts, rfl⟩ number hnumber
    obtain ⟨nft, -, rfl⟩ := List.mem_map.1 hnumber
    exact nft.2
  · intro h
    exact ⟨numbers.attachWith _ h, List.attachWith_map_subtype_val h⟩

theorem bigNumbers_injective : Function.Injective fun numbers : List BigNumber =>
    (Data.array (numbers.map .bigNumber) : Data Dto) := by
  intro a b h
  exact List.map_injective_iff.2 (fun x y hxy => (Data.bigNumber.inj hxy)) (Data.array.inj h)

theorem hasAmounts_amount {amount : Json}
    (hmade : Common.toBigNumber library.bigNumber (amount.toData .plain) = some (get made "amount"))
    (hnfts : get made "nfts" = .undefined) (haccepts : acceptsAmount made = true) :
    (∃ amounts, HasAmounts made amounts) ↔ AmountsAlone library (some amount) none := by
  rw [acceptsAmount, hnfts] at haccepts
  by_cases harray : ∃ items, amount = .array items
  · obtain ⟨items, rfl⟩ := harray
    obtain ⟨numbers, -, hget⟩ := (Common.toBigNumber_array_eq_some_iff library.bigNumber).1 hmade
    refine iff_of_false ?_ id
    rintro ⟨amounts, hamount, -⟩
    rw [← hget] at hamount
    cases amounts <;> cases hamount
  · obtain ⟨number, hget⟩ := exists_number (not_exists.1 harray) hmade
    rw [hget] at haccepts
    have hpasses : Common.isBigNumber {} (.bigNumber number : Data Dto) = true := haccepts
    have hnumber := (Common.within_iff.1 hpasses).isNaN
    refine iff_of_true ⟨.fungible ⟨number, hnumber⟩, hget, hnfts⟩ ?_
    cases amount with
    | array items => exact absurd ⟨items, rfl⟩ harray
    | _ => trivial

theorem hasAmounts_nfts {nfts : Json} (hamount : get made "amount" = .undefined)
    (hmade : library.toNfts (nfts.toData .plain) = some (get made "nfts")) :
    (∃ amounts, HasAmounts made amounts) ↔ AmountsAlone library none (some nfts) := by
  obtain ⟨value, hvalue, hmade⟩ := Option.bind_eq_some_iff.1 hmade
  by_cases harray : ∃ items, value = .array items
  · obtain ⟨items, rfl⟩ := harray
    obtain ⟨numbers, hnumbers, hget⟩ :=
      (Common.toBigNumber_array_eq_some_iff library.bigNumber).1 hmade
    have hall : AmountsAlone library none (some nfts) ↔
        ∀ number ∈ numbers, number.isNaN = false := by
      rw [forall_mem_of_mapM hnumbers, AmountsAlone, hvalue]
      simp
    rw [hall, ← exists_nonFungible]
    constructor
    · rintro ⟨amounts, -, hnfts⟩
      rw [← hget] at hnfts
      cases amounts with
      | fungible amount => cases hnfts
      | nonFungible nfts => exact ⟨nfts, bigNumbers_injective hnfts.symm⟩
    · rintro ⟨nfts, rfl⟩
      exact ⟨.nonFungible nfts, hamount, hget.symm⟩
  · obtain ⟨number, -, hget⟩ :=
      Common.exists_of_toBigNumber library.bigNumber (not_exists.1 harray) hmade
    refine iff_of_false ?_ ?_
    · rintro ⟨amounts, -, hnfts⟩
      rw [hget] at hnfts
      cases amounts <;> cases hnfts
    · rintro ⟨items, heq, -⟩
      exact harray ⟨items, Option.some.inj (hvalue.symm.trans heq)⟩

/-- An accepted instance has sound amounts if one of the two was sent, in its own shape. -/
theorem hasAmounts_iff (h : instanceOf library cls sent = some made)
    (hamount :
      conversion library cls "amount" = { transform := Common.toBigNumber library.bigNumber })
    (hnfts : conversion library cls "nfts" = { transform := library.toNfts })
    (hdefaults : (defaults cls).lookup "amount" = none ∧ (defaults cls).lookup "nfts" = none)
    (haccepts : acceptsAmount made = true) :
    (∃ amounts, HasAmounts made amounts) ↔
      AmountsAlone library (sent.lookup "amount") (sent.lookup "nfts") := by
  rcases transform_cases h (by decide) hdefaults.1 hamount with
    ⟨hno, hget⟩ | ⟨amount, hsent, hmade⟩
  · rcases transform_cases h (by decide) hdefaults.2 hnfts with
      ⟨-, hgetNfts⟩ | ⟨nfts, hsentNfts, hmadeNfts⟩
    · rw [acceptsAmount, hget, hgetNfts] at haccepts
      cases haccepts
    · rw [hno, hsentNfts]
      exact hasAmounts_nfts hget hmadeNfts
  · rcases transform_cases h (by decide) hdefaults.2 hnfts with
      ⟨hnoNfts, hgetNfts⟩ | ⟨nfts, hsentNfts, hmadeNfts⟩
    · rw [hsent, hnoNfts]
      exact hasAmounts_amount hmade hgetNfts haccepts
    · rw [hsent, hsentNfts]
      refine iff_of_false ?_ (by cases amount <;> exact id)
      rintro ⟨amounts, hgetAmount, hgetNfts⟩
      have htruthy := Common.isTruthy_of_toBigNumber library.bigNumber hmade
      obtain ⟨value, -, hmadeNfts⟩ := Option.bind_eq_some_iff.1 hmadeNfts
      have htruthyNfts := Common.isTruthy_of_toBigNumber library.bigNumber hmadeNfts
      rw [hgetAmount] at htruthy
      rw [hgetNfts] at htruthyNfts
      cases amounts with
      | fungible amount => cases htruthyNfts
      | nonFungible nfts => cases htruthy

/-! ### Portfolios -/

/-- What is made of a portfolio that may be missing. -/
def makePortfolio (library : Library) : Option Json → Option (Data Dto)
  | none => some .undefined
  | some portfolio =>
    instantiate (conversion library) (.class .portfolio) (portfolio.toData .plain)

/-- A portfolio that is one was sent as an object, whose `id` is no array. -/
theorem ownPortfolio_of_given {portfolio : Option Json} {value : Data Dto} {p : Portfolio}
    (hmade : makePortfolio library portfolio = some value) (hgiven : p.Given value) :
    OwnPortfolio portfolio := by
  obtain ⟨fields, rfl, -, hid⟩ := hgiven
  cases portfolio with
  | none => cases hmade
  | some portfolio =>
    cases portfolio with
    | object sent =>
      rw [makePortfolio, Json.toData, instantiate] at hmade
      obtain ⟨properties, hproperties, heq⟩ := Option.map_eq_some_iff.1 hmade
      cases heq
      intro items hitems
      have hname : "id" ∉ objectMethods := by decide
      have hget := get_instantiateFields hproperties hname
      rw [lookup_toFields, hitems, hid] at hget
      obtain ⟨numbers, -, hnumbers⟩ :=
        (Common.toBigNumber_array_eq_some_iff library.bigNumber).1 hget.symm
      cases hnumbers
    | array items =>
      rw [makePortfolio, Json.toData, instantiate] at hmade
      obtain ⟨made, -, heq⟩ := Option.map_eq_some_iff.1 hmade
      cases heq
    | _ => cases hmade

/-- An accepted portfolio whose `id` is no array is one. -/
theorem exists_given {portfolio : Option Json} {value : Data Dto}
    (hmade : makePortfolio library portfolio = some value) (hnested : nested .refuse value = true)
    (hown : OwnPortfolio portfolio) : ∃ p : Portfolio, p.Given value := by
  cases portfolio with
  | none => cases hown
  | some portfolio =>
    cases portfolio with
    | object sent =>
      rw [makePortfolio, Json.toData, instantiate] at hmade
      obtain ⟨properties, hproperties, rfl⟩ := Option.map_eq_some_iff.1 hmade
      have hdid : Common.isDid (get properties "did") = true :=
        check_of_nested hnested List.mem_cons_self rfl List.mem_cons_self
      have hid : Common.isBigNumber {} (get properties "id") = true :=
        check_of_nested hnested (List.mem_cons_of_mem _ List.mem_cons_self) rfl
          List.mem_cons_self
      obtain ⟨did, hdid, -⟩ := Common.isDid_eq_true_iff.1 hdid
      have hname : "id" ∉ objectMethods := by decide
      have hget := get_instantiateFields hproperties hname
      rw [lookup_toFields] at hget
      cases hsent : sent.lookup "id" with
      | none =>
        rw [hsent] at hget
        rw [Option.some.inj hget] at hid
        cases hid
      | some id =>
        rw [hsent] at hget
        have hid : ∀ items, id ≠ .array items := fun items heq => hown items (heq ▸ hsent)
        obtain ⟨number, hnumber⟩ := exists_number hid hget.symm
        exact ⟨⟨did, number⟩, properties, rfl, hdid, hnumber⟩
    | _ => cases hown

theorem exists_denoted {value : Data Dto} {p : Portfolio} (h : p.Given value) :
    ∃ like, toPortfolioLike value = some like ∧ p.Denoted like := by
  obtain ⟨fields, rfl, hdid, hid⟩ := h
  rw [toPortfolioLike, hdid, hid, toPortfolioId]
  cases hzero : p.id.eq (.finite 0) with
  | true => exact ⟨_, rfl, rfl, (BigNumber.eq_iff.1 hzero).1⟩
  | false => exact ⟨_, rfl, rfl, rfl⟩

/-! ### Accepted instances -/

variable {validators : Validators}

theorem of_accepted (h : accepted library validators cls sent = some made) :
    instanceOf library cls sent = some made ∧ acceptsAmount made = true ∧
      ∀ p ∈ properties validators cls, p.accepts .refuse (get made p.name) = true := by
  obtain ⟨hmade, haccepts⟩ := Option.filter_eq_some_iff.1 h
  rw [accepts, Bool.and_eq_true, Bool.and_eq_true, List.all_eq_true] at haccepts
  exact ⟨hmade, haccepts.1.1, haccepts.2⟩

theorem soundAmounts_iff
    (hamount :
      conversion library cls "amount" = { transform := Common.toBigNumber library.bigNumber })
    (hnfts : conversion library cls "nfts" = { transform := library.toNfts })
    (hdefaults : (defaults cls).lookup "amount" = none ∧ (defaults cls).lookup "nfts" = none) :
    SoundAmounts library validators cls sent ↔
      ((accepted library validators cls sent).isSome = true →
        AmountsAlone library (sent.lookup "amount") (sent.lookup "nfts")) := by
  constructor
  · intro h haccepted
    obtain ⟨made, hmade⟩ := Option.isSome_iff_exists.1 haccepted
    obtain ⟨hinstance, haccepts, -⟩ := of_accepted hmade
    exact (hasAmounts_iff hinstance hamount hnfts hdefaults haccepts).1 (h made hmade)
  · intro h made hmade
    obtain ⟨hinstance, haccepts, -⟩ := of_accepted hmade
    exact (hasAmounts_iff hinstance hamount hnfts hdefaults haccepts).2 (h (by rw [hmade]; rfl))

theorem makePortfolio_eq (h : instanceOf library .leg sent = some made) {name : String}
    (hname : name = "from" ∨ name = "to") :
    makePortfolio library (sent.lookup name) = some (get made name) := by
  have hget : some (get made name) = _ := get_instanceOf h
    (by rcases hname with rfl | rfl <;> decide) (by rcases hname with rfl | rfl <;> rfl)
  rw [hget]
  cases sent.lookup name with
  | none => rfl
  | some portfolio =>
    rcases hname with rfl | rfl
    · exact (Option.bind_fun_some _).symm
    · exact (Option.bind_fun_some _).symm

/-- A leg with sound amounts between portfolios is converted to what it tells. -/
theorem exists_carries (hamounts : ∃ amounts, HasAmounts made amounts)
    (hsender : ∃ p : Portfolio, p.Given (get made "from"))
    (hreceiver : ∃ p : Portfolio, p.Given (get made "to")) :
    ∃ leg, toLeg made = some leg ∧ Carries made leg := by
  obtain ⟨sender, hsender⟩ := hsender
  obtain ⟨receiver, hreceiver⟩ := hreceiver
  obtain ⟨senderLike, hsenderLike, hsenderDenoted⟩ := exists_denoted hsender
  obtain ⟨receiverLike, hreceiverLike, hreceiverDenoted⟩ := exists_denoted hreceiver
  obtain ⟨amounts, hamount, hnfts⟩ := hamounts
  rw [toLeg, hsenderLike, hreceiverLike]
  cases amounts with
  | fungible amount =>
    refine ⟨_, by rw [hamount]; rfl, ⟨_, ⟨hamount, hnfts⟩, rfl, rfl⟩, rfl, ?_, ?_⟩
    · exact ⟨sender, hsender, hsenderDenoted⟩
    · exact ⟨receiver, hreceiver, hreceiverDenoted⟩
  | nonFungible nfts =>
    refine ⟨_, by rw [hamount, hnfts]; rfl, ⟨_, ⟨hamount, hnfts⟩, rfl, rfl⟩, rfl, ?_, ?_⟩
    · exact ⟨sender, hsender, hsenderDenoted⟩
    · exact ⟨receiver, hreceiver, hreceiverDenoted⟩

theorem nested_of_accepted (h : accepted library validators .leg sent = some made) {name : String}
    (hname : name = "from" ∨ name = "to") : nested .refuse (get made name) = true := by
  obtain ⟨-, -, hproperties⟩ := of_accepted h
  have haccepts :
      ({ name, nested := true } : Property Dto).accepts .refuse (get made name) = true := by
    refine hproperties _ ?_
    rcases hname with rfl | rfl
    · exact List.mem_cons_self
    · exact List.mem_cons_of_mem _ List.mem_cons_self
  simpa [Property.accepts] using haccepts

/-- Accepted legs are converted to what they tell if the amounts and the portfolios were sent in
their own shapes. -/
theorem soundLeg_iff :
    SoundLeg library validators sent ↔
      ((accepted library validators .leg sent).isSome = true →
        AmountsAlone library (sent.lookup "amount") (sent.lookup "nfts") ∧
          OwnPortfolio (sent.lookup "from") ∧ OwnPortfolio (sent.lookup "to")) := by
  have hamounts : SoundAmounts library validators .leg sent ↔ _ :=
    soundAmounts_iff rfl rfl ⟨rfl, rfl⟩
  constructor
  · intro h haccepted
    obtain ⟨made, hmade⟩ := Option.isSome_iff_exists.1 haccepted
    obtain ⟨hinstance, -, -⟩ := of_accepted hmade
    obtain ⟨leg, -, hcarries⟩ := h made hmade
    obtain ⟨sender, hsender, -⟩ := hcarries.sender
    obtain ⟨receiver, hreceiver, -⟩ := hcarries.receiver
    refine ⟨hamounts.1 (fun made hmade => ?_) haccepted,
      ownPortfolio_of_given (makePortfolio_eq hinstance (.inl rfl)) hsender,
      ownPortfolio_of_given (makePortfolio_eq hinstance (.inr rfl)) hreceiver⟩
    obtain ⟨leg, -, hcarries⟩ := h made hmade
    obtain ⟨amounts, hhas, -⟩ := hcarries.hasAmounts
    exact ⟨amounts, hhas⟩
  · intro h made hmade
    obtain ⟨hinstance, -, -⟩ := of_accepted hmade
    obtain ⟨halone, hsender, hreceiver⟩ := h (by rw [hmade]; rfl)
    exact exists_carries (hamounts.2 (fun _ => halone) made hmade)
      (exists_given (makePortfolio_eq hinstance (.inl rfl))
        (nested_of_accepted hmade (.inl rfl)) hsender)
      (exists_given (makePortfolio_eq hinstance (.inr rfl))
        (nested_of_accepted hmade (.inr rfl)) hreceiver)

end

/-- **Amounts of legs**: accepted legs, movements and parameters of legs have one of the two
fields, with numbers in it, if it was sent alone and in its own shape; and legs are converted to
what they tell if their portfolios were sent as portfolios, too. -/
theorem soundLegs_iff (library : Library) (validators : Validators)
    (sent : List (String × Json)) :
    (SoundLeg library validators sent ↔
      ((accepted library validators .leg sent).isSome = true →
        AmountsAlone library (sent.lookup "amount") (sent.lookup "nfts") ∧
          OwnPortfolio (sent.lookup "from") ∧ OwnPortfolio (sent.lookup "to"))) ∧
      (SoundAmounts library validators .portfolioMovement sent ↔
        ((accepted library validators .portfolioMovement sent).isSome = true →
          AmountsAlone library (sent.lookup "amount") (sent.lookup "nfts"))) ∧
        (SoundAmounts library validators .legValidationParams sent ↔
          ((accepted library validators .legValidationParams sent).isSome = true →
            AmountsAlone library (sent.lookup "amount") (sent.lookup "nfts"))) :=
  ⟨soundLeg_iff, soundAmounts_iff rfl rfl ⟨rfl, rfl⟩, soundAmounts_iff rfl rfl ⟨rfl, rfl⟩⟩

/-- A library that reads nothing as a number. -/
def numberless : Library where
  numberText n := n.num.repr
  objectText _ := some "[object Object]"
  bigNumber _ := some .nan
  arrayOf _ := some []

/-- A movement with an amount and NFTs is accepted whatever they are. -/
theorem not_soundAmounts :
    ¬SoundAmounts numberless ⟨fun _ => true, fun _ => false, fun _ _ => true, fun _ => true⟩
      .portfolioMovement
      [("asset", .string "0x3616b82e8e1080aedc952ea28b9db8b3"), ("amount", .string "abc"),
        ("nfts", .array [.string "abc"])] := by
  intro h
  obtain ⟨amounts, hamount, hnfts⟩ := h _ rfl
  cases amounts with
  | fungible amount => cases hnfts
  | nonFungible nfts => cases hamount

end Legs

end PolymeshRest
