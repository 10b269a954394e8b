import Mathlib.Tactic.NormNum
import PolymeshRest.Data.Lists
import PolymeshRest.Js.Json

/-!
# Decorators of requests

A field that is a number carries two decorators: `ToBigNumber` makes numbers of what the client
sent, item by item if it is an array, and `IsBigNumber` checks what was made.  Of the items of an
array it asks only that they are of the class, which those made by `ToBigNumber` always are.  What
`new BigNumber` makes of a value is a parameter; it throws where there is none.

* `toBigNumber`, `isBigNumber` : the two decorators.
* `isDid`, `isString`, `isEnum`, `isBoolean` : other checks of a field.
* `NumbersWithin` : every number of the field is one, and within the bounds.
* `ItemsWithin` : what has to hold of an array for that.
* `PaginatedParams`, `VenueIds` : two of the DTOs that rest on the decorators.
* `accepted_within_iff` : accepted fields have their numbers within the bounds if their arrays do.
-/

namespace PolymeshRest

/-! ### DIDs -/

/-- A hexadecimal digit. -/
def isHexDigit (c : Char) : Bool := c.isDigit || 'a' ≤ c && c ≤ 'f' || 'A' ≤ c && c ≤ 'F'

/-- `DID_LENGTH` -/
def didLength : ℕ := 66

/-- `"0x"` and hexadecimal digits, of the length of a DID. -/
def isDidText (s : String) : Bool :=
  match s.toList with
  | '0' :: 'x' :: hexValue => s.length = didLength && hexValue ≠ [] && hexValue.all isHexDigit
  | _ => false

namespace Common

open Js

variable {C : Type*} (bigNumber : Data C → Option BigNumber)

/-! ### The decorators -/

/-- `ToBigNumber` -/
def toBigNumber : Data C → Option (Data C)
  | .array items => (items.mapM bigNumber).map fun numbers => .array (numbers.map .bigNumber)
  | value => (bigNumber value).map .bigNumber

/-- The argument of `IsBigNumber`. -/
structure Bounds where
  min : Option ℚ := none
  max : Option ℚ := none

/-- The value is a `BigNumber`. -/
def isInstanceOfBigNumber : Data C → Bool
  | .bigNumber _ => true
  | _ => false

/-- `IsBigNumber` -/
def isBigNumber (bounds : Bounds) : Data C → Bool
  | .array items => items.all isInstanceOfBigNumber
  | .bigNumber value =>
    !value.isNaN && !bounds.min.any value.lt && !bounds.max.any value.gt
  | _ => false

/-- `@IsDid()` -/
def isDid : Data C → Bool
  | .string value => isDidText value
  | _ => false

/-- `@IsString()`, which is `isString` of `lodash` as well. -/
def isString : Data C → Bool
  | .string _ => true
  | _ => false

/-- `@IsEnum(..)`, by the values of the enumeration. -/
def isEnum (values : List String) : Data C → Bool
  | .string value => value ∈ values
  | _ => false

/-- `@IsBoolean()` -/
def isBoolean : Data C → Bool
  | .bool _ => true
  | _ => false

/-! ### What they are for -/

/-- A number, and one within the bounds. -/
structure Within (bounds : Bounds) (number : BigNumber) : Prop where
  isNaN : number.isNaN = false
  atLeast : ∀ q ∈ bounds.min, number.AtLeast q
  atMost : ∀ q ∈ bounds.max, number.AtMost q

/-- Every number in a value is within the bounds, and there is nothing else in it. -/
def NumbersWithin (bounds : Bounds) : Data C → Prop
  | .array items => ∀ item ∈ items, ∃ number, item = .bigNumber number ∧ Within bounds number
  | value => ∃ number, value = .bigNumber number ∧ Within bounds number

/-- The items of an array are all within the bounds, if they are all read. -/
def ItemsWithin (bounds : Bounds) : Data C → Prop
  | .array items => (∀ item ∈ items, (bigNumber item).isSome) →
      ∀ item ∈ items, ∀ number, bigNumber item = some number → Within bounds number
  | _ => True

/-- A field that was accepted has numbers within the bounds, and nothing else. -/
def FieldSound (bounds : Bounds) (raw : Data C) : Prop :=
  ∀ value, toBigNumber bigNumber raw = some value → isBigNumber bounds value = true →
    NumbersWithin bounds value

/-! ### Two DTOs -/

/-- The query of `PaginatedParamsDto`, as it was sent. -/
structure PaginatedParams (C : Type*) where
  size : Option (Data C)
  start : Option (Data C)

namespace PaginatedParams

/-- The `size` of the instance; the class has a default for it. -/
def sizeOfPage (query : PaginatedParams C) : Option (Data C) :=
  match query.size with
  | none => some (.bigNumber (.finite 10))
  | some size => toBigNumber bigNumber size

/-- `@IsBigNumber({ max: 30 })` -/
def bounds : Bounds := { max := some 30 }

/-- The condition of `@ValidateIf(({ start }) => !!start)` -/
def hasStart (query : PaginatedParams C) : Bool := (query.start.getD .undefined).isTruthy

/-- A query passes with a `size`, which nothing checks without a `start`. -/
def accepts (query : PaginatedParams C) (size : Data C) : Bool :=
  !query.hasStart || isBigNumber bounds size

/-- The `size` of an accepted query is one number within its bounds. -/
def Sound (query : PaginatedParams C) : Prop :=
  ∀ size, query.sizeOfPage bigNumber = some size → query.accepts size = true →
    ∃ number, size = .bigNumber number ∧ Within bounds number

/-- The `size` is left out, or it is no array that is read, and within its bounds if there is no
`start`. -/
def SizeWithin (query : PaginatedParams C) : Prop :=
  match query.size with
  | none => True
  | some (.array items) => ∃ item ∈ items, bigNumber item = none
  | some size =>
    query.hasStart = false → ∀ number, bigNumber size = some number → Within bounds number

end PaginatedParams

/-- `@ArrayNotEmpty()` -/
def arrayNotEmpty : Data C → Bool
  | .array items => items ≠ []
  | _ => false

/-- The `venues` of `VenueIdsDto` pass. -/
def acceptsVenues (venues : Data C) : Bool := arrayNotEmpty venues && isBigNumber {} venues

/-- The `venues` of an accepted request are numbers. -/
def VenuesSound (raw : Data C) : Prop :=
  ∀ venues, toBigNumber bigNumber raw = some venues → acceptsVenues venues = true →
    NumbersWithin {} venues

/-! ### What is accepted -/

theorem isDid_eq_true_iff {value : Data C} :
    isDid value = true ↔ ∃ did, value = .string did ∧ isDidText did = true := by
  cases value with
  | string did => exact ⟨fun h => ⟨did, rfl, h⟩, fun ⟨_, heq, h⟩ => Data.string.inj heq ▸ h⟩
  | _ =>
    refine iff_of_false Bool.false_ne_true ?_
    rintro ⟨did, heq, -⟩
    cases heq

theorem isEnum_eq_true_iff {values : List String} {value : Data C} :
    isEnum values value = true ↔ ∃ s, value = .string s ∧ s ∈ values := by
  cases value <;> simp [isEnum]

theorem within_iff {bounds : Bounds} {number : BigNumber} :
    isBigNumber bounds (.bigNumber number : Data C) = true ↔ Within bounds number := by
  cases hnan : number.isNaN with
  | true =>
    refine iff_of_false (by simp [isBigNumber, hnan]) fun h => ?_
    rw [h.isNaN] at hnan
    cases hnan
  | false =>
    simp only [isBigNumber, hnan, Bool.not_false, Bool.true_and, Bool.and_eq_true,
      Bool.not_eq_true', Option.any_eq_false]
    constructor
    · rintro ⟨hmin, hmax⟩
      exact ⟨hnan, fun q hq => (BigNumber.lt_eq_false_iff hnan).1 (by simpa using hmin q hq),
        fun q hq => (BigNumber.gt_eq_false_iff hnan).1 (by simpa using hmax q hq)⟩
    · rintro ⟨-, hmin, hmax⟩
      exact ⟨fun q hq => by simpa using (BigNumber.lt_eq_false_iff hnan).2 (hmin q hq),
        fun q hq => by simpa using (BigNumber.gt_eq_false_iff hnan).2 (hmax q hq)⟩

/-- An array that was made of one passes whatever its numbers are. -/
theorem isBigNumber_array (bounds : Bounds) (numbers : List BigNumber) :
    isBigNumber bounds (.array (numbers.map .bigNumber) : Data C) = true := by
  simp [isBigNumber, isInstanceOfBigNumber]

theorem numbersWithin_array {bounds : Bounds} {numbers : List BigNumber} :
    NumbersWithin bounds (.array (numbers.map .bigNumber) : Data C) ↔
      ∀ number ∈ numbers, Within bounds number := by
  simp [NumbersWithin]

theorem toBigNumber_array_eq_some_iff {items : List (Data C)} {value : Data C} :
    toBigNumber bigNumber (.array items) = some value ↔
      ∃ numbers, items.mapM bigNumber = some numbers ∧ .array (numbers.map .bigNumber) = value := by
  rw [toBigNumber, Option.map_eq_some_iff]

theorem exists_of_toBigNumber {raw value : Data C} (hraw : ∀ items, raw ≠ .array items)
    (h : toBigNumber bigNumber raw = some value) :
    ∃ number, bigNumber raw = some number ∧ value = .bigNumber number := by
  cases raw with
  | array items => exact absurd rfl (hraw items)
  | _ =>
    obtain ⟨number, hnumber, hvalue⟩ := Option.map_eq_some_iff.1 h
    exact ⟨number, hnumber, hvalue.symm⟩

theorem isTruthy_of_toBigNumber {raw value : Data C} (h : toBigNumber bigNumber raw = some value) :
    value.isTruthy = true := by
  cases raw with
  | array items =>
    obtain ⟨numbers, -, rfl⟩ := (toBigNumber_array_eq_some_iff bigNumber).1 h
    rfl
  | _ =>
    obtain ⟨number, -, rfl⟩ := exists_of_toBigNumber bigNumber (by simp) h
    rfl

/-- A field has its numbers within the bounds if the items of its array are. -/
theorem fieldSound_iff (bounds : Bounds) (raw : Data C) :
    FieldSound bigNumber bounds raw ↔ ItemsWithin bigNumber bounds raw := by
  cases raw with
  | array items =>
    constructor
    · intro h hread
      have hall : (items.mapM bigNumber).isSome = true := by
        rw [isSome_mapM, List.all_eq_true]
        exact hread
      obtain ⟨numbers, hnumbers⟩ := Option.isSome_iff_exists.1 hall
      have hsound := h _ ((toBigNumber_array_eq_some_iff bigNumber).2 ⟨numbers, hnumbers, rfl⟩)
        (isBigNumber_array bounds numbers)
      exact (forall_mem_of_mapM hnumbers).1 (numbersWithin_array.1 hsound)
    · intro h value hvalue _
      obtain ⟨numbers, hnumbers, rfl⟩ := (toBigNumber_array_eq_some_iff bigNumber).1 hvalue
      have hall : (items.mapM bigNumber).isSome = true := by rw [hnumbers]; rfl
      rw [isSome_mapM, List.all_eq_true] at hall
      exact numbersWithin_array.2 ((forall_mem_of_mapM hnumbers).2 (h hall))
  | _ =>
    refine iff_of_true (fun value hvalue hpasses => ?_) trivial
    obtain ⟨number, -, rfl⟩ := exists_of_toBigNumber bigNumber (by simp) hvalue
    exact ⟨number, rfl, within_iff.1 hpasses⟩

theorem venuesSound_iff (raw : Data C) :
    VenuesSound bigNumber raw ↔ ItemsWithin bigNumber {} raw := by
  rw [← fieldSound_iff]
  constructor
  · intro h value hvalue hpasses
    cases hempty : arrayNotEmpty value with
    | true => exact h value hvalue (by rw [acceptsVenues, hempty, hpasses]; rfl)
    | false =>
      cases value with
      | array items =>
        have hnil : items = [] := by simpa [arrayNotEmpty] using hempty
        subst hnil
        exact fun item hitem => absurd hitem List.not_mem_nil
      | bigNumber number => exact ⟨number, rfl, within_iff.1 hpasses⟩
      | _ => cases hpasses
  · intro h venues hvenues hpasses
    rw [acceptsVenues, Bool.and_eq_true] at hpasses
    exact h venues hvenues hpasses.2

namespace PaginatedParams

/-- An array is accepted as a `size` whenever it is read. -/
theorem sound_array_iff (items : List (Data C)) (start : Option (Data C)) :
    Sound bigNumber ⟨some (.array items), start⟩ ↔ ∃ item ∈ items, bigNumber item = none := by
  have hall : (∃ item ∈ items, bigNumber item = none) ↔ (items.mapM bigNumber).isSome = false := by
    rw [isSome_mapM, List.all_eq_false]
    simp
  rw [hall]
  constructor
  · intro h
    by_contra hread
    rw [Bool.not_eq_false] at hread
    obtain ⟨numbers, hnumbers⟩ := Option.isSome_iff_exists.1 hread
    have haccepts :
        accepts ⟨some (.array items), start⟩ (.array (numbers.map .bigNumber)) = true := by
      rw [accepts, isBigNumber_array, Bool.or_true]
    obtain ⟨number, heq, -⟩ :=
      h _ ((toBigNumber_array_eq_some_iff bigNumber).2 ⟨numbers, hnumbers, rfl⟩) haccepts
    cases heq
  · intro hnone size hsize _
    obtain ⟨numbers, hnumbers, -⟩ := (toBigNumber_array_eq_some_iff bigNumber).1 hsize
    rw [hnumbers] at hnone
    cases hnone

/-- Without a `start` any number is accepted as a `size`. -/
theorem sound_scalar_iff {size : Data C} (start : Option (Data C))
    (hsize : ∀ items, size ≠ .array items)
    (hmade : toBigNumber bigNumber size = (bigNumber size).map .bigNumber) :
    Sound bigNumber ⟨some size, start⟩ ↔
      (hasStart ⟨some size, start⟩ = false →
        ∀ number, bigNumber size = some number → Within bounds number) := by
  constructor
  · intro h hstart number hnumber
    have hvalue : toBigNumber bigNumber size = some (.bigNumber number) := by
      rw [hmade, hnumber]
      rfl
    obtain ⟨made, heq, hwithin⟩ := h _ hvalue (by rw [accepts, hstart]; rfl)
    cases heq
    exact hwithin
  · intro h value hvalue haccepts
    obtain ⟨number, hnumber, rfl⟩ := exists_of_toBigNumber bigNumber hsize hvalue
    refine ⟨number, rfl, ?_⟩
    rw [accepts, Bool.or_eq_true, Bool.not_eq_true'] at haccepts
    rcases haccepts with hstart | hpasses
    · exact h hstart number hnumber
    · exact within_iff.1 hpasses

theorem sizeWithin_iff (query : PaginatedParams C) :
    query.Sound bigNumber ↔ query.SizeWithin bigNumber := by
  obtain ⟨size, start⟩ := query
  cases size with
  | none =>
    refine iff_of_true (fun size hsize _ => ?_) trivial
    cases hsize
    exact ⟨.finite 10, rfl, rfl, by simp [bounds], by simp [bounds, BigNumber.AtMost]; norm_num⟩
  | some size =>
    cases size with
    | array items => exact sound_array_iff bigNumber items start
    | _ => exact sound_scalar_iff bigNumber start (by simp) rfl

end PaginatedParams

/-- **Accepted numbers**: of a field that carries both decorators, of the `size` of a page with or
without a `start`, and of a list of venues. -/
theorem accepted_within_iff :
    (∀ bounds (raw : Data C), FieldSound bigNumber bounds raw ↔ ItemsWithin bigNumber bounds raw) ∧
      (∀ query : PaginatedParams C, query.Sound bigNumber ↔ query.SizeWithin bigNumber) ∧
        ∀ raw : Data C, VenuesSound bigNumber raw ↔ ItemsWithin bigNumber {} raw :=
  ⟨fieldSound_iff bigNumber, PaginatedParams.sizeWithin_iff bigNumber, venuesSound_iff bigNumber⟩

/-- Items that are no numbers pass, and so does a number beyond the bounds without a `start`. -/
theorem not_sound :
    ¬(FieldSound (fun _ => some .nan) {} (.array [.string "abc"] : Data Unit) ∨
      PaginatedParams.Sound (fun _ => some (.finite 1000))
        ⟨some (.string "1000" : Data Unit), none⟩) := by
  rintro (h | h)
  · obtain ⟨number, heq, hwithin⟩ := h _ rfl rfl (.bigNumber .nan) List.mem_cons_self
    cases heq
    cases hwithin.isNaN
  · obtain ⟨number, heq, hwithin⟩ := h _ rfl rfl
    cases heq
    exact absurd (hwithin.atMost 30 rfl) (by simp [BigNumber.AtMost]; norm_num)

end Common

end PolymeshRest
