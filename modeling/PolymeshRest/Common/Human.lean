import PolymeshRest.Data.Lists
import PolymeshRest.Js.BigNumber
import PolymeshRest.Js.Number
import PolymeshRest.Js.Rejection

/-!
# Human-readable results

What the services return holds entities of the SDK, dates and numbers of any size, nested in arrays
and objects.  `toHumanObject` makes plain data of it.  Two kinds of leaves have exceptional values:
a date may be invalid, which has no text, and a number may be `NaN`, which is taken for an object.

* `Tree`, `Human` : the values that are given, and those without entities, dates and numbers of any
  size.
* `toHumanObject` : the function behind `@FromEntityObject()`.
* `Tree.at`, `Kept` : the places of a tree, and what is kept at each of them.
* `toHumanObject_ok_iff` : it throws if there is an invalid date, and otherwise returns plain data
  of the same shape, of which it makes nothing else.
-/

namespace PolymeshRest

namespace Common

open Js

/-! ### Dates -/

/-- The time of a valid `Date`, in milliseconds. -/
abbrev Time := { ms : ℤ // |ms| ≤ 8640000000000000 }

/-- Year, month and day, by the number of days since 1970. -/
def civil (days : ℤ) : ℤ × ℕ × ℕ :=
  -- years begin in March here, and 400 of them make an era
  let era := (days + 719468) / 146097
  let dayOfEra := ((days + 719468) % 146097).toNat
  let yearOfEra := (dayOfEra - dayOfEra / 1460 + dayOfEra / 36524 - dayOfEra / 146096) / 365
  let dayOfYear := dayOfEra - (365 * yearOfEra + yearOfEra / 4 - yearOfEra / 100)
  let month := (5 * dayOfYear + 2) / 153
  let day := dayOfYear - (153 * month + 2) / 5 + 1
  if month < 10 then (yearOfEra + era * 400, month + 3, day)
  else (yearOfEra + era * 400 + 1, month - 9, day)

/-- The decimal notation with zeros in front of it. -/
def padded (width n : ℕ) : String :=
  String.ofList (List.replicate (width - n.repr.length) '0') ++ n.repr

/-- The year of a date. -/
def yearText (year : ℤ) : String :=
  if 0 ≤ year ∧ year ≤ 9999 then padded 4 year.toNat
  else (if year < 0 then "-" else "+") ++ padded 6 year.natAbs

/-- `toISOString` of a valid date -/
def toISOString (time : Time) : String :=
  let (year, month, day) := civil (time.1 / 86400000)
  let ms := (time.1 % 86400000).toNat
  yearText year ++ "-" ++ padded 2 month ++ "-" ++ padded 2 day ++ "T" ++
    padded 2 (ms / 3600000) ++ ":" ++ padded 2 (ms / 60000 % 60) ++ ":" ++
      padded 2 (ms / 1000 % 60) ++ "." ++ padded 3 (ms % 1000) ++ "Z"

example : toISOString ⟨951782400000 - 1, by decide⟩ = "2000-02-28T23:59:59.999Z" := by
  decide +kernel

example : toISOString ⟨-62198755200000, by decide⟩ = "-000001-01-01T00:00:00.000Z" := by
  decide +kernel

/-! ### Values -/

/-- A primitive value. -/
inductive Primitive where
  | undefined
  | null
  | bool (b : Bool)
  | number (n : Number)
  | bigint (n : ℤ)
  | string (s : String)
  | symbol (description : String)
  deriving DecidableEq

/-- Plain data. -/
inductive Human where
  | primitive (p : Primitive)
  | array (items : List Human)
  | object (fields : List (String × Human))

/-- A value that a service returns. -/
inductive Tree where
  | primitive (p : Primitive)
  /-- An invalid date has no time. -/
  | date (time : Option Time)
  | bigNumber (b : BigNumber)
  | array (items : List Tree)
  | object (fields : List (String × Tree))
  /-- An entity of the SDK, by what its `toHuman` returns. -/
  | entity (human : Human)

mutual

/-- Plain data as a value. -/
def Human.toTree : Human → Tree
  | .primitive p => .primitive p
  | .array items => .array (Human.toTrees items)
  | .object fields => .object (Human.toFields fields)

def Human.toTrees : List Human → List Tree
  | [] => []
  | item :: items => item.toTree :: Human.toTrees items

def Human.toFields : List (String × Human) → List (String × Tree)
  | [] => []
  | (name, value) :: fields => (name, value.toTree) :: Human.toFields fields

end

/-- `RangeError` -/
structure RangeError where
  message : String
  deriving DecidableEq, Repr

/-- What `bignumber.js` tells: the text of a number, and the own properties of `NaN`. -/
structure BigNumbers where
  toString : BigNumber → String
  nan : List (String × Primitive)

variable (numbers : BigNumbers)

mutual

/-- `toHumanObject` -/
def toHumanObject : Tree → Except RangeError Tree
  | .entity human => .ok human.toTree
  | .array items => do return .array (← toHumanObjects items)
  | .date none => .error ⟨"Invalid time value"⟩
  | .date (some time) => .ok (.primitive (.string (toISOString time)))
  | .bigNumber b =>
    if !b.isNaN then .ok (.primitive (.string (numbers.toString b)))
    -- `NaN` is an object like any other one here, and its properties are primitive values
    else .ok (.object (numbers.nan.map fun (name, p) => (name, .primitive p)))
  | .object fields => do return .object (← toHumanValues fields)
  | .primitive p => .ok (.primitive p)

/-- `obj.map(toHumanObject)` -/
def toHumanObjects : List Tree → Except RangeError (List Tree)
  | [] => .ok []
  | item :: items => do return (← toHumanObject item) :: (← toHumanObjects items)

/-- `mapValues(obj, val => toHumanObject(val))` -/
def toHumanValues : List (String × Tree) → Except RangeError (List (String × Tree))
  | [] => .ok []
  | (name, value) :: fields => do
    return (name, ← toHumanObject value) :: (← toHumanValues fields)

end

/-! ### Places -/

/-- The item of an array or the value of a property, by its position. -/
def Tree.child (i : ℕ) : Tree → Option Tree
  | .array items => items[i]?
  | .object fields => fields[i]?.map Prod.snd
  | _ => none

/-- What is at a place. -/
def Tree.at : Tree → List ℕ → Option Tree
  | tree, [] => some tree
  | tree, i :: path => (tree.child i).bind fun child => child.at path

/-- The result has at every place what is made of the value there: an array of the same length, an
object with the same keys, or the text of a number. -/
structure Kept (tree result : Tree) : Prop where
  place : ∀ path sub, tree.at path = some sub →
    ∃ human, toHumanObject numbers sub = .ok human ∧ result.at path = some human
  array : ∀ path items, tree.at path = some (.array items) →
    ∃ humans, result.at path = some (.array humans) ∧ humans.length = items.length
  object : ∀ path fields, tree.at path = some (.object fields) →
    ∃ humans, result.at path = some (.object humans) ∧
      humans.map Prod.fst = fields.map Prod.fst
  bigNumber : ∀ path b, tree.at path = some (.bigNumber b) → b.isNaN = false →
    result.at path = some (.primitive (.string (numbers.toString b)))

variable {numbers}

/-! ### Plain data stays -/

mutual

theorem toHumanObject_toTree : ∀ human : Human,
    toHumanObject numbers human.toTree = .ok human.toTree
  | .primitive _ => rfl
  | .array items => by
    rw [Human.toTree, toHumanObject, toHumanObjects_toTrees items]
    rfl
  | .object fields => by
    rw [Human.toTree, toHumanObject, toHumanValues_toFields fields]
    rfl

theorem toHumanObjects_toTrees : ∀ items : List Human,
    toHumanObjects numbers (Human.toTrees items) = .ok (Human.toTrees items)
  | [] => rfl
  | item :: items => by
    rw [Human.toTrees, toHumanObjects, toHumanObject_toTree item, toHumanObjects_toTrees items]
    rfl

theorem toHumanValues_toFields : ∀ fields : List (String × Human),
    toHumanValues numbers (Human.toFields fields) = .ok (Human.toFields fields)
  | [] => rfl
  | (name, value) :: fields => by
    rw [Human.toFields, toHumanValues, toHumanObject_toTree value, toHumanValues_toFields fields]
    rfl

end

/-! ### Results are plain data -/

theorem toFields_primitives (fields : List (String × Primitive)) :
    Human.toFields (fields.map fun (name, p) => (name, .primitive p)) =
      fields.map fun (name, p) => (name, .primitive p) := by
  induction fields with
  | nil => rfl
  | cons field fields ih => rw [List.map_cons, List.map_cons, Human.toFields, ih, Human.toTree]

mutual

/-- Whatever is returned is plain data. -/
theorem exists_human : ∀ {tree result : Tree}, toHumanObject numbers tree = .ok result →
    ∃ human : Human, result = human.toTree
  | .entity human, _, h => ⟨human, (Except.ok.inj h).symm⟩
  | .array items, _, h => by
    rw [toHumanObject] at h
    obtain ⟨results, hresults, h⟩ := bind_eq_ok_iff.1 h
    obtain ⟨humans, rfl⟩ := exists_humans hresults
    exact ⟨.array humans, (Except.ok.inj h).symm⟩
  | .date none, _, h => by cases h
  | .date (some time), _, h => ⟨.primitive (.string (toISOString time)), (Except.ok.inj h).symm⟩
  | .bigNumber b, _, h => by
    rw [toHumanObject] at h
    split_ifs at h
    · exact ⟨.primitive (.string (numbers.toString b)), (Except.ok.inj h).symm⟩
    · refine ⟨.object (numbers.nan.map fun (name, p) => (name, .primitive p)), ?_⟩
      rw [Human.toTree, toFields_primitives]
      exact (Except.ok.inj h).symm
  | .object fields, _, h => by
    rw [toHumanObject] at h
    obtain ⟨results, hresults, h⟩ := bind_eq_ok_iff.1 h
    obtain ⟨humans, rfl⟩ := exists_humanFields hresults
    exact ⟨.object humans, (Except.ok.inj h).symm⟩
  | .primitive p, _, h => ⟨.primitive p, (Except.ok.inj h).symm⟩

theorem exists_humans : ∀ {items results : List Tree},
    toHumanObjects numbers items = .ok results → ∃ humans, results = Human.toTrees humans
  | [], _, h => ⟨[], (Except.ok.inj h).symm⟩
  | item :: items, _, h => by
    rw [toHumanObjects] at h
    obtain ⟨result, hresult, h⟩ := bind_eq_ok_iff.1 h
    obtain ⟨results, hresults, h⟩ := bind_eq_ok_iff.1 h
    obtain ⟨human, rfl⟩ := exists_human hresult
    obtain ⟨humans, rfl⟩ := exists_humans hresults
    exact ⟨human :: humans, (Except.ok.inj h).symm⟩

theorem exists_humanFields : ∀ {fields results : List (String × Tree)},
    toHumanValues numbers fields = .ok results → ∃ humans, results = Human.toFields humans
  | [], _, h => ⟨[], (Except.ok.inj h).symm⟩
  | (name, value) :: fields, _, h => by
    rw [toHumanValues] at h
    obtain ⟨result, hresult, h⟩ := bind_eq_ok_iff.1 h
    obtain ⟨results, hresults, h⟩ := bind_eq_ok_iff.1 h
    obtain ⟨human, rfl⟩ := exists_human hresult
    obtain ⟨humans, rfl⟩ := exists_humanFields hresults
    exact ⟨(name, human) :: humans, (Except.ok.inj h).symm⟩

end

/-! ### What is kept -/

theorem forall₂_of_toHumanObjects {items results : List Tree}
    (h : toHumanObjects numbers items = .ok results) :
    List.Forall₂ (fun item result => toHumanObject numbers item = .ok result) items results := by
  induction items generalizing results with
  | nil =>
    cases h
    exact .nil
  | cons item items ih =>
    rw [toHumanObjects] at h
    obtain ⟨result, hresult, h⟩ := bind_eq_ok_iff.1 h
    obtain ⟨rest, hrest, h⟩ := bind_eq_ok_iff.1 h
    cases h
    exact .cons hresult (ih hrest)

theorem forall₂_of_toHumanValues {fields results : List (String × Tree)}
    (h : toHumanValues numbers fields = .ok results) :
    List.Forall₂ (fun field result => result.1 = field.1 ∧
      toHumanObject numbers field.2 = .ok result.2) fields results := by
  induction fields generalizing results with
  | nil =>
    cases h
    exact .nil
  | cons field fields ih =>
    rw [toHumanValues] at h
    obtain ⟨result, hresult, h⟩ := bind_eq_ok_iff.1 h
    obtain ⟨rest, hrest, h⟩ := bind_eq_ok_iff.1 h
    cases h
    exact .cons ⟨rfl, hresult⟩ (ih hrest)

theorem names_of_forall₂ {R : String × Tree → String × Tree → Prop}
    {fields results : List (String × Tree)}
    (h : List.Forall₂ (fun field result => result.1 = field.1 ∧ R field result) fields results) :
    results.map Prod.fst = fields.map Prod.fst := by
  induction h with
  | nil => rfl
  | cons hfield _ ih => rw [List.map_cons, List.map_cons, hfield.1, ih]

/-- The result has, at each position, what is made of the value there. -/
theorem child_of_toHumanObject {tree result child : Tree} {i : ℕ}
    (h : toHumanObject numbers tree = .ok result) (hchild : tree.child i = some child) :
    ∃ human, toHumanObject numbers child = .ok human ∧ result.child i = some human := by
  cases tree with
  | array items =>
    rw [toHumanObject] at h
    obtain ⟨results, hresults, h⟩ := bind_eq_ok_iff.1 h
    cases h
    obtain ⟨human, hget, hhuman⟩ :=
      exists_getElem?_of_forall₂ (forall₂_of_toHumanObjects hresults) hchild
    exact ⟨human, hhuman, hget⟩
  | object fields =>
    rw [toHumanObject] at h
    obtain ⟨results, hresults, h⟩ := bind_eq_ok_iff.1 h
    cases h
    obtain ⟨field, hfield, rfl⟩ := Option.map_eq_some_iff.1 hchild
    obtain ⟨human, hget, -, hhuman⟩ :=
      exists_getElem?_of_forall₂ (forall₂_of_toHumanValues hresults) hfield
    exact ⟨human.2, hhuman, by rw [Tree.child, hget]; rfl⟩
  | _ => cases hchild

/-- **The result has at each place what is made of the value there.** -/
theorem at_of_toHumanObject {tree result sub : Tree} {path : List ℕ}
    (h : toHumanObject numbers tree = .ok result) (hsub : tree.at path = some sub) :
    ∃ human, toHumanObject numbers sub = .ok human ∧ result.at path = some human := by
  induction path generalizing tree result with
  | nil =>
    cases hsub
    exact ⟨result, h, rfl⟩
  | cons i path ih =>
    obtain ⟨child, hchild, hsub⟩ := Option.bind_eq_some_iff.1 hsub
    obtain ⟨human, hhuman, hget⟩ := child_of_toHumanObject h hchild
    obtain ⟨made, hmade, hat⟩ := ih hhuman hsub
    refine ⟨made, hmade, ?_⟩
    rw [Tree.at, hget]
    exact hat

theorem kept_of_toHumanObject {tree result : Tree} (h : toHumanObject numbers tree = .ok result) :
    Kept numbers tree result where
  place path sub := at_of_toHumanObject h
  array path items hat := by
    obtain ⟨human, hhuman, hresult⟩ := at_of_toHumanObject h hat
    rw [toHumanObject] at hhuman
    obtain ⟨results, hresults, hhuman⟩ := bind_eq_ok_iff.1 hhuman
    cases hhuman
    exact ⟨results, hresult, (forall₂_of_toHumanObjects hresults).length_eq.symm⟩
  object path fields hat := by
    obtain ⟨human, hhuman, hresult⟩ := at_of_toHumanObject h hat
    rw [toHumanObject] at hhuman
    obtain ⟨results, hresults, hhuman⟩ := bind_eq_ok_iff.1 hhuman
    cases hhuman
    exact ⟨results, hresult, names_of_forall₂ (forall₂_of_toHumanValues hresults)⟩
  bigNumber path b hat hnan := by
    obtain ⟨human, hhuman, hresult⟩ := at_of_toHumanObject h hat
    rw [toHumanObject, hnan] at hhuman
    cases hhuman
    exact hresult

/-! ### What throws -/

mutual

/-- What throws is an invalid date at some place. -/
theorem exists_path_of_error : ∀ {tree : Tree} {error : RangeError},
    toHumanObject numbers tree = .error error → ∃ path, tree.at path = some (.date none)
  | .entity _, _, h => by cases h
  | .array items, _, h => by
    rw [toHumanObject] at h
    cases hitems : toHumanObjects numbers items with
    | ok results =>
      rw [hitems] at h
      cases h
    | error error =>
      obtain ⟨i, item, path, hitem, hpath⟩ := exists_item_of_error hitems
      refine ⟨i :: path, ?_⟩
      rw [Tree.at, Tree.child, hitem]
      exact hpath
  | .date none, _, _ => ⟨[], rfl⟩
  | .date (some _), _, h => by cases h
  | .bigNumber b, _, h => by
    rw [toHumanObject] at h
    split_ifs at h
  | .object fields, _, h => by
    rw [toHumanObject] at h
    cases hfields : toHumanValues numbers fields with
    | ok results =>
      rw [hfields] at h
      cases h
    | error error =>
      obtain ⟨i, field, path, hfield, hpath⟩ := exists_field_of_error hfields
      refine ⟨i :: path, ?_⟩
      rw [Tree.at, Tree.child, hfield]
      exact hpath
  | .primitive _, _, h => by cases h

theorem exists_item_of_error : ∀ {items : List Tree} {error : RangeError},
    toHumanObjects numbers items = .error error →
      ∃ (i : ℕ) (item : Tree) (path : List ℕ), items[i]? = some item ∧
        item.at path = some (.date none)
  | [], _, h => by cases h
  | item :: items, _, h => by
    rw [toHumanObjects] at h
    cases hitem : toHumanObject numbers item with
    | error error =>
      obtain ⟨path, hpath⟩ := exists_path_of_error hitem
      exact ⟨0, item, path, rfl, hpath⟩
    | ok result =>
      cases hitems : toHumanObjects numbers items with
      | error error =>
        obtain ⟨i, other, path, hother, hpath⟩ := exists_item_of_error hitems
        exact ⟨i + 1, other, path, hother, hpath⟩
      | ok results =>
        rw [hitem, hitems] at h
        cases h

theorem exists_field_of_error : ∀ {fields : List (String × Tree)} {error : RangeError},
    toHumanValues numbers fields = .error error →
      ∃ (i : ℕ) (field : String × Tree) (path : List ℕ), fields[i]? = some field ∧
        field.2.at path = some (.date none)
  | [], _, h => by cases h
  | (name, value) :: fields, _, h => by
    rw [toHumanValues] at h
    cases hvalue : toHumanObject numbers value with
    | error error =>
      obtain ⟨path, hpath⟩ := exists_path_of_error hvalue
      exact ⟨0, (name, value), path, rfl, hpath⟩
    | ok result =>
      cases hfields : toHumanValues numbers fields with
      | error error =>
        obtain ⟨i, other, path, hother, hpath⟩ := exists_field_of_error hfields
        exact ⟨i + 1, other, path, hother, hpath⟩
      | ok results =>
        rw [hvalue, hfields] at h
        cases h

end

theorem toHumanObject_ok_iff (tree : Tree) :
    (∃ result, toHumanObject numbers tree = .ok result) ↔
      ∀ path, tree.at path ≠ some (.date none) := by
  constructor
  · rintro ⟨result, h⟩ path hpath
    obtain ⟨human, hhuman, -⟩ := at_of_toHumanObject h hpath
    cases hhuman
  · intro hvalid
    cases h : toHumanObject numbers tree with
    | ok result => exact ⟨result, rfl⟩
    | error error =>
      obtain ⟨path, hpath⟩ := exists_path_of_error h
      exact absurd hpath (hvalid path)

/-- **What `toHumanObject` serialises** are the trees without an invalid date; the result is plain
data, keeps the shape of the tree and the texts of its numbers, and is left as it is from then
on. -/
theorem toHumanObject_serialises (numbers : BigNumbers) (tree : Tree) :
    ((∃ result, toHumanObject numbers tree = .ok result) ↔
      ∀ path, tree.at path ≠ some (.date none)) ∧
      ∀ result, toHumanObject numbers tree = .ok result →
        (∃ human : Human, result = human.toTree) ∧ Kept numbers tree result ∧
          toHumanObject numbers result = .ok result := by
  refine ⟨toHumanObject_ok_iff tree, fun result h => ?_⟩
  obtain ⟨human, rfl⟩ := exists_human h
  exact ⟨⟨human, rfl⟩, kept_of_toHumanObject h, toHumanObject_toTree human⟩

/-- The texts of integers, and `NaN` as it is built. -/
def integerTexts : BigNumbers where
  toString
    | .nan => "NaN"
    | .infinity negative => if negative then "-Infinity" else "Infinity"
    | .finite q => q.num.repr
  nan := [("s", .null), ("e", .null), ("c", .null)]

/-- An invalid date throws, and `NaN` becomes an object. -/
theorem not_serialised :
    (¬∃ result, toHumanObject integerTexts (.array [.date none]) = .ok result) ∧
      toHumanObject integerTexts (.bigNumber .nan) =
        .ok (.object
          [("s", .primitive .null), ("e", .primitive .null), ("c", .primitive .null)]) := by
  refine ⟨?_, rfl⟩
  rintro ⟨result, h⟩
  cases h

end Common

end PolymeshRest
