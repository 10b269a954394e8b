import PolymeshRest.Js.BigNumber
import PolymeshRest.Js.Record
import PolymeshRest.Js.Text

/-!
# JSON values, and what decorated classes make of them

* `Json` : what `JSON.parse` returns.  Objects list their properties; `__proto__` is a name like any
  other, since it is removed from what arrives before anything else reads it.
* `Data C` : values built of JSON values, numbers of any size and instances of the classes `C`.
* `Json.toData` : JSON values among them, where plain objects have a class of their own.
* `spread` : the own properties of a value, which `{...value}` copies.
* `lookup_map_snd` : reading a property of an object whose properties were changed.
-/

namespace PolymeshRest

namespace Js

/-- A JSON value. -/
inductive Json where
  | null
  | bool (b : Bool)
  | number (n : ℚ)
  | string (s : String)
  | array (items : List Json)
  | object (fields : List (String × Json))

/-- A value with instances of the classes `C`. -/
inductive Data (C : Type*) where
  | undefined
  | null
  | bool (b : Bool)
  | number (n : ℚ)
  | string (s : String)
  | bigNumber (b : BigNumber)
  | array (items : List (Data C))
  | object (cls : C) (fields : List (String × Data C))

section

variable {C : Type*}

/-- The value of a property, `undefined` if there is none. -/
def get (fields : List (String × Data C)) (name : String) : Data C :=
  (fields.lookup name).getD .undefined

/-- The value is `undefined` or `null`. -/
def Data.isNullish : Data C → Bool
  | .undefined | .null => true
  | _ => false

/-- The value counts as true. -/
def Data.isTruthy : Data C → Bool
  | .undefined | .null => false
  | .bool b => b
  | .number n => n ≠ 0
  | .string s => s ≠ ""
  | _ => true

mutual

/-- A JSON value, where objects are of the class `plain`. -/
def Json.toData (plain : C) : Json → Data C
  | .null => .null
  | .bool b => .bool b
  | .number n => .number n
  | .string s => .string s
  | .array items => .array (Json.toDataAll plain items)
  | .object fields => .object plain (Json.toFields plain fields)

/-- The items of an array. -/
def Json.toDataAll (plain : C) : List Json → List (Data C)
  | [] => []
  | item :: items => Json.toData plain item :: Json.toDataAll plain items

/-- The properties of an object. -/
def Json.toFields (plain : C) : List (String × Json) → List (String × Data C)
  | [] => []
  | (name, value) :: fields => (name, Json.toData plain value) :: Json.toFields plain fields

end

theorem Json.toDataAll_eq_map (plain : C) (items : List Json) :
    Json.toDataAll plain items = items.map (Json.toData plain) := by
  induction items with
  | nil => rfl
  | cons item items ih => rw [Json.toDataAll, ih, List.map_cons]

theorem Json.toFields_eq_map (plain : C) (fields : List (String × Json)) :
    Json.toFields plain fields = fields.map fun field => (field.1, Json.toData plain field.2) := by
  induction fields with
  | nil => rfl
  | cons field fields ih => rw [Json.toFields, ih, List.map_cons]

end

/-! ### Own properties -/

section

variable {α : Type*}

/-- The entries of a list under their indices. -/
def indexed (items : List α) : List (String × α) :=
  items.zipIdx.map fun item => (item.2.repr, item.1)

theorem indexed_map {β : Type*} (f : α → β) (items : List α) :
    indexed (items.map f) = (indexed items).map fun entry => (entry.1, f entry.2) := by
  rw [indexed, indexed, List.zipIdx_map, List.map_map, List.map_map]
  rfl

/-- Only decimal notations are indices. -/
theorem lookup_indexed {name : String} {c : Char} (hc : c ∈ name.toList)
    (hdigit : c.isDigit = false) (items : List α) : (indexed items).lookup name = none := by
  refine List.lookup_eq_none_iff.2 fun entry hentry => ?_
  obtain ⟨item, -, rfl⟩ := List.mem_map.1 hentry
  exact bne_iff_ne.2 (repr_ne_of_not_digit hc hdigit item.2).symm

/-- The own properties of a JSON value. -/
def Json.entries : Json → List (String × Json)
  | .object fields => fields
  | .array items => indexed items
  | .string s => indexed (s.toList.map fun c => .string (String.singleton c))
  | _ => []

variable {C : Type*}

/-- The own properties of a value.  What those of a number of any size are is told by `parts`. -/
def spread (parts : BigNumber → List (String × Data C)) : Data C → List (String × Data C)
  | .object _ fields => fields
  | .array items => indexed items
  | .string s => indexed (s.toList.map fun c => .string (String.singleton c))
  | .bigNumber b => parts b
  | _ => []

theorem spread_toData (parts : BigNumber → List (String × Data C)) (plain : C) (value : Json) :
    spread parts (value.toData plain) = Json.toFields plain value.entries := by
  rw [Json.toFields_eq_map]
  cases value with
  | object fields => exact Json.toFields_eq_map plain fields
  | array items =>
    rw [Json.toData, Json.toDataAll_eq_map, spread, indexed_map]
    rfl
  | string s =>
    rw [Json.toData, spread, Json.entries, ← indexed_map, List.map_map]
    rfl
  | _ => rfl

end

/-! ### Reading properties -/

theorem lookup_map_snd {α β : Type*} (f : String → α → β) (fields : List (String × α))
    (name : String) :
    (fields.map fun field => (field.1, f field.1 field.2)).lookup name =
      (fields.lookup name).map (f name) := by
  induction fields with
  | nil => rfl
  | cons field fields ih =>
    obtain ⟨k, v⟩ := field
    rw [List.map_cons, List.lookup_cons, List.lookup_cons, ih]
    by_cases hk : name = k
    · subst hk
      simp
    · simp [beq_false_of_ne hk]

theorem lookup_toFields {C : Type*} (plain : C) (fields : List (String × Json)) (name : String) :
    (Json.toFields plain fields).lookup name = (fields.lookup name).map (Json.toData plain) := by
  rw [Json.toFields_eq_map]
  exact lookup_map_snd (fun _ => Json.toData plain) fields name

end Js

end PolymeshRest
