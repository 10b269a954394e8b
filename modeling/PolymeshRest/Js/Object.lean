import Mathlib.Logic.Function.Basic
import Mathlib.Tactic.Common

/-!
# Plain objects used as tables

`o[k]`, `o[k] = a` and `delete o[k]` on an object that starts as a literal without `__proto__`,
where every value assigned is an object.  Reading goes along the prototype chain, deleting does
not, and `__proto__` is an accessor that reads and sets the prototype, so an object is a table
for some names only.

* `PlainObject.get`, `PlainObject.set`, `PlainObject.delete`
* `PlainObject.inherited` : what can be read of a name though nothing was assigned to it.
* `PlainObject.get_of_own`, `PlainObject.get_of_own_none` : reading, other than of `__proto__`.
-/

namespace PolymeshRest

namespace Js

/-- What reading a property of an object gives. -/
inductive Value (α : Type*) where
  /-- An object that was assigned. -/
  | object (a : α)
  | string (s : String)
  /-- A function or a class, by its name. -/
  | function (name : String)
  | objectPrototype
  /-- A number, or an object of another type, by whether it counts as true. -/
  | other (truth : Bool)
  deriving DecidableEq, Repr

/-- The value counts as true in a condition. -/
def Value.truthy {α : Type*} : Value α → Bool
  | .string s => s ≠ ""
  | .other truth => truth
  | _ => true

/-- The names of the methods of `Object.prototype`. -/
def objectMethods : List String :=
  ["constructor", "__defineGetter__", "__defineSetter__", "hasOwnProperty", "__lookupGetter__",
    "__lookupSetter__", "isPrototypeOf", "propertyIsEnumerable", "toString", "valueOf",
    "toLocaleString"]

/-- Objects of type `α`, by what reading one gives before `Object.prototype` is reached. -/
class Members (α : Type*) where
  member : α → String → Option (Value α)

/-- A plain object with values `α`. -/
structure PlainObject (α : Type*) where
  /-- The own properties. -/
  own : String → Option α
  /-- The prototype, if it is not `Object.prototype`. -/
  proto : Option α
  /-- An assignment to `__proto__` makes no own property. -/
  own_proto : own "__proto__" = none

namespace PlainObject

variable {α : Type*}

/-- `{}` -/
def empty : PlainObject α := ⟨fun _ => none, none, rfl⟩

/-- The value of `k` that the object inherits. -/
def inherited [Members α] (o : PlainObject α) (k : String) : Option (Value α) :=
  (o.proto.bind fun p => Members.member p k).or
    (if k ∈ objectMethods then some (.function k) else none)

/-- `o[k]`, where `undefined` is `none`. -/
def get [Members α] (o : PlainObject α) (k : String) : Option (Value α) :=
  if k = "__proto__" then some (o.proto.elim .objectPrototype .object)
  else ((o.own k).map .object).or (o.inherited k)

/-- `o[k] = a` -/
def set (o : PlainObject α) (k : String) (a : α) : PlainObject α :=
  if hk : k = "__proto__" then { o with proto := some a }
  else
    { o with
      own := Function.update o.own k (some a)
      own_proto := by rw [Function.update_of_ne (Ne.symm hk), o.own_proto] }

/-- `delete o[k]` -/
def delete (o : PlainObject α) (k : String) : PlainObject α where
  own := Function.update o.own k none
  proto := o.proto
  own_proto := by
    by_cases hk : "__proto__" = k
    · rw [hk, Function.update_self]
    · rw [Function.update_of_ne hk, o.own_proto]

variable {o : PlainObject α} {k : String} {a : α}

@[simp] theorem set_proto_name : o.set "__proto__" a = { o with proto := some a } := by
  simp [set]

theorem set_own (hk : k ≠ "__proto__") : (o.set k a).own = Function.update o.own k (some a) := by
  simp [set, hk]

theorem set_proto (hk : k ≠ "__proto__") : (o.set k a).proto = o.proto := by
  simp [set, hk]

@[simp] theorem delete_own : (o.delete k).own = Function.update o.own k none := rfl

@[simp] theorem delete_proto : (o.delete k).proto = o.proto := rfl

theorem ne_proto_of_own (hown : o.own k = some a) : k ≠ "__proto__" := by
  rintro rfl
  rw [o.own_proto] at hown
  cases hown

theorem get_of_own [Members α] (hown : o.own k = some a) : o.get k = some (.object a) := by
  rw [get, if_neg (ne_proto_of_own hown), hown]
  rfl

theorem get_set_of_ne [Members α] {j : String} (hk : k ≠ "__proto__") (h : j ≠ k) :
    (o.set k a).get j = o.get j := by
  unfold get inherited
  rw [set_own hk, set_proto hk, Function.update_of_ne h]

theorem get_of_own_none [Members α] (hk : k ≠ "__proto__") (hown : o.own k = none) :
    o.get k = o.inherited k := by
  rw [get, if_neg hk, hown]
  rfl

end PlainObject

end Js

end PolymeshRest
