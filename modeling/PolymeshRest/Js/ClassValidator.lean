import PolymeshRest.Js.Json

/-!
# Decorated classes

What `class-validator` does with values of classes whose properties carry decorators, where unknown
values are not forbidden.  A nested value that is `undefined` is skipped, an array is taken item by
item, an instance by the decorators of its class, and a plain object has none, so it passes;
everything else is refused.  Whether a nested `null` is skipped too depends on the version: the one
that the application is built with, 0.14.0, refuses it, also as an item of an array.

* `Property`, `Decorated` : the decorators of a property, and those of a class.
* `OnNull` : what becomes of a nested `null`.
* `nested` : `@ValidateNested()`.
* `whitelist` : the option `whitelist`, which leaves out properties without decorators.
* `nested_object` : an instance passes if each of its decorated properties does.
-/

namespace PolymeshRest

namespace Js

/-- A decorated property of a class. -/
structure Property (C : Type*) where
  name : String
  /-- `@IsOptional()` -/
  optional : Bool := false
  /-- `@ValidateNested()` -/
  nested : Bool := false
  /-- The other decorators. -/
  checks : List (Data C → Bool) := []

/-- What `@ValidateNested()` does with `null`. -/
inductive OnNull where
  | skip
  | refuse
  deriving DecidableEq, Repr

/-- `null` passes as a nested value. -/
def OnNull.passes : OnNull → Bool
  | .skip => true
  | .refuse => false

/-- Classes with decorated properties. -/
class Decorated (C : Type*) where
  properties : C → List (Property C)

section

variable {C : Type*}

/-- A property passes, where `nested` says which of the properties' values pass as nested ones. -/
def Property.holds (p : Property C) (fields : List (String × Data C))
    (nested : List (String × Bool)) : Bool :=
  p.optional && (get fields p.name).isNullish ||
    p.checks.all (fun check => check (get fields p.name)) &&
      (!p.nested || (nested.lookup p.name).getD true)

variable [Decorated C] (onNull : OnNull)

mutual

/-- A value passes as a nested one. -/
def nested : Data C → Bool
  | .undefined => true
  | .null => onNull.passes
  | .array items => nestedAll items
  | .object cls fields =>
    (Decorated.properties cls).all fun p => p.holds fields (nestedFields fields)
  | .bigNumber _ => true
  | _ => false

def nestedAll : List (Data C) → Bool
  | [] => true
  | item :: items => nested item && nestedAll items

def nestedFields : List (String × Data C) → List (String × Bool)
  | [] => []
  | (name, value) :: fields => (name, nested value) :: nestedFields fields

end

mutual

/-- A nested value without the properties that carry no decorators. -/
def whitelist : Data C → Data C
  | .array items => .array (whitelistAll items)
  | .object cls fields => .object cls (whitelistFields (Decorated.properties cls) fields)
  | value => value

def whitelistAll : List (Data C) → List (Data C)
  | [] => []
  | item :: items => whitelist item :: whitelistAll items

def whitelistFields (properties : List (Property C)) :
    List (String × Data C) → List (String × Data C)
  | [] => []
  | (name, value) :: fields =>
    match properties.find? fun p => p.name = name with
    | none => whitelistFields properties fields
    | some p => (name, if p.nested then whitelist value else value) ::
        whitelistFields properties fields

end

theorem nestedAll_eq_all (items : List (Data C)) :
    nestedAll onNull items = items.all (nested onNull) := by
  induction items with
  | nil => rfl
  | cons item items ih => rw [nestedAll, ih, List.all_cons]

theorem whitelistAll_eq_map (items : List (Data C)) :
    whitelistAll items = items.map whitelist := by
  induction items with
  | nil => rfl
  | cons item items ih => rw [whitelistAll, ih, List.map_cons]

/-- A property passes with a value. -/
def Property.accepts (p : Property C) (value : Data C) : Bool :=
  p.optional && value.isNullish ||
    p.checks.all (fun check => check value) && (!p.nested || Js.nested onNull value)

theorem lookup_nestedFields (fields : List (String × Data C)) (name : String) :
    (nestedFields onNull fields).lookup name = (fields.lookup name).map (nested onNull) := by
  induction fields with
  | nil => rfl
  | cons field fields ih =>
    obtain ⟨k, v⟩ := field
    rw [nestedFields, List.lookup_cons, List.lookup_cons, ih]
    by_cases hk : name = k
    · subst hk
      simp
    · simp [beq_false_of_ne hk]

/-- **An instance passes** if each decorated property of its class does. -/
theorem nested_object (cls : C) (fields : List (String × Data C)) :
    nested onNull (.object cls fields) =
      (Decorated.properties cls).all fun p => p.accepts onNull (get fields p.name) := by
  rw [nested]
  refine congrArg (List.all _) (funext fun p => ?_)
  unfold Property.holds Property.accepts
  rw [lookup_nestedFields, get]
  cases fields.lookup p.name <;> rfl

variable {onNull}

theorem Property.check_of_accepts {p : Property C} {value : Data C} {check : Data C → Bool}
    (h : p.accepts onNull value = true) (hoptional : p.optional = false)
    (hcheck : check ∈ p.checks) : check value = true := by
  rw [accepts, hoptional, Bool.false_and, Bool.false_or, Bool.and_eq_true, List.all_eq_true] at h
  exact h.1 check hcheck

theorem check_of_nested {cls : C} {fields : List (String × Data C)} {p : Property C}
    {check : Data C → Bool} (h : nested onNull (.object cls fields) = true)
    (hp : p ∈ Decorated.properties cls) (hoptional : p.optional = false)
    (hcheck : check ∈ p.checks) : check (get fields p.name) = true := by
  rw [nested_object, List.all_eq_true] at h
  exact Property.check_of_accepts (h p hp) hoptional hcheck

/-- Properties with decorators stay. -/
theorem lookup_whitelistFields (properties : List (Property C)) (fields : List (String × Data C))
    (name : String) :
    (whitelistFields properties fields).lookup name =
      (properties.find? fun p => p.name = name).bind fun p =>
        (fields.lookup name).map fun value => if p.nested then whitelist value else value := by
  induction fields with
  | nil => cases properties.find? fun p => p.name = name <;> rfl
  | cons field fields ih =>
    obtain ⟨k, v⟩ := field
    rw [whitelistFields, List.lookup_cons]
    by_cases hk : name = k
    · subst hk
      cases hfind : properties.find? fun p => p.name = name with
      | none => simp [ih, hfind]
      | some p => simp
    · cases hfind : properties.find? fun p => p.name = k with
      | none => simp [ih, beq_false_of_ne hk]
      | some p => simp [List.lookup_cons, ih, beq_false_of_ne hk]

theorem get_whitelistFields {properties : List (Property C)} {p : Property C} {name : String}
    (hfind : (properties.find? fun p => p.name = name) = some p)
    (fields : List (String × Data C)) :
    get (whitelistFields properties fields) name =
      if p.nested then whitelist (get fields name) else get fields name := by
  rw [get, lookup_whitelistFields, hfind, Option.bind_some, get]
  cases fields.lookup name with
  | none => cases p.nested <;> rfl
  | some value => rfl

theorem get_whitelistFields_flat {properties : List (Property C)} {name : String}
    (h : (properties.find? fun p => p.name = name).map Property.nested = some false)
    (fields : List (String × Data C)) :
    get (whitelistFields properties fields) name = get fields name := by
  obtain ⟨p, hfind, hnested⟩ := Option.map_eq_some_iff.1 h
  rw [get_whitelistFields hfind, hnested, if_neg Bool.false_ne_true]

end

end Js

end PolymeshRest
