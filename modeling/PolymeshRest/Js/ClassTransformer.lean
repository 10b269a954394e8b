import Mathlib.Data.List.Forall2
import PolymeshRest.Js.Json
import PolymeshRest.Js.Object

/-!
# Instances of classes

What `class-transformer` makes of a plain value, where the discriminator of a class stays a
property of it.  An array is taken item by item; an object becomes an instance with the properties
of the object, each of them converted as its decorators say and left out if it is named like a
method of all objects; everything else stays as it is.  A value of no class is taken as it is: a
copy of it has the same properties.

* `TypeOf` : the argument of `@Type()`, with or without a discriminator.
* `Conversion` : the decorators of a property, `@Type()` and `@Transform()`.
* `instantiate` : `plainToInstance`, which throws where there is none.
* `lookup_cases`, `get_instantiateFields` : the properties of an instance are the converted ones.
-/

namespace PolymeshRest

namespace Js

/-- The argument of `@Type()`. -/
inductive TypeOf (C : Type*) where
  | class (cls : C)
  /-- The class is told by a property, or it is the one that comes last. -/
  | discriminator (property : String) (subTypes : List (String × C)) (otherwise : C)

/-- The decorators that convert a property. -/
structure Conversion (C : Type*) where
  type : Option (TypeOf C) := none
  /-- `@Transform()`; it throws where there is none. -/
  transform : Data C → Option (Data C) := some

section

variable {C : Type*}

/-- The class of an object. -/
def TypeOf.classOf (fields : List (String × Data C)) : TypeOf C → C
  | .class cls => cls
  | .discriminator property subTypes otherwise =>
    match get fields property with
    | .string name => (subTypes.lookup name).getD otherwise
    | _ => otherwise

/-- The type of an item of an array; the discriminator of `null` cannot be read. -/
def TypeOf.ofItem : TypeOf C → Data C → Option (TypeOf C)
  | .class cls, _ => some (.class cls)
  | .discriminator .., .undefined | .discriminator .., .null => none
  | type@(.discriminator ..), .object _ fields => some (.class (type.classOf fields))
  | .discriminator _ _ otherwise, _ => some (.class otherwise)

theorem TypeOf.classOf_mem (property : String) (subTypes : List (String × C)) (otherwise : C)
    (fields : List (String × Data C)) :
    (TypeOf.discriminator property subTypes otherwise).classOf fields ∈
      otherwise :: subTypes.map Prod.snd := by
  rw [classOf]
  split
  · next name _ =>
    cases h : subTypes.lookup name with
    | none => exact List.mem_cons_self
    | some cls =>
      obtain ⟨before, after, hsub, -⟩ := List.lookup_eq_some_iff.1 h
      exact List.mem_cons_of_mem _ (List.mem_map.2 ⟨(name, cls), by simp [hsub], rfl⟩)
  · exact List.mem_cons_self

variable (conversion : C → String → Conversion C)

mutual

/-- A value, as one of a type. -/
def instantiate (type : TypeOf C) : Data C → Option (Data C)
  | .array items => (instantiateAll type items).map .array
  | .object _ fields =>
    (instantiateFields (type.classOf fields) fields).map (.object (type.classOf fields))
  | value => some value

/-- The items of an array. -/
def instantiateAll (type : TypeOf C) : List (Data C) → Option (List (Data C))
  | [] => some []
  | item :: items =>
    (type.ofItem item).bind fun itemType => (instantiate itemType item).bind fun made =>
      (instantiateAll type items).map (made :: ·)

/-- The properties of an instance. -/
def instantiateFields (cls : C) : List (String × Data C) → Option (List (String × Data C))
  | [] => some []
  | (name, value) :: fields =>
    if name ∈ objectMethods then instantiateFields cls fields
    else
      (match (conversion cls name).type with
        | none => (conversion cls name).transform value
        | some type => (instantiate type value).bind (conversion cls name).transform).bind
        fun made => (instantiateFields cls fields).map ((name, made) :: ·)

end

/-- The value of a property of an instance. -/
def Conversion.convert (c : Conversion C) (value : Data C) : Option (Data C) :=
  match c.type with
  | none => c.transform value
  | some type => (instantiate conversion type value).bind c.transform

theorem instantiateFields_cons (cls : C) (name : String) (value : Data C)
    (fields : List (String × Data C)) :
    instantiateFields conversion cls ((name, value) :: fields) =
      if name ∈ objectMethods then instantiateFields conversion cls fields
      else
        ((conversion cls name).convert conversion value).bind fun made =>
          (instantiateFields conversion cls fields).map ((name, made) :: ·) := by
  rw [instantiateFields, Conversion.convert]

variable {conversion}

/-- **A property of an instance** is missing, or it has been converted. -/
theorem lookup_cases {cls : C} {fields made : List (String × Data C)}
    (h : instantiateFields conversion cls fields = some made) {name : String}
    (hname : name ∉ objectMethods) :
    (fields.lookup name = none ∧ made.lookup name = none) ∨
      ∃ value converted, fields.lookup name = some value ∧
        (conversion cls name).convert conversion value = some converted ∧
          made.lookup name = some converted := by
  induction fields generalizing made with
  | nil =>
    cases h
    exact .inl ⟨rfl, rfl⟩
  | cons field fields ih =>
    obtain ⟨k, value⟩ := field
    rw [instantiateFields_cons] at h
    by_cases hk : k ∈ objectMethods
    · rw [if_pos hk] at h
      have hne : name ≠ k := fun heq => hname (heq ▸ hk)
      rw [List.lookup_cons, beq_false_of_ne hne]
      exact ih h
    · rw [if_neg hk] at h
      obtain ⟨converted, hconverted, h⟩ := Option.bind_eq_some_iff.1 h
      obtain ⟨rest, hrest, rfl⟩ := Option.map_eq_some_iff.1 h
      rw [List.lookup_cons, List.lookup_cons]
      by_cases heq : name = k
      · subst heq
        exact .inr ⟨value, converted, by simp, hconverted, by simp⟩
      · rw [beq_false_of_ne heq]
        exact ih hrest

theorem get_instantiateFields {cls : C} {fields made : List (String × Data C)}
    (h : instantiateFields conversion cls fields = some made) {name : String}
    (hname : name ∉ objectMethods) :
    some (get made name) =
      match fields.lookup name with
      | none => some .undefined
      | some value => (conversion cls name).convert conversion value := by
  rcases lookup_cases h hname with ⟨hnone, hmade⟩ | ⟨value, converted, hvalue, hconverted, hmade⟩
  · rw [get, hmade, hnone]
    rfl
  · rw [get, hmade, hvalue]
    exact hconverted.symm

/-- The instances that an array is made of. -/
theorem instantiateAll_eq_some_iff {type : TypeOf C} {items made : List (Data C)} :
    instantiateAll conversion type items = some made ↔
      List.Forall₂ (fun item m => ∃ itemType, type.ofItem item = some itemType ∧
        instantiate conversion itemType item = some m) items made := by
  induction items generalizing made with
  | nil =>
    rw [instantiateAll, List.forall₂_nil_left_iff]
    exact ⟨fun h => (Option.some.inj h).symm, fun h => congrArg some h.symm⟩
  | cons item items ih =>
    rw [instantiateAll, List.forall₂_cons_left_iff]
    constructor
    · intro h
      obtain ⟨itemType, htype, h⟩ := Option.bind_eq_some_iff.1 h
      obtain ⟨m, hm, h⟩ := Option.bind_eq_some_iff.1 h
      obtain ⟨rest, hrest, rfl⟩ := Option.map_eq_some_iff.1 h
      exact ⟨m, rest, ⟨itemType, htype, hm⟩, ih.1 hrest, rfl⟩
    · rintro ⟨m, rest, ⟨itemType, htype, hm⟩, hrest, rfl⟩
      simp [htype, hm, ih.2 hrest]

end

end Js

end PolymeshRest
