import Mathlib.Data.List.Forall2
import PolymeshRest.Js.ClassValidator

/-!
# Values with the same fields

Two values are the same if nothing that reads their properties tells them apart: instances of one
class whose properties are the same, whatever their order, and arrays whose items are.

* `Data.Same` : the relation.
* `same_object_iff`, `same_array_iff`, `same_of_leaf` : what it says of each kind of value.
* `nested_of_same` : `class-validator` accepts both or none, if the decorators of single properties
  do.
-/

namespace PolymeshRest

namespace Js

variable {C : Type*}

/-- The values have the same fields. -/
inductive Data.Same : Data C → Data C → Prop where
  | refl (value : Data C) : Same value value
  | array {as bs : List (Data C)} (length : as.length = bs.length)
    (items : ∀ item ∈ as.zip bs, Same item.1 item.2) : Same (.array as) (.array bs)
  | object {cls : C} {f g : List (String × Data C)}
    (fields : ∀ name, Same (get f name) (get g name)) : Same (.object cls f) (.object cls g)

/-- The value has no items and no properties. -/
def Data.isLeaf : Data C → Bool
  | .array _ | .object .. => false
  | _ => true

theorem same_of_leaf {a b : Data C} (h : a.isLeaf = true) : a.Same b ↔ a = b := by
  constructor
  · intro hsame
    cases hsame with
    | refl => rfl
    | array => cases h
    | object => cases h
  · rintro rfl
    exact .refl a

theorem same_array_iff {as bs : List (Data C)} :
    (Data.array as).Same (.array bs) ↔ List.Forall₂ Data.Same as bs := by
  constructor
  · intro h
    cases h with
    | refl => exact List.forall₂_same.2 fun a _ => .refl a
    | array length items => exact List.forall₂_iff_zip.2 ⟨length, fun h => items _ h⟩
  · intro h
    obtain ⟨length, items⟩ := List.forall₂_iff_zip.1 h
    exact .array length fun item hitem => items hitem

theorem same_object_iff {c d : C} {f g : List (String × Data C)} :
    (Data.object c f).Same (.object d g) ↔ c = d ∧ ∀ name, (get f name).Same (get g name) := by
  constructor
  · intro h
    cases h with
    | refl => exact ⟨rfl, fun name => .refl _⟩
    | object fields => exact ⟨rfl, fields⟩
  · rintro ⟨rfl, fields⟩
    exact .object fields

theorem isNullish_of_same {a b : Data C} (h : a.Same b) : a.isNullish = b.isNullish := by
  cases h <;> rfl

theorem all_congr_of_mem {α : Type*} {l : List α} {f g : α → Bool} (h : ∀ a ∈ l, f a = g a) :
    l.all f = l.all g := by
  rw [Bool.eq_iff_iff, List.all_eq_true, List.all_eq_true]
  exact forall₂_congr fun a ha => by rw [h a ha]

/-- The decorators of a property do not tell values with the same fields apart. -/
def Property.RespectsSame (p : Property C) : Prop :=
  ∀ check ∈ p.checks, ∀ a b : Data C, a.Same b → check a = check b

/-- Those of the classes do not. -/
def RespectsSame (C : Type*) [Decorated C] : Prop :=
  ∀ cls : C, ∀ p ∈ Decorated.properties cls, p.RespectsSame

/-- **Values with the same fields are both accepted or both refused.** -/
theorem nested_of_same [Decorated C] (hchecks : RespectsSame C) {onNull : OnNull} {a b : Data C}
    (h : a.Same b) : nested onNull a = nested onNull b := by
  induction h with
  | refl => rfl
  | @array as bs length items ih =>
    rw [nested, nested, nestedAll_eq_all, nestedAll_eq_all]
    have hnested : List.Forall₂ (fun a b => nested onNull a = nested onNull b) as bs :=
      List.forall₂_iff_zip.2 ⟨length, fun h => ih _ h⟩
    clear items ih length
    induction hnested with
    | nil => rfl
    | cons hitem _ ih => rw [List.all_cons, List.all_cons, hitem, ih]
  | @object cls f g fields ih =>
    have haccepts : ∀ p ∈ Decorated.properties cls,
        p.accepts onNull (get f p.name) = p.accepts onNull (get g p.name) := by
      intro p hp
      have hall : (p.checks.all fun check => check (get f p.name)) =
          p.checks.all fun check => check (get g p.name) :=
        all_congr_of_mem fun check hcheck => hchecks cls p hp check hcheck _ _ (fields p.name)
      rw [Property.accepts, Property.accepts, isNullish_of_same (fields p.name), ih p.name, hall]
    rw [nested_object, nested_object]
    exact all_congr_of_mem haccepts

end Js

end PolymeshRest
