import Mathlib.Algebra.Order.Ring.Int
import Mathlib.Data.List.Nodup
import Mathlib.Tactic.Common

/-!
# Records with numeric keys, and their patches

An object that is only ever read and written under numbers, or under their decimal notation, is a
table: no such name is one that an object inherits.

* `Record` : `r[k]`, `r[k] = a`, `Object.values(r)`; array indices come first in the values, in
  their order, and the other keys in the order of their creation.
* `Given` : a property of a partial object.  `{ ...a, ...b }` tells a property that is missing in
  `b` from one that is there and is `undefined`.
-/

namespace PolymeshRest

namespace Js

/-! ### Records -/

/-- Keys, by whether they are array indices. -/
class ArrayKey (κ : Type*) where
  arrayIndex : κ → Option ℕ

/-- The numbers that are array indices. -/
instance : ArrayKey ℤ where
  arrayIndex k := if 0 ≤ k ∧ k < 2 ^ 32 - 1 then some k.toNat else none

/-- The strings that are array indices. -/
instance : ArrayKey String where
  arrayIndex k := k.toNat?.filter fun n => n.repr = k ∧ n < 2 ^ 32 - 1

/-- A record with keys `κ` and values `α`. -/
structure Record (κ α : Type*) where
  /-- The properties, in the order of their creation. -/
  entries : List (κ × α)
  nodup_keys : (entries.map Prod.fst).Nodup

namespace Record

variable {κ α : Type*}

/-- `{}` -/
def empty : Record κ α := ⟨[], List.nodup_nil⟩

section

variable [DecidableEq κ]

/-- `r[k]` -/
def get (r : Record κ α) (k : κ) : Option α := r.entries.lookup k

/-- `entries` after an assignment to `k`. -/
def assign (k : κ) (a : α) : List (κ × α) → List (κ × α)
  | [] => [(k, a)]
  | e :: es => if e.1 = k then (k, a) :: es else e :: assign k a es

theorem mem_keys_assign {k j : κ} {a : α} {es : List (κ × α)} :
    j ∈ (assign k a es).map Prod.fst ↔ j = k ∨ j ∈ es.map Prod.fst := by
  induction es with
  | nil => simp [assign]
  | cons e es ih =>
    rw [assign]
    split_ifs with he
    · simp [he]
    · simp only [List.map_cons, List.mem_cons, ih]
      tauto

theorem nodup_keys_assign {k : κ} {a : α} {es : List (κ × α)} (h : (es.map Prod.fst).Nodup) :
    ((assign k a es).map Prod.fst).Nodup := by
  induction es with
  | nil => simp [assign]
  | cons e es ih =>
    rw [List.map_cons, List.nodup_cons] at h
    rw [assign]
    split_ifs with he
    · exact List.nodup_cons.2 ⟨he ▸ h.1, h.2⟩
    · refine List.nodup_cons.2 ⟨?_, ih h.2⟩
      rw [mem_keys_assign, not_or]
      exact ⟨he, h.1⟩

/-- `r[k] = a` -/
def set (r : Record κ α) (k : κ) (a : α) : Record κ α where
  entries := assign k a r.entries
  nodup_keys := nodup_keys_assign r.nodup_keys

variable {r : Record κ α}

@[simp] theorem get_empty (k : κ) : (empty : Record κ α).get k = none := rfl

theorem lookup_assign {k j : κ} {a : α} {es : List (κ × α)} :
    (assign k a es).lookup j = if j = k then some a else es.lookup j := by
  induction es with
  | nil =>
    rw [assign, List.lookup_cons]
    by_cases hj : j = k
    · simp [hj]
    · simp [hj, beq_false_of_ne hj]
  | cons e es ih =>
    obtain ⟨i, b⟩ := e
    rw [assign]
    by_cases hj : j = i
    · subst hj
      split_ifs with he <;> simp_all
    · by_cases he : i = k
      · have hne : j ≠ k := he ▸ hj
        simp [he, List.lookup_cons, beq_false_of_ne hne, hne]
      · simp [he, List.lookup_cons, beq_false_of_ne hj, ih]

theorem assign_assign (k : κ) (a b : α) (es : List (κ × α)) :
    assign k a (assign k b es) = assign k a es := by
  induction es with
  | nil => simp [assign]
  | cons e es ih =>
    rw [assign, assign]
    split_ifs with he
    · rw [assign, if_pos rfl]
    · rw [assign, if_neg he, ih]

/-- Assigning what is there changes nothing. -/
theorem assign_of_lookup {k : κ} {a : α} {es : List (κ × α)} (h : es.lookup k = some a) :
    assign k a es = es := by
  induction es with
  | nil => cases h
  | cons e es ih =>
    obtain ⟨i, b⟩ := e
    rw [assign]
    by_cases he : k = i
    · subst he
      rw [List.lookup_cons, beq_self_eq_true] at h
      cases h
      simp
    · rw [List.lookup_cons, beq_false_of_ne he] at h
      rw [if_neg (Ne.symm he), ih h]

/-- `entries` where the value of `k`, if there is one, is replaced; it throws where there is
none. -/
def alter (k : κ) (f : α → Option α) (es : List (κ × α)) : Option (List (κ × α)) :=
  match es.lookup k with
  | none => some es
  | some a => (f a).map fun b => assign k b es

theorem alter_of_none {k : κ} {f : α → Option α} {es : List (κ × α)} (h : es.lookup k = none) :
    alter k f es = some es := by
  rw [alter, h]

theorem alter_of_some {k : κ} {f : α → Option α} {es : List (κ × α)} {a : α}
    (h : es.lookup k = some a) : alter k f es = (f a).map fun b => assign k b es := by
  rw [alter, h]

theorem alter_bind_alter (k : κ) (f g : α → Option α) (es : List (κ × α)) :
    (alter k f es).bind (alter k g) = alter k (fun a => (f a).bind g) es := by
  cases h : es.lookup k with
  | none => rw [alter_of_none h, alter_of_none h, Option.bind_some, alter_of_none h]
  | some a =>
    rw [alter_of_some h, alter_of_some h]
    cases f a with
    | none => rfl
    | some b =>
      have hb : (assign k b es).lookup k = some b := by rw [lookup_assign, if_pos rfl]
      show alter k g (assign k b es) = (g b).map _
      rw [alter_of_some hb]
      simp only [assign_assign]

theorem lookup_alter_of_ne {k j : κ} (hj : j ≠ k) {f : α → Option α} {es made : List (κ × α)}
    (h : alter k f es = some made) : made.lookup j = es.lookup j := by
  cases hk : es.lookup k with
  | none =>
    rw [alter_of_none hk] at h
    cases h
    rfl
  | some a =>
    rw [alter_of_some hk] at h
    obtain ⟨b, -, rfl⟩ := Option.map_eq_some_iff.1 h
    rw [lookup_assign, if_neg hj]

theorem get_set {k j : κ} {a : α} : (r.set k a).get j = if j = k then some a else r.get j :=
  lookup_assign

theorem get_set_of_ne {k j : κ} {a : α} (h : j ≠ k) : (r.set k a).get j = r.get j := by
  rw [get_set, if_neg h]

end

theorem entries_set [DecidableEq κ] {r : Record κ α} {k : κ} (h : r.get k = none) (a : α) :
    (r.set k a).entries = r.entries ++ [(k, a)] := by
  obtain ⟨es, hes⟩ := r
  change es.lookup k = none at h
  show assign k a es = es ++ [(k, a)]
  clear hes
  induction es with
  | nil => rfl
  | cons e es ih =>
    rw [List.lookup_eq_none_iff] at h
    have he : ¬ e.1 = k := fun hek => by simpa [hek] using h e List.mem_cons_self
    rw [assign, if_neg he, List.cons_append]
    refine congrArg _ (ih (List.lookup_eq_none_iff.2 fun p hp => h p (List.mem_cons_of_mem _ hp)))

theorem get_eq_some_iff [DecidableEq κ] {r : Record κ α} {k : κ} {a : α} :
    r.get k = some a ↔ (k, a) ∈ r.entries := by
  obtain ⟨es, hes⟩ := r
  show es.lookup k = some a ↔ (k, a) ∈ es
  induction es with
  | nil => simp
  | cons e es ih =>
    obtain ⟨i, b⟩ := e
    rw [List.map_cons, List.nodup_cons] at hes
    rw [List.lookup_cons, List.mem_cons]
    by_cases he : k = i
    · subst he
      have hnot : (k, a) ∉ es := fun h => hes.1 (List.mem_map.2 ⟨_, h, rfl⟩)
      simp [hnot, eq_comm]
    · simp [he, beq_false_of_ne he, ih hes.2]

section

variable [ArrayKey κ]

/-- `Object.values(r)` -/
def values (r : Record κ α) : List α :=
  let isIndex := fun e : κ × α => (ArrayKey.arrayIndex e.1).isSome
  let indexed := (r.entries.filter isIndex).mergeSort fun e f =>
    (ArrayKey.arrayIndex e.1).getD 0 ≤ (ArrayKey.arrayIndex f.1).getD 0
  (indexed ++ r.entries.filter fun e => !isIndex e).map Prod.snd

/-- `Object.entries(r)` -/
def inOrder (r : Record κ α) : List (κ × α) :=
  let isIndex := fun e : κ × α => (ArrayKey.arrayIndex e.1).isSome
  let indexed := (r.entries.filter isIndex).mergeSort fun e f =>
    (ArrayKey.arrayIndex e.1).getD 0 ≤ (ArrayKey.arrayIndex f.1).getD 0
  indexed ++ r.entries.filter fun e => !isIndex e

variable {r : Record κ α}

theorem values_eq_map : r.values = r.inOrder.map Prod.snd := rfl

theorem inOrder_perm : r.inOrder.Perm r.entries :=
  ((List.mergeSort_perm _ _).append_right _).trans (List.filter_append_perm ..)

theorem mem_inOrder [DecidableEq κ] {k : κ} {a : α} : (k, a) ∈ r.inOrder ↔ r.get k = some a := by
  rw [inOrder_perm.mem_iff, get_eq_some_iff]

/-- No key is listed twice, so the last entry of a key is its only one. -/
theorem lookup_reverse_inOrder [DecidableEq κ] (r : Record κ α) (k : κ) :
    r.inOrder.reverse.lookup k = r.get k := by
  have hnodup : (r.inOrder.reverse.map Prod.fst).Nodup :=
    (((List.reverse_perm _).trans inOrder_perm).map _).nodup_iff.2 r.nodup_keys
  refine Option.ext fun a => ?_
  change (Record.mk r.inOrder.reverse hnodup).get k = some a ↔ _
  rw [get_eq_some_iff, List.mem_reverse, mem_inOrder]

theorem values_perm : r.values.Perm (r.entries.map Prod.snd) := by
  rw [values_eq_map]
  exact inOrder_perm.map _

theorem mem_values [DecidableEq κ] {a : α} : a ∈ r.values ↔ ∃ k, r.get k = some a := by
  rw [values_perm.mem_iff]
  simp [get_eq_some_iff]

theorem nodup_map_values [DecidableEq κ] {β : Type*} {f : α → β} (keyOf : β → Option κ)
    (hf : ∀ k a, r.get k = some a → keyOf (f a) = some k) : (r.values.map f).Nodup := by
  have hkeys : (r.entries.map Prod.snd).map (keyOf ∘ f) = (r.entries.map Prod.fst).map some := by
    rw [List.map_map, List.map_map]
    exact List.map_congr_left fun e he => hf e.1 e.2 (get_eq_some_iff.2 he)
  have hnodup : ((r.entries.map Prod.snd).map (keyOf ∘ f)).Nodup := by
    rw [hkeys]
    exact r.nodup_keys.map fun _ _ => Option.some.inj
  rw [← List.map_map] at hnodup
  exact ((values_perm.map f).nodup_iff).2 hnodup.of_map

end

end Record

/-! ### Partial objects -/

/-- A property of a partial object. -/
inductive Given (α : Type*) where
  /-- The object does not have it. -/
  | missing
  /-- The object has it, and it is `undefined`. -/
  | undefined
  | value (a : α)
  deriving DecidableEq, Repr

namespace Given

variable {α : Type*}

/-- The property after `{ ...old, ...new }`, where `undefined` is `none`. -/
def spread (old : Option α) : Given α → Option α
  | .missing => old
  | .undefined => none
  | .value a => some a

/-- The property after an assignment that leaves out what is `undefined`. -/
def assign (old : α) : Given α → α
  | .value a => a
  | _ => old

/-- The property, with its value seen through `f`. -/
def map {β : Type*} (f : α → β) : Given α → Given β
  | .missing => .missing
  | .undefined => .undefined
  | .value a => .value (f a)

/-- The property is there only with a value. -/
def defined : Given α → Bool
  | .undefined => false
  | _ => true

/-- The property is there with a value. -/
def isValue : Given α → Bool
  | .value _ => true
  | _ => false

/-- The property is set to `undefined` only where it was not there. -/
def unsetsNothing (old : Option α) : Given α → Bool
  | .undefined => old.isNone
  | _ => true

/-- Keeping the old value where the new one is `undefined` changes nothing if there is no such
value. -/
theorem or_spread_iff {old : Option α} {g : Given α} :
    (g.spread old).or old = g.spread old ↔ g.unsetsNothing old = true := by
  cases g <;> cases old <;> simp [spread, unsetsNothing]

/-- The property, spread over the old one, leaves it as it was. -/
def Keeps (old : Option α) : Given α → Prop
  | .missing => True
  | .undefined => old = none
  | .value a => old = some a

theorem map_map {β γ : Type*} (f : α → β) (g : β → γ) (x : Given α) :
    (x.map f).map g = x.map (g ∘ f) := by
  cases x <;> rfl

theorem spread_map {β : Type*} (f : α → β) (old : Option α) (g : Given α) :
    (g.map f).spread (old.map f) = (g.spread old).map f := by
  cases g <;> rfl

theorem assign_map {β : Type*} (f : α → β) (old : α) (g : Given α) :
    (g.map f).assign (f old) = f (g.assign old) := by
  cases g <;> rfl

/-- The property has no other value than the old one. -/
def Agrees (old : α) : Given α → Prop
  | .value a => a = old
  | _ => True

theorem assign_of_not_isValue {g : Given α} (h : g.isValue = false) (old : α) :
    g.assign old = old := by
  cases g with
  | value a => cases h
  | _ => rfl

theorem spread_eq_self_iff {old : Option α} {g : Given α} : g.spread old = old ↔ g.Keeps old := by
  cases g with
  | missing => simp [spread, Keeps]
  | undefined => exact eq_comm
  | value a => exact eq_comm

theorem assign_eq_self_iff {old : α} {g : Given α} : g.assign old = old ↔ g.Agrees old := by
  cases g <;> simp [assign, Agrees]

/-- Where the property has a value or is missing, both ways of assigning it agree. -/
@[simp] theorem spread_eq_some_assign {g : Given α} {a : α} :
    g.spread (some a) = some (g.assign a) ↔ g.defined = true := by
  cases g <;> simp [spread, assign, defined]

@[simp] theorem spread_map_eq_some_assign {β : Type*} {f : α → β} {g : Given α} {a : α} :
    (g.map f).spread (some (f a)) = some (f (g.assign a)) ↔ g.defined = true := by
  cases g <;> simp [spread, map, assign, defined]

end Given

end Js

end PolymeshRest
