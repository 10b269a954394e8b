import PolymeshRest.Common.Errors
import PolymeshRest.Data.Table
import PolymeshRest.Js.Record
import PolymeshRest.Machine.Calls

/-!
# Repositories with two implementations

A repository is implemented over objects in memory and over a table of the database.  Here is
what it takes for callers not to notice which one is there.

* `Answer` : how the call of a repository ends; `Answer.Same` compares two ends up to what
  `shown` hides, up to order and up to the texts of errors.
* `Alike` : both implementations answer a call alike, and what fails changes neither.
* `Table.find` : a row by any whole number.
* `Mirrors` : the objects in memory are the rows of the table, up to what `shown` hides.
-/

namespace PolymeshRest

open Js

/-- How the call of a repository of objects `α` ends. -/
inductive Answer (α : Type*) where
  /-- It resolves, with an object or with `undefined`. -/
  | resolved (value : Option α)
  | listed (values : List α)
  | rejected (failure : Failure)
  deriving DecidableEq, Repr

namespace Answer

variable {α β : Type*}

/-- The call has failed. -/
def failed : Answer α → Bool
  | .rejected _ => true
  | _ => false

/-- Two answers are the same up to what `shown` hides, up to order and up to the texts of
errors. -/
def Same (shown : α → β) : Answer α → Answer α → Prop
  | .resolved a, .resolved b => a.map shown = b.map shown
  | .listed as, .listed bs => (as.map shown).Perm (bs.map shown)
  | .rejected e, .rejected f => e.kind = f.kind
  | _, _ => False

instance [DecidableEq β] (shown : α → β) : ∀ a b : Answer α, Decidable (Same shown a b)
  | .resolved _, .resolved _ => inferInstanceAs (Decidable (_ = _))
  | .listed _, .listed _ => inferInstanceAs (Decidable (List.Perm _ _))
  | .rejected _, .rejected _ => inferInstanceAs (Decidable (_ = _))
  | .resolved _, .listed _ | .resolved _, .rejected _ | .listed _, .resolved _
  | .listed _, .rejected _ | .rejected _, .resolved _ | .rejected _, .listed _ => .isFalse id

theorem Same.failed_eq {shown : α → β} {a b : Answer α} (h : Same shown a b) :
    a.failed = b.failed := by
  cases a <;> cases b <;> first | rfl | cases h

end Answer

/-- Two implementations `F` and `G` of a repository answer a call alike, and what fails changes
neither. -/
structure Alike {S T C α β : Type*} (F : Service S C (Answer α)) (G : Service T C (Answer α))
    (shown : α → β) (s : S × T) (c : C) : Prop where
  same : F.Answers G (Answer.Same shown) s c
  left_kept : (F.answer s.1 c).failed = true → F.after s.1 c = s.1
  right_kept : (G.answer s.2 c).failed = true → G.after s.2 c = s.2

theorem Alike.of_not_failed {S T C α β : Type*} {F : Service S C (Answer α)}
    {G : Service T C (Answer α)} {shown : α → β} {s : S × T} {c : C}
    (hsame : F.Answers G (Answer.Same shown) s c) (hnot : (F.answer s.1 c).failed = false) :
    Alike F G shown s c where
  same := hsame
  left_kept hfailed := by simp [hnot] at hfailed
  right_kept hfailed := by simp [← hsame.failed_eq, hnot] at hfailed

/-! ### Rows by any number -/

namespace Table

variable {α : Type*} {key : α → ℕ} {t : Table α key}

/-- `findOneBy({ id })` -/
def find (t : Table α key) (id : ℤ) : Option α := if 0 ≤ id then t.rows id.toNat else none

@[simp] theorem find_natCast (k : ℕ) : t.find k = t.rows k := by simp [find]

theorem find_insert {mk : ℕ → α} (hmk : ∀ k, key (mk k) = k) {id : ℤ} :
    (t.insert mk hmk).find id =
      if id = (t.currentId + 1 : ℕ) then some (mk (t.currentId + 1)) else t.find id := by
  by_cases hid : 0 ≤ id
  · lift id to ℕ using hid
    by_cases hk : id = t.currentId + 1
    · rw [hk, if_pos rfl, find_natCast, insert_rows_self]
    · have hne : (id : ℤ) ≠ (t.currentId + 1 : ℕ) := by omega
      rw [if_neg hne, find_natCast, find_natCast, insert_rows_of_ne hk]
  · have hne : id ≠ (t.currentId + 1 : ℕ) := by omega
    rw [if_neg hne, find, if_neg hid, find, if_neg hid]

theorem find_modify (q : ℤ → Prop) [DecidablePred q] {f : α → α} (hf : ∀ a, key (f a) = key a)
    {id : ℤ} : (t.modify (fun k => q k) f hf).find id =
      if q id then (t.find id).map f else t.find id := by
  by_cases hid : 0 ≤ id
  · lift id to ℕ using hid
    simp [modify_rows]
  · simp [find, hid]

theorem key_of_find {id : ℤ} {a : α} (h : t.find id = some a) : (key a : ℤ) = id := by
  unfold find at h
  split_ifs at h with hid
  rw [t.key_eq h, Int.toNat_of_nonneg hid]

theorem mem_all_iff_find {a : α} : a ∈ t.all ↔ ∃ id, t.find id = some a := by
  rw [mem_all]
  constructor
  · intro h
    exact ⟨key a, by rw [find_natCast, h]⟩
  · rintro ⟨id, h⟩
    have hkey := key_of_find h
    rwa [← hkey, find_natCast] at h

end Table

/-! ### Objects and rows -/

section

variable {O α β : Type*} {key : α → ℕ}

/-- The objects in memory are the rows of the table, up to what `shown` hides. -/
def Mirrors (shown : O → β) (ofRow : α → O) (objects : Record ℤ O) (t : Table α key) : Prop :=
  ∀ id, (objects.get id).map shown = (t.find id).map (shown ∘ ofRow)

variable {shown : O → β} {ofRow : α → O} {objects : Record ℤ O} {t : Table α key}

theorem mirrors_empty : Mirrors shown ofRow .empty (.empty : Table α key) := by
  intro id
  simp [Table.find]

namespace Mirrors

/-- An object is in memory for every row of the table. -/
theorem object_of_row (h : Mirrors shown ofRow objects t) {id : ℤ} {row : α}
    (hrow : t.find id = some row) :
    ∃ object, objects.get id = some object ∧ shown object = shown (ofRow row) := by
  have hid := h id
  rw [hrow, Option.map_some, Option.map_eq_some_iff] at hid
  exact hid

theorem row_of_object (h : Mirrors shown ofRow objects t) {id : ℤ} {object : O}
    (hobject : objects.get id = some object) :
    ∃ row, t.find id = some row ∧ shown (ofRow row) = shown object := by
  have hid := h id
  rw [hobject, Option.map_some, eq_comm, Option.map_eq_some_iff] at hid
  exact hid

theorem get_eq_none (h : Mirrors shown ofRow objects t) {id : ℤ} (hrow : t.find id = none) :
    objects.get id = none := by
  have hid := h id
  rwa [hrow, Option.map_none, Option.map_eq_none_iff] at hid

theorem insert (h : Mirrors shown ofRow objects t) {mk : ℕ → α} (hmk : ∀ k, key (mk k) = k)
    {object : O} (hobject : shown object = shown (ofRow (mk (t.currentId + 1)))) :
    Mirrors shown ofRow (objects.set (t.currentId + 1 : ℕ) object) (t.insert mk hmk) := by
  intro id
  rw [Record.get_set, Table.find_insert]
  split_ifs
  · exact congrArg some hobject
  · exact h id

theorem update (h : Mirrors shown ofRow objects t) {f : α → α} (hf : ∀ a, key (f a) = key a)
    {id : ℤ} {row : α} (hrow : t.find id = some row) {object : O}
    (hobject : shown object = shown (ofRow (f row))) :
    Mirrors shown ofRow (objects.set id object) (t.modify (fun k => (k : ℤ) = id) f hf) := by
  intro k
  rw [Record.get_set, Table.find_modify (· = id)]
  split_ifs with hk
  · rw [hk, hrow]
    exact congrArg some hobject
  · exact h k

/-- Both list the same, each object once. -/
theorem values_perm (h : Mirrors shown ofRow objects t) (keyOf : β → Option ℤ)
    (hkey : ∀ row, keyOf (shown (ofRow row)) = some (key row : ℤ)) :
    (objects.values.map shown).Perm (t.all.map (shown ∘ ofRow)) := by
  have hobjects : (objects.values.map shown).Nodup := by
    refine Record.nodup_map_values keyOf fun id object hget => ?_
    obtain ⟨row, hrow, hshown⟩ := h.row_of_object hget
    rw [← hshown, hkey, Table.key_of_find hrow]
  have hrows : (t.all.map (shown ∘ ofRow)).Nodup := by
    have hkeys := Table.nodup_keys_all (t := t).map (f := fun k : ℕ => some (k : ℤ))
      fun _ _ hj => Int.natCast_inj.1 (Option.some.inj hj)
    refine List.Nodup.of_map keyOf ?_
    rw [List.map_map] at hkeys ⊢
    simpa only [Function.comp_def, hkey] using hkeys
  rw [List.perm_ext_iff_of_nodup hobjects hrows]
  intro o
  simp only [List.mem_map, Record.mem_values, Table.mem_all_iff_find, Function.comp_apply]
  constructor
  · rintro ⟨object, ⟨id, hget⟩, rfl⟩
    obtain ⟨row, hrow, hshown⟩ := h.row_of_object hget
    exact ⟨row, ⟨id, hrow⟩, hshown⟩
  · rintro ⟨row, ⟨id, hrow⟩, rfl⟩
    obtain ⟨object, hget, hshown⟩ := h.object_of_row hrow
    exact ⟨object, ⟨id, hget⟩, hshown⟩

end Mirrors

end

end PolymeshRest
