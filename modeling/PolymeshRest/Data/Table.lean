import Mathlib.Data.List.Basic
import Mathlib.Data.List.Nodup
import Mathlib.Logic.Function.Basic
import Mathlib.Tactic.Common

/-!
# Tables with an auto-increment key

A `Table α key` holds rows of type `α`, each stored under its own key; a new row gets the key
after the largest one ever given.  That every row is stored under its own key, and that no row
lies beyond the counter, are fields of the structure, so a table that breaks them cannot be
built.

* `Table.insert` adds a row under the next key, `Table.modify` rewrites the rows of some keys,
  `Table.update` that of one, `Table.all` lists the rows in the order of their keys.
* `Table.mem_all`, `Table.nodup_keys_all` : `all` lists every row, and no key twice.
* `Table.since` lists the rows that were inserted since the table was another one.
* `Outcome` : how an awaited call on a table ends, which is not only "done" or "not done": an
  update that is followed by a read can take effect and still be rejected.
-/

namespace PolymeshRest

/-- A table of rows `α` with the auto-increment key `key`. -/
structure Table (α : Type*) (key : α → ℕ) where
  /-- The largest key given so far. -/
  currentId : ℕ
  /-- The row stored under a key. -/
  rows : ℕ → Option α
  key_eq : ∀ {k a}, rows k = some a → key a = k
  le_currentId : ∀ {k a}, rows k = some a → k ≤ currentId

namespace Table

variable {α : Type*} {key : α → ℕ}

/-- The table without rows. -/
def empty : Table α key where
  currentId := 0
  rows _ := none
  key_eq h := nomatch h
  le_currentId h := nomatch h

/-- Add a row under the next key; `mk k` is the row to store under `k`. -/
def insert (t : Table α key) (mk : ℕ → α) (hmk : ∀ k, key (mk k) = k) : Table α key where
  currentId := t.currentId + 1
  rows k := if k = t.currentId + 1 then some (mk k) else t.rows k
  key_eq {k a} h := by
    split_ifs at h with hk
    · cases h
      exact hmk k
    · exact t.key_eq h
  le_currentId {k a} h := by
    split_ifs at h with hk
    · exact Nat.le_of_eq hk
    · exact Nat.le_succ_of_le (t.le_currentId h)

/-- Rewrite the rows whose keys satisfy `p`; `f` keeps the key of a row. -/
def modify (t : Table α key) (p : ℕ → Bool) (f : α → α) (hf : ∀ a, key (f a) = key a) :
    Table α key where
  currentId := t.currentId
  rows k := if p k then (t.rows k).map f else t.rows k
  key_eq {k a} h := by
    split_ifs at h with hk
    · obtain ⟨b, hb, rfl⟩ := Option.map_eq_some_iff.1 h
      exact (hf b).trans (t.key_eq hb)
    · exact t.key_eq h
  le_currentId {k a} h := by
    split_ifs at h with hk
    · obtain ⟨b, hb, -⟩ := Option.map_eq_some_iff.1 h
      exact t.le_currentId hb
    · exact t.le_currentId h

/-- A rewriting of rows that keeps their keys. -/
structure Rewrite (key : α → ℕ) where
  apply : α → α
  key_apply : ∀ a, key (apply a) = key a

/-- Rewrite the row stored under `k`, if there is one. -/
def update (t : Table α key) (k : ℕ) (w : Rewrite key) : Table α key :=
  t.modify (· = k) w.apply w.key_apply

/-- All rows, in the order of their keys. -/
def all (t : Table α key) : List α := (List.range (t.currentId + 1)).filterMap t.rows

variable {t : Table α key}

@[simp] theorem empty_rows (k : ℕ) : (empty : Table α key).rows k = none := rfl

theorem insert_rows {mk : ℕ → α} {hmk : ∀ k, key (mk k) = k} (k : ℕ) :
    (t.insert mk hmk).rows k = if k = t.currentId + 1 then some (mk k) else t.rows k := rfl

@[simp] theorem insert_currentId {mk : ℕ → α} {hmk : ∀ k, key (mk k) = k} :
    (t.insert mk hmk).currentId = t.currentId + 1 := rfl

@[simp] theorem insert_rows_self {mk : ℕ → α} {hmk : ∀ k, key (mk k) = k} :
    (t.insert mk hmk).rows (t.currentId + 1) = some (mk (t.currentId + 1)) := by
  simp [insert_rows]

theorem insert_rows_of_ne {mk : ℕ → α} {hmk : ∀ k, key (mk k) = k} {k : ℕ}
    (h : k ≠ t.currentId + 1) : (t.insert mk hmk).rows k = t.rows k := by
  simp [insert_rows, h]

theorem modify_rows {p : ℕ → Bool} {f : α → α} {hf : ∀ a, key (f a) = key a} (k : ℕ) :
    (t.modify p f hf).rows k = if p k then (t.rows k).map f else t.rows k := rfl

@[simp] theorem modify_currentId {p : ℕ → Bool} {f : α → α} {hf : ∀ a, key (f a) = key a} :
    (t.modify p f hf).currentId = t.currentId := rfl

theorem update_rows {w : Rewrite key} {k : ℕ} (j : ℕ) :
    (t.update k w).rows j = if j = k then (t.rows j).map w.apply else t.rows j := by
  simp [update, modify_rows]

@[simp] theorem update_currentId {w : Rewrite key} {k : ℕ} :
    (t.update k w).currentId = t.currentId := rfl

theorem rows_eq_none {k : ℕ} (h : t.currentId < k) : t.rows k = none := by
  cases hk : t.rows k with
  | none => rfl
  | some a => exact absurd (t.le_currentId hk) (by omega)

@[simp] theorem rows_next : t.rows (t.currentId + 1) = none := rows_eq_none (Nat.lt_succ_self _)

theorem insert_rows_of_some {mk : ℕ → α} (hmk : ∀ k, key (mk k) = k) {k : ℕ} {a : α}
    (h : t.rows k = some a) : (t.insert mk hmk).rows k = some a := by
  have hk : k ≠ t.currentId + 1 := by
    rintro rfl
    simp at h
  rw [insert_rows_of_ne hk, h]

/-! ### Listing the rows -/

theorem mem_all {a : α} : a ∈ t.all ↔ t.rows (key a) = some a := by
  simp only [all, List.mem_filterMap, List.mem_range]
  constructor
  · rintro ⟨k, -, hk⟩
    rwa [t.key_eq hk]
  · intro h
    exact ⟨key a, Nat.lt_succ_of_le (t.le_currentId h), h⟩

theorem nodup_keys_all : (t.all.map key).Nodup := by
  have hall : t.all.Nodup := List.nodup_range.filterMap fun j k a hj hk =>
    (t.key_eq hj).symm.trans (t.key_eq hk)
  refine hall.map_on fun a ha b hb hab => ?_
  rw [mem_all] at ha hb
  rw [hab, hb] at ha
  exact (Option.some.inj ha).symm

theorem all_insert {mk : ℕ → α} {hmk : ∀ k, key (mk k) = k} :
    (t.insert mk hmk).all = t.all ++ [mk (t.currentId + 1)] := by
  have hold : (List.range (t.currentId + 1)).filterMap (t.insert mk hmk).rows = t.all := by
    refine List.filterMap_congr fun k hk => insert_rows_of_ne ?_
    exact Nat.ne_of_lt (List.mem_range.1 hk)
  rw [all, insert_currentId, List.range_succ, List.filterMap_append, hold]
  simp

/-- The rows that have been inserted since the table was `t₀`. -/
def since (t t₀ : Table α key) : List α := t.all.filter (t₀.currentId < key ·)

theorem row_of_mem_since {t₀ : Table α key} {a : α} (h : a ∈ t.since t₀) :
    t.rows (key a) = some a :=
  mem_all.1 (List.mem_of_mem_filter h)

@[simp] theorem since_self : t.since t = [] := by
  refine List.filter_eq_nil_iff.2 fun a ha => ?_
  have hle := t.le_currentId (mem_all.1 ha)
  simpa using hle

@[simp] theorem since_insert {mk : ℕ → α} {hmk : ∀ k, key (mk k) = k} :
    (t.insert mk hmk).since t = [mk (t.currentId + 1)] := by
  have hself : t.all.filter (t.currentId < key ·) = [] := since_self
  rw [since, all_insert, List.filter_append, hself]
  simp [hmk]

end Table

/-! ### How a call on a table ends -/

/-- The end of an awaited repository call. -/
inductive Outcome where
  /-- It took effect and resolved. -/
  | resolved
  /-- It was rejected and had no effect. -/
  | rejected
  /-- It took effect, and was rejected afterwards: the row could not be read back. -/
  | unconfirmed
  deriving DecidableEq, Repr

/-- The call took effect. -/
def Outcome.written : Outcome → Bool
  | .rejected => false
  | _ => true

/-- The caller sees the call succeed. -/
def Outcome.ok : Outcome → Bool
  | .resolved => true
  | _ => false

/-- `t'` if the call took effect, else `t`. -/
def Outcome.apply {T : Type*} (o : Outcome) (t t' : T) : T := if o.written then t' else t

@[simp] theorem Outcome.apply_resolved {T : Type*} (t t' : T) :
    Outcome.resolved.apply t t' = t' := rfl

@[simp] theorem Outcome.apply_rejected {T : Type*} (t t' : T) :
    Outcome.rejected.apply t t' = t := rfl

@[simp] theorem Outcome.apply_unconfirmed {T : Type*} (t t' : T) :
    Outcome.unconfirmed.apply t t' = t' := rfl

theorem Outcome.eq_resolved {o : Outcome} (h : o.ok = true) : o = .resolved := by
  cases o <;> simp_all [Outcome.ok]

end PolymeshRest
