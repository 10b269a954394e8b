import Mathlib.Data.List.Forall2
import Mathlib.Data.List.NodupEquivFin
import Mathlib.Data.List.Perm.Basic
import Mathlib.Tactic.Common

/-!
# Lists of what is under way

Concurrent activities are kept in a list, under the positions at which they were added.  A step of
one of them replaces its entry, or takes it away.

* `mem_set_or_eq`, `exists_mem_set`, `map_set_of_eq`, `count_filterMap_set` : what is left of a
  list whose entry is replaced.
* `cons_filter_eraseIdx_perm`, `filter_eraseIdx_perm` : what is left of one whose entry is taken
  away.
* `filter_eq_singleton`, `find?_key_eq_some_iff`, `eq_of_count_le_one` : entries that are there
  once.
* `mapM_eq_some_iff`, `forall_mem_of_mapM` : what a step that may fail makes of all entries.
* `exists_getElem?_of_forall₂` : the entries of related lists.
-/

open scoped List

namespace PolymeshRest

variable {α β : Type*} {l : List α} {i j : ℕ} {old new a : α}

/-! ### Entries that are replaced -/

theorem mem_set_or_eq (new : α) (hold : l[i]? = some old) (ha : a ∈ l) :
    a ∈ l.set i new ∨ a = old := by
  obtain ⟨j, hj⟩ := List.mem_iff_getElem?.1 ha
  by_cases hij : i = j
  · subst hij
    exact .inr (Option.some.inj (hj.symm.trans hold))
  · exact .inl (List.mem_of_getElem? ((List.getElem?_set_ne hij).trans hj))

theorem mem_set_self (new : α) (hold : l[i]? = some old) : new ∈ l.set i new :=
  List.mem_set (List.getElem?_eq_some_iff.1 hold).1 new

theorem exists_mem_set {P : α → Prop} (hold : l[i]? = some old) (hP : P old → P new)
    (h : ∃ a ∈ l, P a) : ∃ a ∈ l.set i new, P a := by
  obtain ⟨a, ha, hPa⟩ := h
  rcases mem_set_or_eq new hold ha with hmem | rfl
  · exact ⟨a, hmem, hPa⟩
  · exact ⟨new, mem_set_self new hold, hP hPa⟩

theorem map_set_of_eq (f : α → β) (hold : l[i]? = some old) (heq : f new = f old) :
    (l.set i new).map f = l.map f := by
  refine List.ext_getElem? fun j => ?_
  rw [List.getElem?_map, List.getElem?_map, List.getElem?_set]
  split_ifs with hj hlt
  · subst hj
    simp [hold, heq]
  · subst hj
    simp [List.getElem?_eq_none (Nat.le_of_not_lt hlt)]
  · rfl

/-- When an entry of a list is replaced, what it has yielded goes and what the new one yields
comes. -/
theorem count_filterMap_set [DecidableEq β] (f : α → Option β) (hold : l[i]? = some old) (new : α)
    (b : β) :
    ((l.set i new).filterMap f).count b + (f old).toList.count b =
      (l.filterMap f).count b + (f new).toList.count b := by
  induction l generalizing i with
  | nil => simp at hold
  | cons a l ih =>
    cases i with
    | zero =>
      simp only [List.getElem?_cons_zero, Option.some.injEq] at hold
      subst hold
      rw [List.set_cons_zero, List.filterMap_cons, List.filterMap_cons]
      cases f new <;> cases f a <;> simp [List.count_cons, Nat.add_right_comm]
    | succ i =>
      have hrest := ih (by simpa using hold)
      rw [List.set_cons_succ, List.filterMap_cons, List.filterMap_cons]
      cases f a <;> simp only [List.count_cons] <;> omega

/-! ### Entries that are taken away -/

theorem cons_filter_eraseIdx_perm {p : α → Bool} (ha : l[j]? = some a) (hp : p a = true) :
    a :: (l.eraseIdx j).filter p ~ l.filter p := by
  obtain ⟨hj, rfl⟩ := List.getElem?_eq_some_iff.1 ha
  have hperm := (List.getElem_cons_eraseIdx_perm hj).filter p
  rwa [List.filter_cons_of_pos hp] at hperm

theorem filter_eraseIdx_perm {p : α → Bool} (ha : l[j]? = some a) (hp : p a = false) :
    (l.eraseIdx j).filter p ~ l.filter p := by
  obtain ⟨hj, rfl⟩ := List.getElem?_eq_some_iff.1 ha
  have hperm := (List.getElem_cons_eraseIdx_perm hj).filter p
  rwa [List.filter_cons_of_neg (by simpa using hp)] at hperm

/-! ### Entries that are there once -/

theorem filter_eq_singleton {key : α → ℕ} (hnodup : (l.map key).Nodup) (ha : a ∈ l) :
    l.filter (key · = key a) = [a] := by
  induction l with
  | nil => cases ha
  | cons b l ih =>
    rw [List.map_cons, List.nodup_cons] at hnodup
    obtain ⟨hnot, hnodup⟩ := hnodup
    rcases List.mem_cons.1 ha with rfl | ha
    · have hnil : l.filter (key · = key a) = [] := by
        refine List.filter_eq_nil_iff.2 fun b hb hkey => hnot ?_
        rw [← of_decide_eq_true hkey]
        exact List.mem_map_of_mem hb
      rw [List.filter_cons_of_pos (by simp), hnil]
    · have hne : key b ≠ key a := fun hkey => hnot (hkey ▸ List.mem_map_of_mem ha)
      rw [List.filter_cons_of_neg (by simpa using hne), ih hnodup ha]

theorem find?_key_eq_some_iff {κ : Type*} [DecidableEq κ] {key : α → κ}
    (hnodup : (l.map key).Nodup) {k : κ} :
    (l.find? fun b => key b = k) = some a ↔ a ∈ l ∧ key a = k := by
  constructor
  · intro h
    exact ⟨List.mem_of_find?_eq_some h, by simpa using List.find?_some h⟩
  · rintro ⟨ha, rfl⟩
    obtain ⟨b, hb⟩ : ∃ b, (l.find? fun b => key b = key a) = some b :=
      Option.isSome_iff_exists.1 (List.find?_isSome.2 ⟨a, ha, by simp⟩)
    have hkey : key b = key a := by simpa using List.find?_some hb
    rw [hb, List.inj_on_of_nodup_map hnodup (List.mem_of_find?_eq_some hb) ha hkey]

theorem eq_of_count_le_one [DecidableEq α] (h : l.count a ≤ 1) (hi : l[i]? = some a)
    (hj : l[j]? = some a) : i = j := by
  have hnot : ¬ List.Duplicate a l := fun hdup => by
    have := List.duplicate_iff_two_le_count.1 hdup
    omega
  obtain ⟨hil, hi⟩ := List.getElem?_eq_some_iff.1 hi
  obtain ⟨hjl, hj⟩ := List.getElem?_eq_some_iff.1 hj
  by_contra hne
  refine hnot (List.duplicate_iff_exists_distinct_get.2 ?_)
  rcases Nat.lt_or_gt_of_ne hne with hlt | hlt
  · exact ⟨⟨i, hil⟩, ⟨j, hjl⟩, hlt, hi.symm, hj.symm⟩
  · exact ⟨⟨j, hjl⟩, ⟨i, hil⟩, hlt, hj.symm, hi.symm⟩

/-! ### Lists that are made of another one -/

theorem exists_getElem?_of_forall₂ {R : α → β → Prop} {as : List α} {bs : List β}
    (h : List.Forall₂ R as bs) (ha : as[i]? = some a) :
    ∃ b, bs[i]? = some b ∧ R a b := by
  induction h generalizing i with
  | nil => cases ha
  | cons hR _ ih =>
    cases i with
    | zero =>
      cases ha
      exact ⟨_, rfl, hR⟩
    | succ i => exact ih ha

/-- A step for each entry succeeds if it makes the entries of the result one by one. -/
theorem mapM_eq_some_iff {f : α → Option β} {l : List α} {bs : List β} :
    l.mapM f = some bs ↔ List.Forall₂ (fun a b => f a = some b) l bs := by
  induction l generalizing bs with
  | nil =>
    rw [List.mapM_nil, List.forall₂_nil_left_iff]
    exact ⟨fun h => (Option.some.inj h).symm, fun h => congrArg some h.symm⟩
  | cons a l ih =>
    rw [List.mapM_cons, List.forall₂_cons_left_iff]
    constructor
    · intro h
      obtain ⟨b, hb, h⟩ := Option.bind_eq_some_iff.1 h
      obtain ⟨rest, hrest, h⟩ := Option.bind_eq_some_iff.1 h
      exact ⟨b, rest, hb, ih.1 hrest, (Option.some.inj h).symm⟩
    · rintro ⟨b, rest, hb, hrest, rfl⟩
      rw [hb, ih.2 hrest]
      rfl

theorem isSome_mapM (f : α → Option β) (l : List α) :
    (l.mapM f).isSome = l.all fun a => (f a).isSome := by
  induction l with
  | nil => rfl
  | cons a l ih =>
    rw [List.mapM_cons, List.all_cons, ← ih]
    cases f a with
    | none => rfl
    | some b => cases l.mapM f <;> rfl

/-- Two steps for each entry, one after the other or both at once. -/
theorem mapM_bind_mapM {γ : Type*} (f : α → Option β) (g : β → Option γ) (l : List α) :
    (l.mapM f).bind (fun bs => bs.mapM g) = l.mapM fun a => (f a).bind g := by
  induction l with
  | nil => rfl
  | cons a l ih =>
    rw [List.mapM_cons, List.mapM_cons, ← ih]
    cases f a with
    | none => rfl
    | some b =>
      cases l.mapM f with
      | none =>
        show none = (g b).bind fun _ => none
        cases g b <;> rfl
      | some bs =>
        show (b :: bs).mapM g = _
        rw [List.mapM_cons]
        rfl

theorem forall_mem_of_mapM {f : α → Option β} {P : β → Prop} {l : List α} {bs : List β}
    (h : l.mapM f = some bs) : (∀ b ∈ bs, P b) ↔ ∀ a ∈ l, ∀ b, f a = some b → P b := by
  rw [mapM_eq_some_iff] at h
  induction h with
  | nil => simp
  | cons hb hrest ih => simp [hb, ih]

end PolymeshRest
