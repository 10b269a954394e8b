import Mathlib.Algebra.Order.Group.Multiset
import Mathlib.Data.Multiset.MapFold
import Mathlib.Tactic.Abel
import Mathlib.Tactic.Common

/-!
# What the entries of a list show

Activities are kept in a list, and each of them shows something or nothing: a message it is still
to send, an id it has been given.  `tally f l` is all that `f` shows of the entries of `l`, each
value as often as it is shown.

* `tally_append`, `tally_set` : what is shown after an entry is added, and after one is replaced.
* `tally_le_tally` : what shows less.
* `add_le_of_step` : what has come out, and what is left, stay within a total.
-/

namespace PolymeshRest

variable {α β : Type*} {f g : α → Option β} {l : List α} {a old : α} {b : β} {i : ℕ}

/-- What the entries of a list show. -/
def tally (f : α → Option β) (l : List α) : Multiset β := ↑(l.filterMap f)

@[simp] theorem tally_nil : tally f [] = 0 := rfl

theorem tally_cons : tally f (a :: l) = ↑(f a).toList + tally f l := by
  unfold tally
  rw [List.filterMap_cons]
  cases f a <;> simp

@[simp] theorem tally_append (l' : List α) : tally f (l ++ l') = tally f l + tally f l' := by
  rw [tally, List.filterMap_append, ← Multiset.coe_add]
  rfl

@[simp] theorem tally_singleton : tally f [a] = ↑(f a).toList := by
  rw [tally_cons, tally_nil, add_zero]

theorem mem_tally : b ∈ tally f l ↔ ∃ a ∈ l, f a = some b := by
  rw [tally, Multiset.mem_coe, List.mem_filterMap]

/-- Replacing an entry takes away what it has shown, and adds what the new one shows. -/
theorem tally_set (hold : l[i]? = some old) (new : α) :
    tally f (l.set i new) + ↑(f old).toList = tally f l + ↑(f new).toList := by
  induction l generalizing i with
  | nil => cases hold
  | cons a l ih =>
    cases i with
    | zero =>
      cases hold
      rw [List.set_cons_zero, tally_cons, tally_cons]
      abel
    | succ i =>
      rw [List.set_cons_succ, tally_cons, tally_cons, add_assoc, ih hold, add_assoc]

theorem tally_set_of_eq (hold : l[i]? = some old) {new : α} (heq : f new = f old) :
    tally f (l.set i new) = tally f l := by
  have hset := tally_set (f := f) hold new
  rwa [heq, add_left_inj] at hset

theorem tally_le_tally (h : ∀ a ∈ l, ∀ b, f a = some b → g a = some b) : tally f l ≤ tally g l := by
  induction l with
  | nil => exact le_rfl
  | cons a l ih =>
    rw [tally_cons, tally_cons]
    refine add_le_add ?_ (ih fun a' ha' => h a' (List.mem_cons_of_mem a ha'))
    cases hfa : f a with
    | none => exact Multiset.zero_le _
    | some b => rw [h a List.mem_cons_self b hfa]

theorem tally_some (f : α → β) : tally (fun a => some (f a)) l = ↑(l.map f) := by
  rw [tally, List.filterMap_eq_map']

/-! ### Budgets -/

/-- What has come out, with what is still open, stays within `total`: where an entry that has shown
`a` shows `b`, no more may come out than is closed. -/
theorem add_le_of_step {out out' left' left total a b : Multiset β} (h : out + left ≤ total)
    (hleft : left' + a = left + b) (hout : out' + b ≤ out + a) : out' + left' ≤ total := by
  have hstep : out' + left' + a ≤ out + left + a := by
    calc out' + left' + a = out' + b + left := by rw [add_assoc, hleft]; abel
      _ ≤ out + a + left := add_le_add_left hout left
      _ = out + left + a := by abel
  exact (le_of_add_le_add_right hstep).trans h

end PolymeshRest
