import Mathlib.Algebra.Order.Ring.Rat
import Mathlib.Tactic.Common

/-!
# Numbers of any size

The values of `bignumber.js`: the decimal numbers, two infinities and `NaN`.  The two zeros are
equal and are one value here.

* `BigNumber.eq`, `BigNumber.eq_iff` : `a.eq(b)` is equality but for `NaN`.
* `BigNumber.lt`, `BigNumber.gt` : comparison with a bound; but for `NaN` it decides `AtLeast` and
  `AtMost`.
-/

namespace PolymeshRest

namespace Js

/-- `BigNumber` -/
inductive BigNumber where
  | nan
  | infinity (negative : Bool)
  | finite (value : ℚ)
  deriving DecidableEq

namespace BigNumber

/-- `a.isNaN()` -/
def isNaN : BigNumber → Bool
  | nan => true
  | _ => false

/-- `a.eq(b)` -/
def eq : BigNumber → BigNumber → Bool
  | nan, _ => false
  | a, b => a = b

theorem eq_iff {a b : BigNumber} : a.eq b = true ↔ a = b ∧ a.isNaN = false := by
  cases a with
  | nan => simp [eq, isNaN]
  | _ => simp [eq, isNaN]

theorem eq_iff_of_not_nan {a b : BigNumber} (ha : a.isNaN = false) : a.eq b = true ↔ a = b := by
  rw [eq_iff, and_iff_left ha]

/-- `a.lt(q)` -/
def lt : BigNumber → ℚ → Bool
  | nan, _ => false
  | infinity negative, _ => negative
  | finite a, q => a < q

/-- `a.gt(q)` -/
def gt : BigNumber → ℚ → Bool
  | nan, _ => false
  | infinity negative, _ => !negative
  | finite a, q => q < a

/-- A number, and one from `q` on. -/
def AtLeast (q : ℚ) : BigNumber → Prop
  | nan => False
  | infinity negative => negative = false
  | finite a => q ≤ a

/-- A number, and one up to `q`. -/
def AtMost (q : ℚ) : BigNumber → Prop
  | nan => False
  | infinity negative => negative = true
  | finite a => a ≤ q

theorem lt_eq_false_iff {a : BigNumber} {q : ℚ} (ha : a.isNaN = false) :
    a.lt q = false ↔ a.AtLeast q := by
  cases a with
  | nan => cases ha
  | infinity negative => rfl
  | finite a => simp [lt, AtLeast]

theorem gt_eq_false_iff {a : BigNumber} {q : ℚ} (ha : a.isNaN = false) :
    a.gt q = false ↔ a.AtMost q := by
  cases a with
  | nan => cases ha
  | infinity negative => simp [gt, AtMost]
  | finite a => simp [gt, AtMost]

end BigNumber

/-- A property that may be `undefined` or `null`; `===` is equality. -/
inductive Nullish (α : Type*) where
  | undefined
  | null
  | value (a : α)
  deriving DecidableEq, Repr

end Js

end PolymeshRest
