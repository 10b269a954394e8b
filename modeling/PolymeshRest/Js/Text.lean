import Mathlib.Logic.Function.Basic
import Mathlib.Tactic.Common

/-!
# Text

The strings the services build and read.

* `Js.trim`, `Js.split` : the methods of JavaScript strings.
* `toBase64` : `buf.toString('base64')`; a whole number of groups of four characters
  (`length_base64Chars`).
* `injective_repr`, `injective_append_repr` : the decimal notation of ids.
* `append_separator_inj` : the last separator keeps two texts apart.
-/

namespace PolymeshRest

/-! ### Ids -/

/-- The decimal notation of a number determines it. -/
theorem injective_repr : Function.Injective Nat.repr := by
  intro m n h
  have hchars : (m.repr).toList = (n.repr).toList := congrArg String.toList h
  rw [Nat.toList_repr, Nat.toList_repr] at hchars
  rw [← Nat.ofDigitChars_ten_toDigits (n := m), hchars, Nat.ofDigitChars_ten_toDigits]

theorem injective_append_repr (text : String) :
    Function.Injective fun id : ℕ => text ++ id.repr := fun _ _ h =>
  injective_repr ((String.append_right_inj text).1 h)

theorem repr_ne_of_not_digit {text : String} {c : Char} (hc : c ∈ text.toList)
    (hdigit : c.isDigit = false) (id : ℕ) : id.repr ≠ text := by
  rintro rfl
  rw [Nat.toList_repr] at hc
  rw [Nat.isDigit_of_mem_toDigits (by decide) (by decide) hc] at hdigit
  cases hdigit

theorem repr_notMem_of_not_digit {names : List String}
    (h : (names.all fun name => name.toList.any fun c => !c.isDigit) = true) (id : ℕ) :
    id.repr ∉ names := by
  intro hmem
  obtain ⟨c, hc, hdigit⟩ := List.any_eq_true.1 (List.all_eq_true.1 h _ hmem)
  exact repr_ne_of_not_digit hc (by simpa using hdigit) id rfl

/-! ### Separators -/

/-- The last separator splits a list: what follows it does not have one. -/
theorem append_cons_inj {α : Type*} {sep : α} {as bs xs ys : List α} (hxs : sep ∉ xs)
    (hys : sep ∉ ys) (h : as ++ sep :: xs = bs ++ sep :: ys) : as = bs ∧ xs = ys := by
  obtain ⟨cs, rfl, hcs⟩ | ⟨cs, rfl, hcs⟩ := List.append_eq_append_iff.1 h
  all_goals
    cases cs with
    | nil => simp_all
    | cons c cs =>
      -- the longer front has the other separator, which is behind the shorter one
      obtain ⟨-, rfl⟩ := List.cons.inj hcs
      simp at hxs hys

theorem append_separator_inj {sep : Char} {a b x y : String} (hx : sep ∉ x.toList)
    (hy : sep ∉ y.toList) (h : a ++ String.singleton sep ++ x = b ++ String.singleton sep ++ y) :
    a = b ∧ x = y := by
  have hchars : a.toList ++ sep :: x.toList = b.toList ++ sep :: y.toList := by
    simpa using congrArg String.toList h
  obtain ⟨hab, hxy⟩ := append_cons_inj hx hy hchars
  exact ⟨String.toList_inj.1 hab, String.toList_inj.1 hxy⟩

/-! ### Methods of strings -/

namespace Js

/-- WhiteSpace or LineTerminator of ECMAScript. -/
def isWhiteSpace (c : Char) : Bool :=
  (9 ≤ c.toNat && c.toNat ≤ 13) || (0x2000 ≤ c.toNat && c.toNat ≤ 0x200A) ||
    [0x20, 0xA0, 0x1680, 0x2028, 0x2029, 0x202F, 0x205F, 0x3000, 0xFEFF].contains c.toNat

/-- `s.trim()` -/
def trim (s : String) : String :=
  String.ofList (((s.toList.dropWhile isWhiteSpace).reverse.dropWhile isWhiteSpace).reverse)

/-- `s.split(sep)`, for a separator of one character. -/
def split (s : String) (sep : Char) : List String := (s.toList.splitOn sep).map String.ofList

end Js

/-! ### Base64 -/

/-- The character for six bits. -/
def base64Char (n : ℕ) : Char :=
  "ABCDEFGHIJKLMNOPQRSTUVWXYZabcdefghijklmnopqrstuvwxyz0123456789+/".toList.getD n '='

/-- Three bytes are four characters; what is missing at the end is padded. -/
def base64Chars : List UInt8 → List Char
  | [] => []
  | [a] => [base64Char (a.toNat / 4), base64Char (a.toNat % 4 * 16), '=', '=']
  | [a, b] =>
    [base64Char (a.toNat / 4), base64Char (a.toNat % 4 * 16 + b.toNat / 16),
      base64Char (b.toNat % 16 * 4), '=']
  | a :: b :: c :: rest =>
    base64Char (a.toNat / 4) :: base64Char (a.toNat % 4 * 16 + b.toNat / 16) ::
      base64Char (b.toNat % 16 * 4 + c.toNat / 64) :: base64Char (c.toNat % 64) ::
        base64Chars rest

/-- `buf.toString('base64')` -/
def toBase64 (buf : List UInt8) : String := String.ofList (base64Chars buf)

theorem length_base64Chars (buf : List UInt8) :
    (base64Chars buf).length = (buf.length + 2) / 3 * 4 := by
  induction buf using base64Chars.induct with
  | case1 | case2 a | case3 a b => simp [base64Chars]
  | case4 a b c rest ih =>
    simp only [base64Chars, List.length_cons, ih]
    omega

example : toBase64 [77, 97, 110, 0] = "TWFuAA==" := by decide

end PolymeshRest
