import Mathlib.Data.Int.Log
import Mathlib.Data.List.TakeWhile
import Mathlib.Data.Rat.Floor
import Mathlib.Tactic.Ring
import PolymeshRest.Js.Text

/-!
# Numbers of the language

The values of the type `number`, and what `Number` makes of a string.  A number is a double: a
finite one is one of the rationals that a double has, and the two zeros are one value here.

* `NumericLiteral`, `stringNumericLiteral` : the strings that `Number` reads, after ECMAScript's
  `StringNumericLiteral`: white space around a decimal literal with a sign, a fraction and an
  exponent, around `Infinity`, around a hexadecimal, octal or binary integer, or around nothing.
* `Number.round` : the double nearest to a rational, the even one of two.
* `Number.ofString` : `Number(s)`.
* `Number.round_natCast_eq_iff` : the natural numbers that are doubles have at most 53 significant
  bits.
* `Number.ofString_digits` : a string of digits is the number it denotes, rounded.
-/

namespace PolymeshRest

namespace Js

/-- A value of the type `number`. -/
inductive Number where
  | nan
  | infinity (negative : Bool)
  | finite (value : ℚ)
  deriving DecidableEq

namespace Number

/-- A whole number. -/
abbrev ofInt (n : ℤ) : Number := finite n

/-- A natural number. -/
abbrev ofNat (n : ℕ) : Number := finite n

/-- `isNaN(x)` -/
def isNaN : Number → Bool
  | nan => true
  | _ => false

/-- `x || 0`, for an `x` that may be missing. -/
def orZero : Option Number → Number
  | none | some nan => finite 0
  | some x => x

/-! ### Rounding -/

/-- The integer nearest to a rational, the even one of two. -/
def nearestEven (q : ℚ) : ℤ :=
  if q - ⌊q⌋ < 1 / 2 then ⌊q⌋
  else if 1 / 2 < q - ⌊q⌋ then ⌊q⌋ + 1
  else if Even ⌊q⌋ then ⌊q⌋ else ⌊q⌋ + 1

/-- The distance of the doubles around a positive rational, were they unbounded. -/
def quantum (q : ℚ) : ℚ := 2 ^ max (Int.log 2 q - 52) (-1074)

/-- The multiple of its quantum nearest to a positive rational. -/
def toQuantum (q : ℚ) : ℚ := nearestEven (q / quantum q) * quantum q

/-- The least power of two that is no double. -/
def limit : ℕ := 2 ^ 1024

/-- The double nearest to a rational. -/
def round (q : ℚ) : Number :=
  if q = 0 then finite 0
  else if limit ≤ toQuantum |q| then infinity (q < 0)
  else finite (if q < 0 then -toQuantum |q| else toQuantum |q|)

theorem orZero_of_not_nan {x : Number} (h : x.isNaN = false) : orZero (some x) = x := by
  cases x with
  | nan => cases h
  | _ => rfl

theorem isNaN_round (q : ℚ) : (round q).isNaN = false := by
  unfold round
  split_ifs <;> rfl

theorem quantum_pos (q : ℚ) : 0 < quantum q := zpow_pos (by norm_num) _

theorem two_pow_lt_limit {n : ℕ} (h : n < 1024) : 2 ^ n < limit := by
  unfold limit
  gcongr
  exact Nat.lt_succ_self 1

theorem limit_pos : 0 < limit := (Nat.two_pow_pos 0).trans (two_pow_lt_limit (by decide))

theorem nearestEven_intCast (n : ℤ) : nearestEven n = n := by
  simp [nearestEven]

/-- Multiples of their quantum stay. -/
theorem toQuantum_eq_iff (q : ℚ) : toQuantum q = q ↔ ∃ k : ℤ, q = k * quantum q := by
  have hne := (quantum_pos q).ne'
  constructor
  · intro h
    exact ⟨nearestEven (q / quantum q), h.symm⟩
  · rintro ⟨k, hk⟩
    have hdiv : q / quantum q = k := by rw [div_eq_iff hne, ← hk]
    rw [toQuantum, hdiv, nearestEven_intCast, ← hk]

/-- The quantum of a natural number with at most 53 bits divides it, that of another one is a
power of two. -/
theorem quantum_natCast (n : ℕ) :
    quantum n = if Nat.log 2 n ≤ 52 then (1 / 2 ^ (52 - Nat.log 2 n) : ℚ)
      else 2 ^ (Nat.log 2 n - 52) := by
  unfold quantum
  rw [Int.log_natCast, max_eq_left (by omega)]
  split_ifs with h
  · rw [show (Nat.log 2 n : ℤ) - 52 = -((52 - Nat.log 2 n : ℕ) : ℤ) by omega, zpow_neg,
      zpow_natCast, one_div]
  · rw [show (Nat.log 2 n : ℤ) - 52 = ((Nat.log 2 n - 52 : ℕ) : ℤ) by omega, zpow_natCast]

/-- A natural number is a multiple of its quantum if its significant bits are 53. -/
theorem toQuantum_natCast_eq_iff (n : ℕ) :
    toQuantum n = n ↔ 2 ^ (Nat.log 2 n - 52) ∣ n := by
  rw [toQuantum_eq_iff, quantum_natCast]
  split_ifs with h
  · have hzero : Nat.log 2 n - 52 = 0 := by omega
    rw [hzero, pow_zero]
    refine iff_of_true ⟨n * 2 ^ (52 - Nat.log 2 n), ?_⟩ (one_dvd n)
    push_cast
    field_simp
  · constructor
    · rintro ⟨k, hk⟩
      have hint : (n : ℤ) = k * 2 ^ (Nat.log 2 n - 52) := by exact_mod_cast hk
      have hdvd : (2 : ℤ) ^ (Nat.log 2 n - 52) ∣ n := ⟨k, by rw [hint]; ring⟩
      exact_mod_cast hdvd
    · rintro ⟨k, hk⟩
      refine ⟨k, ?_⟩
      conv_lhs => rw [hk]
      push_cast
      ring

/-- A double is equal to the natural number: it is below the limit and has at most 53 significant
bits. -/
def IsDouble (n : ℕ) : Prop := n < limit ∧ 2 ^ (Nat.log 2 n - 52) ∣ n

/-- **The natural numbers that are doubles** are those that rounding leaves as they are. -/
theorem round_natCast_eq_iff (n : ℕ) : round n = finite n ↔ IsDouble n := by
  rw [IsDouble, ← toQuantum_natCast_eq_iff]
  unfold round
  rw [if_neg (not_lt.2 (Nat.cast_nonneg n)), abs_of_nonneg (Nat.cast_nonneg n)]
  by_cases hzero : (n : ℚ) = 0
  · have h : n = 0 := by exact_mod_cast hzero
    subst h
    simp [toQuantum, nearestEven, limit_pos]
  · rw [if_neg hzero]
    constructor
    · intro h
      split_ifs at h with hbig
      have hq : toQuantum n = n := finite.inj h
      rw [hq, not_le] at hbig
      exact ⟨by exact_mod_cast hbig, hq⟩
    · rintro ⟨hlt, hq⟩
      have hlt' : ¬(limit : ℚ) ≤ n := by
        rw [not_le]
        exact_mod_cast hlt
      rw [hq, if_neg hlt']

end Number

/-! ### Literals -/

/-- The value of a hexadecimal digit. -/
def digitValue (c : Char) : Option ℕ :=
  if 48 ≤ c.toNat ∧ c.toNat ≤ 57 then some (c.toNat - 48)
  else if 97 ≤ c.toNat ∧ c.toNat ≤ 102 then some (c.toNat - 87)
  else if 65 ≤ c.toNat ∧ c.toNat ≤ 70 then some (c.toNat - 55)
  else none

/-- The digits of a base up to 16. -/
def isDigitOf (base : ℕ) (c : Char) : Bool := (digitValue c).any (· < base)

/-- The integer that digits denote. -/
def digitsValue (base : ℕ) (digits : List Char) : ℕ :=
  digits.foldl (fun n c => n * base + (digitValue c).getD 0) 0

/-- What `Number` reads in a string. -/
inductive NumericLiteral where
  | blank
  | infinity (negative : Bool)
  | decimal (negative : Bool) (whole fraction : List Char) (exponent : ℤ)
  | integer (base : ℕ) (digits : List Char)
  deriving DecidableEq

/-- One or more digits of a base, and nothing else. -/
def areDigits (base : ℕ) (cs : List Char) : Bool := cs ≠ [] && cs.all (isDigitOf base)

/-- A sign, if there is one, and what follows. -/
def readSign : List Char → Bool × List Char
  | '-' :: cs => (true, cs)
  | '+' :: cs => (false, cs)
  | cs => (false, cs)

/-- `ExponentPart` -/
def readExponent : List Char → Option ℤ
  | [] => some 0
  | e :: cs =>
    if (e = 'e' || e = 'E') && areDigits 10 (readSign cs).2 then
      some ((if (readSign cs).1 then -1 else 1) * digitsValue 10 (readSign cs).2)
    else none

/-- A fraction, if there is one, and what follows. -/
def readFraction : List Char → List Char × List Char
  | '.' :: cs => cs.span (isDigitOf 10)
  | cs => ([], cs)

/-- `StrDecimalLiteral` -/
def readDecimal (cs : List Char) : Option NumericLiteral :=
  let (negative, unsigned) := readSign cs
  if unsigned = "Infinity".toList then some (.infinity negative)
  else
    let (whole, rest) := unsigned.span (isDigitOf 10)
    let (fraction, rest) := readFraction rest
    if whole ++ fraction = [] then none
    else (readExponent rest).map (.decimal negative whole fraction)

/-- The base of a prefix. -/
def baseOf : Char → Option ℕ
  | 'x' | 'X' => some 16
  | 'o' | 'O' => some 8
  | 'b' | 'B' => some 2
  | _ => none

/-- `NonDecimalIntegerLiteral` -/
def readInteger : List Char → Option NumericLiteral
  | '0' :: mark :: digits =>
    (baseOf mark).bind fun base =>
      if areDigits base digits then some (.integer base digits) else none
  | _ => none

/-- `StringNumericLiteral` -/
def stringNumericLiteral (s : String) : Option NumericLiteral :=
  match (trim s).toList with
  | [] => some .blank
  | cs => (readDecimal cs).or (readInteger cs)

/-- The number that a literal denotes. -/
def NumericLiteral.value : NumericLiteral → Number
  | .blank => .finite 0
  | .infinity negative => .infinity negative
  | .decimal negative whole fraction exponent =>
    .round ((if negative then -1 else 1) * digitsValue 10 (whole ++ fraction) *
      10 ^ (exponent - fraction.length))
  | .integer base digits => .round (digitsValue base digits)

/-- `Number(s)` -/
def Number.ofString (s : String) : Number :=
  match stringNumericLiteral s with
  | some literal => literal.value
  | none => .nan

/-- A string is not a number if it is no literal. -/
theorem Number.isNaN_ofString (s : String) :
    (Number.ofString s).isNaN = (stringNumericLiteral s).isNone := by
  unfold Number.ofString
  cases stringNumericLiteral s with
  | none => rfl
  | some literal =>
    cases literal with
    | blank => rfl
    | infinity negative => rfl
    | decimal negative whole fraction exponent => exact Number.isNaN_round _
    | integer base digits => exact Number.isNaN_round _

/-! ### Strings of digits -/

theorem isDigitOf_ten (c : Char) : isDigitOf 10 c = c.isDigit := by
  rw [Bool.eq_iff_iff, Char.isDigit_iff_toNat]
  change _ ↔ 48 ≤ c.toNat ∧ c.toNat ≤ 57
  unfold isDigitOf digitValue
  split_ifs <;> simp <;> omega

theorem isWhiteSpace_of_isDigit {c : Char} (h : c.isDigit = true) : isWhiteSpace c = false := by
  have hdigit : 48 ≤ c.toNat ∧ c.toNat ≤ 57 := Char.isDigit_iff_toNat.1 h
  simp [isWhiteSpace]
  omega

theorem dropWhile_isWhiteSpace {cs : List Char} (h : cs.all Char.isDigit = true) :
    cs.dropWhile isWhiteSpace = cs := by
  cases cs with
  | nil => rfl
  | cons c cs =>
    rw [List.all_cons, Bool.and_eq_true] at h
    rw [List.dropWhile_cons, isWhiteSpace_of_isDigit h.1, if_neg (by decide)]

theorem trim_digits {s : String} (h : s.toList.all Char.isDigit = true) : trim s = s := by
  rw [trim, dropWhile_isWhiteSpace h, dropWhile_isWhiteSpace (by simpa using h),
    List.reverse_reverse, String.ofList_toList]

theorem readSign_digit {c : Char} (cs : List Char) (h : c.isDigit = true) :
    readSign (c :: cs) = (false, c :: cs) := by
  unfold readSign
  split
  · next heq =>
    cases heq
    cases h
  · next heq =>
    cases heq
    cases h
  · rfl

theorem span_digits {cs : List Char} (h : cs.all Char.isDigit = true) :
    cs.span (isDigitOf 10) = (cs, []) := by
  have hall : ∀ c ∈ cs, isDigitOf 10 c = true := by
    intro c hc
    rw [isDigitOf_ten]
    exact List.all_eq_true.1 h c hc
  rw [List.span_eq_takeWhile_dropWhile, List.takeWhile_eq_self_iff.2 hall,
    List.dropWhile_eq_nil_iff.2 hall]

theorem readDecimal_digits {cs : List Char} (hne : cs ≠ []) (h : cs.all Char.isDigit = true) :
    readDecimal cs = some (.decimal false cs [] 0) := by
  have hsign : readSign cs = (false, cs) := by
    cases cs with
    | nil => exact absurd rfl hne
    | cons c cs =>
      rw [List.all_cons, Bool.and_eq_true] at h
      exact readSign_digit cs h.1
  have hinfinity : cs ≠ "Infinity".toList := by
    intro heq
    rw [heq] at h
    exact absurd h (by decide)
  unfold readDecimal
  simp only [hsign, if_neg hinfinity, span_digits h, readFraction, List.append_nil, if_neg hne,
    readExponent, Option.map_some]

/-- **A string of digits** is the number it denotes, rounded. -/
theorem Number.ofString_digits {s : String} (hs : s ≠ "") (h : s.toList.all Char.isDigit = true) :
    Number.ofString s = Number.round (digitsValue 10 s.toList) := by
  have hne : s.toList ≠ [] := by
    rw [Ne, String.toList_eq_nil_iff]
    exact hs
  have hliteral : stringNumericLiteral s = some (.decimal false s.toList [] 0) := by
    unfold stringNumericLiteral
    rw [trim_digits h]
    split
    · next heq => exact absurd heq hne
    · rw [readDecimal_digits hne h, Option.some_or]
  simp [Number.ofString, hliteral, NumericLiteral.value]

example : Number.ofString " 0x1F " = .finite 31 := by decide +kernel

example : Number.ofString "9007199254740993" = .finite 9007199254740992 := by decide +kernel

end Js

end PolymeshRest
