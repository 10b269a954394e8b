import PolymeshRest.Common.Decorators

/-!
# Scopes of claims

The scope of a claim has a type and a value, and `IsValidScopeValue` checks the value for the type.
For an identity the value should be a DID, which `IsDid` checks elsewhere with tests of its own.
The scope is checked by predicates of `class-validator`, and these are parameters here.

* `isValidScopeValue` : the check of a value.
* `Documented` : what `class-validator` promises of the predicates.
* `Overlong` : hexadecimal digits after `0x`, more than a DID has.
* `identity_agrees_iff` : the two checks agree on all other values.
-/

namespace PolymeshRest

namespace Scopes

open Js

/-- A value of `ScopeType`, or anything else. -/
inductive ScopeType where
  | identity
  | asset
  | custom
  | other
  deriving DecidableEq, Repr

/-- The predicates of `class-validator`; a regular expression is given by what it matches. -/
structure Validators (C : Type*) where
  isHexadecimal : Data C → Bool
  matchesPattern : Data C → (String → Bool) → Bool
  length : Data C → ℕ → Option ℕ → Bool

/-- The characters that `.` does not match. -/
def isLineTerminator (c : Char) : Bool := [0x0A, 0x0D, 0x2028, 0x2029].contains c.toNat

/-- `/^0x.+/` -/
def hasPrefix (s : String) : Bool :=
  match s.toList with
  | '0' :: 'x' :: c :: _ => !isLineTerminator c
  | _ => false

variable {C : Type*} (validators : Validators C) (isAsset : Data C → Bool)

/-- `validate` of `IsValidScopeValue`, for the type of the scope; `isAsset` is the check that
`@IsAsset()` makes, `isAssetId(value) || isTicker(value)`. -/
def isValidScopeValue (scopeType : ScopeType) (value : Data C) : Bool :=
  match scopeType with
  | .asset => Common.isString value && isAsset value
  | .identity =>
    validators.isHexadecimal value && Common.isString value &&
      validators.matchesPattern value hasPrefix && validators.length value didLength none
  | .custom => false
  | .other => true

/-! ### What the predicates are for -/

/-- What is promised of the predicates: hexadecimal digits may have `0x` in front of them, and the
length of a text is the number of its characters, where they are ASCII. -/
structure Documented : Prop where
  isHexadecimal : ∀ digits : String, validators.isHexadecimal (.string ("0x" ++ digits)) = true ↔
    digits ≠ "" ∧ digits.toList.all isHexDigit = true
  matchesPattern : ∀ s pattern, validators.matchesPattern (.string s) pattern = pattern s
  length : ∀ s : String, (∀ c ∈ s.toList, c.toNat < 128) → ∀ min max,
    validators.length (.string s) min max = true ↔ min ≤ s.length ∧ ∀ m ∈ max, s.length ≤ m

/-- The text is `0x` and these digits. -/
structure Prefixed (s digits : String) : Prop where
  eq : s = "0x" ++ digits
  isHex : digits.toList.all isHexDigit = true

/-- Hexadecimal digits after `0x`, and more than a DID has. -/
def Overlong (value : Data C) : Prop :=
  ∃ s digits, value = .string s ∧ Prefixed s digits ∧ didLength < s.length

/-! ### Texts of digits -/

theorem Prefixed.toList {s digits : String} (h : Prefixed s digits) :
    s.toList = '0' :: 'x' :: digits.toList := by
  rw [h.eq, String.toList_append]
  rfl

theorem Prefixed.length {s digits : String} (h : Prefixed s digits) :
    s.length = digits.length + 2 := by
  rw [← String.length_toList, h.toList, ← String.length_toList]
  rfl

theorem toNat_of_isHexDigit {c : Char} (h : isHexDigit c = true) :
    48 ≤ c.toNat ∧ c.toNat ≤ 102 := by
  simp only [isHexDigit, Char.isDigit, Bool.or_eq_true, Bool.and_eq_true, decide_eq_true_eq,
    Char.le_def, UInt32.le_iff_toNat_le, ge_iff_le] at h
  unfold Char.toNat
  rcases h with (⟨hlow, hhigh⟩ | ⟨hlow, hhigh⟩) | ⟨hlow, hhigh⟩
  · change 48 ≤ c.val.toNat at hlow
    change c.val.toNat ≤ 57 at hhigh
    omega
  · change 97 ≤ c.val.toNat at hlow
    change c.val.toNat ≤ 102 at hhigh
    omega
  · change 65 ≤ c.val.toNat at hlow
    change c.val.toNat ≤ 70 at hhigh
    omega

theorem not_isLineTerminator_of_isHexDigit {c : Char} (h : isHexDigit c = true) :
    isLineTerminator c = false := by
  obtain ⟨hlow, hhigh⟩ := toNat_of_isHexDigit h
  simp only [isLineTerminator, List.contains_eq_mem, List.mem_cons, List.not_mem_nil, or_false,
    decide_eq_false_iff_not]
  omega

theorem Prefixed.isAscii {s digits : String} (h : Prefixed s digits) :
    ∀ c ∈ s.toList, c.toNat < 128 := by
  intro c hc
  rw [h.toList, List.mem_cons, List.mem_cons] at hc
  rcases hc with rfl | rfl | hc
  · decide
  · decide
  · have hrange := toNat_of_isHexDigit (List.all_eq_true.1 h.isHex c hc)
    omega

theorem eq_append_of_toList {s : String} {cs : List Char} (h : s.toList = '0' :: 'x' :: cs) :
    s = "0x" ++ String.ofList cs := by
  refine String.toList_inj.1 ?_
  simp [h]

theorem Prefixed.ne_nil {s digits : String} (h : Prefixed s digits)
    (hlength : didLength ≤ s.length) : digits.toList ≠ [] := by
  intro hnil
  have hzero : digits.length = 0 := by rw [← String.length_toList, hnil]; rfl
  rw [h.length, hzero] at hlength
  exact absurd hlength (by decide)

/-! ### The two checks -/

/-- What `IsDid` accepts has the length of a DID. -/
theorem isDidText_iff {s : String} :
    isDidText s = true ↔ ∃ digits, Prefixed s digits ∧ s.length = didLength := by
  constructor
  · intro h
    unfold isDidText at h
    split at h
    · rename_i hexValue heq
      simp only [Bool.and_eq_true, decide_eq_true_eq] at h
      refine ⟨String.ofList hexValue, ⟨eq_append_of_toList heq, ?_⟩, h.1.1⟩
      rw [String.toList_ofList, h.2]
    · cases h
  · rintro ⟨digits, hprefixed, hlength⟩
    have hne := hprefixed.ne_nil hlength.ge
    simp [isDidText, hprefixed.toList, hlength, hne, hprefixed.isHex]

/-- What the check of a scope accepts has the length of a DID or more. -/
theorem identity_iff (hdocumented : Documented validators) {s : String} :
    isValidScopeValue validators isAsset .identity (.string s) = true ↔
      ∃ digits, Prefixed s digits ∧ didLength ≤ s.length := by
  simp only [isValidScopeValue, Common.isString, Bool.and_true, Bool.and_eq_true,
    hdocumented.matchesPattern]
  constructor
  · rintro ⟨⟨hhex, hpattern⟩, hlength⟩
    -- the pattern tells the prefix, and with it what is hexadecimal are the digits
    unfold hasPrefix at hpattern
    split at hpattern
    · rename_i c cs heq
      have hs := eq_append_of_toList heq
      have hdigits := hhex
      rw [hs, hdocumented.isHexadecimal] at hdigits
      have hprefixed : Prefixed s (String.ofList (c :: cs)) := ⟨hs, hdigits.2⟩
      exact ⟨_, hprefixed, ((hdocumented.length s hprefixed.isAscii _ _).1 hlength).1⟩
    · cases hpattern
  · rintro ⟨digits, hprefixed, hlength⟩
    obtain ⟨c, cs, hdigits⟩ := List.exists_cons_of_ne_nil (hprefixed.ne_nil hlength)
    refine ⟨⟨?_, ?_⟩, ?_⟩
    · rw [hprefixed.eq, hdocumented.isHexadecimal]
      refine ⟨?_, hprefixed.isHex⟩
      rintro rfl
      cases hdigits
    · have hc : isHexDigit c = true := List.all_eq_true.1 hprefixed.isHex c (by simp [hdigits])
      simp [hasPrefix, hprefixed.toList, hdigits, not_isLineTerminator_of_isHexDigit hc]
    · exact (hdocumented.length s hprefixed.isAscii _ _).2 ⟨hlength, by simp⟩

/-- **The two checks of a DID agree** on a value unless it has more digits than a DID, since the
check of a scope has no upper bound for the length. -/
theorem identity_agrees_iff (hdocumented : Documented validators) (value : Data C) :
    (isValidScopeValue validators isAsset .identity value = true ↔ Common.isDid value = true) ↔
      ¬Overlong value := by
  cases value with
  | string s =>
    rw [identity_iff validators isAsset hdocumented, Common.isDid, isDidText_iff]
    constructor
    · rintro h ⟨_, digits, heq, hprefixed, hlong⟩
      cases heq
      obtain ⟨-, -, hlength⟩ := h.1 ⟨digits, hprefixed, hlong.le⟩
      omega
    · intro h
      refine exists_congr fun digits => and_congr_right fun hprefixed => ?_
      have hshort : ¬didLength < s.length := fun hlong => h ⟨s, digits, rfl, hprefixed, hlong⟩
      omega
  | _ =>
    refine iff_of_true (iff_of_false ?_ Bool.false_ne_true) ?_
    · simp [isValidScopeValue, Common.isString]
    · rintro ⟨_, _, heq, -⟩
      cases heq

/-! ### The predicates at work -/

/-- The digits of a text, after `0x` or `0h`. -/
def afterPrefix : List Char → List Char
  | '0' :: c :: cs => if c ∈ ['x', 'X', 'h', 'H'] then cs else '0' :: c :: cs
  | cs => cs

/-- The characters that `length` does not count. -/
def isPresentationSelector (c : Char) : Bool := [0xFE0E, 0xFE0F].contains c.toNat

/-- Predicates as `class-validator` has them. -/
def stringPredicates : Validators C where
  isHexadecimal
    | .string s => afterPrefix s.toList ≠ [] && (afterPrefix s.toList).all isHexDigit
    | _ => false
  matchesPattern
    | .string s, pattern => pattern s
    | _, _ => false
  length
    | .string s, min, max =>
      let len := (s.toList.filter fun c => !isPresentationSelector c).length
      min ≤ len && max.all fun m => len ≤ m
    | _, _, _ => false

theorem documented_stringPredicates : Documented (stringPredicates : Validators C) where
  isHexadecimal digits := by
    simp [stringPredicates, afterPrefix]
  matchesPattern s pattern := rfl
  length s hascii min max := by
    have hfilter : (s.toList.filter fun c => !isPresentationSelector c) = s.toList := by
      refine List.filter_eq_self.2 fun c hc => ?_
      have hc := hascii c hc
      simp only [isPresentationSelector, List.contains_eq_mem, List.mem_cons, List.not_mem_nil,
        or_false, Bool.not_eq_true', decide_eq_false_iff_not]
      omega
    rw [← String.length_toList]
    simp [stringPredicates, hfilter, Option.all_eq_true]

/-- A DID, which both checks accept. -/
theorem identity_agrees_did :
    isValidScopeValue stringPredicates (fun _ => false) .identity
        (.string "0x0600000000000000000000000000000000000000000000000000000000000000" : Data Unit) =
          true ↔
      Common.isDid
        (.string "0x0600000000000000000000000000000000000000000000000000000000000000" : Data Unit) =
          true := by
  refine (identity_agrees_iff stringPredicates (fun _ => false) documented_stringPredicates _).2 ?_
  rintro ⟨_, digits, heq, -, hlong⟩
  cases heq
  exact absurd hlong (by decide)

/-- One digit more, which the check of a scope accepts as well. -/
theorem not_identity_agrees :
    ¬(isValidScopeValue stringPredicates (fun _ => false) .identity
          (.string "0x06000000000000000000000000000000000000000000000000000000000000000" :
            Data Unit) = true ↔
        Common.isDid
          (.string "0x06000000000000000000000000000000000000000000000000000000000000000" :
            Data Unit) = true) := by
  decide +kernel

end Scopes

end PolymeshRest
