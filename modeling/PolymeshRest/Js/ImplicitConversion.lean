import PolymeshRest.Js.Json

/-!
# Implicit conversion

What `class-transformer` makes of a decorated property without `@Type()`, by the type that the
property is declared with, under the option `enableImplicitConversion`.  A missing value and `null`
stay, and an array is taken item by item.

* `implicit` : the conversion of a value, by that of a single one.
* `Texts` : `String` of a value, which may throw for an object.
* `Texts.toText`, `toBoolean`, `toArray` : the conversions of properties that are declared as
  strings, as booleans and as arrays.
* `Texts.Documented` : the texts that numbers and objects may have.
* `eq_string_of_toText` : most texts are those of a text alone.
-/

namespace PolymeshRest

namespace Js

variable {C : Type*}

mutual

/-- An implicit conversion, which leaves `undefined` and `null` and takes an array item by item. -/
def implicit (convert : Data C → Option (Data C)) : Data C → Option (Data C)
  | .undefined => some .undefined
  | .null => some .null
  | .array items => (implicitAll convert items).map .array
  | value => convert value

def implicitAll (convert : Data C → Option (Data C)) : List (Data C) → Option (List (Data C))
  | [] => some []
  | item :: items => (implicit convert item).bind fun made =>
      (implicitAll convert items).map (made :: ·)

end

/-- `String(value)` of numbers and of objects. -/
structure Texts (C : Type*) where
  numberText : ℚ → String
  /-- It throws where there is none. -/
  objectText : List (String × Data C) → Option String

namespace Texts

variable (texts : Texts C)

/-- `String(value)`, for what is neither missing nor an array. -/
def text : Data C → Option String
  | .string s => some s
  | .bool b => some (if b then "true" else "false")
  | .number n => some (texts.numberText n)
  | .object _ fields => texts.objectText fields
  | _ => none

/-- The implicit conversion of a property of the type `string`. -/
def toText : Data C → Option (Data C) := implicit fun value => (texts.text value).map .string

end Texts

/-- The implicit conversion of a property of the type `boolean`. -/
def toBoolean : Data C → Option (Data C) := implicit fun value => some (.bool value.isTruthy)

/-- The implicit conversion of a property that is declared as an array: an object becomes one, with
the items that `arrayOf` tells. -/
def toArray (arrayOf : List (String × Data C) → Option (List (Data C))) :
    Data C → Option (Data C) :=
  implicit fun
    | .object _ fields => (arrayOf fields).map .array
    | value => some value

/-- A character of the notation of a number. -/
def isNumberChar (c : Char) : Bool := c.isDigit || c ∈ ['-', '+', '.', 'e']

/-- A number reads as its notation, and an object without a method `toString` of its own as
`"[object Object]"`. -/
structure Texts.Documented (texts : Texts C) : Prop where
  number : ∀ n, (texts.numberText n).toList.all isNumberChar = true
  object : ∀ fields text, texts.objectText fields = some text → text = "[object Object]"

/-- No number, boolean or object reads as the text. -/
def isOwnText (s : String) : Bool :=
  s ∉ ["true", "false", "[object Object]"] && s.toList.any fun c => !isNumberChar c

theorem isNumberChar_repr (n : ℤ) : n.repr.toList.all isNumberChar = true := by
  have hnat : ∀ n : ℕ, n.repr.toList.all isNumberChar = true := by
    intro n
    rw [Nat.toList_repr, List.all_eq_true]
    intro c hc
    rw [isNumberChar, Nat.isDigit_of_mem_toDigits (by decide) (by decide) hc, Bool.true_or]
  cases n with
  | ofNat n => exact hnat n
  | negSucc n =>
    have happend : (Int.negSucc n).repr = "-" ++ (n + 1).repr := rfl
    rw [happend, String.toList_append, List.all_append, hnat]
    decide

variable {texts : Texts C}

theorem toText_cases {value made : Data C} (h : texts.toText value = some made) :
    value.isNullish = true ∧ made = value ∨ (∃ items, made = .array items) ∨
      ∃ text, texts.text value = some text ∧ made = .string text := by
  cases value with
  | undefined | null => exact .inl ⟨rfl, (Option.some.inj h).symm⟩
  | array items =>
    obtain ⟨converted, -, hmade⟩ := Option.map_eq_some_iff.1 h
    exact .inr (.inl ⟨converted, hmade.symm⟩)
  | _ =>
    simp only [Texts.toText, implicit, Option.map_eq_some_iff] at h
    obtain ⟨text, htext, hmade⟩ := h
    exact .inr (.inr ⟨text, htext, hmade.symm⟩)

/-- **A text of its own** was a text before the conversion. -/
theorem eq_string_of_toText (hdocumented : texts.Documented) {value : Data C} {s : String}
    (hown : isOwnText s = true) (h : texts.toText value = some (.string s)) :
    value = .string s := by
  obtain ⟨hnullish, rfl⟩ | ⟨items, heq⟩ | ⟨text, htext, heq⟩ := toText_cases h
  · cases hnullish
  · cases heq
  · cases heq
    simp only [isOwnText, List.mem_cons, List.not_mem_nil, or_false, not_or, Bool.and_eq_true,
      decide_eq_true_eq, List.any_eq_true, Bool.not_eq_true'] at hown
    obtain ⟨⟨htrue, hfalse, hobject⟩, c, hc, hchar⟩ := hown
    cases value with
    | string text =>
      cases htext
      rfl
    | bool b =>
      cases b <;> cases htext
      · exact absurd rfl hfalse
      · exact absurd rfl htrue
    | number n =>
      cases htext
      rw [List.all_eq_true.1 (hdocumented.number n) c hc] at hchar
      cases hchar
    | object cls fields => exact absurd (hdocumented.object fields s htext) hobject
    | _ => cases htext

theorem eq_isTruthy_of_toBoolean {value : Data C} {b : Bool}
    (h : toBoolean value = some (.bool b)) : b = value.isTruthy := by
  cases value with
  | undefined | null => cases h
  | array items =>
    obtain ⟨converted, -, heq⟩ := Option.map_eq_some_iff.1 h
    cases heq
  | _ =>
    cases h
    rfl

end Js

end PolymeshRest
