import PolymeshRest.Common.Errors
import PolymeshRest.Js.Number

/-!
# Handles of the Fireblocks signer

A handle names a key by the path it is derived by.  It is meant to be one, two or three integers
with `-` between them; `FireblocksSigningService` splits it and leaves the pieces to `Number`,
which reads more than integers, and not all integers as they are.

* `handleToDerivationPath` : the method of the service.
* `integers` : the integers of a handle of the documented form.
* `Plain` : the handles that are read as they are meant to be.
* `parsed_iff_plain` : these and no others; and two of them with one path have the same integers.
-/

namespace PolymeshRest

namespace Fireblocks

open Js

/-- `determineBip44CoinType` -/
def determineBip44CoinType (ss58Format : ℕ) : ℕ := if ss58Format = 12 then 595 else 1

/-- What a refused handle is answered with. -/
def invalidHandle : AppError :=
  .validation "Fireblocks `signer` field should be 3 integers formatted like: `x-y-z`"

/-- `handleToDerivationPath` -/
def handleToDerivationPath (ss58Format : ℕ) (handle : String) : Except AppError (List Number) :=
  let sections := (split handle '-').map Number.ofString
  if sections.any Number.isNaN || 3 < sections.length || handle = "" then .error invalidHandle
  else
    .ok [.finite 44, .finite (determineBip44CoinType ss58Format), sections.headD .nan,
      .orZero sections[1]?, .orZero sections[2]?]

/-! ### The documented form -/

/-- A decimal literal of an integer. -/
def isInteger (text : String) : Bool := text ≠ "" && text.toList.all Char.isDigit

/-- The integer that a literal denotes. -/
def integerOf (text : String) : ℕ := digitsValue 10 text.toList

/-- The integers of a handle of the documented form. -/
def integers (handle : String) : Option (List ℕ) :=
  if (split handle '-').length ≤ 3 && (split handle '-').all isInteger then
    some ((split handle '-').map integerOf)
  else none

/-- Three integers, with zeros for the missing ones. -/
def padded (ns : List ℕ) : List ℕ := [ns.getD 0 0, ns.getD 1 0, ns.getD 2 0]

/-- The path for the integers of a handle. -/
def derivationPath (ss58Format : ℕ) (ns : List ℕ) : List Number :=
  .finite 44 :: .finite (determineBip44CoinType ss58Format) ::
    (padded ns).map fun n : ℕ => .finite n

/-- A handle is accepted if it is of the documented form, and with the path of its integers. -/
def Parsed (ss58Format : ℕ) (handle : String) : Prop :=
  ((∃ path, handleToDerivationPath ss58Format handle = .ok path) ↔ (integers handle).isSome) ∧
    ∀ ns, integers handle = some ns →
      handleToDerivationPath ss58Format handle = .ok (derivationPath ss58Format ns)

/-- Up to three pieces that are all numbers for `Number` are integers, and ones that are doubles. -/
def Plain (handle : String) : Prop :=
  handle ≠ "" → (split handle '-').length ≤ 3 →
    (∀ piece ∈ split handle '-', (stringNumericLiteral piece).isSome) →
      ∀ piece ∈ split handle '-', isInteger piece ∧ Number.IsDouble (integerOf piece)

variable {ss58Format : ℕ} {handle : String}

/-! ### Pieces -/

theorem split_ne_nil (handle : String) (sep : Char) : split handle sep ≠ [] := by
  rw [split, Ne, List.map_eq_nil_iff]
  exact List.splitOn_ne_nil _ _

theorem ofString_of_isInteger {piece : String} (h : isInteger piece = true) :
    Number.ofString piece = .round (integerOf piece) := by
  simp only [isInteger, Bool.and_eq_true, decide_eq_true_eq] at h
  exact Number.ofString_digits h.1 h.2

theorem isSome_of_isInteger {piece : String} (h : isInteger piece = true) :
    (stringNumericLiteral piece).isSome = true := by
  have hnan := Number.isNaN_ofString piece
  rw [ofString_of_isInteger h, Number.isNaN_round] at hnan
  simpa [Option.isSome_iff_ne_none] using hnan.symm

theorem integers_eq_some_iff {ns : List ℕ} :
    integers handle = some ns ↔
      ((split handle '-').length ≤ 3 ∧ ∀ piece ∈ split handle '-', isInteger piece = true) ∧
        (split handle '-').map integerOf = ns := by
  simp [integers]

theorem sections_of_integers {ns : List ℕ} (h : integers handle = some ns) :
    (split handle '-').map Number.ofString = ns.map fun n : ℕ => Number.round n := by
  obtain ⟨⟨-, hall⟩, rfl⟩ := integers_eq_some_iff.1 h
  rw [List.map_map]
  exact List.map_congr_left fun piece hpiece => ofString_of_isInteger (hall piece hpiece)

/-! ### Acceptance -/

/-- A handle is accepted if it is up to three pieces that are numbers for `Number`. -/
theorem accepts_iff :
    (∃ path, handleToDerivationPath ss58Format handle = .ok path) ↔
      handle ≠ "" ∧ (split handle '-').length ≤ 3 ∧
        ∀ piece ∈ split handle '-', (stringNumericLiteral piece).isSome = true := by
  have hnumbers : ((split handle '-').map Number.ofString).any Number.isNaN = false ↔
      ∀ piece ∈ split handle '-', (stringNumericLiteral piece).isSome = true := by
    simp [Number.isNaN_ofString, Option.isSome_iff_ne_none]
  rw [← hnumbers]
  unfold handleToDerivationPath
  dsimp only
  rw [List.length_map]
  cases ((split handle '-').map Number.ofString).any Number.isNaN with
  | true => simp
  | false =>
    split_ifs with h
    · simp only [exists_false, and_true, false_iff, not_and, not_le]
      simpa [or_comm, or_iff_not_imp_left] using h
    · simp at h
      simp [h]

theorem ne_empty_of_integers {ns : List ℕ} (h : integers handle = some ns) : handle ≠ "" := by
  rintro rfl
  cases h

/-- A handle of the documented form is accepted. -/
theorem path_of_integers {ns : List ℕ} (h : integers handle = some ns) :
    handleToDerivationPath ss58Format handle =
      .ok [.finite 44, .finite (determineBip44CoinType ss58Format),
        (ns.map fun n : ℕ => Number.round n).headD .nan,
        .orZero (ns.map fun n : ℕ => Number.round n)[1]?,
        .orZero (ns.map fun n : ℕ => Number.round n)[2]?] := by
  have hlength : ns.length ≤ 3 := by
    obtain ⟨⟨hlength, -⟩, rfl⟩ := integers_eq_some_iff.1 h
    rwa [List.length_map]
  unfold handleToDerivationPath
  simp only [sections_of_integers h]
  rw [if_neg]
  simpa [Number.isNaN_round, ne_empty_of_integers h] using hlength

/-- Rounding leaves a part of the path as it is. -/
theorem orZero_round_eq_iff (ns : List ℕ) (i : ℕ) :
    Number.orZero (ns.map fun n : ℕ => Number.round n)[i]? = .finite (ns.getD i 0 : ℕ) ↔
      ∀ n, ns[i]? = some n → Number.IsDouble n := by
  rw [List.getElem?_map, List.getD_eq_getElem?_getD]
  cases hi : ns[i]? with
  | none => simp [Number.orZero]
  | some n =>
    rw [Option.map_some, Number.orZero_of_not_nan (Number.isNaN_round n), Option.getD_some,
      Number.round_natCast_eq_iff]
    simp

/-- A handle of the documented form has the path of its integers if they are all doubles. -/
theorem path_eq_iff {ns : List ℕ} (h : integers handle = some ns) :
    handleToDerivationPath ss58Format handle = .ok (derivationPath ss58Format ns) ↔
      ∀ n ∈ ns, Number.IsDouble n := by
  obtain ⟨⟨hlength, -⟩, hns⟩ := integers_eq_some_iff.1 h
  have hlength : ns.length ≤ 3 := by rwa [← hns, List.length_map]
  have hne : ns ≠ [] := by
    rw [← hns, Ne, List.map_eq_nil_iff]
    exact split_ne_nil handle '-'
  have hhead : (ns.map fun n : ℕ => Number.round n).headD .nan = .finite (ns.getD 0 0 : ℕ) ↔
      ∀ n, ns[0]? = some n → Number.IsDouble n := by
    obtain ⟨n, ns, rfl⟩ := List.exists_cons_of_ne_nil hne
    simp [Number.round_natCast_eq_iff]
  rw [path_of_integers h, derivationPath, padded]
  simp only [List.map_cons, List.map_nil, Except.ok.injEq, List.cons.injEq, true_and, and_true]
  rw [hhead, orZero_round_eq_iff, orZero_round_eq_iff]
  constructor
  · rintro ⟨h0, h1, h2⟩ n hn
    obtain ⟨i, hi⟩ := List.mem_iff_getElem?.1 hn
    obtain ⟨hlt, -⟩ := List.getElem?_eq_some_iff.1 hi
    obtain rfl | rfl | rfl : i = 0 ∨ i = 1 ∨ i = 2 := by omega
    · exact h0 n hi
    · exact h1 n hi
    · exact h2 n hi
  · intro hall
    exact ⟨fun n hi => hall n (List.mem_of_getElem? hi),
      fun n hi => hall n (List.mem_of_getElem? hi),
      fun n hi => hall n (List.mem_of_getElem? hi)⟩

/-! ### Handles that are read as they are meant -/

theorem parsed_of_plain (h : Plain handle) : Parsed ss58Format handle := by
  refine ⟨⟨?_, ?_⟩, ?_⟩
  · intro haccepts
    obtain ⟨hne, hlength, hliterals⟩ := accepts_iff.1 haccepts
    have hall := h hne hlength hliterals
    rw [integers_eq_some_iff.2 ⟨⟨hlength, fun piece hpiece => (hall piece hpiece).1⟩, rfl⟩]
    rfl
  · intro hsome
    obtain ⟨ns, hns⟩ := Option.isSome_iff_exists.1 hsome
    exact ⟨_, path_of_integers hns⟩
  · intro ns hns
    rw [path_eq_iff hns]
    obtain ⟨⟨hlength, hintegers⟩, rfl⟩ := integers_eq_some_iff.1 hns
    have hall := h (ne_empty_of_integers hns) hlength fun piece hpiece =>
      isSome_of_isInteger (hintegers piece hpiece)
    intro n hn
    obtain ⟨piece, hpiece, rfl⟩ := List.mem_map.1 hn
    exact (hall piece hpiece).2

theorem plain_of_parsed (h : Parsed ss58Format handle) : Plain handle := by
  intro hne hlength hliterals piece hpiece
  obtain ⟨ns, hns⟩ := Option.isSome_iff_exists.1 (h.1.1 (accepts_iff.2 ⟨hne, hlength, hliterals⟩))
  have hdoubles := (path_eq_iff hns).1 (h.2 ns hns)
  obtain ⟨⟨-, hintegers⟩, rfl⟩ := integers_eq_some_iff.1 hns
  exact ⟨hintegers piece hpiece, hdoubles _ (List.mem_map_of_mem hpiece)⟩

theorem padded_of_derivationPath {ms ns : List ℕ}
    (h : derivationPath ss58Format ms = derivationPath ss58Format ns) : padded ms = padded ns := by
  have hinj : Function.Injective fun n : ℕ => Number.finite n := by
    intro m n hmn
    exact_mod_cast Number.finite.inj hmn
  rw [derivationPath, derivationPath, List.cons.injEq, List.cons.injEq] at h
  exact hinj.list_map h.2.2

/-- **Handles of the documented form** and no others are accepted, with the path of their integers,
if no piece is another number for `Number` and no integer is rounded; then two accepted handles
with one path have the same integers, padded with zeros. -/
theorem parsed_iff_plain (ss58Format : ℕ) :
    (∀ handle, Parsed ss58Format handle ↔ Plain handle) ∧
      ∀ handle other path, Plain handle → Plain other →
        handleToDerivationPath ss58Format handle = .ok path →
          handleToDerivationPath ss58Format other = .ok path →
            ∃ ms ns, integers handle = some ms ∧ integers other = some ns ∧
              padded ms = padded ns := by
  refine ⟨fun handle => ⟨plain_of_parsed, parsed_of_plain⟩, ?_⟩
  intro handle other path hplain hplain' hpath hpath'
  have hparsed : Parsed ss58Format handle := parsed_of_plain hplain
  have hparsed' : Parsed ss58Format other := parsed_of_plain hplain'
  obtain ⟨ms, hms⟩ := Option.isSome_iff_exists.1 (hparsed.1.1 ⟨path, hpath⟩)
  obtain ⟨ns, hns⟩ := Option.isSome_iff_exists.1 (hparsed'.1.1 ⟨path, hpath'⟩)
  rw [hparsed.2 ms hms, Except.ok.injEq] at hpath
  rw [hparsed'.2 ns hns, Except.ok.injEq] at hpath'
  exact ⟨ms, ns, hms, hns, padded_of_derivationPath (hpath.trans hpath'.symm)⟩

/-- An empty piece is the number zero. -/
theorem not_parsed_of_empty_piece : ¬Parsed 42 "1-" := by
  intro h
  have hsome := h.1.1 ⟨[.finite 44, .finite 1, .finite 1, .finite 0, .finite 0], by decide +kernel⟩
  exact absurd hsome (by decide)

end Fireblocks

end PolymeshRest
