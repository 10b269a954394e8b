import PolymeshRest.Js.Number
import PolymeshRest.Js.Record
import PolymeshRest.Js.Rejection

/-!
# Entities and the frames of their updates

An entity is an object with a number, its `id`, and fields `F` with values `V f`.  A partial object
updates the one that is stored under a number.  The *frame* of an update is what it has to leave
alone: all the other entities, and of this one the number and the fields of `frame`.

* `Entity`, `Patch` : objects and partial objects; `Patch.spread` makes an object of both.
* `Frame` : what a step from one store to another leaves alone.
* `Js.Record.frame_update_iff` : when an update of an object in memory leaves its frame alone.
* `Rows.frame_updated_iff` : the same for a statement of the database.
-/

namespace PolymeshRest

open Js

variable {F : Type} {V : F → Type}

/-- An object with an `id` and the fields `F`, some of which can be missing. -/
structure Entity (V : F → Type) where
  id : Option Number
  field : ∀ f, Option (V f)

/-- An object without properties. -/
def Entity.empty : Entity V := ⟨none, fun _ => none⟩

/-- A partial object. -/
structure Patch (V : F → Type) where
  id : Given Number := .missing
  field : ∀ f, Given (V f) := fun _ => .missing

/-! ### Frames -/

variable {frame : F → Prop}

/-- The number and the fields of `frame` are the same. -/
structure Entity.SameFrame (frame : F → Prop) (old new : Entity V) : Prop where
  id : new.id = old.id
  field : ∀ f, frame f → new.field f = old.field f

namespace Entity.SameFrame

variable {a b c : Entity V}

theorem refl (a : Entity V) : a.SameFrame frame a := ⟨rfl, fun _ _ => rfl⟩

theorem trans (h : a.SameFrame frame b) (h' : b.SameFrame frame c) : a.SameFrame frame c where
  id := h'.id.trans h.id
  field f hf := (h'.field f hf).trans (h.field f hf)

end Entity.SameFrame

/-- From a store that looks like `before` to one that looks like `after`, at most the entities that
are `named` have changed, and of these the frames have not. -/
structure Frame {ι : Type} (frame : F → Prop) (named : ι → Prop)
    (before after : ι → Option (Entity V)) : Prop where
  others : ∀ i, ¬ named i → after i = before i
  named : ∀ i old, named i → before i = some old →
    ∃ new, after i = some new ∧ old.SameFrame frame new

namespace Frame

variable {ι : Type} {named : ι → Prop} {before after : ι → Option (Entity V)}

theorem refl (named : ι → Prop) (look : ι → Option (Entity V)) : Frame frame named look look where
  others _ _ := rfl
  named _ old _ hold := ⟨old, hold, .refl old⟩

theorem exists_sameFrame (h : Frame frame named before after) {i : ι} {old : Entity V}
    (hold : before i = some old) : ∃ new, after i = some new ∧ old.SameFrame frame new := by
  by_cases hi : named i
  · exact h.named i old hi hold
  · exact ⟨old, (h.others i hi).trans hold, .refl old⟩

end Frame

/-! ### Objects in memory -/

namespace Patch

variable {patch : Patch V} {old : Entity V}

/-- `{ ...old, ...patch }` -/
def spread (patch : Patch V) (old : Entity V) : Entity V where
  id := patch.id.spread old.id
  field f := (patch.field f).spread (old.field f)

/-- The patch has nothing else for the frame of the object than what is there. -/
structure Keeps (frame : F → Prop) (patch : Patch V) (old : Entity V) : Prop where
  id : patch.id.Keeps old.id
  field : ∀ f, frame f → (patch.field f).Keeps (old.field f)

theorem sameFrame_spread_iff : old.SameFrame frame (patch.spread old) ↔ patch.Keeps frame old := by
  constructor
  · intro h
    exact ⟨Given.spread_eq_self_iff.1 h.id, fun f hf => Given.spread_eq_self_iff.1 (h.field f hf)⟩
  · intro h
    exact ⟨Given.spread_eq_self_iff.2 h.id, fun f hf => Given.spread_eq_self_iff.2 (h.field f hf)⟩

end Patch

namespace Js.Record

variable {objects : Record Number (Entity V)} {id : Number} {patch : Patch V}

/-- `objects[id] = { ...objects[id], ...patch }`, where spreading `undefined` gives nothing.  The
name of a property that is a number is its notation, which no other number has. -/
def update (objects : Record Number (Entity V)) (id : Number) (patch : Patch V) :
    Record Number (Entity V) :=
  objects.set id (patch.spread ((objects.get id).getD .empty))

/-- **An update in memory** leaves its frame alone exactly if, where an object is stored, the patch
has nothing else for it. -/
theorem frame_update_iff : Frame frame (· = id) objects.get (objects.update id patch).get ↔
    ∀ old, objects.get id = some old → patch.Keeps frame old := by
  constructor
  · intro h old hold
    obtain ⟨new, hnew, hsame⟩ := h.named id old rfl hold
    rw [update, Record.get_set, if_pos rfl, hold, Option.getD_some, Option.some_inj] at hnew
    subst hnew
    exact Patch.sameFrame_spread_iff.1 hsame
  · intro h
    refine ⟨fun i hi => Record.get_set_of_ne hi, ?_⟩
    rintro i old rfl hold
    refine ⟨patch.spread old, ?_, Patch.sameFrame_spread_iff.2 (h old hold)⟩
    rw [update, Record.get_set, if_pos rfl, hold, Option.getD_some]

end Js.Record

/-! ### Rows of a table -/

/-- The columns of a table, with the errors `E` of the database and of what writes its
statements. -/
structure Columns (V : F → Type) (E : Type) where
  /-- The number of a row, as it is given. -/
  row : Number → Except E ℤ
  /-- What is wrong with the values of a statement. -/
  refuses : Patch V → Option E

/-- A table, by the numbers of its rows. -/
abbrev Rows (V : F → Type) := ℤ → Option (∀ f, V f)

/-- A row as an object. -/
def Rows.entity (k : ℤ) (row : ∀ f, V f) : Entity V := ⟨some (.finite k), fun f => some (row f)⟩

/-- The table, as objects. -/
def Rows.look (rows : Rows V) (k : ℤ) : Option (Entity V) := (rows k).map (Rows.entity k)

/-- Why a statement fails. -/
inductive Violation (E : Type) where
  | refused (error : E)
  | duplicateKey

/-- The row with the values of the patch that are not `undefined`. -/
def Patch.assign (patch : Patch V) (row : ∀ f, V f) : ∀ f, V f := fun f =>
  (patch.field f).assign (row f)

/-- The patch has no other values for the frame of a row than those that are there. -/
def Patch.Agrees (frame : F → Prop) (patch : Patch V) (row : ∀ f, V f) : Prop :=
  ∀ f, frame f → (patch.field f).Agrees (row f)

namespace Columns

variable {E : Type} (columns : Columns V E)

/-- The number that a statement gives to row `k`. -/
def newRow (k : ℤ) (patch : Patch V) : Except E ℤ :=
  match columns.refuses patch, patch.id with
  | some error, _ => .error error
  | none, .value id => columns.row id
  | none, _ => .ok k

/-- The row that a statement is for, and the number that it gives to this row. -/
def reads (id : Number) (patch : Patch V) : Except E (ℤ × ℤ) := do
  let k ← columns.row id
  let j ← columns.newRow k patch
  return (k, j)

variable {columns}

theorem row_of_reads {id : Number} {patch : Patch V} {k j : ℤ}
    (h : columns.reads id patch = .ok (k, j)) : columns.row id = .ok k := by
  obtain ⟨i, hi, h⟩ := bind_eq_ok_iff.1 h
  obtain ⟨_, -, h⟩ := bind_eq_ok_iff.1 h
  cases h
  exact hi

theorem reads_of_missing {id : Number} {patch : Patch V} {k : ℤ} (hid : columns.row id = .ok k)
    (hvalues : columns.refuses patch = none) (hmissing : patch.id = .missing) :
    columns.reads id patch = .ok (k, k) := by
  have hnew : columns.newRow k patch = .ok k := by rw [newRow, hvalues, hmissing]
  exact bind_eq_ok_iff.2 ⟨k, hid, bind_eq_ok_iff.2 ⟨k, hnew, rfl⟩⟩

end Columns

namespace Rows

variable {E : Type} {columns : Columns V E} {rows : Rows V} {id : Number} {patch : Patch V}
  {k j : ℤ} {row : ∀ f, V f}

/-- `UPDATE ... SET ... WHERE id = ...`; no two rows have the same number. -/
def update (columns : Columns V E) (rows : Rows V) (id : Number) (patch : Patch V) :
    Except (Violation E) (Rows V) :=
  match columns.reads id patch with
  | .error error => .error (.refused error)
  | .ok (k, j) =>
    match rows k with
    | none => .ok rows
    | some row =>
      if j ≠ k ∧ (rows j).isSome = true then .error .duplicateKey
      else .ok (Function.update (Function.update rows k none) j (some (patch.assign row)))

/-- The table after a statement; one that fails leaves it as it was. -/
def updated (columns : Columns V E) (rows : Rows V) (id : Number) (patch : Patch V) : Rows V :=
  match rows.update columns id patch with
  | .error _ => rows
  | .ok rows => rows

theorem updated_of_error {error : E} (h : columns.reads id patch = .error error) :
    rows.updated columns id patch = rows := by
  rw [updated, update, h]

theorem updated_of_none (h : columns.reads id patch = .ok (k, j)) (hk : rows k = none) :
    rows.updated columns id patch = rows := by
  simp only [updated, update, h, hk]

theorem updated_of_same (h : columns.reads id patch = .ok (k, k)) (hk : rows k = some row) :
    rows.updated columns id patch = Function.update rows k (some (patch.assign row)) := by
  simp only [updated, update, h, hk, ne_eq, not_true_eq_false, false_and, if_false,
    Function.update_idem]

theorem updated_of_taken (h : columns.reads id patch = .ok (k, j)) (hk : rows k = some row)
    (hne : j ≠ k) (hj : (rows j).isSome = true) : rows.updated columns id patch = rows := by
  simp only [updated, update, h, hk, if_pos (And.intro hne hj)]

theorem updated_of_free (h : columns.reads id patch = .ok (k, j)) (hk : rows k = some row)
    (hj : (rows j).isSome = false) : rows.updated columns id patch =
      Function.update (Function.update rows k none) j (some (patch.assign row)) := by
  simp only [updated, update, h, hk, hj, Bool.false_eq_true, and_false, if_false]

/-- What a statement that is carried out may say: it leaves the number of the row as it is, and has
no other values for the frame of the row.  A new number that another row has makes it fail. -/
def Harmless (frame : F → Prop) (columns : Columns V E) (rows : Rows V) (id : Number)
    (patch : Patch V) : Prop :=
  ∀ k j row, columns.reads id patch = .ok (k, j) → rows k = some row →
    if j = k then patch.Agrees frame row else (rows j).isSome = true

theorem sameFrame_assign_iff : (entity k row).SameFrame frame (entity k (patch.assign row)) ↔
    patch.Agrees frame row := by
  constructor
  · intro h f hf
    exact Given.assign_eq_self_iff.1 (Option.some.inj (h.field f hf))
  · intro h
    exact ⟨rfl, fun f hf => congrArg some (Given.assign_eq_self_iff.2 (h f hf))⟩

/-- A row that is rewritten under its number. -/
theorem frame_rewrite_iff (hk : rows k = some row) : Frame frame (· = k) rows.look
    (look (Function.update rows k (some (patch.assign row)))) ↔ patch.Agrees frame row := by
  have hold : rows.look k = some (entity k row) := by rw [look, hk, Option.map_some]
  have hnew : look (Function.update rows k (some (patch.assign row))) k =
      some (entity k (patch.assign row)) := by
    rw [look, Function.update_self, Option.map_some]
  constructor
  · intro h
    obtain ⟨new, hget, hsame⟩ := h.named k _ rfl hold
    rw [hnew, Option.some_inj] at hget
    subst hget
    exact sameFrame_assign_iff.1 hsame
  · intro h
    refine ⟨fun i hi => ?_, ?_⟩
    · rw [look, look, Function.update_of_ne hi]
    · rintro i old rfl hget
      rw [hold, Option.some_inj] at hget
      subst hget
      exact ⟨_, hnew, sameFrame_assign_iff.2 h⟩

/-- A row that moves to another number is missed under its own. -/
theorem not_frame_move {new : ∀ f, V f} (hk : rows k = some row) (hne : j ≠ k) :
    ¬ Frame frame (· = k) rows.look
      (look (Function.update (Function.update rows k none) j (some new))) := by
  intro h
  have hold : rows.look k = some (entity k row) := by rw [look, hk, Option.map_some]
  obtain ⟨_, hget, -⟩ := h.named k _ rfl hold
  rw [look, Function.update_of_ne (Ne.symm hne), Function.update_self] at hget
  cases hget

/-- **A statement of the database** leaves its frame alone exactly if it is harmless. -/
theorem frame_updated_iff : Frame frame (fun k => columns.row id = .ok k) rows.look
    (look (rows.updated columns id patch)) ↔ rows.Harmless frame columns id patch := by
  cases hreads : columns.reads id patch with
  | error error =>
    rw [updated_of_error hreads]
    refine iff_of_true (.refl _ _) fun k j row h => ?_
    rw [hreads] at h
    cases h
  | ok read =>
    obtain ⟨k, j⟩ := read
    -- the statement is for row `k` alone
    have hnamed : (fun i => columns.row id = .ok i) = (· = k) := by
      funext i
      rw [Columns.row_of_reads hreads, Except.ok.injEq]
      exact propext eq_comm
    have hharmless : rows.Harmless frame columns id patch ↔
        ∀ row, rows k = some row →
          if j = k then patch.Agrees frame row else (rows j).isSome = true := by
      constructor
      · exact fun h row hrow => h k j row hreads hrow
      · intro h k' j' row hreads'
        rw [hreads] at hreads'
        cases hreads'
        exact h row
    rw [hnamed, hharmless]
    cases hk : rows k with
    | none =>
      rw [updated_of_none hreads hk]
      exact iff_of_true (.refl _ _) fun row h => by cases h
    | some row =>
      simp only [Option.some_inj, forall_eq']
      -- with a new number the row moves, and only the row that has it can stop that
      by_cases hjk : j = k
      · subst hjk
        rw [if_pos rfl, updated_of_same hreads hk]
        exact frame_rewrite_iff hk
      · rw [if_neg hjk]
        cases hj : (rows j).isSome with
        | true =>
          rw [updated_of_taken hreads hk hjk hj]
          exact iff_of_true (.refl _ _) rfl
        | false =>
          rw [updated_of_free hreads hk hj]
          exact iff_of_false (not_frame_move hk hjk) Bool.false_ne_true

end Rows

end PolymeshRest
