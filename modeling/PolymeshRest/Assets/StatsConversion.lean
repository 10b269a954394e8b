import PolymeshRest.Assets.StatsTransformer

/-!
# Counts are converted once

`setStats` converts the counts of the statistics once more after the transformer has done so.
Nothing happens to a count that is a number already: doing it twice, or after the transformer, is
doing it once.

* `Keeps` : a statistic and what it is converted to differ in the counts that were texts.
* `throwsOn` : the statistics that neither of the two gets through.
* `ensureStat_bind`, `transform_bind` : the second conversion does nothing.
* `convertedOnce_iff` : every list without such a statistic is converted once.
-/

namespace PolymeshRest

open Js

namespace StatsConversion

open TransformScopedCountStats

variable (bigNumber : String → BigNumber) (parts : BigNumber → List (String × Data StatDto))

/-! ### What is kept -/

/-- An item of a `value` becomes a plain object with its properties and its count as a number. -/
def KeepsItem (item converted : Data StatDto) : Prop :=
  ∃ fields, converted = .object .plain fields ∧ ∀ name, fields.lookup name =
    if name = "count" then some (toBigNumber bigNumber (get (spread parts item) name))
    else (spread parts item).lookup name

/-- A `value` keeps its items or its properties, but for the counts that are texts. -/
def KeepsValue (value converted : Data StatDto) : Prop :=
  match value with
  | .array items =>
    ∃ made, converted = .array made ∧ List.Forall₂ (KeepsItem bigNumber parts) items made
  | .object .. | .bigNumber _ =>
    ∃ fields, converted = .object .plain fields ∧ ∀ name, fields.lookup name =
      ((spread parts value).lookup name).map fun field =>
        if name ∈ ["accredited", "nonAccredited", "affiliate", "nonAffiliate"] then
          toBigNumber bigNumber field
        else field
  | value => converted = value

/-- A property of a statistic of a type, if it is there. -/
def KeepsField (type : Option StatType) (name : String) (field converted : Option (Data StatDto)) :
    Prop :=
  if type = some .count ∧ name = "count" then converted = field.map (toBigNumber bigNumber)
  else if type = some .scopedCount ∧ name = "value" then
    Option.Rel (KeepsValue bigNumber parts) field converted
  else converted = field

/-- A statistic keeps its properties, but for the counts that are texts. -/
def Keeps (stat converted : Data StatDto) : Prop :=
  match stat with
  | .object _ fields =>
    if (fields.lookup "type").isSome then
      ∃ made, converted = .object .plain made ∧ ∀ name,
        KeepsField bigNumber parts (enumOfData statTypes (get fields "type")) name
          (fields.lookup name) (made.lookup name)
    else converted = stat
  | stat => converted = stat

/-- The `value` is a list with something in it that has no properties to read. -/
def throwsOnValue : Data StatDto → Bool
  | .array items => items.any Data.isNullish
  | _ => false

/-- Reading the counts of the statistic throws. -/
def throwsOn : Data StatDto → Bool
  | .object _ fields =>
    enumOfData statTypes (get fields "type") = some .scopedCount &&
      throwsOnValue (get fields "value")
  | _ => false

/-- A list of statistics is converted, keeps everything but its texts that are counts, and stays
as it is from then on; and the transformer before that makes no difference. -/
structure ConvertedOnce (stats converted : List (Data StatDto)) : Prop where
  conversion : ensureStatsBigNumberConversion bigNumber parts stats = some converted
  keeps : List.Forall₂ (Keeps bigNumber parts) stats converted
  idempotent : ensureStatsBigNumberConversion bigNumber parts converted = some converted
  absorbed : ∃ transformed, transformAll bigNumber parts stats = some transformed ∧
    ensureStatsBigNumberConversion bigNumber parts transformed = some converted

/-! ### Counts -/

variable {bigNumber parts}

theorem convertCount_convertCount (fields : List (String × Data StatDto)) :
    convertCount bigNumber (convertCount bigNumber fields) = convertCount bigNumber fields := by
  cases h : get fields "count" with
  | string count =>
    have hmade : convertCount bigNumber fields =
        Record.assign "count" (.bigNumber (bigNumber count)) fields := by
      rw [convertCount, h]
    have hget : get (convertCount bigNumber fields) "count" = .bigNumber (bigNumber count) := by
      rw [hmade, get_assign, if_pos rfl]
    rw [convertCount, hget]
  | _ =>
    have hmade : convertCount bigNumber fields = fields := by rw [convertCount, h]
    rw [hmade, hmade]

theorem convertValue_convertValue (fields : List (String × Data StatDto)) :
    convertValue bigNumber (convertValue bigNumber fields) = convertValue bigNumber fields := by
  rw [convertValue, convertValue, List.map_map]
  refine List.map_congr_left fun field _ => ?_
  rw [Function.comp_apply]
  split_ifs
  · rw [toBigNumber_toBigNumber]
  · rfl

theorem ensureItem_eq {item : Data StatDto} (h : item.isNullish = false) :
    ensureItem bigNumber parts item = some (.object .plain (Record.assign "count"
      (toBigNumber bigNumber (get (spread parts item) "count")) (spread parts item))) := by
  cases item <;> first | rfl | cases h

theorem transformItem_eq {item : Data StatDto} (h : item.isNullish = false) :
    TransformScopedCountStats.transformItem bigNumber parts item =
      some (.object .claimCountJurisdictionValueItem
        (convertCount bigNumber (spread parts item))) := by
  cases item <;> first | rfl | cases h

theorem ensureItem_of_isNullish {item : Data StatDto} (h : item.isNullish = true) :
    ensureItem bigNumber parts item = none ∧
      TransformScopedCountStats.transformItem bigNumber parts item = none := by
  cases item <;> first | exact ⟨rfl, rfl⟩ | cases h

theorem assign_count_convertCount (fields : List (String × Data StatDto)) :
    Record.assign "count" (toBigNumber bigNumber (get (convertCount bigNumber fields) "count"))
        (convertCount bigNumber fields) =
      Record.assign "count" (toBigNumber bigNumber (get fields "count")) fields := by
  rw [get_convertCount, if_pos rfl, toBigNumber_toBigNumber, convertCount]
  split
  · rw [Record.assign_assign]
  · rfl

theorem ensureItem_bind (item : Data StatDto) :
    (ensureItem bigNumber parts item).bind (ensureItem bigNumber parts) =
      ensureItem bigNumber parts item := by
  cases h : item.isNullish with
  | true => rw [(ensureItem_of_isNullish h).1, Option.bind_none]
  | false =>
    rw [ensureItem_eq h, Option.bind_some, ensureItem_eq rfl, spread, get_assign, if_pos rfl,
      toBigNumber_toBigNumber, Record.assign_assign]

theorem transformItem_bind (item : Data StatDto) :
    (TransformScopedCountStats.transformItem bigNumber parts item).bind
        (ensureItem bigNumber parts) = ensureItem bigNumber parts item := by
  cases h : item.isNullish with
  | true => rw [(ensureItem_of_isNullish h).1, (ensureItem_of_isNullish h).2, Option.bind_none]
  | false =>
    rw [transformItem_eq h, Option.bind_some, ensureItem_eq rfl, ensureItem_eq h, spread,
      assign_count_convertCount]

/-! ### Values -/

variable (bigNumber parts) in
/-- What becomes of the `value` of a `ScopedCount`. -/
def ensureValue : Data StatDto → Option (Data StatDto)
  | .object _ value => some (.object .plain (convertValue bigNumber value))
  | .bigNumber value => some (.object .plain (convertValue bigNumber (parts value)))
  | .array items => (items.mapM (ensureItem bigNumber parts)).map .array
  | value => some value

theorem map_array_bind {f : Data StatDto → Option (Data StatDto)} (items : List (Data StatDto))
    (h : ∀ item, (f item).bind (ensureItem bigNumber parts) = ensureItem bigNumber parts item) :
    ((items.mapM f).map Data.array).bind (ensureValue bigNumber parts) =
      ensureValue bigNumber parts (.array items) := by
  have hbind := mapM_bind_mapM f (ensureItem bigNumber parts) items
  simp only [h] at hbind
  rw [ensureValue, ← hbind]
  cases items.mapM f <;> rfl

theorem ensureValue_bind (value : Data StatDto) :
    (ensureValue bigNumber parts value).bind (ensureValue bigNumber parts) =
      ensureValue bigNumber parts value := by
  cases value with
  | object cls fields =>
    rw [ensureValue, Option.bind_some, ensureValue, convertValue_convertValue]
  | bigNumber b =>
    rw [ensureValue, Option.bind_some, ensureValue, convertValue_convertValue]
  | array items => exact map_array_bind items ensureItem_bind
  | _ => rfl

theorem transformValue_bind (claimType : Option ClaimType) (value : Data StatDto) :
    (TransformScopedCountStats.transformValue bigNumber parts claimType value).bind
        (ensureValue bigNumber parts) = ensureValue bigNumber parts value := by
  cases value with
  | object cls fields =>
    rw [TransformScopedCountStats.transformValue, Option.bind_some, ensureValue, ensureValue,
      convertValue_convertValue]
  | bigNumber b =>
    rw [TransformScopedCountStats.transformValue, Option.bind_some, ensureValue, ensureValue,
      convertValue_convertValue]
  | array items => exact map_array_bind items transformItem_bind
  | _ => rfl

/-! ### Statistics -/

section

variable {cls : StatDto} {fields : List (String × Data StatDto)}

theorem ensureStat_of_scopedCount
    (h : enumOfData statTypes (get fields "type") = some .scopedCount) :
    ensureStat bigNumber parts (.object cls fields) =
      (Record.alter "value" (ensureValue bigNumber parts) fields).map (.object .plain) := by
  rw [ensureStat, if_pos (isSome_lookup h), h, Js.get]
  cases hvalue : fields.lookup "value" with
  | none =>
    rw [Record.alter_of_none hvalue]
    rfl
  | some value =>
    rw [Record.alter_of_some hvalue]
    cases value with
    | object _ _ => rfl
    | bigNumber _ => rfl
    | array items =>
      show _ = (((items.mapM (ensureItem bigNumber parts)).map Data.array).map _).map _
      rw [Option.map_map, Option.map_map]
      rfl
    | _ =>
      exact congrArg (fun made => some (Data.object StatDto.plain made))
        (Record.assign_of_lookup hvalue).symm

theorem ensureStat_of_other {t : Option StatType} (h : enumOfData statTypes (get fields "type") = t)
    (hcount : t ≠ some .count) (hscoped : t ≠ some .scopedCount)
    (htype : (fields.lookup "type").isSome = true) :
    ensureStat bigNumber parts (.object cls fields) = some (.object .plain fields) := by
  rw [ensureStat, if_pos htype, h]
  rcases t with _ | ⟨⟩ | ⟨⟩
  · rfl
  · exact absurd rfl hcount
  · rfl
  · exact absurd rfl hscoped
  · rfl

theorem ensureStat_of_untyped (htype : (fields.lookup "type").isSome = false) :
    ensureStat bigNumber parts (.object cls fields) = some (.object cls fields) := by
  rw [ensureStat, htype, if_neg Bool.false_ne_true]

theorem enumOfData_convertCount :
    enumOfData statTypes (get (convertCount bigNumber fields) "type") =
      enumOfData statTypes (get fields "type") := by
  rw [get_convertCount, if_neg (by decide)]

theorem enumOfData_alter {f : Data StatDto → Option (Data StatDto)}
    {made : List (String × Data StatDto)} (h : Record.alter "value" f fields = some made) :
    enumOfData statTypes (get made "type") = enumOfData statTypes (get fields "type") := by
  rw [Js.get, Js.get, Record.lookup_alter_of_ne (by decide) h]

theorem alter_bind_ensureStat {f : Data StatDto → Option (Data StatDto)} {cls' : StatDto}
    (hscoped : enumOfData statTypes (get fields "type") = some .scopedCount)
    (h : ∀ value,
      (f value).bind (ensureValue bigNumber parts) = ensureValue bigNumber parts value) :
    ((Record.alter "value" f fields).map (.object cls')).bind (ensureStat bigNumber parts) =
      ensureStat bigNumber parts (.object cls fields) := by
  have halter := Record.alter_bind_alter "value" f (ensureValue bigNumber parts) fields
  simp only [h] at halter
  rw [ensureStat_of_scopedCount hscoped, ← halter]
  cases hmade : Record.alter "value" f fields with
  | none => rfl
  | some made => exact ensureStat_of_scopedCount ((enumOfData_alter hmade).trans hscoped)

end

/-- **Converting twice is converting once.** -/
theorem ensureStat_bind (stat : Data StatDto) :
    (ensureStat bigNumber parts stat).bind (ensureStat bigNumber parts) =
      ensureStat bigNumber parts stat := by
  cases stat with
  | object cls fields =>
    cases htype : (fields.lookup "type").isSome with
    | false => rw [ensureStat_of_untyped htype, Option.bind_some, ensureStat_of_untyped htype]
    | true =>
      by_cases hcount : enumOfData statTypes (get fields "type") = some .count
      · rw [ensureStat_count hcount, Option.bind_some,
          ensureStat_count (enumOfData_convertCount.trans hcount), convertCount_convertCount]
      · by_cases hscoped : enumOfData statTypes (get fields "type") = some .scopedCount
        · conv_lhs => rw [ensureStat_of_scopedCount hscoped]
          exact alter_bind_ensureStat hscoped ensureValue_bind
        · rw [ensureStat_of_other rfl hcount hscoped htype, Option.bind_some,
            ensureStat_of_other rfl hcount hscoped htype]
  | _ => rfl

theorem transformScopedCount_eq (fields : List (String × Data StatDto)) :
    TransformScopedCountStats.transformScopedCount bigNumber parts fields =
      Record.alter "value" (TransformScopedCountStats.transformValue bigNumber parts
        (enumOfData claimTypes (get fields "claimType"))) fields := by
  rw [TransformScopedCountStats.transformScopedCount, Record.alter]
  cases fields.lookup "value" <;> rfl

theorem transformScopedCount_bind {cls : StatDto} {fields : List (String × Data StatDto)}
    (hscoped : enumOfData statTypes (get fields "type") = some .scopedCount) :
    ((TransformScopedCountStats.transformScopedCount bigNumber parts fields).map fun transformed =>
        match enumOfData claimTypes (get fields "claimType") with
        | some .accredited => .object .addClaimCountAccreditedStat transformed
        | some .affiliate => .object .addClaimCountAffiliateStat transformed
        | some .jurisdiction => .object .addClaimCountJurisdictionStat transformed
        | _ => .object cls fields).bind (ensureStat bigNumber parts) =
      ensureStat bigNumber parts (.object cls fields) := by
  have halter : ∀ cls', ((TransformScopedCountStats.transformScopedCount bigNumber parts fields).map
      (Data.object cls')).bind (ensureStat bigNumber parts) =
        ensureStat bigNumber parts (.object cls fields) := by
    intro cls'
    rw [transformScopedCount_eq]
    exact alter_bind_ensureStat hscoped (transformValue_bind _)
  have hother : ((TransformScopedCountStats.transformScopedCount bigNumber parts fields).map
      fun _ => Data.object cls fields).bind (ensureStat bigNumber parts) =
        ensureStat bigNumber parts (.object cls fields) := by
    rw [← halter cls]
    cases hmade : TransformScopedCountStats.transformScopedCount bigNumber parts fields with
    | none => rfl
    | some made =>
      have hmade' := halter cls
      rw [hmade] at hmade'
      exact hmade'.symm
  cases enumOfData claimTypes (get fields "claimType") with
  | none => exact hother
  | some claimType =>
    cases claimType with
    | accredited => exact halter _
    | affiliate => exact halter _
    | jurisdiction => exact halter _
    | _ => exact hother

/-- **Converting after the transformer is converting.** -/
theorem transform_bind (stat : Data StatDto) :
    (transform bigNumber parts stat).bind (ensureStat bigNumber parts) =
      ensureStat bigNumber parts stat := by
  cases stat with
  | object cls fields =>
    rw [transform]
    split_ifs with hplain
    · cases hstat : enumOfData statTypes (get fields "type") with
      | none => rfl
      | some type =>
        cases type with
        | count =>
          show ensureStat bigNumber parts (.object _ (convertCount bigNumber fields)) = _
          rw [ensureStat_count hstat, ensureStat_count (enumOfData_convertCount.trans hstat),
            convertCount_convertCount]
        | balance =>
          rw [Option.bind_some, ensureStat_balance hstat (.inl rfl),
            ensureStat_balance hstat (.inl rfl)]
        | scopedBalance =>
          rw [Option.bind_some, ensureStat_balance hstat (.inr rfl),
            ensureStat_balance hstat (.inr rfl)]
        | scopedCount => exact transformScopedCount_bind hstat
    · rfl
  | _ => rfl

/-! ### What is kept, and what throws -/

theorem keepsItem {item converted : Data StatDto}
    (h : ensureItem bigNumber parts item = some converted) :
    KeepsItem bigNumber parts item converted := by
  cases hnull : item.isNullish with
  | true =>
    rw [(ensureItem_of_isNullish hnull).1] at h
    cases h
  | false =>
    rw [ensureItem_eq hnull] at h
    cases h
    refine ⟨_, rfl, fun name => ?_⟩
    rw [Record.lookup_assign]
    split_ifs with hname
    · rw [hname]
    · rfl

theorem keepsValue {value converted : Data StatDto}
    (h : ensureValue bigNumber parts value = some converted) :
    KeepsValue bigNumber parts value converted := by
  cases value with
  | array items =>
    obtain ⟨made, hmade, rfl⟩ := Option.map_eq_some_iff.1 h
    exact ⟨made, rfl, (mapM_eq_some_iff.1 hmade).imp fun _ _ => keepsItem⟩
  | object cls fields =>
    cases h
    exact ⟨_, rfl, lookup_convertValue fields⟩
  | bigNumber value =>
    cases h
    exact ⟨_, rfl, lookup_convertValue (parts value)⟩
  | _ =>
    cases h
    rfl

theorem isSome_ensureValue (value : Data StatDto) :
    (ensureValue bigNumber parts value).isSome = !throwsOnValue value := by
  cases value with
  | array items =>
    rw [ensureValue, Option.isSome_map, isSome_mapM, throwsOnValue, List.not_any_eq_all_not]
    refine congrArg (List.all _) (funext fun item => ?_)
    cases hnull : item.isNullish with
    | true =>
      rw [(ensureItem_of_isNullish hnull).1]
      rfl
    | false =>
      rw [ensureItem_eq hnull]
      rfl
  | _ => rfl

theorem isSome_alter (f : Data StatDto → Option (Data StatDto))
    (hundefined : (f .undefined).isSome = true) (fields : List (String × Data StatDto)) :
    (Record.alter "value" f fields).isSome = (f (get fields "value")).isSome := by
  rw [Js.get]
  cases h : fields.lookup "value" with
  | none =>
    rw [Record.alter_of_none h]
    exact hundefined.symm
  | some value =>
    rw [Record.alter_of_some h, Option.isSome_map]
    rfl

/-- **Which statistics are converted**: those without `null` where a count is read. -/
theorem isSome_ensureStat (stat : Data StatDto) :
    (ensureStat bigNumber parts stat).isSome = !throwsOn stat := by
  cases stat with
  | object cls fields =>
    by_cases hscoped : enumOfData statTypes (get fields "type") = some .scopedCount
    · rw [ensureStat_of_scopedCount hscoped, Option.isSome_map, isSome_alter _ rfl,
        isSome_ensureValue, throwsOn, hscoped]
      rfl
    · have hthrows : throwsOn (.object cls fields) = false := by simp [throwsOn, hscoped]
      rw [hthrows]
      cases htype : (fields.lookup "type").isSome with
      | false =>
        rw [ensureStat_of_untyped htype]
        rfl
      | true =>
        by_cases hcount : enumOfData statTypes (get fields "type") = some .count
        · rw [ensureStat_count hcount]
          rfl
        · rw [ensureStat_of_other rfl hcount hscoped htype]
          rfl
  | _ => rfl

theorem rel_of_alter {fields made : List (String × Data StatDto)}
    (h : Record.alter "value" (ensureValue bigNumber parts) fields = some made) :
    Option.Rel (KeepsValue bigNumber parts) (fields.lookup "value") (made.lookup "value") := by
  cases hvalue : fields.lookup "value" with
  | none =>
    rw [Record.alter_of_none hvalue] at h
    cases h
    rw [hvalue]
    exact .none
  | some value =>
    rw [Record.alter_of_some hvalue] at h
    obtain ⟨converted, hconverted, rfl⟩ := Option.map_eq_some_iff.1 h
    rw [Record.lookup_assign, if_pos rfl]
    exact .some (keepsValue hconverted)

/-- **What is kept of a statistic.** -/
theorem keeps_of_ensureStat {stat converted : Data StatDto}
    (h : ensureStat bigNumber parts stat = some converted) :
    Keeps bigNumber parts stat converted := by
  cases stat with
  | object cls fields =>
    rw [Keeps]
    cases htype : (fields.lookup "type").isSome with
    | false =>
      rw [ensureStat_of_untyped htype] at h
      rw [if_neg Bool.false_ne_true]
      exact (Option.some.inj h).symm
    | true =>
      rw [if_pos rfl]
      by_cases hcount : enumOfData statTypes (get fields "type") = some .count
      · rw [ensureStat_count hcount] at h
        cases h
        refine ⟨_, rfl, fun name => ?_⟩
        rw [KeepsField, lookup_convertCount]
        by_cases hname : name = "count"
        · rw [if_pos hname, if_pos ⟨hcount, hname⟩]
        · rw [if_neg hname, if_neg (hname ·.2), if_neg (by simp [hcount])]
      · by_cases hscoped : enumOfData statTypes (get fields "type") = some .scopedCount
        · rw [ensureStat_of_scopedCount hscoped] at h
          obtain ⟨made, hmade, rfl⟩ := Option.map_eq_some_iff.1 h
          refine ⟨made, rfl, fun name => ?_⟩
          rw [KeepsField, if_neg (hcount ·.1)]
          by_cases hname : name = "value"
          · rw [if_pos ⟨hscoped, hname⟩, hname]
            exact rel_of_alter hmade
          · rw [if_neg (hname ·.2), Record.lookup_alter_of_ne hname hmade]
        · rw [ensureStat_of_other rfl hcount hscoped htype] at h
          cases h
          refine ⟨_, rfl, fun name => ?_⟩
          rw [KeepsField, if_neg (hcount ·.1), if_neg (hscoped ·.1)]
  | _ =>
    cases h
    rfl

/-! ### Lists of statistics -/

theorem ensureStats_bind (stats : List (Data StatDto)) :
    (ensureStatsBigNumberConversion bigNumber parts stats).bind
        (ensureStatsBigNumberConversion bigNumber parts) =
      ensureStatsBigNumberConversion bigNumber parts stats := by
  have hbind := mapM_bind_mapM (ensureStat bigNumber parts) (ensureStat bigNumber parts) stats
  simp only [ensureStat_bind] at hbind
  exact hbind

theorem transformAll_bind (stats : List (Data StatDto)) :
    (transformAll bigNumber parts stats).bind (ensureStatsBigNumberConversion bigNumber parts) =
      ensureStatsBigNumberConversion bigNumber parts stats := by
  have hbind := mapM_bind_mapM (transform bigNumber parts) (ensureStat bigNumber parts) stats
  simp only [transform_bind] at hbind
  exact hbind

/-- **Counts are converted once**, whether the transformer has been there before or not, and
everything else stays, in the lists that can be converted: those in which no count of `null` is
read.  On the others the transformer and the conversion throw. -/
theorem convertedOnce_iff (stats : List (Data StatDto)) :
    ((∃ converted, ConvertedOnce bigNumber parts stats converted) ↔
        ∀ stat ∈ stats, throwsOn stat = false) ∧
      (transformAll bigNumber parts stats).bind (ensureStatsBigNumberConversion bigNumber parts) =
        ensureStatsBigNumberConversion bigNumber parts stats := by
  refine ⟨?_, transformAll_bind stats⟩
  have hsome : (ensureStatsBigNumberConversion bigNumber parts stats).isSome = true ↔
      ∀ stat ∈ stats, throwsOn stat = false := by
    rw [ensureStatsBigNumberConversion, isSome_mapM, List.all_eq_true]
    simp only [isSome_ensureStat, Bool.not_eq_true']
  rw [← hsome]
  constructor
  · rintro ⟨converted, h⟩
    rw [h.conversion]
    rfl
  · intro h
    obtain ⟨converted, hconverted⟩ := Option.isSome_iff_exists.1 h
    have hagain := @ensureStats_bind bigNumber parts stats
    have habsorbed := @transformAll_bind bigNumber parts stats
    rw [hconverted] at hagain habsorbed
    exact ⟨converted, hconverted,
      (mapM_eq_some_iff.1 hconverted).imp fun _ _ => keeps_of_ensureStat,
      hagain, Option.bind_eq_some_iff.1 habsorbed⟩

/-- Nothing is made of a list with `null` in it. -/
theorem not_convertedOnce :
    ¬∃ converted, ConvertedOnce (fun _ => .nan) (fun _ => [])
      [.object .plain [("type", .string "ScopedCount"), ("value", .array [.null])]] converted := by
  rintro ⟨converted, h⟩
  cases h.conversion

end StatsConversion

end PolymeshRest
