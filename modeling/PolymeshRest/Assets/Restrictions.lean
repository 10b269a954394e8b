import Mathlib.Data.List.Forall2
import PolymeshRest.Common.Errors
import PolymeshRest.Js.BigNumber

/-!
# Transfer restrictions

`addTransferRestrictions` reads the restrictions of an asset, brings them and the requested ones
to the form that the chain takes, and submits both lists as one, unless a requested restriction is
there already.

Restrictions come in three forms: as the chain returns them (`TransferRestriction`), as they are
requested (`TransferRestrictionInputDto`) and as they are submitted (`Restriction`).

## Main definitions

* `normalizeExistingRestrictions`, `transferRestrictionsDtoToRestrictions` : to the third form.
* `isSameStatClaim`, `isSameRestriction` : the comparison.
* `addTransferRestrictions` : the call, up to what it submits.

## Main results

* `isSameRestriction_iff` : the comparison is equality, on regular restrictions.
* `transferRestrictionsDtoToRestrictions_eq` : a request that can be brought to the third form.
* `addTransferRestrictions_spec` : what is refused and what is submitted.
-/

namespace PolymeshRest

open Js

/-! ### Claims and restrictions -/

/-- `StatClaimDto`, `InputStatClaim` and the claims of the chain. -/
inductive StatClaim where
  | accredited (accredited : Bool)
  | affiliate (affiliate : Bool)
  | jurisdiction (countryCode : Nullish String)
  /-- Any other type of claim. -/
  | other (type : String)
  deriving DecidableEq, Repr

/-- An identity, by its DID. -/
structure Identity where
  did : String
  deriving DecidableEq, Repr

/-- A restriction as the chain returns it. -/
inductive TransferRestriction where
  | count (value : BigNumber)
  | percentage (value : BigNumber)
  | claimCount (min : BigNumber) (max : Option BigNumber) (issuer : Identity) (claim : StatClaim)
  | claimPercentage (min max : BigNumber) (issuer : Identity) (claim : StatClaim)
  deriving DecidableEq

/-- A restriction as it is requested. -/
inductive TransferRestrictionInputDto where
  | count (count : BigNumber)
  | percentage (percentage : BigNumber)
  | claimCount (issuer : String) (claim : StatClaim) (min : BigNumber) (max : Option BigNumber)
  | claimPercentage (issuer : String) (claim : StatClaim) (min max : BigNumber)
  /-- Any other type of restriction. -/
  | other (type : String)
  deriving DecidableEq

/-- A restriction as it is submitted. -/
inductive Restriction where
  | count (count : BigNumber)
  | percentage (percentage : BigNumber)
  | claimCount (min : BigNumber) (max : Option BigNumber) (claim : StatClaim) (issuer : Identity)
  | claimPercentage (min max : BigNumber) (claim : StatClaim) (issuer : Identity)
  deriving DecidableEq

/-- One restriction of `normalizeExistingRestrictions`. -/
def normalizeExistingRestriction : TransferRestriction → Restriction
  | .count value => .count value
  | .percentage value => .percentage value
  | .claimCount min max issuer claim => .claimCount min max claim issuer
  | .claimPercentage min max issuer claim => .claimPercentage min max claim issuer

/-- `normalizeExistingRestrictions` -/
def normalizeExistingRestrictions (restrictions : List TransferRestriction) : List Restriction :=
  restrictions.map normalizeExistingRestriction

/-- `isSameStatClaim` -/
def isSameStatClaim : StatClaim → StatClaim → Bool
  | .accredited a, .accredited b => a = b
  | .affiliate a, .affiliate b => a = b
  | .jurisdiction a, .jurisdiction b => a = b
  | _, _ => false

/-- The comparison of two optional maxima. -/
def isSameMax : Option BigNumber → Option BigNumber → Bool
  | none, none => true
  | some a, some b => a.eq b
  | _, _ => false

/-- `isSameRestriction` -/
def isSameRestriction : Restriction → Restriction → Bool
  | .count a, .count b => a.eq b
  | .percentage a, .percentage b => a.eq b
  | .claimCount min max claim issuer, .claimCount min' max' claim' issuer' =>
    min.eq min' && isSameMax max max' && decide (issuer.did = issuer'.did) &&
      isSameStatClaim claim claim'
  | .claimPercentage min max claim issuer, .claimPercentage min' max' claim' issuer' =>
    min.eq min' && max.eq max' && decide (issuer.did = issuer'.did) && isSameStatClaim claim claim'
  | _, _ => false

/-! ### Requests -/

/-- What `addTransferRestrictions` is rejected with. -/
inductive RestrictionFailure where
  | app (error : AppError)
  /-- A plain `Error`. -/
  | error (message : String)
  /-- `resolveIdentity` is rejected. -/
  | identity (failure : Failure)
  deriving DecidableEq, Repr

/-- `toInputStatClaim` -/
def toInputStatClaim : StatClaim → Except RestrictionFailure StatClaim
  | .accredited accredited => .ok (.accredited accredited)
  | .affiliate affiliate => .ok (.affiliate affiliate)
  | .jurisdiction countryCode => .ok (.jurisdiction countryCode)
  | .other type => .error (.error ("Unsupported stat claim type: " ++ type))

/-- One restriction of `transferRestrictionsDtoToRestrictions`. -/
def toRestriction (resolveIdentity : String → Except Failure Identity) :
    TransferRestrictionInputDto → Except RestrictionFailure Restriction
  | .count count => .ok (.count count)
  | .percentage percentage => .ok (.percentage percentage)
  | .claimCount issuer claim min max => do
    let issuer ← (resolveIdentity issuer).mapError .identity
    let claim ← toInputStatClaim claim
    return .claimCount min max claim issuer
  | .claimPercentage issuer claim min max => do
    let issuer ← (resolveIdentity issuer).mapError .identity
    let claim ← toInputStatClaim claim
    return .claimPercentage min max claim issuer
  | .other _ => .error (.error "Unsupported transfer restriction type")

/-- `transferRestrictionsDtoToRestrictions`; where several restrictions fail, the first of them
counts. -/
def transferRestrictionsDtoToRestrictions (resolveIdentity : String → Except Failure Identity)
    (restrictions : List TransferRestrictionInputDto) :
    Except RestrictionFailure (List Restriction) :=
  restrictions.mapM (toRestriction resolveIdentity)

/-- The call, up to the restrictions it submits; the first list is what the chain returns. -/
def addTransferRestrictions (resolveIdentity : String → Except Failure Identity)
    (currentValueRestrictions : List TransferRestriction)
    (restrictions : List TransferRestrictionInputDto) :
    Except RestrictionFailure (List Restriction) := do
  let currentRestrictions := normalizeExistingRestrictions currentValueRestrictions
  let newRestrictions ← transferRestrictionsDtoToRestrictions resolveIdentity restrictions
  let duplicates := newRestrictions.filter fun nr =>
    currentRestrictions.any fun er => isSameRestriction er nr
  if duplicates.length ≠ 0 then
    throw (.app (.validation "One or more transfer restrictions already exist"))
  else
    return currentRestrictions ++ newRestrictions

/-! ### The comparison -/

/-- The claim is `Accredited`, `Affiliate` or `Jurisdiction`. -/
def StatClaim.isStat : StatClaim → Bool
  | .other _ => false
  | _ => true

/-- The restriction has numbers for values, and one of the three claims. -/
def Restriction.Regular : Restriction → Prop
  | .count value | .percentage value => value.isNaN = false
  | .claimCount min max claim _ =>
    min.isNaN = false ∧ (∀ m, max = some m → m.isNaN = false) ∧ claim.isStat = true
  | .claimPercentage min max claim _ =>
    min.isNaN = false ∧ max.isNaN = false ∧ claim.isStat = true

theorem isSameStatClaim_iff {a b : StatClaim} :
    isSameStatClaim a b = true ↔ a = b ∧ a.isStat = true := by
  cases a <;> cases b <;> simp [isSameStatClaim, StatClaim.isStat]

theorem isSameMax_iff {a b : Option BigNumber} (ha : ∀ m, a = some m → m.isNaN = false) :
    isSameMax a b = true ↔ a = b := by
  cases a with
  | none => cases b <;> simp [isSameMax]
  | some m =>
    cases b with
    | none => simp [isSameMax]
    | some m' =>
      rw [isSameMax, BigNumber.eq_iff_of_not_nan (ha m rfl), Option.some.injEq]

theorem Identity.did_inj {a b : Identity} : a.did = b.did ↔ a = b := by
  cases a
  cases b
  simp

/-- On regular restrictions the comparison is equality. -/
theorem isSameRestriction_iff {a b : Restriction} (ha : a.Regular) :
    isSameRestriction a b = true ↔ a = b := by
  cases a with
  | count value =>
    have hvalue : value.isNaN = false := ha
    cases b with
    | count => rw [isSameRestriction, BigNumber.eq_iff_of_not_nan hvalue, Restriction.count.injEq]
    | _ => simp [isSameRestriction]
  | percentage value =>
    have hvalue : value.isNaN = false := ha
    cases b with
    | percentage =>
      rw [isSameRestriction, BigNumber.eq_iff_of_not_nan hvalue, Restriction.percentage.injEq]
    | _ => simp [isSameRestriction]
  | claimCount min max claim issuer =>
    obtain ⟨hmin, hmax, hclaim⟩ := ha
    cases b with
    | claimCount min' max' claim' issuer' =>
      simp only [isSameRestriction, Bool.and_eq_true, decide_eq_true_eq,
        BigNumber.eq_iff_of_not_nan hmin, isSameMax_iff hmax, isSameStatClaim_iff, hclaim,
        Identity.did_inj, Restriction.claimCount.injEq]
      tauto
    | _ => simp [isSameRestriction]
  | claimPercentage min max claim issuer =>
    obtain ⟨hmin, hmax, hclaim⟩ := ha
    cases b with
    | claimPercentage min' max' claim' issuer' =>
      simp only [isSameRestriction, Bool.and_eq_true, decide_eq_true_eq,
        BigNumber.eq_iff_of_not_nan hmin, BigNumber.eq_iff_of_not_nan hmax, isSameStatClaim_iff,
        hclaim, Identity.did_inj, Restriction.claimPercentage.injEq]
      tauto
    | _ => simp [isSameRestriction]

/-- The comparison, on regular restrictions. -/
def Restriction.Same (a b : {r : Restriction // r.Regular}) : Prop :=
  isSameRestriction a.1 b.1 = true

theorem Restriction.same_equivalence : Equivalence Restriction.Same where
  refl a := (isSameRestriction_iff a.2).2 rfl
  symm {a b} h := (isSameRestriction_iff b.2).2 ((isSameRestriction_iff a.2).1 h).symm
  trans {a b _} h h' := (isSameRestriction_iff a.2).2
    (((isSameRestriction_iff a.2).1 h).trans ((isSameRestriction_iff b.2).1 h'))

/-! ### Requests that can be brought to the submitted form -/

/-- The claim is one of the three, and the issuer resolves. -/
def TransferRestrictionInputDto.Supported (resolveIdentity : String → Except Failure Identity) :
    TransferRestrictionInputDto → Prop
  | .count _ | .percentage _ => True
  | .claimCount issuer claim _ _ | .claimPercentage issuer claim _ _ =>
    (∃ identity, resolveIdentity issuer = .ok identity) ∧ claim.isStat = true
  | .other _ => False

variable {resolveIdentity : String → Except Failure Identity}

theorem toInputStatClaim_of_isStat {claim : StatClaim} (h : claim.isStat = true) :
    toInputStatClaim claim = .ok claim := by
  cases claim with
  | other type => cases h
  | _ => rfl

theorem toRestriction_of_supported {dto : TransferRestrictionInputDto}
    (h : dto.Supported resolveIdentity) : ∃ r, toRestriction resolveIdentity dto = .ok r := by
  cases dto with
  | count count => exact ⟨_, rfl⟩
  | percentage percentage => exact ⟨_, rfl⟩
  | claimCount issuer claim min max =>
    obtain ⟨⟨identity, hidentity⟩, hclaim⟩ := h
    refine ⟨.claimCount min max claim identity, ?_⟩
    simp only [toRestriction, hidentity, toInputStatClaim_of_isStat hclaim]
    rfl
  | claimPercentage issuer claim min max =>
    obtain ⟨⟨identity, hidentity⟩, hclaim⟩ := h
    refine ⟨.claimPercentage min max claim identity, ?_⟩
    simp only [toRestriction, hidentity, toInputStatClaim_of_isStat hclaim]
    rfl
  | other type => exact h.elim

/-- The requested restrictions in the submitted form, in their order. -/
def Requested (resolveIdentity : String → Except Failure Identity)
    (restrictions : List TransferRestrictionInputDto) (requested : List Restriction) : Prop :=
  List.Forall₂ (fun dto r => toRestriction resolveIdentity dto = .ok r) restrictions requested

theorem transferRestrictionsDtoToRestrictions_eq {restrictions : List TransferRestrictionInputDto}
    (h : ∀ dto ∈ restrictions, dto.Supported resolveIdentity) :
    ∃ requested, Requested resolveIdentity restrictions requested ∧
      transferRestrictionsDtoToRestrictions resolveIdentity restrictions = .ok requested := by
  induction restrictions with
  | nil => exact ⟨[], .nil, rfl⟩
  | cons dto restrictions ih =>
    obtain ⟨r, hr⟩ := toRestriction_of_supported (h dto List.mem_cons_self)
    obtain ⟨requested, hrequested, heq⟩ := ih fun d hd => h d (List.mem_cons_of_mem _ hd)
    refine ⟨r :: requested, .cons hr hrequested, ?_⟩
    rw [transferRestrictionsDtoToRestrictions] at heq ⊢
    rw [List.mapM_cons, hr, heq]
    rfl

/-! ### The call -/

/-- No two restrictions of the list are the same. -/
def DuplicateFree (restrictions : List Restriction) : Prop :=
  restrictions.Pairwise fun a b => isSameRestriction a b = false

/-- One of the requested restrictions is the same as a current one. -/
def AlreadyExist (current requested : List Restriction) : Prop :=
  ∃ nr ∈ requested, ∃ er ∈ current, isSameRestriction er nr = true

theorem addTransferRestrictions_eq {current : List TransferRestriction}
    {restrictions : List TransferRestrictionInputDto} {requested : List Restriction}
    (h : transferRestrictionsDtoToRestrictions resolveIdentity restrictions = .ok requested) :
    addTransferRestrictions resolveIdentity current restrictions =
      if (requested.filter fun nr => (normalizeExistingRestrictions current).any fun er =>
          isSameRestriction er nr).length ≠ 0 then
        .error (.app (.validation "One or more transfer restrictions already exist"))
      else .ok (normalizeExistingRestrictions current ++ requested) := by
  rw [addTransferRestrictions, h]
  rfl

theorem length_filter_ne_zero_iff {current requested : List Restriction} :
    (requested.filter fun nr => current.any fun er => isSameRestriction er nr).length ≠ 0 ↔
      AlreadyExist current requested := by
  simp [AlreadyExist]

/-- What is submitted has no duplicates exactly if neither list has any, where no requested
restriction is there already. -/
theorem duplicateFree_append {current requested : List Restriction}
    (h : ¬ AlreadyExist current requested) :
    DuplicateFree (current ++ requested) ↔ DuplicateFree current ∧ DuplicateFree requested := by
  have hcross : ∀ er ∈ current, ∀ nr ∈ requested, isSameRestriction er nr = false :=
    fun er her nr hnr => Bool.eq_false_iff.2 fun hsame => h ⟨nr, hnr, er, her, hsame⟩
  rw [DuplicateFree, List.pairwise_append]
  exact ⟨fun hall => ⟨hall.1, hall.2.1⟩, fun hboth => ⟨hboth.1, hboth.2, hcross⟩⟩

/-- **Adding restrictions**: the comparison is an equivalence, a request is refused exactly if one
of its restrictions is there already, and otherwise the current restrictions are submitted with the
requested ones after them. -/
theorem addTransferRestrictions_spec :
    Equivalence Restriction.Same ∧
      ∀ (resolveIdentity : String → Except Failure Identity) (current : List TransferRestriction)
        (restrictions : List TransferRestrictionInputDto),
        (∀ dto ∈ restrictions, dto.Supported resolveIdentity) →
          ∃ requested, Requested resolveIdentity restrictions requested ∧
            ((∃ e, addTransferRestrictions resolveIdentity current restrictions =
                .error (.app e) ∧ e.code = .validation) ↔
              AlreadyExist (normalizeExistingRestrictions current) requested) ∧
            (¬ AlreadyExist (normalizeExistingRestrictions current) requested →
              addTransferRestrictions resolveIdentity current restrictions =
                  .ok (normalizeExistingRestrictions current ++ requested) ∧
                (DuplicateFree (normalizeExistingRestrictions current ++ requested) ↔
                  DuplicateFree (normalizeExistingRestrictions current) ∧
                    DuplicateFree requested)) := by
  refine ⟨Restriction.same_equivalence, fun resolveIdentity current restrictions hsupported => ?_⟩
  obtain ⟨requested, hrequested, heq⟩ := transferRestrictionsDtoToRestrictions_eq hsupported
  refine ⟨requested, hrequested, ?_, fun hnew => ⟨?_, duplicateFree_append hnew⟩⟩
  · rw [addTransferRestrictions_eq heq, ← length_filter_ne_zero_iff]
    split_ifs with hlength
    · exact ⟨fun _ => hlength, fun _ => ⟨_, rfl, rfl⟩⟩
    · exact ⟨fun ⟨_, he, _⟩ => (nomatch he), fun h => absurd h hlength⟩
  · rw [addTransferRestrictions_eq heq, if_neg fun hlength =>
      hnew (length_filter_ne_zero_iff.1 hlength)]

/-- A request of three kinds of restrictions. -/
def mixedRequest : List TransferRestrictionInputDto :=
  [.percentage (.finite 50),
    .claimCount "0x06" (.accredited true) (.finite 1) (some (.finite 10)),
    .claimPercentage "0x07" (.jurisdiction (.value "Ca")) (.finite 0) (.finite 30)]

/-- Restrictions of three kinds next to a count and a claim of another issuer. -/
theorem addTransferRestrictions_mixed :
    ∃ requested, Requested (fun did => .ok ⟨did⟩) mixedRequest requested ∧
      addTransferRestrictions (fun did => .ok ⟨did⟩)
          [.count (.finite 5), .claimCount (.finite 1) none ⟨"0x08"⟩ (.accredited true)]
          mixedRequest =
        .ok ([.count (.finite 5), .claimCount (.finite 1) none (.accredited true) ⟨"0x08"⟩] ++
          requested) := by
  obtain ⟨requested, hrequested, -, hnew⟩ := addTransferRestrictions_spec.2 (fun did => .ok ⟨did⟩)
    [.count (.finite 5), .claimCount (.finite 1) none ⟨"0x08"⟩ (.accredited true)] mixedRequest
    (by simp [mixedRequest, TransferRestrictionInputDto.Supported, StatClaim.isStat])
  refine ⟨requested, hrequested, (hnew ?_).1⟩
  have hmade : Requested (fun did => .ok ⟨did⟩) mixedRequest [.percentage (.finite 50),
      .claimCount (.finite 1) (some (.finite 10)) (.accredited true) ⟨"0x06"⟩,
      .claimPercentage (.finite 0) (.finite 30) (.jurisdiction (.value "Ca")) ⟨"0x07"⟩] :=
    .cons rfl (.cons rfl (.cons rfl .nil))
  have heq := List.right_unique_forall₂'
    (fun _ _ _ h h' => Except.ok.inj (h.symm.trans h')) hrequested hmade
  subst heq
  simp [AlreadyExist, normalizeExistingRestrictions, normalizeExistingRestriction,
    isSameRestriction, isSameMax]

/-- A restriction that is requested twice is submitted twice. -/
theorem requested_twice :
    ¬ ∀ (resolveIdentity : String → Except Failure Identity) (current : List TransferRestriction)
      (restrictions : List TransferRestrictionInputDto) (requested : List Restriction),
      (∀ dto ∈ restrictions, dto.Supported resolveIdentity) →
        Requested resolveIdentity restrictions requested →
          ((∃ e, addTransferRestrictions resolveIdentity current restrictions =
              .error (.app e) ∧ e.code = .validation) ↔
            AlreadyExist (normalizeExistingRestrictions current) requested ∨
              ¬ DuplicateFree requested) := by
  intro hall
  have h := (hall (fun did => .ok ⟨did⟩) [] [.count (.finite 5), .count (.finite 5)]
    [.count (.finite 5), .count (.finite 5)]
    (by simp [TransferRestrictionInputDto.Supported]) (.cons rfl (.cons rfl .nil))).2
    (.inr (by simp [DuplicateFree, isSameRestriction, BigNumber.eq]))
  obtain ⟨e, he, -⟩ := h
  cases he

end PolymeshRest
